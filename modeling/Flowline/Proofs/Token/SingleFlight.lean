import Flowline.Proofs.Token.Step

/-!
One sign-in for all. While a sign-in is in flight no other begins, and whoever came before it ended
shares its outcome: a token through the cache, an error through the count of ended sign-ins. Only a
token that has expired or a clear makes such a caller sign in itself.
-/
namespace Flowline.Token

def Event.isWake : Event → Bool
  | .wake => true
  | _ => false

namespace Keeper

/-- A keeper that nobody has called. -/
def unused (validity now : Nat) : Keeper := { validity, now }

/-- Whoever holds the lock keeps it until the sign-in ends or the caller gives up, and until then
nothing is done. -/
theorem step_of_held {k : Keeper} {e : Event} {caller : Nat} (hheld : k.holder = some caller)
    (hend : ∀ outcome, e ≠ .signedIn outcome) (hdrop : e ≠ .drop caller) :
    (k.step e).2 = [] ∧ (k.step e).1.holder = some caller := by
  cases k.course e with
  | granted w coming waiting free => rw [hheld] at free; cases free
  | ended owner outcome event => exact absurd event (hend outcome)
  | quiet now holder coming waiting later held calls step =>
    rw [step]
    refine ⟨rfl, ?_⟩
    rcases held with rfl | ⟨owner, rfl, howner, -⟩
    · exact hheld
    · rw [hheld] at howner
      obtain rfl := Option.some.inj howner
      exact absurd rfl hdrop

theorem run_of_held {k : Keeper} {caller : Nat} {events : List Event}
    (hheld : k.holder = some caller) (hend : ∀ outcome, .signedIn outcome ∉ events)
    (hdrop : .drop caller ∉ events) : (k.run events).2 = [] := by
  induction events generalizing k with
  | nil => rfl
  | cons e events ih =>
    obtain ⟨hquiet, hkept⟩ := step_of_held (e := e) hheld
      (fun outcome he => hend outcome (by simp [he])) (fun he => hdrop (by simp [he]))
    rw [run_cons, hquiet, List.nil_append]
    exact ih hkept (fun outcome h => hend outcome (by simp [h])) (fun h => hdrop (by simp [h]))

/-- A sign-in begins when its caller gets the lock and finds neither a token nor an error. -/
theorem waiter_of_signIn {k : Keeper} {e : Event} {caller : Nat}
    (h : .signIn caller ∈ (k.step e).2) :
    (k.step e).2 = [.signIn caller] ∧ (k.step e).1.holder = some caller ∧
      ∃ seen, .get caller seen ∈ k.queue ∧ k.valid? = none ∧ k.shared? seen = none := by
  cases k.course e with
  | granted w coming waiting free call others step =>
    rw [step] at h ⊢
    cases w with
    | clear owner => simp [grant] at h
    | get owner seen =>
      rcases grant_get_cases { k with coming, waiting } owner seen with
        ⟨token, -, hgrant⟩ | ⟨why, -, -, hgrant⟩ | ⟨hvalid, hshared, hgrant⟩
      · simp [hgrant] at h
      · simp [hgrant] at h
      · rw [hgrant] at h ⊢
        obtain rfl : caller = owner := by simpa using h
        exact ⟨rfl, rfl, seen, call, hvalid, hshared⟩
  | ended owner outcome event held step => simp [step] at h
  | quiet now holder coming waiting later held calls step => simp [step] at h

/-- No caller has counted more sign-ins than have ended. -/
def Counted (k : Keeper) : Prop := ∀ caller seen, .get caller seen ∈ k.queue → seen ≤ k.attempts

theorem attempts_store (k : Keeper) (outcome : Outcome) :
    (k.store outcome).attempts = k.attempts + 1 := by
  cases outcome <;> rfl

theorem queue_store (k : Keeper) (outcome : Outcome) : (k.store outcome).queue = k.queue := by
  cases outcome <;> rfl

theorem eq_get_of_arrival? {e : Event} {attempts caller seen : Nat}
    (h : e.arrival? attempts = some (.get caller seen)) : e = .get caller ∧ seen = attempts := by
  cases e with
  | get owner =>
    obtain ⟨rfl, rfl⟩ := Waiter.get.inj (Option.some.inj h)
    exact ⟨rfl, rfl⟩
  | _ => simp [Event.arrival?] at h

theorem Counted.step {k : Keeper} (h : k.Counted) (e : Event) : (k.step e).1.Counted := by
  intro caller seen hw
  cases k.course e with
  | granted w coming waiting free call others step =>
    obtain ⟨cached, lastError, holder, hgrant, -⟩ := grant_frame { k with coming, waiting } w
    rw [step, hgrant] at hw
    rw [step, hgrant]
    exact h caller seen (others _ hw)
  | ended owner outcome event held step =>
    rw [step] at hw ⊢
    change Waiter.get caller seen ∈ (k.store outcome).queue at hw
    change seen ≤ (k.store outcome).attempts
    rw [queue_store] at hw
    rw [attempts_store]
    exact Nat.le_succ_of_le (h caller seen hw)
  | quiet now holder coming waiting later held calls step =>
    rw [step] at hw ⊢
    rcases calls _ hw with hold | hnew
    · exact h caller seen hold
    · exact Nat.le_of_eq (eq_get_of_arrival? hnew).2

theorem Counted.run {k : Keeper} (h : k.Counted) (events : List Event) :
    (k.run events).1.Counted := by
  induction events generalizing k with
  | nil => exact h
  | cons e events ih => exact ih (h.step e)

theorem counted_unused (validity now : Nat) : (unused validity now).Counted := by
  simp [Counted, unused, queue]

/-- The keeper knows how a sign-in ended, and who came before the given events came before that. -/
structure Knows (k : Keeper) (since : List Event) : Prop where
  outcome : k.cached ≠ none ∨ k.lastError ≠ none
  older : ∀ caller seen, .get caller seen ∈ k.queue → .get caller ∉ since → seen < k.attempts

theorem Counted.knows {k : Keeper} (h : k.Counted) (outcome : Outcome) :
    ({ k.store outcome with holder := none } : Keeper).Knows [] where
  outcome := by cases outcome <;> simp [store]
  older := fun caller seen hw _ => by
    change Waiter.get caller seen ∈ (k.store outcome).queue at hw
    change seen < (k.store outcome).attempts
    rw [queue_store] at hw
    rw [attempts_store]
    exact Nat.lt_succ_of_le (h caller seen hw)

theorem Knows.step {k : Keeper} {since : List Event} (h : k.Knows since) {e : Event}
    (hclear : ∀ caller, .cleared caller ∉ (k.step e).2) : (k.step e).1.Knows (since ++ [e]) := by
  have hsince : ∀ {caller}, .get caller ∉ since ++ [e] → .get caller ∉ since :=
    fun hnot hmem => hnot (List.mem_append_left _ hmem)
  cases k.course e with
  | granted w coming waiting free call others step =>
    obtain ⟨cached, lastError, holder, hgrant, ⟨caller, -, hcleared⟩ | ⟨rfl, rfl⟩⟩ :=
      grant_frame { k with coming, waiting } w
    · exact absurd (by simp [step, hcleared]) (hclear caller)
    · rw [step, hgrant]
      exact ⟨h.outcome, fun caller seen hw hnot =>
        h.older caller seen (others _ hw) (hsince hnot)⟩
  | ended owner outcome event held step =>
    rw [step]
    refine ⟨by cases outcome <;> simp [store], fun caller seen hw hnot => ?_⟩
    change Waiter.get caller seen ∈ (k.store outcome).queue at hw
    change seen < (k.store outcome).attempts
    rw [queue_store] at hw
    rw [attempts_store]
    exact Nat.lt_succ_of_lt (h.older caller seen hw (hsince hnot))
  | quiet now holder coming waiting later held calls step =>
    rw [step]
    refine ⟨h.outcome, fun caller seen hw hnot => ?_⟩
    rcases calls _ hw with hold | hnew
    · exact h.older caller seen hold (hsince hnot)
    · exact absurd (by simp [(eq_get_of_arrival? hnew).1]) hnot

theorem Knows.run {k : Keeper} {since events : List Event} (h : k.Knows since)
    (hclear : ∀ caller, .cleared caller ∉ (k.run events).2) :
    (k.run events).1.Knows (since ++ events) := by
  induction events generalizing k since with
  | nil => simpa [Keeper.run] using h
  | cons e events ih =>
    rw [run_cons] at hclear ⊢
    have hnext : (k.step e).1.Knows (since ++ [e]) :=
      h.step fun caller hc => hclear caller (List.mem_append_left _ hc)
    simpa using ih hnext fun caller hc => hclear caller (List.mem_append_right _ hc)

/-- Who came before the end of the last sign-in and begins one itself has found an expired token. -/
theorem Knows.expired_of_signIn {k : Keeper} {since : List Event} (h : k.Knows since) {e : Event}
    {caller : Nat} (hsign : .signIn caller ∈ (k.step e).2) (hcame : .get caller ∉ since) :
    ∃ c, k.cached = some c ∧ c.expiresAt ≤ k.now := by
  obtain ⟨-, -, seen, hw, hvalid, hshared⟩ := waiter_of_signIn hsign
  have hseen : seen < k.attempts := h.older caller seen hw hcame
  have herror : k.lastError = none := by
    rw [shared?, if_pos (by omega)] at hshared
    exact hshared
  obtain ⟨c, hc⟩ := Option.ne_none_iff_exists'.1 (h.outcome.resolve_right fun hne => hne herror)
  refine ⟨c, hc, ?_⟩
  simp only [valid?, hc] at hvalid
  split at hvalid
  · cases hvalid
  · omega

/-- An event keeps the order of the calls: of those that have come, the first gets in line. -/
def keepsOrder (k : Keeper) : Event → Bool
  | .join caller =>
    match k.coming with
    | [] => true
    | w :: rest => w.caller == caller || rest.all (·.caller != caller)
  | _ => true

theorem coming_of_keepsOrder {k : Keeper} {caller : Nat} {w : Waiter}
    (h : k.keepsOrder (.join caller) = true)
    (hfind : k.coming.find? (·.caller == caller) = some w) : ∃ rest, k.coming = w :: rest := by
  unfold keepsOrder at h
  cases hcoming : k.coming with
  | nil => simp [hcoming] at hfind
  | cons first rest =>
    rw [hcoming, List.find?_cons] at hfind
    simp only [hcoming] at h
    cases hfirst : first.caller == caller with
    | true =>
      simp only [hfirst] at hfind
      exact ⟨rest, by rw [Option.some.inj hfind]⟩
    | false =>
      simp only [hfirst] at hfind
      rw [hfirst, Bool.false_or] at h
      have hother : w.caller ≠ caller := by
        simpa using List.all_eq_true.1 h w (List.mem_of_find?_eq_some hfind)
      exact absurd (by simpa using List.find?_some hfind) hother

/-- All calls get in line in the order in which they came. -/
def inOrder (k : Keeper) : List Event → Bool
  | [] => true
  | e :: rest => k.keepsOrder e && (k.step e).1.inOrder rest

theorem inOrder_append (k : Keeper) (events more : List Event) :
    k.inOrder (events ++ more) = (k.inOrder events && (k.run events).1.inOrder more) := by
  induction events generalizing k with
  | nil => rfl
  | cons e events ih => simp [inOrder, ih, run, Bool.and_assoc]

/-- The calls keep their order, nobody clears, and a token does not expire. -/
structure Undisturbed (k : Keeper) (outcome : Outcome) (deadline : Nat) (events : List Event) :
    Prop where
  ordered : k.inOrder events = true
  uncleared : ∀ caller, .cleared caller ∉ (k.run events).2
  unexpired : ∀ token, outcome = .ok token → (k.run events).1.now < deadline

namespace Undisturbed
variable {k : Keeper} {outcome : Outcome} {deadline : Nat} {e : Event} {events more : List Event}

theorem keepsOrder (h : k.Undisturbed outcome deadline (e :: events)) : k.keepsOrder e = true :=
  (Bool.and_eq_true_iff.1 h.ordered).1

theorem uncleared_head (h : k.Undisturbed outcome deadline (e :: events)) :
    ∀ caller, .cleared caller ∉ (k.step e).2 :=
  fun caller hmem => h.uncleared caller (List.mem_append_left _ hmem)

theorem tail (h : k.Undisturbed outcome deadline (e :: events)) :
    (k.step e).1.Undisturbed outcome deadline events where
  ordered := (Bool.and_eq_true_iff.1 h.ordered).2
  uncleared := fun caller hmem => h.uncleared caller (List.mem_append_right _ hmem)
  unexpired := h.unexpired

theorem left (h : k.Undisturbed outcome deadline (events ++ more)) :
    k.Undisturbed outcome deadline events where
  ordered := by
    have hordered := h.ordered
    rw [inOrder_append, Bool.and_eq_true] at hordered
    exact hordered.1
  uncleared := fun caller hmem => h.uncleared caller (by
    rw [run_append]
    exact List.mem_append_left _ hmem)
  unexpired := fun token htoken => by
    have hnow := h.unexpired token htoken
    rw [run_append] at hnow
    exact Nat.lt_of_le_of_lt (now_le_run _ more) hnow

theorem right (h : k.Undisturbed outcome deadline (events ++ more)) :
    (k.run events).1.Undisturbed outcome deadline more := by
  induction events generalizing k with
  | nil => exact h
  | cons e events ih => exact ih h.tail

end Undisturbed

/-- One of the events answers the caller with the outcome, and no sign-in has begun before. -/
def Answers (k : Keeper) (outcome : Outcome) (caller : Nat) (events : List Event) : Prop :=
  ∃ early e late, events = early ++ e :: late ∧ (∀ other, .signIn other ∉ (k.run early).2) ∧
    ((k.run early).1.step e).2 = [.reply caller outcome]

theorem Answers.append {k : Keeper} {outcome : Outcome} {caller : Nat} {events : List Event}
    (h : k.Answers outcome caller events) (more : List Event) :
    k.Answers outcome caller (events ++ more) := by
  obtain ⟨early, e, late, rfl, hsign, hreply⟩ := h
  exact ⟨early, e, late ++ more, by simp, hsign, hreply⟩

theorem Answers.prepend {k : Keeper} {outcome : Outcome} {caller : Nat} {before events : List Event}
    (hsign : ∀ other, .signIn other ∉ (k.run before).2)
    (h : (k.run before).1.Answers outcome caller events) :
    k.Answers outcome caller (before ++ events) := by
  obtain ⟨early, e, late, rfl, hearly, hreply⟩ := h
  refine ⟨before ++ early, e, late, by simp, fun other hmem => ?_, by rwa [run_append]⟩
  rw [run_append] at hmem
  exact (List.mem_append.1 hmem).elim (hsign other) (hearly other)

/-- What the keeper holds is the outcome. -/
def Holds (k : Keeper) (deadline : Nat) : Outcome → Prop
  | .ok token => k.cached = some ⟨token, deadline⟩
  | .error why => k.cached = none ∧ k.lastError = some why

/-- A call waits for an outcome that the keeper holds, with other calls ahead, all of them older
than the outcome. -/
structure Awaits (k : Keeper) (outcome : Outcome) (deadline : Nat) (ahead : List Waiter)
    (caller seen : Nat) : Prop where
  free : k.holder = none
  line : ∃ behind, k.queue = ahead ++ .get caller seen :: behind
  first : .get caller seen ∉ ahead
  older : ∀ other count, .get other count ∈ ahead ++ [.get caller seen] → count < k.attempts
  holds : k.Holds deadline outcome

/-- Who came before the outcome gets it with the lock. -/
theorem grant_of_holds {k : Keeper} {outcome : Outcome} {deadline caller seen : Nat}
    (h : k.Holds deadline outcome) (hseen : seen < k.attempts)
    (hnow : ∀ token, outcome = .ok token → k.now < deadline) :
    k.grant (.get caller seen) = (k, [.reply caller outcome]) := by
  cases outcome with
  | ok token =>
    have hcached : k.cached = some ⟨token, deadline⟩ := h
    have hvalid : k.valid? = some token := by simp [valid?, hcached, hnow token rfl]
    simp only [grant, hvalid]
  | error why =>
    obtain ⟨hcached, herror⟩ := h
    have hvalid : k.valid? = none := by simp [valid?, hcached]
    have hshared : k.shared? seen = some why := by rw [shared?, if_pos (by omega), herror]
    simp only [grant, hvalid, hshared]

/-- Whoever waits when a sign-in ends waits for its outcome. -/
theorem Counted.awaits {k : Keeper} (h : k.Counted) {caller seen : Nat}
    (hw : .get caller seen ∈ k.queue) (outcome : Outcome) :
    ∃ ahead, ({ k.store outcome with holder := none } : Keeper).Awaits outcome
      (k.now + k.validity) ahead caller seen := by
  obtain ⟨ahead, behind, hqueue, hfirst⟩ := List.eq_append_cons_of_mem hw
  refine ⟨ahead, rfl, ⟨behind, (queue_store k outcome).trans hqueue⟩, hfirst, ?_, ?_⟩
  · intro other count hmem
    have hother : .get other count ∈ k.queue := by
      rw [hqueue]
      simp only [List.mem_append, List.mem_singleton] at hmem
      rcases hmem with hmem | heq
      · simp [hmem]
      · simp [heq]
    change count < (k.store outcome).attempts
    rw [attempts_store]
    exact Nat.lt_succ_of_le (h other count hother)
  · cases outcome with
    | ok token => rfl
    | error why => exact ⟨rfl, rfl⟩

namespace Awaits
variable {k : Keeper} {outcome : Outcome} {deadline : Nat} {ahead : List Waiter} {caller seen : Nat}

theorem mem_queue (h : k.Awaits outcome deadline ahead caller seen) :
    .get caller seen ∈ k.queue := by
  obtain ⟨behind, hqueue⟩ := h.line
  simp [hqueue]

/-- A call in line has fewer calls ahead than there are in line. -/
theorem length_lt (h : k.Awaits outcome deadline ahead caller seen)
    (hline : .get caller seen ∈ k.waiting) : ahead.length < k.waiting.length := by
  obtain ⟨behind, hqueue⟩ := h.line
  have hahead : ahead <+: k.queue := ⟨_, hqueue.symm⟩
  refine Nat.lt_of_not_le fun hle => h.first ?_
  exact (List.prefix_of_prefix_length_le (List.prefix_append _ _) hahead hle).subset hline

/-- The calls in line up to the one that waits, if it is among them. -/
theorem exists_waiting (h : k.Awaits outcome deadline ahead caller seen)
    (hlt : ahead.length < k.waiting.length) :
    ∃ rest, k.waiting = ahead ++ .get caller seen :: rest := by
  obtain ⟨behind, hqueue⟩ := h.line
  have hfront : ahead ++ [.get caller seen] <+: k.queue := ⟨behind, by simp [hqueue]⟩
  have hlength : (ahead ++ [Waiter.get caller seen]).length ≤ k.waiting.length := by
    rw [List.length_append]
    exact hlt
  obtain ⟨rest, hrest⟩ :=
    List.prefix_of_prefix_length_le hfront (List.prefix_append _ k.coming) hlength
  exact ⟨rest, by simpa using hrest.symm⟩

/-- Calls get in line behind, and time passes. -/
theorem frame {k' : Keeper} (h : k.Awaits outcome deadline ahead caller seen)
    (hholder : k'.holder = k.holder) (hattempts : k'.attempts = k.attempts)
    (hcached : k'.cached = k.cached) (herror : k'.lastError = k.lastError) (more : List Waiter)
    (hqueue : k'.queue = k.queue ++ more) : k'.Awaits outcome deadline ahead caller seen where
  free := hholder.trans h.free
  line := by
    obtain ⟨behind, hline⟩ := h.line
    exact ⟨behind ++ more, by simp [hqueue, hline]⟩
  first := h.first
  older := fun other count hmem => hattempts ▸ h.older other count hmem
  holds := by
    cases outcome with
    | ok token => exact hcached.trans h.holds
    | error why => exact ⟨hcached.trans h.holds.1, herror.trans h.holds.2⟩

/-- The first call gets the lock: either it is the one that waits, or it goes ahead of it. -/
theorem pop (h : k.Awaits outcome deadline ahead caller seen) {w : Waiter}
    {coming waiting : List Waiter} (hqueue : k.queue = w :: (waiting ++ coming))
    (hnow : ∀ token, outcome = .ok token → k.now < deadline)
    (hclear : ∀ other, .cleared other ∉ (({ k with coming, waiting } : Keeper).grant w).2) :
    (({ k with coming, waiting } : Keeper).grant w).2 = [.reply caller outcome] ∨
    (∀ other, .signIn other ∉ (({ k with coming, waiting } : Keeper).grant w).2) ∧
      ∃ ahead', ahead = w :: ahead' ∧
        (({ k with coming, waiting } : Keeper).grant w).1 = { k with coming, waiting } ∧
        ({ k with coming, waiting } : Keeper).Awaits outcome deadline ahead' caller seen := by
  obtain ⟨behind, hline⟩ := h.line
  have hgrant : ∀ owner count, .get owner count ∈ ahead ++ [.get caller seen] →
      ({ k with coming, waiting } : Keeper).grant (.get owner count) =
        ({ k with coming, waiting }, [.reply owner outcome]) :=
    fun owner count hmem => grant_of_holds h.holds (h.older owner count hmem) hnow
  cases hahead : ahead with
  | nil =>
    rw [hqueue, hahead, List.nil_append] at hline
    obtain ⟨rfl, -⟩ := List.cons.inj hline
    exact .inl (by rw [hgrant caller seen (by simp)])
  | cons first ahead' =>
    rw [hqueue, hahead, List.cons_append] at hline
    obtain ⟨rfl, hrest⟩ := List.cons.inj hline
    cases w with
    | clear other => exact absurd (by simp [grant]) (hclear other)
    | get owner count =>
      have howner := hgrant owner count (by simp [hahead])
      refine .inr ⟨by simp [howner], ahead', rfl, by rw [howner], h.free, ⟨behind, hrest⟩, ?_, ?_,
        h.holds⟩
      · exact fun hmem => h.first (by simp [hahead, hmem])
      · exact fun other count hmem => h.older other count (by simp [hahead, hmem])

theorem join (h : k.Awaits outcome deadline ahead caller seen) {other : Nat}
    (horder : k.keepsOrder (.join other) = true)
    (hclear : ∀ owner, .cleared owner ∉ (k.join other).2)
    (hnow : ∀ token, outcome = .ok token → k.now < deadline) :
    (k.join other).2 = [.reply caller outcome] ∨
    (∀ owner, .signIn owner ∉ (k.join other).2) ∧
      ∃ ahead', (k.join other).1.Awaits outcome deadline ahead' caller seen ∧
        (ahead.length < k.waiting.length →
          ahead'.length ≤ ahead.length ∧ ahead'.length < (k.join other).1.waiting.length) := by
  obtain ⟨-, hjoin⟩ | ⟨w, hfind, ⟨-, hjoin⟩ | ⟨-, hwaiting, hjoin⟩⟩ := k.join_cases other
  · rw [hjoin]
    exact .inr ⟨by simp, ahead, h, fun hlt => ⟨Nat.le_refl _, hlt⟩⟩
  · obtain ⟨rest, hcoming⟩ := coming_of_keepsOrder horder hfind
    rw [hjoin]
    refine .inr ⟨by simp, ahead, h.frame rfl rfl rfl rfl [] ?_, fun hlt => ⟨Nat.le_refl _, ?_⟩⟩
    · simp [queue, hcoming]
    · rw [List.length_append]
      exact Nat.lt_add_right _ hlt
  · obtain ⟨rest, hcoming⟩ := coming_of_keepsOrder horder hfind
    have hqueue : k.queue = w :: (k.waiting ++ k.coming.erase w) := by
      simp [queue, hwaiting, hcoming]
    rw [hjoin] at hclear ⊢
    refine (h.pop hqueue hnow hclear).imp id ?_
    rintro ⟨hsign, ahead', -, hkeeper, hawaits⟩
    refine ⟨hsign, ahead', by rwa [hkeeper], fun hlt => ?_⟩
    rw [hwaiting] at hlt
    exact absurd hlt (Nat.not_lt_zero _)

theorem wake (h : k.Awaits outcome deadline ahead caller seen)
    (hclear : ∀ owner, .cleared owner ∉ k.wake.2)
    (hnow : ∀ token, outcome = .ok token → k.now < deadline) :
    k.wake.2 = [.reply caller outcome] ∨
    (∀ owner, .signIn owner ∉ k.wake.2) ∧
      ∃ ahead', k.wake.1.Awaits outcome deadline ahead' caller seen ∧
        (ahead.length < k.waiting.length →
          ahead'.length + 1 ≤ ahead.length ∧ ahead'.length < k.wake.1.waiting.length) := by
  obtain ⟨hidle, hwake⟩ | ⟨w, rest, -, hwaiting, hwake⟩ := k.wake_cases
  · have hwaiting : k.waiting = [] := hidle.resolve_left fun hheld => hheld h.free
    rw [hwake]
    refine .inr ⟨by simp, ahead, h, fun hlt => ?_⟩
    rw [hwaiting] at hlt
    exact absurd hlt (Nat.not_lt_zero _)
  · have hqueue : k.queue = w :: (rest ++ k.coming) := by simp [queue, hwaiting]
    rw [hwake] at hclear ⊢
    refine (h.pop hqueue hnow hclear).imp id ?_
    rintro ⟨hsign, ahead', rfl, hkeeper, hawaits⟩
    refine ⟨hsign, ahead', by rwa [hkeeper], fun hlt => ?_⟩
    rw [hkeeper]
    rw [hwaiting, List.length_cons, List.length_cons] at hlt
    exact ⟨Nat.le_refl _, Nat.lt_of_succ_lt_succ hlt⟩

theorem drop (h : k.Awaits outcome deadline ahead caller seen) {other : Nat}
    (hother : other ≠ caller) :
    (∀ owner, .signIn owner ∉ (k.step (.drop other)).2) ∧
      ∃ ahead', (k.step (.drop other)).1.Awaits outcome deadline ahead' caller seen ∧
        (ahead.length < k.waiting.length →
          ahead'.length ≤ ahead.length ∧
            ahead'.length < (k.step (.drop other)).1.waiting.length) := by
  have hkept : ∀ l : List Waiter, (.get caller seen :: l).filter (·.caller != other) =
      .get caller seen :: l.filter (·.caller != other) :=
    fun l => List.filter_cons_of_pos (by simpa [Waiter.caller] using hother.symm)
  have hstep : k.step (.drop other) =
      ({ k with
          coming := k.coming.filter (·.caller != other)
          waiting := k.waiting.filter (·.caller != other) }, []) := by
    rw [Keeper.step, if_neg (by simp [h.free])]
  obtain ⟨behind, hline⟩ := h.line
  rw [hstep]
  refine ⟨by simp, ahead.filter (·.caller != other), ⟨h.free, ?_, ?_, ?_, h.holds⟩, fun hlt => ?_⟩
  · refine ⟨behind.filter (·.caller != other), ?_⟩
    have hfilter := congrArg (List.filter (·.caller != other)) hline
    rw [queue, List.filter_append, List.filter_append, hkept] at hfilter
    exact hfilter
  · exact fun hmem => h.first (List.mem_filter.1 hmem).1
  · intro owner count hmem
    refine h.older owner count ?_
    rw [List.mem_append] at hmem ⊢
    exact hmem.imp (fun hmem => (List.mem_filter.1 hmem).1) id
  · obtain ⟨rest, hwaiting⟩ := h.exists_waiting hlt
    refine ⟨List.length_filter_le _ _, ?_⟩
    change _ < (k.waiting.filter _).length
    rw [hwaiting, List.filter_append, hkept, List.length_append,
      List.length_cons]
    omega

/-- The caller is answered, or waits on behind no more calls than before, and behind fewer if it
is in line and those in line are woken. -/
theorem step (h : k.Awaits outcome deadline ahead caller seen) {e : Event}
    (horder : k.keepsOrder e = true) (hdrop : e ≠ .drop caller)
    (hclear : ∀ other, .cleared other ∉ (k.step e).2)
    (hnow : ∀ token, outcome = .ok token → k.now < deadline) :
    (k.step e).2 = [.reply caller outcome] ∨
    (∀ other, .signIn other ∉ (k.step e).2) ∧
      ∃ ahead', (k.step e).1.Awaits outcome deadline ahead' caller seen ∧
        (ahead.length < k.waiting.length →
          ahead'.length + [e].countP Event.isWake ≤ ahead.length ∧
            ahead'.length < (k.step e).1.waiting.length) := by
  cases e with
  | get other =>
    refine .inr ⟨by simp [Keeper.step], ahead, ?_, fun hlt => ⟨by simp [Event.isWake], hlt⟩⟩
    exact h.frame rfl rfl rfl rfl [.get other k.attempts] (by simp [queue, Keeper.step])
  | clear other =>
    refine .inr ⟨by simp [Keeper.step], ahead, ?_, fun hlt => ⟨by simp [Event.isWake], hlt⟩⟩
    exact h.frame rfl rfl rfl rfl [.clear other] (by simp [queue, Keeper.step])
  | elapse ms =>
    refine .inr ⟨by simp [Keeper.step], ahead, ?_, fun hlt => ⟨by simp [Event.isWake], hlt⟩⟩
    exact h.frame rfl rfl rfl rfl [] (by simp [queue, Keeper.step])
  | signedIn outcome' =>
    have hidle : k.step (.signedIn outcome') = (k, []) := by simp only [Keeper.step, h.free]
    rw [hidle]
    exact .inr ⟨by simp, ahead, h, fun hlt => ⟨by simp [Event.isWake], hlt⟩⟩
  | join other => exact h.join horder hclear hnow
  | wake => exact h.wake hclear hnow
  | drop other => exact .inr (h.drop fun heq => hdrop (congrArg Event.drop heq))

/-- The caller is answered at one of the events, or waits on; if it is in line, then each time that
those in line are woken there is one less ahead of it. -/
theorem run (h : k.Awaits outcome deadline ahead caller seen) {events : List Event}
    (hundisturbed : k.Undisturbed outcome deadline events) (hdrop : .drop caller ∉ events) :
    k.Answers outcome caller events ∨
    (∀ other, .signIn other ∉ (k.run events).2) ∧
      ∃ ahead', (k.run events).1.Awaits outcome deadline ahead' caller seen ∧
        (ahead.length < k.waiting.length →
          ahead'.length + events.countP Event.isWake ≤ ahead.length ∧
            ahead'.length < (k.run events).1.waiting.length) := by
  induction events generalizing k ahead with
  | nil => exact .inr ⟨by simp [Keeper.run], ahead, h, fun hlt => ⟨Nat.le_refl _, hlt⟩⟩
  | cons e events ih =>
    have hnow : ∀ token, outcome = .ok token → k.now < deadline := fun token htoken =>
      Nat.lt_of_le_of_lt (k.now_le_run (e :: events)) (hundisturbed.unexpired token htoken)
    rcases h.step hundisturbed.keepsOrder (fun he => hdrop (by simp [he]))
      hundisturbed.uncleared_head hnow with hreply | ⟨hsign, ahead', hawaits, hahead⟩
    · exact .inl ⟨[], e, events, rfl, by simp [Keeper.run], hreply⟩
    · rcases ih hawaits hundisturbed.tail (fun hmem => hdrop (by simp [hmem])) with
        hanswers | ⟨hrest, ahead'', hawaits', hahead'⟩
      · have hfirst : ∀ other, .signIn other ∉ (k.run [e]).2 := by simpa [Keeper.run] using hsign
        exact .inl (hanswers.prepend hfirst)
      · refine .inr ⟨fun other hmem => ?_, ahead'', hawaits', fun hlt => ?_⟩
        · exact (List.mem_append.1 hmem).elim (hsign other) (hrest other)
        · obtain ⟨hle, hline⟩ := hahead hlt
          obtain ⟨hle', hline'⟩ := hahead' hline
          refine ⟨?_, hline'⟩
          rw [List.countP_cons] at *
          simp only [List.countP_nil] at hle
          omega

/-- A caller that is never answered is still there, and whenever it was in line the events since
then have not woken everybody in line. -/
theorem answers_or_waits (h : k.Awaits outcome deadline ahead caller seen) {events : List Event}
    (hundisturbed : k.Undisturbed outcome deadline events) (hdrop : .drop caller ∉ events) :
    k.Answers outcome caller events ∨
      .get caller seen ∈ (k.run events).1.queue ∧ (k.run events).1.holder = none ∧
        (∀ other, .signIn other ∉ (k.run events).2) ∧
        ∀ early late, events = early ++ late →
          .get caller seen ∈ (k.run early).1.waiting →
          late.countP Event.isWake < (k.run early).1.waiting.length := by
  by_cases hanswers : k.Answers outcome caller events
  · exact .inl hanswers
  · obtain ⟨hsign, ahead', hlast, -⟩ := (h.run hundisturbed hdrop).resolve_left hanswers
    refine .inr ⟨hlast.mem_queue, hlast.free, hsign, ?_⟩
    rintro early late rfl hline
    obtain ⟨hearly, ahead', hwaits, -⟩ :=
      (h.run hundisturbed.left (fun hmem => hdrop (by simp [hmem]))).resolve_left
        fun hfirst => hanswers (hfirst.append late)
    obtain ⟨-, ahead'', -, hwoken⟩ :=
      (hwaits.run hundisturbed.right (fun hmem => hdrop (by simp [hmem]))).resolve_left
        fun hlate => hanswers (hlate.prepend hearly)
    have hlt : ahead'.length < (k.run early).1.waiting.length := hwaits.length_lt hline
    have hcount := (hwoken hlt).1
    omega

end Awaits

/-- While a sign-in is in flight no other begins. Whoever came before a sign-in ended begins one
only after a clear, or when the token that is kept has expired. And if the calls get the lock in the
order in which they came, and there is no clear and no expiry, then whoever waits when a sign-in ends
and does not give up is answered with its outcome, before any other sign-in begins and before those
in line have been woken once each. -/
theorem single_flight (validity start : Nat) :
    (∀ before e during caller, .signIn caller ∈ (((unused validity start).run before).1.step e).2 →
      (∀ outcome, .signedIn outcome ∉ during) → .drop caller ∉ during →
      (((unused validity start).run before).1.step e).2 = [.signIn caller] ∧
        ∀ other, .signIn other ∉ ((((unused validity start).run before).1.step e).1.run during).2) ∧
    (∀ before leader outcome later e caller,
      ((unused validity start).run before).1.holder = some leader →
      let next := (((unused validity start).run before).1.step (.signedIn outcome)).1
      .get caller ∉ later → .signIn caller ∈ ((next.run later).1.step e).2 →
      (∃ other, .cleared other ∈ (next.run later).2) ∨
        ∃ c, (next.run later).1.cached = some c ∧ c.expiresAt ≤ (next.run later).1.now) ∧
    (∀ before leader outcome later caller seen,
      let k := ((unused validity start).run before).1
      let next := (k.step (.signedIn outcome)).1
      k.holder = some leader → .get caller seen ∈ k.queue →
      next.Undisturbed outcome (k.now + validity) later → .drop caller ∉ later →
      (k.step (.signedIn outcome)).2 = [.reply leader outcome] ∧
        (next.Answers outcome caller later ∨
          .get caller seen ∈ (next.run later).1.queue ∧ (next.run later).1.holder = none ∧
            (∀ other, .signIn other ∉ (next.run later).2) ∧
            ∀ early late, later = early ++ late →
              .get caller seen ∈ (next.run early).1.waiting →
              late.countP Event.isWake < (next.run early).1.waiting.length)) := by
  have hcounted : ∀ before, ((unused validity start).run before).1.Counted :=
    fun before => (counted_unused validity start).run before
  have hsigned : ∀ {k : Keeper} {leader : Nat} (outcome : Outcome), k.holder = some leader →
      k.step (.signedIn outcome) =
        ({ k.store outcome with holder := none }, [.reply leader outcome]) :=
    fun outcome hheld => by simp only [step, hheld]
  refine ⟨?_, ?_, ?_⟩
  · intro before e during caller hsign hend hdrop
    obtain ⟨heffects, hheld, -⟩ := waiter_of_signIn hsign
    exact ⟨heffects, by simp [run_of_held hheld hend hdrop]⟩
  · intro before leader outcome later e caller hheld next hcame hsign
    by_cases hclear : ∃ other, .cleared other ∈ (next.run later).2
    · exact .inl hclear
    · right
      have hknows : next.Knows [] := by
        simpa only [next, hsigned outcome hheld] using (hcounted before).knows outcome
      exact (hknows.run fun other hmem => hclear ⟨other, hmem⟩).expired_of_signIn hsign hcame
  · intro before leader outcome later caller seen k next hheld hw hundisturbed hdrop
    have hnext : next = { k.store outcome with holder := none } := by
      simp only [next, hsigned outcome hheld]
    have hvalidity : k.validity = validity := validity_run _ before
    obtain ⟨ahead, hawaits⟩ := (hcounted before).awaits hw outcome
    rw [← hnext, hvalidity] at hawaits
    exact ⟨by rw [hsigned outcome hheld], hawaits.answers_or_waits hundisturbed hdrop⟩

/-- The first leader gives up, the second fails, and the callers 3 and 4 share its error although a
later one has come in between. A token that expires while caller 2 is in line makes it sign in. -/
theorem single_flight_failed :
    (∀ other, .signIn other ∉ ((((unused 10 0).run [.get 1]).1.step (.join 1)).1.run
      [.get 2, .join 2, .elapse 3, .wake]).2) ∧
    (let k := ((unused 10 0).run [.get 1, .join 1, .get 2, .join 2]).1
     let next := (k.step (.signedIn (.ok "t"))).1
     .signIn 2 ∈ ((next.run [.elapse 10]).1.step .wake).2 ∧
      ∃ c, (next.run [.elapse 10]).1.cached = some c ∧
        c.expiresAt ≤ (next.run [.elapse 10]).1.now) ∧
    (let k := ((unused 10 0).run [.get 1, .join 1, .get 2, .join 2, .get 3, .join 3, .get 4,
       .drop 1, .wake]).1
     (k.step (.signedIn (.error .missingCredentials))).1.Answers (.error .missingCredentials) 4
       [.get 5, .join 4, .join 5, .wake, .wake, .wake]) := by
  obtain ⟨hone, hown, hshared⟩ := single_flight 10 0
  refine ⟨?_, ⟨?_, ?_⟩, ?_⟩
  · exact (hone [.get 1] (.join 1) [.get 2, .join 2, .elapse 3, .wake] 1
      (List.mem_singleton.2 rfl) (by simp) (by simp)).2
  · exact List.mem_singleton.2 rfl
  · refine (hown [.get 1, .join 1, .get 2, .join 2] 1 (.ok "t") [.elapse 10] .wake 2 rfl (by simp)
      (List.mem_singleton.2 rfl)).resolve_left ?_
    rintro ⟨other, hmem⟩
    exact absurd hmem List.not_mem_nil
  · refine (hshared [.get 1, .join 1, .get 2, .join 2, .get 3, .join 3, .get 4, .drop 1, .wake] 2
      (.error .missingCredentials) [.get 5, .join 4, .join 5, .wake, .wake, .wake] 4 0 rfl
      (by decide) ⟨rfl, ?_, by simp⟩ (by simp)).2.resolve_right ?_
    · intro caller hmem
      have heffects : Effect.cleared caller ∈ [.reply 3 (.error .missingCredentials),
        .reply 4 (.error .missingCredentials), .signIn 5] := hmem
      simp at heffects
    · rintro ⟨hqueue, -⟩
      exact absurd hqueue (by decide)

end Keeper
end Flowline.Token
