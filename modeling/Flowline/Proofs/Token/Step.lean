import Flowline.Token.Keeper

/-!
What one event can do to a keeper: the lock is granted to a call, or the sign-in in flight ends, or
nothing is done and the token, the error and the count stay as they are.
-/
namespace Flowline.Token

/-- The call that begins at an event, when so many sign-ins have ended. -/
def Event.arrival? (attempts : Nat) : Event → Option Waiter
  | .get caller => some (.get caller attempts)
  | .clear caller => some (.clear caller)
  | _ => none

namespace Keeper

/-- The calls that have come and have not had the lock yet, those in line first. -/
def queue (k : Keeper) : List Waiter := k.waiting ++ k.coming

theorem mem_queue {k : Keeper} {w : Waiter} : w ∈ k.queue ↔ w ∈ k.waiting ∨ w ∈ k.coming :=
  List.mem_append

theorem run_append (k : Keeper) (events more : List Event) :
    k.run (events ++ more) =
      (((k.run events).1.run more).1, (k.run events).2 ++ ((k.run events).1.run more).2) := by
  induction events generalizing k with
  | nil => rfl
  | cons e events ih => simp [run, ih]

theorem run_cons (k : Keeper) (e : Event) (events : List Event) :
    k.run (e :: events) =
      (((k.step e).1.run events).1, (k.step e).2 ++ ((k.step e).1.run events).2) := rfl

theorem join_cases (k : Keeper) (caller : Nat) :
    (k.coming.find? (·.caller == caller) = none ∧ k.join caller = (k, [])) ∨
    ∃ w, k.coming.find? (·.caller == caller) = some w ∧
      ((¬ (k.holder = none ∧ k.waiting = []) ∧ k.join caller =
          ({ k with coming := k.coming.erase w, waiting := k.waiting ++ [w] }, [])) ∨
        (k.holder = none ∧ k.waiting = [] ∧
          k.join caller = { k with coming := k.coming.erase w }.grant w)) := by
  unfold join
  cases hfind : k.coming.find? (·.caller == caller) with
  | none => exact .inl ⟨rfl, rfl⟩
  | some w =>
    refine .inr ⟨w, rfl, ?_⟩
    simp only [arrive]
    by_cases hfree : k.holder = none ∧ k.waiting = []
    · exact .inr ⟨hfree.1, hfree.2, by simp [hfree.1, hfree.2]⟩
    · refine .inl ⟨hfree, ?_⟩
      rw [if_pos]
      cases hholder : k.holder with
      | some owner => rfl
      | none =>
        have hwaiting : k.waiting ≠ [] := fun hnil => hfree ⟨hholder, hnil⟩
        simpa using hwaiting

theorem wake_cases (k : Keeper) :
    ((k.holder ≠ none ∨ k.waiting = []) ∧ k.wake = (k, [])) ∨
    ∃ w rest, k.holder = none ∧ k.waiting = w :: rest ∧
      k.wake = { k with waiting := rest }.grant w := by
  unfold wake
  cases hholder : k.holder with
  | some owner => exact .inl ⟨.inl (by simp), rfl⟩
  | none =>
    cases hwaiting : k.waiting with
    | nil => exact .inl ⟨.inr rfl, rfl⟩
    | cons w rest => exact .inr ⟨w, rest, rfl, rfl, rfl⟩

/-- A call that gets the lock for the token has a valid one, or shares an error, or signs in. -/
theorem grant_get_cases (k : Keeper) (caller seen : Nat) :
    (∃ token, k.valid? = some token ∧
      k.grant (.get caller seen) = (k, [.reply caller (.ok token)])) ∨
    (∃ why, k.valid? = none ∧ k.shared? seen = some why ∧
      k.grant (.get caller seen) = (k, [.reply caller (.error why)])) ∨
    (k.valid? = none ∧ k.shared? seen = none ∧
      k.grant (.get caller seen) = ({ k with holder := some caller }, [.signIn caller])) := by
  cases hvalid : k.valid? with
  | some token => exact .inl ⟨token, rfl, by simp only [grant, hvalid]⟩
  | none =>
    cases hshared : k.shared? seen with
    | some why => exact .inr (.inl ⟨why, rfl, rfl, by simp only [grant, hvalid, hshared]⟩)
    | none => exact .inr (.inr ⟨rfl, rfl, by simp only [grant, hvalid, hshared]⟩)

theorem exists_cached_of_valid? {k : Keeper} {token : String} (h : k.valid? = some token) :
    ∃ c, k.cached = some c ∧ c.token = token := by
  unfold valid? at h
  split at h
  · next c hc =>
    split at h
    · exact ⟨c, hc, Option.some.inj h⟩
    · cases h
  · cases h

/-- A call that gets the lock changes who holds it, and only a clear changes what is kept. -/
theorem grant_frame (k : Keeper) (w : Waiter) :
    ∃ cached lastError holder, (k.grant w).1 = { k with cached, lastError, holder } ∧
      ((∃ caller, w = .clear caller ∧ (k.grant w).2 = [.cleared caller]) ∨
        cached = k.cached ∧ lastError = k.lastError) := by
  cases w with
  | clear caller => exact ⟨none, none, k.holder, rfl, .inl ⟨caller, rfl, rfl⟩⟩
  | get caller seen =>
    rcases grant_get_cases k caller seen with
      ⟨token, -, hgrant⟩ | ⟨why, -, -, hgrant⟩ | ⟨-, -, hgrant⟩
    · exact ⟨_, _, k.holder, by rw [hgrant], .inr ⟨rfl, rfl⟩⟩
    · exact ⟨_, _, k.holder, by rw [hgrant], .inr ⟨rfl, rfl⟩⟩
    · exact ⟨_, _, some caller, by rw [hgrant], .inr ⟨rfl, rfl⟩⟩

/-- What an event can do. -/
inductive Course (k : Keeper) (e : Event) : Prop
  | granted (w : Waiter) (coming waiting : List Waiter) (free : k.holder = none)
      (call : w ∈ k.queue) (others : ∀ w' ∈ waiting ++ coming, w' ∈ k.queue)
      (step : k.step e = { k with coming, waiting }.grant w)
  | ended (caller : Nat) (outcome : Outcome) (event : e = .signedIn outcome)
      (held : k.holder = some caller)
      (step : k.step e = ({ k.store outcome with holder := none }, [.reply caller outcome]))
  | quiet (now : Nat) (holder : Option Nat) (coming waiting : List Waiter) (later : k.now ≤ now)
      (held : holder = k.holder ∨
        ∃ caller, e = .drop caller ∧ k.holder = some caller ∧ holder = none)
      (calls : ∀ w ∈ waiting ++ coming, w ∈ k.queue ∨ e.arrival? k.attempts = some w)
      (step : k.step e = ({ k with now, holder, coming, waiting }, []))

theorem course_idle {k : Keeper} {e : Event} (h : k.step e = (k, [])) : k.Course e :=
  .quiet k.now k.holder k.coming k.waiting (Nat.le_refl _) (.inl rfl) (fun _ hw => .inl hw) h

theorem course_join (k : Keeper) (caller : Nat) : k.Course (.join caller) := by
  obtain ⟨-, hjoin⟩ | ⟨w, hfind, ⟨-, hjoin⟩ | ⟨hfree, hwaiting, hjoin⟩⟩ := k.join_cases caller
  · exact course_idle hjoin
  · have hw : w ∈ k.coming := List.mem_of_find?_eq_some hfind
    refine .quiet k.now k.holder _ _ (Nat.le_refl _) (.inl rfl) (fun w' hw' => .inl ?_) hjoin
    rw [List.append_assoc, List.mem_append, List.singleton_append, List.mem_cons] at hw'
    rcases hw' with hw' | rfl | hw'
    · exact mem_queue.2 (.inl hw')
    · exact mem_queue.2 (.inr hw)
    · exact mem_queue.2 (.inr (List.mem_of_mem_erase hw'))
  · have hw : w ∈ k.coming := List.mem_of_find?_eq_some hfind
    refine .granted w _ _ hfree (mem_queue.2 (.inr hw)) (fun w' hw' => ?_) hjoin
    exact mem_queue.2 ((List.mem_append.1 hw').imp id List.mem_of_mem_erase)

theorem course_wake (k : Keeper) : k.Course .wake := by
  obtain ⟨-, hwake⟩ | ⟨w, rest, hfree, hwaiting, hwake⟩ := k.wake_cases
  · exact course_idle hwake
  · refine .granted w _ _ hfree (mem_queue.2 (.inl (by simp [hwaiting]))) (fun w' hw' => ?_) hwake
    refine mem_queue.2 ((List.mem_append.1 hw').imp (fun h => ?_) id)
    simp [hwaiting, h]

theorem course_drop (k : Keeper) (caller : Nat) : k.Course (.drop caller) := by
  by_cases hholder : k.holder = some caller
  · exact .quiet k.now none k.coming k.waiting (Nat.le_refl _) (.inr ⟨caller, rfl, hholder, rfl⟩)
      (fun _ hw => .inl hw) (by simp [step, hholder])
  · refine .quiet k.now k.holder _ _ (Nat.le_refl _) (.inl rfl) (fun w hw => .inl ?_)
      (by rw [step, if_neg hholder])
    exact mem_queue.2 ((List.mem_append.1 hw).imp
      (fun h => (List.mem_filter.1 h).1) fun h => (List.mem_filter.1 h).1)

theorem course_signedIn (k : Keeper) (outcome : Outcome) : k.Course (.signedIn outcome) := by
  cases hholder : k.holder with
  | none => exact course_idle (by simp only [step, hholder])
  | some caller => exact .ended caller outcome rfl hholder (by simp only [step, hholder])

theorem course_arrival {k : Keeper} {e : Event} {w : Waiter} (he : e.arrival? k.attempts = some w)
    (h : k.step e = ({ k with coming := k.coming ++ [w] }, [])) : k.Course e := by
  refine .quiet k.now k.holder _ _ (Nat.le_refl _) (.inl rfl) (fun w' hw' => ?_) h
  rw [← List.append_assoc, List.mem_append, List.mem_singleton] at hw'
  rcases hw' with hw' | rfl
  · exact .inl hw'
  · exact .inr he

theorem course (k : Keeper) (e : Event) : k.Course e := by
  cases e with
  | get caller => exact course_arrival rfl rfl
  | clear caller => exact course_arrival rfl rfl
  | join caller => exact k.course_join caller
  | drop caller => exact k.course_drop caller
  | wake => exact k.course_wake
  | signedIn outcome => exact k.course_signedIn outcome
  | elapse ms =>
    exact .quiet (k.now + ms) k.holder k.coming k.waiting (Nat.le_add_right _ _) (.inl rfl)
      (fun _ hw => .inl hw) rfl

theorem validity_step (k : Keeper) (e : Event) : (k.step e).1.validity = k.validity := by
  cases k.course e with
  | granted w coming waiting free call others step =>
    obtain ⟨cached, lastError, holder, hgrant, -⟩ := grant_frame { k with coming, waiting } w
    rw [step, hgrant]
  | ended caller outcome event held step =>
    rw [step]
    cases outcome <;> rfl
  | quiet now holder coming waiting later held calls step => rw [step]

theorem validity_run (k : Keeper) (events : List Event) :
    (k.run events).1.validity = k.validity := by
  induction events generalizing k with
  | nil => rfl
  | cons e events ih => exact (ih _).trans (k.validity_step e)

theorem now_le_step (k : Keeper) (e : Event) : k.now ≤ (k.step e).1.now := by
  cases k.course e with
  | granted w coming waiting free call others step =>
    obtain ⟨cached, lastError, holder, hgrant, -⟩ := grant_frame { k with coming, waiting } w
    exact Nat.le_of_eq (by rw [step, hgrant])
  | ended caller outcome event held step =>
    rw [step]
    cases outcome <;> exact Nat.le_refl _
  | quiet now holder coming waiting later held calls step => rwa [step]

theorem now_le_run (k : Keeper) (events : List Event) : k.now ≤ (k.run events).1.now := by
  induction events generalizing k with
  | nil => exact Nat.le_refl _
  | cons e events ih => exact Nat.le_trans (k.now_le_step e) (ih _)

theorem effects_of_step (k : Keeper) (e : Event) : (k.step e).2 = [] ∨ ∃ x, (k.step e).2 = [x] := by
  cases k.course e with
  | granted w coming waiting free call others step =>
    rw [step]
    cases w with
    | clear caller => exact .inr ⟨_, rfl⟩
    | get caller seen =>
      rcases grant_get_cases { k with coming, waiting } caller seen with
        ⟨token, -, hgrant⟩ | ⟨why, -, -, hgrant⟩ | ⟨-, -, hgrant⟩
      all_goals exact .inr ⟨_, by rw [hgrant]⟩
  | ended caller outcome event held step => exact .inr ⟨_, by rw [step]⟩
  | quiet now holder coming waiting later held calls step => exact .inl (by rw [step])

/-- What is kept changes for a clear and at the end of a sign-in. -/
theorem cached_of_step (k : Keeper) (e : Event) :
    (k.step e).1.cached = k.cached ∨
    (∃ caller, (k.step e).2 = [.cleared caller] ∧ (k.step e).1.cached = none) ∨
    ∃ caller outcome, e = .signedIn outcome ∧ k.holder = some caller ∧
      (k.step e).1.cached = (k.store outcome).cached := by
  cases k.course e with
  | granted w coming waiting free call others step =>
    rw [step]
    cases w with
    | clear caller => exact .inr (.inl ⟨caller, rfl, rfl⟩)
    | get caller seen =>
      obtain ⟨cached, lastError, holder, hgrant, ⟨owner, hw, -⟩ | ⟨rfl, rfl⟩⟩ :=
        grant_frame { k with coming, waiting } (.get caller seen)
      · cases hw
      · exact .inl (by rw [hgrant])
  | ended caller outcome event held step =>
    exact .inr (.inr ⟨caller, outcome, event, held, by rw [step]⟩)
  | quiet now holder coming waiting later held calls step => exact .inl (by rw [step])

/-- The keeper is cleared for a call that waits for it, and nothing is kept. -/
theorem waiter_of_cleared {k : Keeper} {e : Event} {caller : Nat}
    (h : .cleared caller ∈ (k.step e).2) :
    .clear caller ∈ k.queue ∧ (k.step e).1.cached = none := by
  cases k.course e with
  | granted w coming waiting free call others step =>
    rw [step] at h ⊢
    cases w with
    | clear owner =>
      obtain rfl : caller = owner := by simpa [grant] using h
      exact ⟨call, rfl⟩
    | get owner seen =>
      rcases grant_get_cases { k with coming, waiting } owner seen with
        ⟨token, -, hgrant⟩ | ⟨why, -, -, hgrant⟩ | ⟨-, -, hgrant⟩
      all_goals simp [hgrant] at h
  | ended owner outcome event held step => simp [step] at h
  | quiet now holder coming waiting later held calls step => simp [step] at h

theorem cleared_mem_grant_iff {k : Keeper} {w : Waiter} {caller : Nat} :
    .cleared caller ∈ (k.grant w).2 ↔ w = .clear caller := by
  cases w with
  | clear owner => simp [grant, eq_comm]
  | get owner seen =>
    rcases k.grant_get_cases owner seen with
      ⟨token, -, hgrant⟩ | ⟨why, -, -, hgrant⟩ | ⟨-, -, hgrant⟩
    all_goals simp [hgrant]

/-- The keeper is cleared where the lock is free and goes to a call that has come to clear it. -/
theorem cleared_mem_step_iff {k : Keeper} {e : Event} {caller : Nat} :
    .cleared caller ∈ (k.step e).2 ↔ k.holder = none ∧
      ((e = .join caller ∧ k.waiting = [] ∧
          k.coming.find? (·.caller == caller) = some (.clear caller)) ∨
        (e = .wake ∧ k.waiting.head? = some (.clear caller))) := by
  cases e with
  | join owner =>
    change .cleared caller ∈ (k.join owner).2 ↔ _
    obtain ⟨hfind, hjoin⟩ | ⟨w, hfind, ⟨hbusy, hjoin⟩ | ⟨hfree, hwaiting, hjoin⟩⟩ :=
      k.join_cases owner
    · rw [hjoin]
      refine ⟨fun h => absurd h (by simp), ?_⟩
      rintro ⟨-, ⟨hevent, -, hclear⟩ | ⟨hevent, -⟩⟩
      · obtain rfl := Event.join.inj hevent
        rw [hfind] at hclear
        cases hclear
      · cases hevent
    · rw [hjoin]
      refine ⟨fun h => absurd h (by simp), ?_⟩
      rintro ⟨hfree, ⟨-, hwaiting, -⟩ | ⟨hevent, -⟩⟩
      · exact absurd ⟨hfree, hwaiting⟩ hbusy
      · cases hevent
    · rw [hjoin, cleared_mem_grant_iff]
      constructor
      · rintro rfl
        have howner := List.find?_some hfind
        obtain rfl : caller = owner := by simpa [Waiter.caller] using howner
        exact ⟨hfree, .inl ⟨rfl, hwaiting, hfind⟩⟩
      · rintro ⟨-, ⟨hevent, -, hclear⟩ | ⟨hevent, -⟩⟩
        · obtain rfl := Event.join.inj hevent
          exact Option.some.inj (hfind.symm.trans hclear)
        · cases hevent
  | wake =>
    change .cleared caller ∈ k.wake.2 ↔ _
    obtain ⟨hidle, hwake⟩ | ⟨w, rest, hfree, hwaiting, hwake⟩ := k.wake_cases
    · rw [hwake]
      refine ⟨fun h => absurd h (by simp), ?_⟩
      rintro ⟨hfree, ⟨hevent, -⟩ | ⟨-, hhead⟩⟩
      · cases hevent
      · rcases hidle with hheld | hnone
        · exact absurd hfree hheld
        · simp [hnone] at hhead
    · rw [hwake, cleared_mem_grant_iff]
      simp [hfree, hwaiting]
  | signedIn outcome =>
    cases hholder : k.holder <;> simp [step, hholder]
  | drop owner =>
    simp only [step]
    split <;> simp
  | get owner | clear owner | elapse ms => simp [step]

theorem cached_of_reply {k : Keeper} {e : Event} {caller : Nat} {token : String}
    (h : .reply caller (.ok token) ∈ (k.step e).2) :
    ∃ c, (k.step e).1.cached = some c ∧ c.token = token := by
  cases k.course e with
  | granted w coming waiting free call others step =>
    rw [step] at h ⊢
    cases w with
    | clear owner => simp [grant] at h
    | get owner seen =>
      rcases grant_get_cases { k with coming, waiting } owner seen with
        ⟨token', hvalid, hgrant⟩ | ⟨why, -, -, hgrant⟩ | ⟨-, -, hgrant⟩
      · rw [hgrant] at h ⊢
        obtain ⟨rfl, rfl⟩ : caller = owner ∧ token = token' := by simpa using h
        exact exists_cached_of_valid? hvalid
      · simp [hgrant] at h
      · simp [hgrant] at h
  | ended owner outcome event held step =>
    rw [step] at h ⊢
    obtain ⟨rfl, rfl⟩ : caller = owner ∧ .ok token = outcome := by simpa using h
    exact ⟨_, rfl, rfl⟩
  | quiet now holder coming waiting later held calls step => simp [step] at h

theorem mem_queue_of_step {k : Keeper} {e : Event} {w : Waiter} (h : w ∈ (k.step e).1.queue) :
    w ∈ k.queue ∨ e.arrival? k.attempts = some w := by
  cases k.course e with
  | granted w' coming waiting free call others step =>
    obtain ⟨cached, lastError, holder, hgrant, -⟩ := grant_frame { k with coming, waiting } w'
    rw [step, hgrant] at h
    exact .inl (others w h)
  | ended caller outcome event held step =>
    rw [step] at h
    cases outcome <;> exact .inl h
  | quiet now holder coming waiting later held calls step =>
    rw [step] at h
    exact calls w h

/-- Nobody signs in while a token is valid. -/
def Busy (k : Keeper) : Prop := k.holder ≠ none → k.valid? = none

theorem valid?_eq_none_iff {k : Keeper} :
    k.valid? = none ↔ ∀ c, k.cached = some c → c.expiresAt ≤ k.now := by
  unfold valid?
  cases k.cached with
  | none => simp
  | some c => simp

theorem Busy.step {k : Keeper} (h : k.Busy) (e : Event) : (k.step e).1.Busy := by
  cases k.course e with
  | granted w coming waiting free call others step =>
    rw [step]
    cases w with
    | clear caller => exact fun hne => absurd free hne
    | get caller seen =>
      rcases grant_get_cases { k with coming, waiting } caller seen with
        ⟨token, -, hgrant⟩ | ⟨why, -, -, hgrant⟩ | ⟨hvalid, -, hgrant⟩
      · rw [hgrant]
        exact fun hne => absurd free hne
      · rw [hgrant]
        exact fun hne => absurd free hne
      · rw [hgrant]
        exact fun _ => hvalid
  | ended caller outcome event held step =>
    rw [step]
    exact fun hne => absurd rfl hne
  | quiet now holder coming waiting later held calls step =>
    rw [step]
    intro hne
    have hheld : k.holder ≠ none := by
      rcases held with rfl | ⟨caller, -, -, rfl⟩
      · exact hne
      · exact absurd rfl hne
    refine valid?_eq_none_iff.2 fun c hc => ?_
    exact Nat.le_trans (valid?_eq_none_iff.1 (h hheld) c hc) later

end Keeper
end Flowline.Token
