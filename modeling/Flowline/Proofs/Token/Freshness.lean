import Flowline.Proofs.Token.History

/-!
No caller gets a stale outcome. The counter of ended sign-ins tells a caller in line whether the
error that is kept came after the caller did; a token that is kept is that of the last sign-in, and
nobody has cleared it.
-/
namespace Flowline.Token

/-- The reply to a caller is that of its own sign-in, or the outcome of the last sign-in: a token
that is still valid and has not been cleared, or an error that is younger than the call. -/
def Fresh (validity : Nat) (past : List Entry) (time caller : Nat) : Outcome → Prop
  | .ok token =>
    (∃ early, past = early ++ [⟨time, .ended caller (.ok token)⟩]) ∨
    ∃ early ending owner late, past = early ++ ⟨ending, .ended owner (.ok token)⟩ :: late ∧
      (∀ e ∈ late, e.isEnd = false ∧ e.isClear = false) ∧ time < ending + validity
  | .error why =>
    ∃ early ending owner late, past = early ++ ⟨ending, .ended owner (.error why)⟩ :: late ∧
      (∀ e ∈ late, e.isEnd = false) ∧ ∃ arrival, ⟨arrival, .came caller⟩ ∈ early

/-- The caller of a waiter came when as many sign-ins had ended as the waiter remembers. -/
def Came (past : List Entry) : Waiter → Prop
  | .get caller seen =>
    ∃ early arrival late, past = early ++ ⟨arrival, .came caller⟩ :: late ∧ ends early = seen
  | .clear _ => True

theorem Came.append {past : List Entry} {w : Waiter} (h : Came past w) (more : List Entry) :
    Came (past ++ more) w := by
  cases w with
  | get caller seen =>
    obtain ⟨early, arrival, late, rfl, hseen⟩ := h
    exact ⟨early, arrival, late ++ more, by simp, hseen⟩
  | clear caller => trivial

/-- What a keeper knows is in its past. -/
structure Reflects (validity : Nat) (k : Keeper) (past : List Entry) : Prop where
  trust : k.validity = validity
  attempts : k.attempts = ends past
  cached : ∀ c, k.cached = some c →
    ∃ early ending owner late, past = early ++ ⟨ending, .ended owner (.ok c.token)⟩ :: late ∧
      (∀ e ∈ late, e.isEnd = false ∧ e.isClear = false) ∧ c.expiresAt = ending + validity
  lastError : ∀ why, k.lastError = some why →
    ∃ early ending owner late, past = early ++ ⟨ending, .ended owner (.error why)⟩ :: late ∧
      ∀ e ∈ late, e.isEnd = false
  waiters : ∀ w ∈ k.coming ++ k.waiting, Came past w
  holder : ∀ caller, k.holder = some caller → ∃ arrival, ⟨arrival, .came caller⟩ ∈ past

namespace Reflects

variable {validity : Nat} {k : Keeper} {past more : List Entry}

theorem start (validity now : Nat) : Reflects validity { validity, now } [] where
  trust := rfl
  attempts := rfl
  cached := by simp
  lastError := by simp
  waiters := by simp
  holder := by simp

/-- Entries other than ends of sign-ins and clears change nothing that the keeper knows. -/
theorem append (h : Reflects validity k past)
    (hmore : ∀ e ∈ more, e.isEnd = false ∧ e.isClear = false) :
    Reflects validity k (past ++ more) where
  trust := h.trust
  attempts := by
    rw [h.attempts, ends_append, ends_eq_zero fun e he => (hmore e he).1]
    rfl
  cached := fun c hc => by
    obtain ⟨early, ending, owner, late, rfl, hlate, hexpires⟩ := h.cached c hc
    refine ⟨early, ending, owner, late ++ more, by simp, fun e he => ?_, hexpires⟩
    exact (List.mem_append.1 he).elim (hlate e) (hmore e)
  lastError := fun why hwhy => by
    obtain ⟨early, ending, owner, late, rfl, hlate⟩ := h.lastError why hwhy
    refine ⟨early, ending, owner, late ++ more, by simp, fun e he => ?_⟩
    exact (List.mem_append.1 he).elim (hlate e) fun hm => (hmore e hm).1
  waiters := fun w hw => (h.waiters w hw).append more
  holder := fun caller hcaller => by
    obtain ⟨arrival, harrival⟩ := h.holder caller hcaller
    exact ⟨arrival, List.mem_append_left more harrival⟩

/-- The line of callers, the lock and the clock change on their own. -/
theorem frame {k' : Keeper} (h : Reflects validity k past) (htrust : k'.validity = k.validity)
    (hattempts : k'.attempts = k.attempts) (hcached : k'.cached = k.cached)
    (hlastError : k'.lastError = k.lastError) (hwaiters : ∀ w ∈ k'.coming ++ k'.waiting, Came past w)
    (hholder : ∀ caller, k'.holder = some caller → ∃ arrival, ⟨arrival, .came caller⟩ ∈ past) :
    Reflects validity k' past where
  trust := htrust.trans h.trust
  attempts := hattempts.trans h.attempts
  cached := fun c hc => h.cached c (hcached ▸ hc)
  lastError := fun why hwhy => h.lastError why (hlastError ▸ hwhy)
  waiters := hwaiters
  holder := hholder

theorem move (h : Reflects validity k past) {coming waiting : List Waiter}
    (hcoming : ∀ w ∈ coming, Came past w) (hwaiting : ∀ w ∈ waiting, Came past w) :
    Reflects validity { k with coming, waiting } past :=
  h.frame rfl rfl rfl rfl (fun w hw => (List.mem_append.1 hw).elim (hcoming w) (hwaiting w))
    h.holder

theorem release (h : Reflects validity k past) :
    Reflects validity { k with holder := none } past :=
  h.frame rfl rfl rfl rfl h.waiters (by simp)

theorem hold (h : Reflects validity k past) {caller arrival : Nat}
    (harrival : ⟨arrival, .came caller⟩ ∈ past) :
    Reflects validity { k with holder := some caller } past := by
  refine h.frame rfl rfl rfl rfl h.waiters fun owner howner => ?_
  obtain rfl := Option.some.inj howner
  exact ⟨arrival, harrival⟩

theorem elapse (h : Reflects validity k past) (ms : Nat) :
    Reflects validity { k with now := k.now + ms } past :=
  h.frame rfl rfl rfl rfl h.waiters h.holder

theorem forget (h : Reflects validity k past) (caller : Nat) :
    Reflects validity { k with cached := none, lastError := none }
      (past ++ [⟨k.now, .did (.cleared caller)⟩]) where
  trust := h.trust
  attempts := by
    rw [h.attempts, ends_append]
    rfl
  cached := by simp
  lastError := by simp
  waiters := fun w hw => (h.waiters w hw).append _
  holder := fun owner howner => by
    obtain ⟨arrival, harrival⟩ := h.holder owner howner
    exact ⟨arrival, List.mem_append_left _ harrival⟩

theorem store (h : Reflects validity k past) (caller : Nat) (outcome : Outcome) :
    Reflects validity (k.store outcome) (past ++ [⟨k.now, .ended caller outcome⟩]) where
  trust := by cases outcome <;> exact h.trust
  attempts := by
    rw [ends_append, ← h.attempts]
    cases outcome <;> rfl
  cached := fun c hc => by
    cases outcome with
    | ok token =>
      obtain rfl := Option.some.inj hc
      exact ⟨past, k.now, caller, [], rfl, by simp, by rw [← h.trust]⟩
    | error why => cases hc
  lastError := fun why hwhy => by
    cases outcome with
    | ok token => cases hwhy
    | error why' =>
      obtain rfl := Option.some.inj hwhy
      exact ⟨past, k.now, caller, [], rfl, by simp⟩
  waiters := fun w hw => by
    have hmem : w ∈ k.coming ++ k.waiting := by cases outcome <;> exact hw
    exact (h.waiters w hmem).append _
  holder := fun owner howner => by
    have hheld : k.holder = some owner := by cases outcome <;> exact howner
    obtain ⟨arrival, harrival⟩ := h.holder owner hheld
    exact ⟨arrival, List.mem_append_left _ harrival⟩

theorem fresh_of_valid (h : Reflects validity k past) {token : String} (caller : Nat)
    (hvalid : k.valid? = some token) : Fresh validity past k.now caller (.ok token) := by
  unfold Keeper.valid? at hvalid
  split at hvalid
  · next c hc =>
    split at hvalid
    · next hnow =>
      obtain rfl := Option.some.inj hvalid
      obtain ⟨early, ending, owner, late, hpast, hlate, hexpires⟩ := h.cached c hc
      exact .inr ⟨early, ending, owner, late, hpast, hlate, by rwa [← hexpires]⟩
    · cases hvalid
  · cases hvalid

/-- A counter that has moved on says that the last sign-in ended after the caller came. -/
theorem fresh_of_shared (h : Reflects validity k past) {why : SignInError} {caller seen : Nat}
    (hcame : Came past (.get caller seen)) (hshared : k.shared? seen = some why) :
    Fresh validity past k.now caller (.error why) := by
  unfold Keeper.shared? at hshared
  split at hshared
  · next hne =>
    obtain ⟨early, ending, owner, late, hpast, hlate⟩ := h.lastError why hshared
    obtain ⟨early', arrival, late', hpast', hseen⟩ := hcame
    refine ⟨early, ending, owner, late, hpast, hlate, arrival, ?_⟩
    refine mem_of_ends_ne (hpast.symm.trans hpast') rfl rfl hlate ?_
    rw [← hpast', ← h.attempts, hseen]
    exact hne.symm
  · cases hshared

end Reflects

/-- All replies among the entries that follow the past are fresh. -/
def AllFresh (validity : Nat) (past : List Entry) : List Entry → Prop
  | [] => True
  | e :: rest =>
    (∀ caller outcome, e.incident = .did (.reply caller outcome) →
      Fresh validity past e.time caller outcome) ∧ AllFresh validity (past ++ [e]) rest

theorem AllFresh.append {validity : Nat} {past xs ys : List Entry} (hxs : AllFresh validity past xs)
    (hys : AllFresh validity (past ++ xs) ys) : AllFresh validity past (xs ++ ys) := by
  induction xs generalizing past with
  | nil => simpa using hys
  | cons x xs ih => exact ⟨hxs.1, ih hxs.2 (by simpa using hys)⟩

theorem AllFresh.mem {validity : Nat} {past front back : List Entry} {time caller : Nat}
    {outcome : Outcome}
    (h : AllFresh validity past (front ++ ⟨time, .did (.reply caller outcome)⟩ :: back)) :
    Fresh validity (past ++ front) time caller outcome := by
  induction front generalizing past with
  | nil => simpa using h.1 caller outcome rfl
  | cons x front ih => simpa using ih h.2

/-- What the keeper does is fresh, and the next keeper reflects it. -/
structure Serves (validity now : Nat) (past : List Entry) (next : Keeper × List Effect) : Prop where
  fresh : AllFresh validity past (record now next.2)
  reflects : Reflects validity next.1 (past ++ record now next.2)

namespace Reflects

variable {validity now : Nat} {k : Keeper} {past : List Entry}

theorem silent (h : Reflects validity k past) : Serves validity now past (k, []) where
  fresh := trivial
  reflects := by simpa [record] using h

theorem reply (h : Reflects validity k past) {caller : Nat} {outcome : Outcome}
    (hfresh : Fresh validity past now caller outcome) :
    Serves validity now past (k, [.reply caller outcome]) where
  fresh := by
    refine ⟨fun caller' outcome' heq => ?_, trivial⟩
    cases heq
    exact hfresh
  reflects := h.append (by simp [record, Entry.isEnd, Entry.isClear])

theorem grant (h : Reflects validity k past) {w : Waiter} (hw : Came past w) :
    Serves validity k.now past (k.grant w) := by
  cases w with
  | clear caller => exact ⟨⟨by simp, trivial⟩, h.forget caller⟩
  | get caller seen =>
    cases hvalid : k.valid? with
    | some token =>
      simp only [Keeper.grant, hvalid]
      exact h.reply (h.fresh_of_valid caller hvalid)
    | none =>
      cases hshared : k.shared? seen with
      | some why =>
        simp only [Keeper.grant, hvalid, hshared]
        exact h.reply (h.fresh_of_shared hw hshared)
      | none =>
        simp only [Keeper.grant, hvalid, hshared]
        obtain ⟨early, arrival, late, hpast, -⟩ := hw
        have harrival : ⟨arrival, .came caller⟩ ∈ past := by simp [hpast]
        refine ⟨⟨by simp, trivial⟩, (h.hold harrival).append ?_⟩
        simp [record, Entry.isEnd, Entry.isClear]

theorem arrive (h : Reflects validity k past) {w : Waiter} (hw : Came past w) :
    Serves validity k.now past (k.arrive w) := by
  unfold Keeper.arrive
  split
  · refine (h.move (fun w' hw' => h.waiters w' (by simp [hw'])) fun w' hw' => ?_).silent
    rcases List.mem_append.1 hw' with hw' | hw'
    · exact h.waiters w' (by simp [hw'])
    · obtain rfl := List.mem_singleton.1 hw'
      exact hw
  · exact h.grant hw

theorem join (h : Reflects validity k past) (caller : Nat) :
    Serves validity k.now past (k.join caller) := by
  unfold Keeper.join
  split
  · exact h.silent
  · next w hfind =>
    have hw : Came past w := h.waiters w (by simp [List.mem_of_find?_eq_some hfind])
    have hmove : Reflects validity { k with coming := k.coming.erase w } past :=
      h.move (fun w' hw' => h.waiters w' (by simp [List.mem_of_mem_erase hw']))
        fun w' hw' => h.waiters w' (by simp [hw'])
    exact ⟨(hmove.arrive hw).fresh, (hmove.arrive hw).reflects⟩

theorem wake (h : Reflects validity k past) : Serves validity k.now past k.wake := by
  unfold Keeper.wake
  split
  · next w rest hholder hwaiting =>
    have hw : Came past w := h.waiters w (by simp [hwaiting])
    have hmove : Reflects validity { k with waiting := rest } past :=
      h.move (fun w' hw' => h.waiters w' (by simp [hw']))
        fun w' hw' => h.waiters w' (by simp [hwaiting, hw'])
    exact ⟨(hmove.grant hw).fresh, (hmove.grant hw).reflects⟩
  · exact h.silent

theorem drop (h : Reflects validity k past) (caller : Nat) :
    Serves validity k.now past (k.step (.drop caller)) := by
  simp only [Keeper.step]
  split
  · exact h.release.silent
  · refine (h.move (fun w hw => ?_) fun w hw => ?_).silent
    · exact h.waiters w (by simp [(List.mem_filter.1 hw).1])
    · exact h.waiters w (by simp [(List.mem_filter.1 hw).1])

/-- A caller comes and counts the sign-ins that have ended. -/
theorem come (h : Reflects validity k past) (caller : Nat) :
    Reflects validity { k with coming := k.coming ++ [.get caller k.attempts] }
      (past ++ [⟨k.now, .came caller⟩]) := by
  have happend : Reflects validity k (past ++ [⟨k.now, .came caller⟩]) :=
    h.append (by simp [Entry.isEnd, Entry.isClear])
  refine happend.move (fun w hw => ?_) fun w hw => happend.waiters w (by simp [hw])
  rcases List.mem_append.1 hw with hw | hw
  · exact happend.waiters w (by simp [hw])
  · obtain rfl := List.mem_singleton.1 hw
    exact ⟨past, k.now, [], rfl, h.attempts.symm⟩

theorem signedIn (h : Reflects validity k past) {caller : Nat} (hholder : k.holder = some caller)
    (outcome : Outcome) :
    Serves validity k.now (past ++ [⟨k.now, .ended caller outcome⟩])
      ({ k.store outcome with holder := none }, [.reply caller outcome]) := by
  refine (h.store caller outcome).release.reply ?_
  cases outcome with
  | ok token => exact .inl ⟨past, rfl⟩
  | error why => exact ⟨past, k.now, caller, [], rfl, by simp, h.holder caller hholder⟩

/-- One event keeps the invariant, and what is replied at it is fresh. -/
theorem step (h : Reflects validity k past) (e : Event) :
    AllFresh validity past (k.entries e) ∧
      Reflects validity (k.step e).1 (past ++ k.entries e) := by
  have hserves : ∀ {next : Keeper × List Effect}, k.step e = next → k.incident? e = none →
      Serves validity k.now past next → AllFresh validity past (k.entries e) ∧
        Reflects validity (k.step e).1 (past ++ k.entries e) := by
    rintro next rfl hnone hnext
    simp only [Keeper.entries, hnone]
    exact ⟨hnext.fresh, hnext.reflects⟩
  cases e with
  | get caller => exact ⟨⟨by simp, trivial⟩, h.come caller⟩
  | clear caller =>
    refine hserves rfl rfl (h.move (fun w hw => ?_) fun w hw => h.waiters w (by simp [hw])).silent
    rcases List.mem_append.1 hw with hw | hw
    · exact h.waiters w (by simp [hw])
    · obtain rfl := List.mem_singleton.1 hw
      trivial
  | join caller => exact hserves rfl rfl (h.join caller)
  | drop caller => exact hserves rfl rfl (h.drop caller)
  | wake => exact hserves rfl rfl h.wake
  | elapse ms => exact hserves rfl rfl (h.elapse ms).silent
  | signedIn outcome =>
    cases hholder : k.holder with
    | none =>
      have hstep : k.step (.signedIn outcome) = (k, []) := by simp only [Keeper.step, hholder]
      have hnone : k.incident? (.signedIn outcome) = none := by
        simp only [Keeper.incident?, hholder, Option.map_none]
      exact hserves hstep hnone h.silent
    | some caller =>
      have hsigned := h.signedIn hholder outcome
      have hstep : k.step (.signedIn outcome) =
          ({ k.store outcome with holder := none }, [.reply caller outcome]) := by
        simp only [Keeper.step, hholder]
      have hentries : k.entries (.signedIn outcome) =
          ⟨k.now, .ended caller outcome⟩ :: record k.now [.reply caller outcome] := by
        simp only [Keeper.entries, Keeper.incident?, hholder, hstep]
        rfl
      rw [hentries, hstep]
      refine ⟨⟨by simp, hsigned.fresh⟩, ?_⟩
      simpa using hsigned.reflects

theorem run (h : Reflects validity k past) (events : List Event) :
    AllFresh validity past (k.history events) := by
  induction events generalizing k past with
  | nil => trivial
  | cons e rest ih => exact (h.step e).1.append (ih (h.step e).2)

end Reflects

/-- The history of a new keeper tells all that the keeper does, and every reply in it is fresh. -/
theorem reply_fresh (validity start : Nat) (events : List Event) :
    (({ validity, now := start } : Keeper).history events).filterMap Entry.effect? =
      (({ validity, now := start } : Keeper).run events).2 ∧
    ∀ past future time caller outcome,
      ({ validity, now := start } : Keeper).history events =
        past ++ ⟨time, .did (.reply caller outcome)⟩ :: future →
      Fresh validity past time caller outcome := by
  refine ⟨Keeper.filterMap_history _ events, fun past future time caller outcome hhistory => ?_⟩
  have hrun := (Reflects.start validity start).run events
  rw [hhistory] at hrun
  exact hrun.mem

/-- Two callers share a failed sign-in, and a caller that comes later the token of the next. -/
theorem fresh_replies_shared :
    Fresh 10 [⟨0, .came 1⟩, ⟨0, .did (.signIn 1)⟩, ⟨0, .came 2⟩,
      ⟨5, .ended 1 (.error .missingCredentials)⟩,
      ⟨5, .did (.reply 1 (.error .missingCredentials))⟩] 5 2 (.error .missingCredentials) ∧
    Fresh 10 [⟨0, .came 3⟩, ⟨0, .did (.signIn 3)⟩, ⟨2, .ended 3 (.ok "t")⟩,
      ⟨2, .did (.reply 3 (.ok "t"))⟩, ⟨11, .came 4⟩] 11 4 (.ok "t") := by
  constructor
  · exact (reply_fresh 10 0 [.get 1, .join 1, .get 2, .elapse 5,
      .signedIn (.error .missingCredentials), .join 2]).2 _ [] 5 2 _ rfl
  · exact (reply_fresh 10 0 [.get 3, .join 3, .elapse 2, .signedIn (.ok "t"), .elapse 9,
      .get 4, .join 4]).2 _ [] 11 4 _ rfl

end Flowline.Token
