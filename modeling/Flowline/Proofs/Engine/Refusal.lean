import Flowline.Engine.Traffic
import Flowline.Proofs.Token.Step

/-!
Tokens that are forgotten before they expire. Only a request that the engine has refused makes the
keeper forget, but what it forgets is the token that is kept by then: the one that the request was
sent with, or one of a sign-in that has ended since.
-/
namespace Flowline.Engine
open Token

namespace Traffic

/-- What happens to tokens: one is sent with a request, the engine refuses it, a sign-in ends. -/
inductive Incident where
  | sent (caller : Nat) (token : String)
  | refused (caller : Nat) (token : String)
  | ended (outcome : Outcome)

/-- What the keeper is told at an event. -/
def told (t : Traffic) : Event → Option Token.Event
  | .begin caller _ => some (.get caller)
  | .join caller => some (.join caller)
  | .wake => some .wake
  | .signedIn outcome => some (.signedIn outcome)
  | .answered caller reply =>
    match t.stage? caller with
    | some (.sent _ _) => if reply.rejectsToken then some (.clear caller) else none
    | _ => none
  | .drop caller => some (.drop caller)
  | .elapse ms => some (.elapse ms)

/-- What an event says about a token. -/
def cause (t : Traffic) : Event → List Incident
  | .signedIn outcome => if t.keeper.holder.isSome then [.ended outcome] else []
  | .answered caller reply =>
    match t.stage? caller with
    | some (.sent _ token) => if reply.rejectsToken then [.refused caller token] else []
    | _ => []
  | _ => []

def Incident.ofTraffic? : Effect → Option Incident
  | .send caller _ token => some (.sent caller token)
  | _ => none

def incidents (t : Traffic) (e : Event) : List Incident :=
  t.cause e ++ (t.step e).2.filterMap Incident.ofTraffic?

/-- All that happens to tokens, in order. -/
def history (t : Traffic) : List Event → List Incident
  | [] => []
  | e :: rest => t.incidents e ++ (t.step e).1.history rest

/-- Requests that have not begun, with a keeper that nobody has called. -/
def quiet (validity now : Nat) : Traffic := { keeper := { validity, now } }

/-- A valid token is not kept any more after the event. -/
def Discards (t : Traffic) (e : Event) (token : String) : Prop :=
  t.keeper.valid? = some token ∧ (t.step e).1.keeper.cached ≠ t.keeper.cached

/-- The lock is free, and the event lets a caller have it that has come to clear the keeper: one
that gets in line where nobody else is, or the first in line. -/
def LetsClear (t : Traffic) (e : Event) (caller : Nat) : Prop :=
  t.keeper.holder = none ∧
    ((e = .join caller ∧ t.keeper.waiting = [] ∧
        t.keeper.coming.find? (·.caller == caller) = some (.clear caller)) ∨
      (e = .wake ∧ t.keeper.waiting.head? = some (.clear caller)))

section
variable {t : Traffic} {caller : Nat} {stage : Stage} {call : Nat × Stage}

theorem mem_remove (h : call ∈ (t.remove caller).calls) : call ∈ t.calls := (List.mem_filter.1 h).1

theorem mem_put (h : call ∈ (t.put caller stage).calls) : call = (caller, stage) ∨ call ∈ t.calls :=
  (List.mem_cons.1 h).imp id mem_remove

theorem mem_of_stage? (h : t.stage? caller = some stage) : (caller, stage) ∈ t.calls := by
  obtain ⟨l, l', hcalls, -⟩ := List.lookup_eq_some_iff.1 h
  simp [hcalls]

end

/-- What an event can do: the keeper is told something, or the reply to a request ends it. No
request is sent before the keeper has been heard. -/
inductive Course (t : Traffic) (e : Event) : Prop
  | told (told : Token.Event) (ready : Traffic) (event : t.told e = some told)
      (keeper : ready.keeper = t.keeper)
      (calls : ∀ caller r token,
        (caller, .sent r token) ∈ ready.calls → (caller, .sent r token) ∈ t.calls)
      (step : t.step e = ready.tell told)
  | ended (ready : Traffic) (event : t.told e = none) (keeper : ready.keeper = t.keeper)
      (calls : ∀ caller r token,
        (caller, .sent r token) ∈ ready.calls → (caller, .sent r token) ∈ t.calls)
      (step : (t.step e).1 = ready)

theorem course_idle {t : Traffic} {e : Event} (event : t.told e = none) (h : t.step e = (t, [])) :
    t.Course e :=
  .ended t event rfl (fun _ _ _ hcall => hcall) (by rw [h])

theorem course_answered (t : Traffic) (caller : Nat) (reply : Reply) :
    t.Course (.answered caller reply) := by
  cases hstage : t.stage? caller with
  | none => exact course_idle (by simp [Traffic.told, hstage]) (by simp [step, hstage])
  | some stage =>
    cases stage with
    | waiting r => exact course_idle (by simp [Traffic.told, hstage]) (by simp [step, hstage])
    | forgetting result =>
      exact course_idle (by simp [Traffic.told, hstage]) (by simp [step, hstage])
    | sent r token =>
      cases hreply : reply.rejectsToken with
      | true =>
        refine .told (.clear caller) (t.put caller (.forgetting (r.result reply)))
          (by simp [Traffic.told, hstage, hreply]) rfl (fun _ _ _ h => ?_)
          (by simp [step, hstage, hreply])
        exact (mem_put h).resolve_left (by simp)
      | false =>
        exact .ended (t.remove caller) (by simp [Traffic.told, hstage, hreply]) rfl
          (fun _ _ _ h => mem_remove h) (by simp [step, hstage, hreply])

theorem course (t : Traffic) (e : Event) : t.Course e := by
  cases e with
  | begin caller r =>
    refine .told _ (t.put caller (.waiting r)) rfl rfl (fun _ _ _ h => ?_) rfl
    exact (mem_put h).resolve_left (by simp)
  | join caller => exact .told _ t rfl rfl (fun _ _ _ h => h) rfl
  | wake => exact .told _ t rfl rfl (fun _ _ _ h => h) rfl
  | signedIn outcome => exact .told _ t rfl rfl (fun _ _ _ h => h) rfl
  | answered caller reply => exact t.course_answered caller reply
  | drop caller => exact .told _ (t.remove caller) rfl rfl (fun _ _ _ h => mem_remove h) rfl
  | elapse ms => exact .told _ t rfl rfl (fun _ _ _ h => h) rfl

theorem keeper_hear (t : Traffic) (x : Token.Effect) : (t.hear x).1.keeper = t.keeper := by
  unfold hear
  split
  · rfl
  · split <;> rfl
  · split <;> rfl

theorem sent_of_hear {t : Traffic} {x : Token.Effect} {caller : Nat} {r : Request} {token : String}
    (h : (caller, .sent r token) ∈ (t.hear x).1.calls) :
    (caller, .sent r token) ∈ t.calls ∨
      x = .reply caller (.ok token) ∧ (t.hear x).2 = [.send caller r token] := by
  unfold hear at h ⊢
  split at h
  · exact .inl h
  · next caller' outcome =>
    split at h
    · next r' token' hstage =>
      rcases mem_put h with heq | hold
      · cases heq
        exact .inr ⟨rfl, rfl⟩
      · exact .inl hold
    · exact .inl (mem_remove h)
    · exact .inl h
  · split at h
    · exact .inl (mem_remove h)
    · exact .inl h

theorem tell_cases (t : Traffic) (told : Token.Event) :
    ((t.keeper.step told).2 = [] ∧
      t.tell told = ({ t with keeper := (t.keeper.step told).1 }, [])) ∨
    ∃ x, (t.keeper.step told).2 = [x] ∧
      t.tell told = ({ t with keeper := (t.keeper.step told).1 } : Traffic).hear x := by
  have htell : t.tell told = ({ t with keeper := (t.keeper.step told).1 } : Traffic).hearAll
      (t.keeper.step told).2 := rfl
  rcases t.keeper.effects_of_step told with hnone | ⟨x, hone⟩
  · exact .inl ⟨hnone, by rw [htell, hnone]; rfl⟩
  · exact .inr ⟨x, hone, by rw [htell, hone]; simp [hearAll]⟩

theorem keeper_tell (t : Traffic) (told : Token.Event) :
    (t.tell told).1.keeper = (t.keeper.step told).1 := by
  obtain ⟨-, htell⟩ | ⟨x, -, htell⟩ := t.tell_cases told
  · rw [htell]
  · rw [htell, keeper_hear]

theorem keeper_step (t : Traffic) (e : Event) :
    (t.step e).1.keeper = match t.told e with
      | some told => (t.keeper.step told).1
      | none => t.keeper := by
  cases t.course e with
  | told told ready event keeper calls step => rw [step, event, keeper_tell, keeper]
  | ended ready event keeper calls step => rw [step, event, keeper]

/-- What is kept is the token, or one of a sign-in that has ended since. -/
def Kept (k : Keeper) (token : String) (since : List Incident) : Prop :=
  ∀ c, k.cached = some c → c.token = token ∨ .ended (.ok c.token) ∈ since

theorem mem_cause_of_signedIn {t : Traffic} {e : Event} {outcome : Outcome} {caller : Nat}
    (h : t.told e = some (.signedIn outcome)) (hheld : t.keeper.holder = some caller) :
    .ended outcome ∈ t.cause e := by
  cases e with
  | signedIn outcome' =>
    obtain rfl := Token.Event.signedIn.inj (Option.some.inj h)
    simp [cause, hheld]
  | answered caller reply =>
    simp only [told] at h
    split at h
    · split at h <;> simp at h
    · simp at h
  | _ => simp [told] at h

/-- A keeper that is told to forget is told so by a request that the engine has refused. -/
theorem refused_of_told {t : Traffic} {e : Event} {caller : Nat}
    (h : t.told e = some (.clear caller)) :
    ∃ r token, (caller, .sent r token) ∈ t.calls ∧ .refused caller token ∈ t.cause e := by
  cases e with
  | answered caller' reply =>
    simp only [told] at h
    split at h
    · next r token hstage =>
      split at h
      · next hreply =>
        obtain rfl := Token.Event.clear.inj (Option.some.inj h)
        exact ⟨r, token, mem_of_stage? hstage, by simp [cause, hstage, hreply]⟩
      · cases h
    · cases h
  | _ => simp [told] at h

theorem mem_incidents_of_cause {t : Traffic} {e : Event} {x : Incident} (h : x ∈ t.cause e) :
    x ∈ t.incidents e := by
  simp [incidents, h]

theorem Kept.step {t : Traffic} {token : String} {since : List Incident}
    (h : Kept t.keeper token since) (e : Event) :
    Kept (t.step e).1.keeper token (since ++ t.incidents e) := by
  have hsame : Kept t.keeper token (since ++ t.incidents e) :=
    fun c hc => (h c hc).imp id (List.mem_append_left _)
  intro c hc
  rw [keeper_step] at hc
  cases htold : t.told e with
  | none =>
    rw [htold] at hc
    exact hsame c hc
  | some told =>
    rw [htold] at hc
    rcases t.keeper.cached_of_step told with hcached | ⟨caller, -, hcached⟩ |
      ⟨caller, outcome, rfl, hheld, hcached⟩
    · exact hsame c (hcached ▸ hc)
    · simp [hcached] at hc
    · rw [hcached] at hc
      cases outcome with
      | ok fresh =>
        obtain rfl := Option.some.inj hc
        have hmem := mem_incidents_of_cause (mem_cause_of_signedIn htold hheld)
        exact .inr (List.mem_append_right _ hmem)
      | error why => cases hc

/-- Requests that are under way, and those that the engine has refused, are in the past, and what
is kept is the token that they were sent with or a later one. -/
structure Tracks (t : Traffic) (past : List Incident) : Prop where
  busy : t.keeper.Busy
  sent : ∀ caller r token, (caller, .sent r token) ∈ t.calls →
    ∃ early since, past = early ++ .sent caller token :: since ∧ Kept t.keeper token since
  clears : ∀ caller, .clear caller ∈ t.keeper.queue →
    ∃ early token since, past = early ++ .sent caller token :: since ∧
      .refused caller token ∈ since ∧ Kept t.keeper token since

theorem tracks_quiet (validity now : Nat) : (quiet validity now).Tracks [] where
  busy := fun h => absurd rfl h
  sent := by simp [quiet]
  clears := by simp [quiet, Keeper.queue]

theorem busy_step {t : Traffic} (h : t.keeper.Busy) (e : Event) : (t.step e).1.keeper.Busy := by
  rw [keeper_step]
  split
  · exact h.step _
  · exact h

/-- A request that is sent at an event carries the token that is kept. -/
theorem sent_of_step {t : Traffic} {e : Event} {caller : Nat} {r : Request} {token : String}
    (h : (caller, .sent r token) ∈ (t.step e).1.calls) :
    (caller, .sent r token) ∈ t.calls ∨
      (∃ c, (t.step e).1.keeper.cached = some c ∧ c.token = token) ∧
        ∃ early, t.incidents e = early ++ [.sent caller token] := by
  cases t.course e with
  | ended ready event keeper calls step =>
    rw [step] at h
    exact .inl (calls _ _ _ h)
  | told told ready event keeper calls step =>
    obtain ⟨-, htell⟩ | ⟨x, hone, htell⟩ := ready.tell_cases told
    · rw [step, htell] at h
      exact .inl (calls _ _ _ h)
    · rw [step, htell] at h
      rcases sent_of_hear h with hold | ⟨rfl, hsend⟩
      · exact .inl (calls _ _ _ hold)
      · refine .inr ⟨?_, t.cause e, ?_⟩
        · rw [step, keeper_tell]
          have hreply : .reply caller (.ok token) ∈ (ready.keeper.step told).2 := by simp [hone]
          exact Keeper.cached_of_reply hreply
        · rw [incidents, step, htell, hsend]
          rfl

theorem eq_clear_of_arrival? {told : Token.Event} {attempts caller : Nat}
    (h : told.arrival? attempts = some (.clear caller)) : told = .clear caller := by
  cases told <;> simp [Token.Event.arrival?] at h
  rw [h]

theorem Tracks.step {t : Traffic} {past : List Incident} (h : t.Tracks past) (e : Event) :
    (t.step e).1.Tracks (past ++ t.incidents e) where
  busy := busy_step h.busy e
  sent := fun caller r token hcall => by
    rcases sent_of_step hcall with hold | ⟨⟨c, hc, hctoken⟩, early, hincidents⟩
    · obtain ⟨early, since, rfl, hkept⟩ := h.sent caller r token hold
      exact ⟨early, since ++ t.incidents e, by simp, hkept.step e⟩
    · refine ⟨past ++ early, [], by simp [hincidents], fun c' hc' => .inl ?_⟩
      rw [hc] at hc'
      obtain rfl := Option.some.inj hc'
      exact hctoken
  clears := fun caller hcall => by
    rw [keeper_step] at hcall
    have hold : .clear caller ∈ t.keeper.queue → ∃ early token since,
        past ++ t.incidents e = early ++ .sent caller token :: since ∧
          .refused caller token ∈ since ∧ Kept (t.step e).1.keeper token since := by
      intro hqueue
      obtain ⟨early, token, since, rfl, hrefused, hkept⟩ := h.clears caller hqueue
      exact ⟨early, token, since ++ t.incidents e, by simp, by simp [hrefused], hkept.step e⟩
    cases htold : t.told e with
    | none =>
      rw [htold] at hcall
      exact hold hcall
    | some told =>
      rw [htold] at hcall
      rcases Keeper.mem_queue_of_step hcall with hqueue | harrival
      · exact hold hqueue
      · obtain rfl := eq_clear_of_arrival? harrival
        obtain ⟨r, token, hcall, hrefused⟩ := refused_of_told htold
        obtain ⟨early, since, rfl, hkept⟩ := h.sent caller r token hcall
        exact ⟨early, token, since ++ t.incidents e, by simp,
          List.mem_append_right _ (mem_incidents_of_cause hrefused), hkept.step e⟩

theorem Tracks.run {t : Traffic} {past : List Incident} (h : t.Tracks past) (events : List Event) :
    (t.run events).1.Tracks (past ++ t.history events) := by
  induction events generalizing t past with
  | nil => simpa [history, Traffic.run] using h
  | cons e events ih =>
    rw [history, ← List.append_assoc]
    exact ih (h.step e)

theorem letsClear_iff {t : Traffic} {e : Event} {caller : Nat} :
    t.LetsClear e caller ↔
      ∃ told, t.told e = some told ∧ .cleared caller ∈ (t.keeper.step told).2 := by
  cases e with
  | answered caller' reply =>
    simp only [LetsClear, told, reduceCtorEq, false_and, or_self, and_false, false_iff]
    rintro ⟨told, htold, hcleared⟩
    split at htold
    · split at htold
      · cases htold
        simp [Keeper.step] at hcleared
      · cases htold
    · cases htold
  | _ => simp [LetsClear, told, Keeper.cleared_mem_step_iff]

/-- A valid token is discarded only where a caller gets the lock that clears the keeper. -/
theorem discards_iff_letsClear {t : Traffic} (hbusy : t.keeper.Busy) {e : Event} {token : String} :
    t.Discards e token ↔
      t.keeper.valid? = some token ∧ ∃ caller, t.LetsClear e caller := by
  refine and_congr_right fun hvalid => ⟨fun hdiffer => ?_, fun ⟨caller, hclear⟩ => ?_⟩
  · rw [keeper_step] at hdiffer
    cases htold : t.told e with
    | none =>
      rw [htold] at hdiffer
      exact absurd rfl hdiffer
    | some told =>
      rw [htold] at hdiffer
      rcases t.keeper.cached_of_step told with hcached | ⟨caller, hcleared, -⟩ |
        ⟨owner, outcome, -, hheld, -⟩
      · exact absurd hcached hdiffer
      · exact ⟨caller, letsClear_iff.2 ⟨told, htold, by simp [hcleared]⟩⟩
      · rw [hbusy (by simp [hheld])] at hvalid
        cases hvalid
  · obtain ⟨told, htold, hcleared⟩ := letsClear_iff.1 hclear
    obtain ⟨c, hc, -⟩ := Keeper.exists_cached_of_valid? hvalid
    have hnone := (Keeper.waiter_of_cleared hcleared).2
    rw [keeper_step, htold, hnone, hc]
    simp

/-- A valid token is discarded exactly when the lock comes to a caller that is to clear the keeper.
The engine has refused a request of this caller, and the request was sent with this token, or this
token is that of a sign-in that has ended since the request was sent. -/
theorem discards_iff_refused (validity start : Nat) (before : List Event) (e : Event)
    (token : String) :
    let t := ((quiet validity start).run before).1
    t.Discards e token ↔ t.keeper.valid? = some token ∧
      ∃ caller early carried since, t.LetsClear e caller ∧
        (quiet validity start).history before = early ++ .sent caller carried :: since ∧
        .refused caller carried ∈ since ∧ (token = carried ∨ .ended (.ok token) ∈ since) := by
  intro t
  have htracks : t.Tracks ((quiet validity start).history before) := by
    simpa using (tracks_quiet validity start).run before
  rw [discards_iff_letsClear htracks.busy]
  refine and_congr_right fun hvalid => ⟨fun ⟨caller, hclear⟩ => ?_, ?_⟩
  · obtain ⟨told, -, hcleared⟩ := letsClear_iff.1 hclear
    obtain ⟨early, carried, since, hpast, hrefused, hkept⟩ :=
      htracks.clears caller (Keeper.waiter_of_cleared hcleared).1
    obtain ⟨c, hc, rfl⟩ := Keeper.exists_cached_of_valid? hvalid
    exact ⟨caller, early, carried, since, hclear, hpast, hrefused, hkept c hc⟩
  · rintro ⟨caller, early, carried, since, hclear, -⟩
    exact ⟨caller, hclear⟩

/-- Two requests are sent with the first token. The second of them is refused only after the third
has signed in again. -/
def overtaken : List Event :=
  [.begin 1 .pieces, .join 1, .signedIn (.ok "a"), .begin 2 .pieces, .join 2,
    .answered 1 ⟨.ok ⟨401, ""⟩, 0⟩, .join 1, .begin 3 .pieces, .join 3, .signedIn (.ok "b"),
    .answered 2 ⟨.ok ⟨401, ""⟩, 0⟩]

def Effect.signIn? : Effect → Option Nat
  | .signIn caller => some caller
  | _ => none

/-- A token that no request was refused with is discarded, and the two requests with the first token
make two callers sign in again. -/
theorem overtaken_discards :
    ((quiet 10 0).run overtaken).1.Discards (.join 2) "b" ∧
    (∀ caller, .refused caller "b" ∉ (quiet 10 0).history (overtaken ++ [.join 2])) ∧
    ((quiet 10 0).run (overtaken ++ [.join 2, .begin 4 .pieces, .join 4])).2.filterMap
      Effect.signIn? = [1, 3, 4] := by
  refine ⟨⟨rfl, by decide⟩, fun caller => ?_, rfl⟩
  have hhistory : (quiet 10 0).history (overtaken ++ [.join 2]) =
    [.ended (.ok "a"), .sent 1 "a", .sent 2 "a", .refused 1 "a", .ended (.ok "b"), .sent 3 "b",
      .refused 2 "a"] := rfl
  simp [hhistory]

end Traffic
end Flowline.Engine
