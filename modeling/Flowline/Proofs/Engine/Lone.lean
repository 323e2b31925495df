import Flowline.Engine.Client
import Flowline.Engine.Traffic

/-!
A client makes one call after another. Each of its calls is a run of the traffic in which no other
request is under way: the same is sent, the call ends in the same way, and the keeper is left the
same. By `exists_run_of_call` the two say the same about a keeper, so that what holds of every run
of the traffic holds of the calls of a client too.
-/
namespace Flowline

theorem Dialogue.play_bind {κ ρ α β : Type} (spent : ρ) (d : Dialogue κ ρ α)
    (f : α → Dialogue κ ρ β) (replies : List ρ) :
    play spent (d >>= f) replies =
      ((play spent (f (play spent d replies).1) (play spent d replies).2.2).1,
        (play spent d replies).2.1 ++
          (play spent (f (play spent d replies).1) (play spent d replies).2.2).2.1,
        (play spent (f (play spent d replies).1) (play spent d replies).2.2).2.2) := by
  change play spent (d.bind f) replies = _
  induction d generalizing replies with
  | done a => rfl
  | ask q next ih => cases replies <;> simp [bind, play, ih]

theorem Dialogue.resolve_bind {κ ρ α β : Type} (answer : κ → ρ) (d : Dialogue κ ρ α)
    (f : α → Dialogue κ ρ β) :
    (d >>= f).resolve answer = (f (d.resolve answer)).resolve answer := by
  change (d.bind f).resolve answer = _
  induction d with
  | done a => rfl
  | ask q next ih => exact ih (answer q)

namespace Token.Keeper

/-- Nobody holds the lock or waits for it. -/
structure Idle (k : Keeper) : Prop where
  free : k.holder = none
  coming : k.coming = []
  waiting : k.waiting = []

theorem run_atOnce_get {k : Keeper} (h : k.Idle) (caller : Nat) :
    k.run (Event.get caller).atOnce = k.grant (.get caller k.attempts) := by
  obtain ⟨validity, now, cached, lastError, attempts, holder, coming, waiting⟩ := k
  obtain ⟨rfl, rfl, rfl⟩ := h
  simp [Event.atOnce, run, step, join, arrive, Waiter.caller]

theorem run_atOnce_clear {k : Keeper} (h : k.Idle) (caller : Nat) :
    k.run (Event.clear caller).atOnce = k.grant (.clear caller) := by
  obtain ⟨validity, now, cached, lastError, attempts, holder, coming, waiting⟩ := k
  obtain ⟨rfl, rfl, rfl⟩ := h
  simp [Event.atOnce, run, step, join, arrive, Waiter.caller]

end Token.Keeper

namespace Engine
open Token

namespace Traffic

def Effect.sent? : Effect → Option (Request × String)
  | .send _ r token => some (r, token)
  | _ => none

theorem run_append (t : Traffic) (events more : List Event) :
    t.run (events ++ more) =
      (((t.run events).1.run more).1, (t.run events).2 ++ ((t.run events).1.run more).2) := by
  induction events generalizing t with
  | nil => rfl
  | cons e events ih => simp [run, ih]

section
variable {k : Keeper} (h : k.Idle) (caller : Nat) (r : Request)
include h

theorem run_begin : ({ keeper := k } : Traffic).run [.begin caller r, .join caller] =
    ({ keeper := (k.grant (.get caller k.attempts)).1, calls := [(caller, .waiting r)] } :
      Traffic).hearAll (k.grant (.get caller k.attempts)).2 := by
  obtain ⟨validity, now, cached, lastError, attempts, holder, coming, waiting⟩ := k
  obtain ⟨rfl, rfl, rfl⟩ := h
  simp [run, step, tell, put, remove, Keeper.step, Keeper.join, Keeper.arrive, Waiter.caller,
    hearAll]

theorem run_begin_valid {token : String} (hvalid : k.valid? = some token) :
    ({ keeper := k } : Traffic).run [.begin caller r, .join caller] =
      ({ keeper := k, calls := [(caller, .sent r token)] }, [.send caller r token]) := by
  rw [run_begin h, Keeper.grant, hvalid]
  simp [hearAll, hear, stage?, put, remove]

theorem run_begin_signIn (hvalid : k.valid? = none) :
    ({ keeper := k } : Traffic).run [.begin caller r, .join caller] =
      ({ keeper := { k with holder := some caller }, calls := [(caller, .waiting r)] },
        [.signIn caller]) := by
  have hshared : k.shared? k.attempts = none := by simp [Keeper.shared?]
  rw [run_begin h, Keeper.grant, hvalid]
  simp [hshared, hearAll, hear]

end

theorem run_signedIn_ok {k : Keeper} {caller : Nat} (hheld : k.holder = some caller) (r : Request)
    (ms : Nat) (token : String) :
    ({ keeper := k, calls := [(caller, .waiting r)] } : Traffic).run
        [.elapse ms, .signedIn (.ok token)] =
      ({ keeper := ((k.step (.elapse ms)).1.step (.signedIn (.ok token))).1,
         calls := [(caller, .sent r token)] }, [.send caller r token]) := by
  simp [run, step, tell, Keeper.step, hheld, hearAll, hear, stage?, put, remove]

theorem run_signedIn_error {k : Keeper} {caller : Nat} (hheld : k.holder = some caller)
    (r : Request) (ms : Nat) (why : SignInError) :
    ({ keeper := k, calls := [(caller, .waiting r)] } : Traffic).run
        [.elapse ms, .signedIn (.error why)] =
      ({ keeper := ((k.step (.elapse ms)).1.step (.signedIn (.error why))).1 },
        [.finish caller (r.denied why)]) := by
  simp [run, step, tell, Keeper.step, hheld, hearAll, hear, stage?, remove]

theorem run_answered {k : Keeper} (h : k.Idle) (caller : Nat) (r : Request) (token : String)
    (reply : Reply) :
    ({ keeper := k, calls := [(caller, .sent r token)] } : Traffic).run
        [.answered caller reply, .join caller] =
      ({ keeper := if reply.rejectsToken then (k.run (Token.Event.clear caller).atOnce).1 else k },
        [.finish caller (r.result reply)]) := by
  obtain ⟨validity, now, cached, lastError, attempts, holder, coming, waiting⟩ := k
  obtain ⟨rfl, rfl, rfl⟩ := h
  cases hreply : reply.rejectsToken
  all_goals
    simp [run, step, tell, put, remove, Keeper.step, Keeper.join, Keeper.arrive, Keeper.grant,
      Waiter.caller, hearAll, hear, stage?, hreply, Token.Event.atOnce, Keeper.run]

end Traffic

def Exchange.sent? (x : Exchange) : Option (Request × String) := x.token.map (x.request, ·)

namespace Client
variable {c : Client} {spent : Reply} {replies : List Reply}

/-- A sign-in takes time and sends no token. -/
theorem play_signIn_cases (c : Client) (spent : Reply) (replies : List Reply) :
    ∃ outcome ms asked left, asked.filterMap Exchange.sent? = [] ∧
      c.signIn.play spent replies = ((outcome, c.elapse ms), asked, left) := by
  rw [signIn]
  cases c.credentials.areMissing with
  | true => exact ⟨_, 0, [], replies, rfl, rfl⟩
  | false =>
    refine ⟨Credentials.outcome (replies.getD 0 spent), (replies.getD 0 spent).took,
      [⟨c.baseUrl, c.credentials.request, none⟩], replies.tail, rfl, ?_⟩
    cases replies <;> rfl

/-- A client that has no valid token signs in, and time passes meanwhile. -/
theorem play_token_cases (h : c.keeper.Idle) (spent : Reply) (replies : List Reply) :
    (∃ token, c.keeper.valid? = some token ∧
      c.token.play spent replies = ((.ok token, c), [], replies)) ∨
    (c.keeper.valid? = none ∧ ∃ outcome ms next asked left,
      c.token.play spent replies = ((outcome, next), asked, left) ∧
      asked.filterMap Exchange.sent? = [] ∧
      next.keeper = ((({ c.keeper with holder := some caller } : Keeper).step (.elapse ms)).1.step
        (.signedIn outcome)).1) := by
  cases hvalid : c.keeper.valid? with
  | some token =>
    refine .inl ⟨token, rfl, ?_⟩
    simp [Client.token, Keeper.run_atOnce_get h, Keeper.grant, hvalid, Dialogue.play]
  | none =>
    have hshared : c.keeper.shared? c.keeper.attempts = none := by simp [Keeper.shared?]
    let signing : Client := { c with keeper := { c.keeper with holder := some caller } }
    have htoken : c.token = (signing.signIn >>= fun x =>
        pure (x.1, { x.2 with keeper := (x.2.keeper.step (.signedIn x.1)).1 })) := by
      simp only [Client.token, Keeper.run_atOnce_get h, Keeper.grant, hvalid, hshared, signing]
    obtain ⟨outcome, ms, asked, left, hasked, hplay⟩ := signing.play_signIn_cases spent replies
    refine .inr ⟨rfl, outcome, ms, { signing.elapse ms with
      keeper := ((signing.elapse ms).keeper.step (.signedIn outcome)).1 }, asked, left, ?_, hasked,
      rfl⟩
    rw [htoken, Dialogue.play_bind, hplay]
    exact Prod.ext rfl (Prod.ext (List.append_nil asked) rfl)

theorem run_sent (h : c.keeper.Idle) (r : Request) (token : String) (reply : Reply) :
    let next := if reply.rejectsToken then (c.elapse reply.took).forget else c.elapse reply.took
    next.keeper.Idle ∧
      ({ keeper := c.keeper, calls := [(caller, .sent r token)] } : Traffic).run
          [.elapse reply.took, .answered caller reply, .join caller] =
        ({ keeper := next.keeper }, [.finish caller (r.result reply)]) := by
  have hlater : (c.elapse reply.took).keeper.Idle := ⟨h.free, h.coming, h.waiting⟩
  have hrun := Traffic.run_answered hlater caller r token reply
  cases hreply : reply.rejectsToken with
  | false =>
    rw [hreply] at hrun
    exact ⟨hlater, hrun⟩
  | true =>
    rw [hreply] at hrun
    refine ⟨?_, hrun⟩
    simp only [if_true, forget, Keeper.run_atOnce_clear hlater]
    exact ⟨hlater.free, hlater.coming, hlater.waiting⟩

theorem play_call_of_ok {r : Request} {token : String} {next : Client} {asked : List Exchange}
    {left : List Reply}
    (h : c.token.play spent replies = ((.ok token, next), asked, left)) :
    let reply := left.getD 0 spent
    (c.call r).play spent replies =
      ((r.result reply,
        if reply.rejectsToken then (next.elapse reply.took).forget else next.elapse reply.took),
        asked ++ [⟨next.baseUrl, r, some token⟩], left.tail) := by
  rw [call, Dialogue.play_bind, h]
  cases left <;> rfl

theorem play_call_of_error {r : Request} {why : SignInError} {next : Client}
    {asked : List Exchange} {left : List Reply}
    (h : c.token.play spent replies = ((.error why, next), asked, left)) :
    (c.call r).play spent replies = ((r.denied why, next), asked, left) := by
  rw [call, Dialogue.play_bind, h]
  exact Prod.ext rfl (Prod.ext (List.append_nil asked) rfl)

/-- A call of a client whose keeper is idle is a run of the traffic without other requests. This
ties the client that is run to the traffic that the results about tokens are about. -/
theorem exists_run_of_call (h : c.keeper.Idle) (r : Request) (spent : Reply)
    (replies : List Reply) :
    let ending := (c.call r).play spent replies
    ending.1.2.keeper.Idle ∧ ∃ events effects,
      ({ keeper := c.keeper } : Traffic).run events =
        ({ keeper := ending.1.2.keeper }, effects ++ [.finish caller ending.1.1]) ∧
      effects.filterMap Traffic.Effect.sent? = ending.2.1.filterMap Exchange.sent? := by
  rcases play_token_cases h spent replies with
    ⟨token, hvalid, hplay⟩ | ⟨hvalid, outcome, ms, next, asked, left, hplay, hasked, hkeeper⟩
  · obtain ⟨hidle, hrun⟩ := run_sent h r token (replies.getD 0 spent)
    rw [play_call_of_ok hplay]
    refine ⟨hidle, [.begin caller r, .join caller] ++ [.elapse (replies.getD 0 spent).took,
      .answered caller (replies.getD 0 spent), .join caller], [.send caller r token], ?_, rfl⟩
    rw [Traffic.run_append, Traffic.run_begin_valid h caller r hvalid, hrun]
  · have hbegin := Traffic.run_begin_signIn h caller r hvalid
    cases outcome with
    | error why =>
      rw [play_call_of_error hplay]
      refine ⟨hkeeper ▸ ⟨rfl, h.coming, h.waiting⟩,
        [.begin caller r, .join caller] ++ [.elapse ms, .signedIn (.error why)],
        [.signIn caller], ?_, hasked.symm⟩
      rw [Traffic.run_append, hbegin, Traffic.run_signedIn_error rfl, hkeeper]
    | ok token =>
      have hnext : next.keeper.Idle := hkeeper ▸ ⟨rfl, h.coming, h.waiting⟩
      obtain ⟨hidle, hrun⟩ := run_sent hnext r token (left.getD 0 spent)
      rw [play_call_of_ok hplay]
      refine ⟨hidle, [.begin caller r, .join caller] ++ ([.elapse ms, .signedIn (.ok token)] ++
        [.elapse (left.getD 0 spent).took, .answered caller (left.getD 0 spent), .join caller]),
        [.signIn caller, .send caller r token], ?_, ?_⟩
      · rw [Traffic.run_append, hbegin, Traffic.run_append, Traffic.run_signedIn_ok rfl,
          ← hkeeper, hrun]
        rfl
      · rw [List.filterMap_append, hasked]
        rfl

end Client
end Engine
end Flowline
