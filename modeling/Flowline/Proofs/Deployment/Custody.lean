import Flowline.Proofs.Deployment.Cleanup
import Mathlib.Logic.Function.Iterate

/-!
Who sees to the deletion of a shell. A deletion may be suspended many times before it reaches the
engine, and then it waits for the answer. The one that a caller who gives up leaves behind runs on a
task of its own and comes to its end. The one on account of an error is part of the deployment: a
caller who gives up in the meantime takes it along, and what has not reached the engine by then
never does.
-/
namespace Flowline.Deployment
open Engine

/-- Who has a deletion go on: the caller, as part of the deployment, or a task of its own. -/
inductive Keeper where
  | caller | task
  deriving DecidableEq

/-- How far a deletion has come. -/
inductive Errand where
  /-- So many suspensions are still ahead of it. -/
  | suspended (times : Nat)
  | sent
  | ended
  /-- It was dropped, after it had been sent or before. -/
  | lost (told : Bool)

namespace Errand

/-- A deletion that is polled comes one step further. -/
def poll : Errand → Errand
  | .suspended 0 => .sent
  | .suspended (n + 1) => .suspended n
  | .sent => .ended
  | e => e

def drop : Errand → Errand
  | .suspended _ => .lost false
  | .sent => .lost true
  | e => e

def isUnderWay : Errand → Bool
  | .suspended _ | .sent => true
  | .ended | .lost _ => false

/-- Whether the engine has been asked for the deletion. -/
def isSent : Errand → Bool
  | .suspended _ => false
  | .sent | .ended => true
  | .lost told => told

theorem drop_eq {errand : Errand} (h : errand.isUnderWay = true) :
    errand.drop = .lost errand.isSent := by
  cases errand with
  | suspended times => rfl
  | sent => rfl
  | ended => cases h
  | lost told => cases h

theorem poll_iterate_suspended (times : Nat) : poll^[times + 1] (.suspended times) = .sent := by
  induction times with
  | zero => rfl
  | succ times ih => rw [Function.iterate_succ_apply, poll, ih]

theorem poll_iterate_ended (k : Nat) : poll^[k] .ended = .ended := Function.iterate_fixed rfl k

/-- A deletion that is polled often enough has ended. -/
theorem poll_iterate_eq_ended {times k : Nat} (h : times + 2 ≤ k) :
    poll^[k] (.suspended times) = .ended := by
  obtain ⟨more, rfl⟩ := Nat.exists_eq_add_of_le' h
  have hsplit : more + (times + 2) = more + 1 + (times + 1) := by omega
  rw [hsplit, Function.iterate_add_apply, poll_iterate_suspended, Function.iterate_succ_apply]
  exact poll_iterate_ended more

end Errand

/-- A deployment with the deletion of its shell, if one has been begun. -/
structure Custody where
  stage : Stage
  deletion : Option (Keeper × Errand)

/-- What happens next: the deployment meets something, or the deletion is polled by its keeper. The
reply is what the engine says to a deletion that it has been sent. -/
inductive Turn where
  | meets (e : Event)
  | polls (reply : Except Engine.Error Unit)

def Turn.isPoll : Turn → Bool
  | .meets _ => false
  | .polls _ => true

namespace Saga

/-- The deletion after the deployment has passed from one stage to another. -/
def entrust (suspensions : Nat) (deletion : Option (Keeper × Errand)) :
    Stage → Stage → Option (Keeper × Errand)
  | .building .., .undoing .. => some (.caller, .suspended suspensions)
  | .building .., .abandoned .detached => some (.task, .suspended suspensions)
  | .undoing .., .abandoned .cutShort => deletion.map fun d => (d.1, d.2.drop)
  | _, _ => deletion

/-- A deployment whose deletion is suspended so many times before it reaches the engine. That a
deletion has ended is met by polling it. -/
def turn (s : Saga) (suspensions : Nat) (w : Custody) : Turn → Custody
  | .meets (.deleted _) => w
  | .meets e =>
    let stage := (s.step w.stage e).1
    ⟨stage, entrust suspensions w.deletion w.stage stage⟩
  | .polls reply =>
    match w.deletion with
    | none => w
    | some (.caller, .sent) => ⟨(s.step w.stage (.deleted reply)).1, some (.caller, .ended)⟩
    | some (keeper, errand) => ⟨w.stage, some (keeper, errand.poll)⟩

def turnsFrom (s : Saga) (suspensions : Nat) (w : Custody) (turns : List Turn) : Custody :=
  turns.foldl (s.turn suspensions) w

def turns (s : Saga) (suspensions : Nat) (turns : List Turn) : Custody :=
  s.turnsFrom suspensions ⟨.creating, none⟩ turns

/-- The stages that a deployment can be in while its deletion is as it is. -/
inductive Kept : Custody → Prop where
  | creating : Kept ⟨.creating, none⟩
  | building (shell : String) (pending : List Mutation) : Kept ⟨.building shell pending, none⟩
  | undoing (shell : String) (error : Engine.Error) {errand : Errand}
    (h : errand.isUnderWay = true) : Kept ⟨.undoing shell error, some (.caller, errand)⟩
  | undone (error : Engine.Error) : Kept ⟨.finished (.error error), some (.caller, .ended)⟩
  | finished (result : Except Engine.Error Deployed) : Kept ⟨.finished result, none⟩
  | gone : Kept ⟨.abandoned .none, none⟩
  | detached (errand : Errand) : Kept ⟨.abandoned .detached, some (.task, errand)⟩
  | cutShort (told : Bool) : Kept ⟨.abandoned .cutShort, some (.caller, .lost told)⟩

section
variable {s : Saga} {n : Nat} {w : Custody}

namespace Kept

theorem proceed (shell : String) (pending : List Mutation) :
    Kept ⟨(s.proceed shell pending).1, none⟩ := by
  cases pending with
  | nil => exact finished _
  | cons m pending => exact building _ _

theorem undoing_suspended (shell : String) (error : Engine.Error) :
    Kept ⟨.undoing shell error, some (.caller, .suspended n)⟩ := undoing _ _ rfl

theorem entrust_proceed (shell shell' : String) (pending pending' : List Mutation) :
    entrust n none (.building shell pending) (s.proceed shell' pending').1 = none := by
  cases pending' <;> rfl

theorem meets (h : Kept w) {e : Event} (he : ∀ reply, e ≠ .deleted reply) :
    Kept ⟨(s.step w.stage e).1, entrust n w.deletion w.stage (s.step w.stage e).1⟩ := by
  cases h with
  | creating =>
    cases e with
    | created reply =>
      cases reply with
      | ok shell => exact proceed shell _
      | error error => exact finished _
    | dropped alive => exact gone
    | applied reply => exact creating
    | deleted reply => exact creating
    | expired => exact creating
  | building shell pending =>
    cases e with
    | created reply =>
      rw [step_building_created]
      exact building _ _
    | applied reply =>
      cases reply with
      | ok value =>
        cases pending with
        | nil => exact building _ _
        | cons m pending =>
          have hstep : s.step (.building shell (m :: pending)) (.applied (.ok value)) =
            s.proceed shell pending := rfl
          rw [hstep, entrust_proceed]
          exact proceed shell pending
      | error error =>
        rw [step_failed]
        exact undoing_suspended _ _
    | deleted reply => exact absurd rfl (he reply)
    | expired =>
      rw [step_expired]
      exact undoing_suspended _ _
    | dropped alive =>
      rw [step_dropped]
      split
      · exact detached _
      · exact gone
  | undoing shell error hunder =>
    cases e with
    | created reply => exact undoing _ _ hunder
    | applied reply => exact undoing _ _ hunder
    | deleted reply => exact absurd rfl (he reply)
    | expired => exact undoing _ _ hunder
    | dropped alive =>
      simp only [step, entrust, Option.map_some, Errand.drop_eq hunder]
      exact cutShort _
  | undone error => exact undone _
  | finished result => exact finished _
  | gone => exact gone
  | detached errand => exact detached _
  | cutShort sent => exact cutShort _

theorem polls (h : Kept w) (reply : Except Engine.Error Unit) :
    Kept (s.turn n w (.polls reply)) := by
  cases h with
  | creating => exact creating
  | building shell pending => exact building _ _
  | undoing shell error hunder =>
    rename_i errand
    cases errand with
    | suspended times =>
      cases times with
      | zero => exact undoing _ _ rfl
      | succ times => exact undoing _ _ rfl
    | sent => exact undone _
    | ended => cases hunder
    | lost sent => cases hunder
  | undone error => exact undone _
  | finished result => exact finished _
  | gone => exact gone
  | detached errand => exact detached _
  | cutShort sent => exact cutShort _

theorem turn (h : Kept w) (t : Turn) : Kept (s.turn n w t) := by
  cases t with
  | polls reply => exact h.polls reply
  | meets e =>
    cases e with
    | deleted reply => exact h
    | created reply => exact h.meets (by simp)
    | applied reply => exact h.meets (by simp)
    | expired => exact h.meets (by simp)
    | dropped alive => exact h.meets (by simp)

theorem turnsFrom (h : Kept w) (turns : List Turn) : Kept (s.turnsFrom n w turns) := by
  induction turns generalizing w with
  | nil => exact h
  | cons t turns ih => exact ih (h.turn t)

theorem turns (turns : List Turn) : Kept (s.turns n turns) := creating.turnsFrom turns

end Kept

theorem exists_runFrom_eq_turn (t : Turn) :
    ∃ events, (s.runFrom w.stage events).1 = (s.turn n w t).stage := by
  cases t with
  | meets e =>
    cases e with
    | deleted reply => exact ⟨[], rfl⟩
    | created reply => exact ⟨[.created reply], rfl⟩
    | applied reply => exact ⟨[.applied reply], rfl⟩
    | expired => exact ⟨[.expired], rfl⟩
    | dropped alive => exact ⟨[.dropped alive], rfl⟩
  | polls reply =>
    simp only [turn]
    split
    · exact ⟨[], rfl⟩
    · exact ⟨[.deleted reply], rfl⟩
    · exact ⟨[], rfl⟩

theorem exists_runFrom_eq_turnsFrom (turns : List Turn) :
    ∃ events, (s.runFrom w.stage events).1 = (s.turnsFrom n w turns).stage := by
  induction turns generalizing w with
  | nil => exact ⟨[], rfl⟩
  | cons t turns ih =>
    obtain ⟨events, hevents⟩ :=
      exists_runFrom_eq_turn (s := s) (w := w) (n := n) t
    obtain ⟨more, hmore⟩ := ih (w := s.turn n w t)
    refine ⟨events ++ more, ?_⟩
    rw [runFrom_append, hevents]
    exact hmore

/-- Whatever turns a deployment takes, it gets to where a run gets. -/
theorem exists_run_eq_turns (turns : List Turn) :
    ∃ events, (s.run events).1 = (s.turns n turns).stage :=
  exists_runFrom_eq_turnsFrom (w := ⟨.creating, none⟩) turns

/-- A deletion that its caller goes on polling is answered. -/
theorem exists_turnsFrom_undoing (shell : String) (error : Engine.Error)
    (reply : Except Engine.Error Unit) {errand : Errand} (h : errand.isUnderWay = true) :
    ∃ turns, (s.turnsFrom n ⟨.undoing shell error, some (.caller, errand)⟩ turns).stage =
      .finished (.error error) := by
  cases errand with
  | suspended times =>
    induction times with
    | zero => exact ⟨[.polls reply, .polls reply], rfl⟩
    | succ times ih =>
      obtain ⟨turns, hturns⟩ := ih rfl
      exact ⟨.polls reply :: turns, hturns⟩
  | sent => exact ⟨[.polls reply], rfl⟩
  | ended => cases h
  | lost told => cases h

theorem Kept.exists_turnsFrom_eq_step (h : Kept w) (e : Event) :
    ∃ turns, (s.turnsFrom n w turns).stage = (s.step w.stage e).1 := by
  cases e with
  | created reply => exact ⟨[.meets (.created reply)], rfl⟩
  | applied reply => exact ⟨[.meets (.applied reply)], rfl⟩
  | expired => exact ⟨[.meets .expired], rfl⟩
  | dropped alive => exact ⟨[.meets (.dropped alive)], rfl⟩
  | deleted reply =>
    cases h with
    | undoing shell error hunder => exact exists_turnsFrom_undoing shell error reply hunder
    | building shell pending => exact ⟨[], by rw [step_building_deleted]; rfl⟩
    | creating => exact ⟨[], rfl⟩
    | undone error => exact ⟨[], rfl⟩
    | finished result => exact ⟨[], rfl⟩
    | gone => exact ⟨[], rfl⟩
    | detached errand => exact ⟨[], rfl⟩
    | cutShort told => exact ⟨[], rfl⟩

theorem Kept.exists_turnsFrom_eq_runFrom (h : Kept w) (events : List Event) :
    ∃ turns, (s.turnsFrom n w turns).stage = (s.runFrom w.stage events).1 := by
  induction events generalizing w with
  | nil => exact ⟨[], rfl⟩
  | cons e events ih =>
    obtain ⟨turns, hturns⟩ := h.exists_turnsFrom_eq_step (s := s) (n := n) e
    obtain ⟨more, hmore⟩ := ih (h.turnsFrom (s := s) (n := n) turns)
    refine ⟨turns ++ more, ?_⟩
    rw [runFrom_cons, ← hturns, ← hmore, Saga.turnsFrom, List.foldl_append]
    rfl

/-- Wherever a run gets, some turns get there, however often the deletion is suspended. -/
theorem exists_turns_eq_run (events : List Event) :
    ∃ turns, (s.turns n turns).stage = (s.run events).1 :=
  Kept.creating.exists_turnsFrom_eq_runFrom events

/-- What runs on a task of its own comes one step further with every poll. -/
theorem turnsFrom_task (cleanup : Cleanup) (errand : Errand) (turns : List Turn) :
    s.turnsFrom n ⟨.abandoned cleanup, some (.task, errand)⟩ turns =
      ⟨.abandoned cleanup, some (.task, Errand.poll^[turns.countP Turn.isPoll] errand)⟩ := by
  induction turns generalizing errand with
  | nil => rfl
  | cons t turns ih =>
    cases t with
    | polls reply =>
      rw [List.countP_cons_of_pos rfl, Function.iterate_succ_apply]
      exact ih errand.poll
    | meets e =>
      rw [List.countP_cons_of_neg (by simp [Turn.isPoll])]
      cases e <;> exact ih errand

theorem turnsFrom_lost (cleanup : Cleanup) (told : Bool) (turns : List Turn) :
    s.turnsFrom n ⟨.abandoned cleanup, some (.caller, .lost told)⟩ turns =
      ⟨.abandoned cleanup, some (.caller, .lost told)⟩ := by
  induction turns with
  | nil => rfl
  | cons t turns ih =>
    cases t with
    | polls reply => exact ih
    | meets e => cases e <;> exact ih

theorem turnsFrom_gone (cleanup : Cleanup) (turns : List Turn) :
    s.turnsFrom n ⟨.abandoned cleanup, none⟩ turns = ⟨.abandoned cleanup, none⟩ := by
  induction turns with
  | nil => rfl
  | cons t turns ih =>
    cases t with
    | polls reply => exact ih
    | meets e => cases e <;> exact ih

namespace Kept
variable {shell : String} {pending : List Mutation} {error : Engine.Error}

theorem dropped_creating (h : Kept w) (hstage : w.stage = .creating) (after : List Turn) :
    s.turnsFrom n w (.meets (.dropped true) :: after) = ⟨.abandoned .none, none⟩ := by
  obtain ⟨stage, deletion⟩ := w
  obtain rfl : stage = .creating := hstage
  cases h
  exact turnsFrom_gone .none after

theorem dropped_building (hs : s.guarded = true) (h : Kept w)
    (hstage : w.stage = .building shell pending) (after : List Turn) :
    s.turnsFrom n w (.meets (.dropped true) :: after) =
      ⟨.abandoned .detached,
        some (.task, Errand.poll^[after.countP Turn.isPoll] (.suspended n))⟩ := by
  obtain ⟨stage, deletion⟩ := w
  obtain rfl : stage = .building shell pending := hstage
  cases h
  have hturn : s.turn n ⟨.building shell pending, none⟩ (.meets (.dropped true)) =
      ⟨.abandoned .detached, some (.task, .suspended n)⟩ := by
    simp only [Saga.turn, step_dropped, hs, Bool.and_self, if_true, entrust]
  rw [Saga.turnsFrom, List.foldl_cons, hturn]
  exact turnsFrom_task .detached _ after

theorem dropped_undoing (h : Kept w) (hstage : w.stage = .undoing shell error)
    (after : List Turn) :
    ∃ errand, w.deletion = some (.caller, errand) ∧
      s.turnsFrom n w (.meets (.dropped true) :: after) =
        ⟨.abandoned .cutShort, some (.caller, .lost errand.isSent)⟩ := by
  obtain ⟨stage, deletion⟩ := w
  obtain rfl : stage = .undoing shell error := hstage
  cases h with
  | undoing _ _ hunder =>
    rename_i errand
    refine ⟨errand, rfl, ?_⟩
    have hturn : s.turn n ⟨.undoing shell error, some (.caller, errand)⟩
        (.meets (.dropped true)) =
          ⟨.abandoned .cutShort, some (.caller, .lost errand.isSent)⟩ := by
      simp only [Saga.turn, step, entrust, Option.map_some, Errand.drop_eq hunder]
    rw [Saga.turnsFrom, List.foldl_cons, hturn]
    exact turnsFrom_lost .cutShort _ after

end Kept

theorem turns_append (before after : List Turn) :
    s.turns n (before ++ after) =
      s.turnsFrom n (s.turns n before) after := List.foldl_append

/-- What becomes of the deletion when the caller of a guarded deployment gives up: there is none
before there is a shell; while the flow is built one is begun that runs on a task of its own; and
one that is under way is lost. -/
theorem deletion_of_dropped (hs : s.guarded = true) (before after : List Turn) :
    let w := s.turns n before
    let d := (s.turns n (before ++ .meets (.dropped true) :: after)).deletion
    (w.stage = .creating → d = none) ∧
    (∀ shell pending, w.stage = .building shell pending →
      d = some (.task, Errand.poll^[after.countP Turn.isPoll] (.suspended n))) ∧
    (∀ shell error, w.stage = .undoing shell error →
      ∃ errand, w.deletion = some (.caller, errand) ∧ d = some (.caller, .lost errand.isSent)) := by
  intro w d
  have hkept : Kept w := Kept.turns before
  have hd : d = (s.turnsFrom n w (.meets (.dropped true) :: after)).deletion :=
    congrArg Custody.deletion (turns_append before _)
  rw [hd]
  refine ⟨?_, ?_, ?_⟩
  · intro hstage
    rw [hkept.dropped_creating hstage]
  · intro shell pending hstage
    rw [hkept.dropped_building hs hstage]
  · intro shell error hstage
    obtain ⟨errand, herrand, hlost⟩ := hkept.dropped_undoing (s := s)
      (n := n) hstage after
    exact ⟨errand, herrand, by rw [hlost]⟩

/-- Once the shell exists, the deletion comes to its end on a task of its own for exactly those who
give up while the flow is built. -/
theorem ends_on_task_iff (hs : s.guarded = true) {before : List Turn}
    (hopen : (s.turns n before).stage.isOpen = true)
    (hshell : (s.turns n before).stage ≠ .creating) :
    (∀ after, n + 2 ≤ after.countP Turn.isPoll →
      (s.turns n (before ++ .meets (.dropped true) :: after)).deletion =
        some (.task, .ended)) ↔
    (s.turns n before).stage.isBuilding = true := by
  have hcourse := deletion_of_dropped (n := n) hs before
  constructor
  · intro hends
    cases hstage : (s.turns n before).stage with
    | creating => exact absurd hstage hshell
    | building shell pending => rfl
    | undoing shell error =>
      have hpolls : n + 2 ≤
          (List.replicate (n + 2) (Turn.polls (.ok ()))).countP Turn.isPoll := by
        simp [List.countP_replicate, Turn.isPoll]
      obtain ⟨errand, -, hlost⟩ := (hcourse _).2.2 shell error hstage
      rw [hends _ hpolls] at hlost
      cases hlost
    | finished result => simp [hstage, Stage.isOpen] at hopen
    | abandoned cleanup => simp [hstage, Stage.isOpen] at hopen
  · intro hbuilding after hpolls
    cases hstage : (s.turns n before).stage with
    | building shell pending =>
      rw [(hcourse after).2.1 shell pending hstage, Errand.poll_iterate_eq_ended hpolls]
    | creating => simp [hstage, Stage.isBuilding] at hbuilding
    | undoing shell error => simp [hstage, Stage.isBuilding] at hbuilding
    | finished result => simp [hstage, Stage.isBuilding] at hbuilding
    | abandoned cleanup => simp [hstage, Stage.isBuilding] at hbuilding

end

/-- The deletion on account of a failure is still suspended when the caller gives up. The engine is
never asked for it. -/
theorem lone_lost (after : List Turn) :
    (turns ⟨lone, {}, true⟩ 2
      ([.meets (.created (.ok "flow")), .meets (.applied (.error (timeoutError "flow"))),
        .polls (.ok ())] ++ .meets (.dropped true) :: after)).deletion =
      some (.caller, .lost false) := by
  obtain ⟨errand, herrand, hlost⟩ := (deletion_of_dropped (s := ⟨lone, {}, true⟩)
    (n := 2) rfl [.meets (.created (.ok "flow")),
      .meets (.applied (.error (timeoutError "flow"))), .polls (.ok ())] after).2.2
    "flow" (timeoutError "flow") rfl
  obtain rfl : errand = .suspended 1 := (Prod.mk.inj (Option.some.inj herrand)).2.symm
  exact hlost

end Saga
end Flowline.Deployment
