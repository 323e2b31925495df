import Flowline.Deployment.Saga

/-!
How far a deployment can come, and with which calls. While the flow is built the calls are the
creation of the shell and the mutations of the plan up to the one in flight; a deletion, where there
is one, is the last call of all.
-/
namespace Flowline.Deployment.Saga
open Engine

theorem runFrom_cons (s : Saga) (stage : Stage) (e : Event) (rest : List Event) :
    s.runFrom stage (e :: rest) =
      ((s.runFrom (s.step stage e).1 rest).1,
        (s.step stage e).2 ++ (s.runFrom (s.step stage e).1 rest).2) := rfl

theorem runFrom_append (s : Saga) (stage : Stage) (events rest : List Event) :
    s.runFrom stage (events ++ rest) =
      ((s.runFrom (s.runFrom stage events).1 rest).1,
        (s.runFrom stage events).2 ++ (s.runFrom (s.runFrom stage events).1 rest).2) := by
  induction events generalizing stage with
  | nil => rfl
  | cons e events ih => simp [runFrom, ih]

theorem run_append (s : Saga) (events rest : List Event) :
    s.run (events ++ rest) =
      ((s.runFrom (s.run events).1 rest).1,
        (s.run events).2 ++ (s.runFrom (s.run events).1 rest).2) := by
  simp [run, runFrom_append]

theorem run_concat (s : Saga) (events : List Event) (e : Event) :
    s.run (events ++ [e]) =
      ((s.step (s.run events).1 e).1, (s.run events).2 ++ (s.step (s.run events).1 e).2) := by
  simp [run_append, runFrom]

/-- What is done to the empty flow, in order. -/
def plan (s : Saga) : List Mutation := mutations s.options s.flow

/-- The calls once `k` mutations have been begun. -/
def begun (s : Saga) (shell : String) (k : Nat) : List Call :=
  s.start :: (s.plan.take k).map (.apply shell)

theorem begun_zero (s : Saga) (shell : String) : s.begun shell 0 = [s.start] := rfl

theorem begun_succ (s : Saga) (shell : String) {k : Nat} (h : k < s.plan.length) :
    s.begun shell (k + 1) = s.begun shell k ++ [.apply shell s.plan[k]] := by
  rw [begun, List.take_succ_eq_append_getElem h, List.map_append]
  rfl

theorem begun_length (s : Saga) (shell : String) :
    s.begun shell s.plan.length = s.start :: s.plan.map (.apply shell) := by
  rw [begun, List.take_length]

section
variable (s : Saga) (shell : String) {k : Nat}

theorem proceed_drop (h : k < s.plan.length) :
    s.proceed shell (s.plan.drop k) =
      (.building shell (s.plan.drop k), [.apply shell s.plan[k]]) := by
  rw [List.drop_eq_getElem_cons h]
  rfl

theorem proceed_drop_length :
    s.proceed shell (s.plan.drop s.plan.length) = (.finished (.ok (s.deployed shell)), []) := by
  rw [List.drop_length]
  rfl

theorem step_created : s.step .creating (.created (.ok shell)) =
    s.proceed shell (s.plan.drop 0) := rfl

theorem step_applied (h : k < s.plan.length) :
    s.step (.building shell (s.plan.drop k)) (.applied (.ok ())) =
      s.proceed shell (s.plan.drop (k + 1)) := by
  rw [List.drop_eq_getElem_cons h]
  rfl

theorem step_failed (pending : List Mutation) (e : Engine.Error) :
    s.step (.building shell pending) (.applied (.error e)) = undo shell e := by
  cases pending <;> rfl

theorem step_expired (pending : List Mutation) :
    s.step (.building shell pending) .expired = undo shell (timeoutError shell) := by
  cases pending <;> rfl

theorem step_dropped (pending : List Mutation) (alive : Bool) :
    s.step (.building shell pending) (.dropped alive) =
      if s.guarded && alive then (.abandoned .detached, [.delete shell])
      else (.abandoned .none, []) := by
  cases pending <;> rfl

theorem step_building_created (pending : List Mutation) (reply : Except Engine.Error String) :
    s.step (.building shell pending) (.created reply) = (.building shell pending, []) := by
  cases pending <;> rfl

theorem step_building_deleted (pending : List Mutation) (reply : Except Engine.Error Unit) :
    s.step (.building shell pending) (.deleted reply) = (.building shell pending, []) := by
  cases pending <;> rfl

end

/-- Stages that can be reached, with the shell, if it has been created, and the calls begun. -/
inductive Reached (s : Saga) : Option String → Stage → List Call → Prop where
  | creating : Reached s none .creating [s.start]
  | refused (e : Engine.Error) : Reached s none (.finished (.error e)) [s.start]
  | unstarted : Reached s none (.abandoned .none) [s.start]
  | building (shell : String) (k : Nat) (h : k < s.plan.length) :
    Reached s (some shell) (.building shell (s.plan.drop k)) (s.begun shell (k + 1))
  | built (shell : String) :
    Reached s (some shell) (.finished (.ok (s.deployed shell))) (s.begun shell s.plan.length)
  | leaked (shell : String) (k : Nat) (h : k < s.plan.length) :
    Reached s (some shell) (.abandoned .none) (s.begun shell (k + 1))
  | undoing (shell : String) (k : Nat) (h : k < s.plan.length) (e : Engine.Error) :
    Reached s (some shell) (.undoing shell e) (s.begun shell (k + 1) ++ [.delete shell])
  | undone (shell : String) (k : Nat) (h : k < s.plan.length) (e : Engine.Error) :
    Reached s (some shell) (.finished (.error e)) (s.begun shell (k + 1) ++ [.delete shell])
  | detached (shell : String) (k : Nat) (h : k < s.plan.length) :
    Reached s (some shell) (.abandoned .detached) (s.begun shell (k + 1) ++ [.delete shell])
  | cutShort (shell : String) (k : Nat) (h : k < s.plan.length) :
    Reached s (some shell) (.abandoned .cutShort) (s.begun shell (k + 1) ++ [.delete shell])

/-- The shell that the events create: an answer counts while nothing has ended the creation. -/
def shellOf : List Event → Option String
  | [] => none
  | .created (.ok shell) :: _ => some shell
  | .created (.error _) :: _ => none
  | .dropped _ :: _ => none
  | _ :: rest => shellOf rest

namespace Reached
variable {s : Saga} {o : Option String} {stage : Stage} {calls : List Call}

/-- A deployment goes on with the next mutation of the plan, or it is done. -/
theorem proceed (shell : String) {k : Nat} (h : k ≤ s.plan.length) :
    s.Reached (some shell) (s.proceed shell (s.plan.drop k)).1
      (s.begun shell k ++ (s.proceed shell (s.plan.drop k)).2) := by
  rcases Nat.lt_or_eq_of_le h with hlt | rfl
  · rw [s.proceed_drop shell hlt, ← s.begun_succ shell hlt]
    exact .building shell k hlt
  · rw [s.proceed_drop_length shell, List.append_nil]
    exact .built shell

/-- One event leads from what can be reached to what can be reached, once the creation is over. -/
theorem step (h : s.Reached o stage calls) (hstage : stage ≠ .creating) (e : Event) :
    s.Reached o (s.step stage e).1 (calls ++ (s.step stage e).2) := by
  cases h with
  | creating => exact absurd rfl hstage
  | refused error => simpa [Saga.step] using refused error
  | unstarted => simpa [Saga.step] using unstarted
  | built shell => simpa [Saga.step] using built shell
  | leaked shell k hk => simpa [Saga.step] using leaked shell k hk
  | undone shell k hk error => simpa [Saga.step] using undone shell k hk error
  | detached shell k hk => simpa [Saga.step] using detached shell k hk
  | cutShort shell k hk => simpa [Saga.step] using cutShort shell k hk
  | building shell k hk =>
    cases e with
    | created reply =>
      rw [step_building_created, List.append_nil]
      exact building shell k hk
    | applied reply =>
      cases reply with
      | ok value =>
        rw [s.step_applied shell hk]
        exact proceed shell hk
      | error error =>
        rw [step_failed]
        exact undoing shell k hk error
    | deleted reply =>
      rw [step_building_deleted, List.append_nil]
      exact building shell k hk
    | expired =>
      rw [step_expired]
      exact undoing shell k hk _
    | dropped alive =>
      rw [step_dropped]
      split
      · exact detached shell k hk
      · rw [List.append_nil]
        exact leaked shell k hk
  | undoing shell k hk error =>
    cases e with
    | created reply => simpa [Saga.step] using undoing shell k hk error
    | applied reply => simpa [Saga.step] using undoing shell k hk error
    | deleted reply => simpa [Saga.step] using undone shell k hk error
    | expired => simpa [Saga.step] using undoing shell k hk error
    | dropped alive => simpa [Saga.step] using cutShort shell k hk

end Reached

theorem proceed_ne_creating (s : Saga) (shell : String) (pending : List Mutation) :
    (s.proceed shell pending).1 ≠ .creating := by
  cases pending <;> simp [proceed]

theorem step_ne_creating (s : Saga) {stage : Stage} (h : stage ≠ .creating) (e : Event) :
    (s.step stage e).1 ≠ .creating := by
  unfold step
  split
  · exact absurd rfl h
  · exact absurd rfl h
  · exact absurd rfl h
  · exact proceed_ne_creating _ _ _
  · simp [undo]
  · simp [undo]
  · split <;> simp
  · simp
  · simp
  · exact h

namespace Reached
variable {s : Saga} {o : Option String} {stage : Stage} {calls : List Call}

theorem runFrom (h : s.Reached o stage calls) (hstage : stage ≠ .creating) (events : List Event) :
    s.Reached o (s.runFrom stage events).1 (calls ++ (s.runFrom stage events).2) := by
  induction events generalizing stage calls with
  | nil => simpa [Saga.runFrom] using h
  | cons e events ih =>
    have hrest := ih (h.step hstage e) (s.step_ne_creating hstage e)
    simpa [Saga.runFrom] using hrest

/-- Where events leave a deployment that waits for its shell: those that neither answer the creation
nor give it up pass it by. -/
theorem runFrom_creating (events : List Event) :
    s.Reached (shellOf events) (s.runFrom .creating events).1
      (s.start :: (s.runFrom .creating events).2) := by
  induction events with
  | nil => exact creating
  | cons e events ih =>
    cases e with
    | created reply =>
      cases reply with
      | ok shell =>
        have hrest := (proceed shell (Nat.zero_le s.plan.length)).runFrom
          (s.proceed_ne_creating shell _) events
        simpa [shellOf, Saga.runFrom, step_created, begun_zero] using hrest
      | error error =>
        have hrest := (refused error (s := s)).runFrom (by simp) events
        simpa [shellOf, Saga.runFrom, Saga.step] using hrest
    | dropped alive =>
      have hrest := (unstarted (s := s)).runFrom (by simp) events
      simpa [shellOf, Saga.runFrom, Saga.step] using hrest
    | applied reply => simpa [shellOf, Saga.runFrom, Saga.step] using ih
    | deleted reply => simpa [shellOf, Saga.runFrom, Saga.step] using ih
    | expired => simpa [shellOf, Saga.runFrom, Saga.step] using ih

/-- A flow is deployed when the whole plan has been carried out. -/
theorem of_ok {d : Deployed} (h : s.Reached o (.finished (.ok d)) calls) :
    ∃ shell, o = some shell ∧ d = s.deployed shell ∧ calls = s.begun shell s.plan.length := by
  cases h with
  | built shell => exact ⟨shell, rfl, rfl, rfl⟩

theorem shell_of_undoing {shell : String} {e : Engine.Error}
    (h : s.Reached o (.undoing shell e) calls) : o = some shell := by
  cases h with
  | undoing shell k hk e => rfl

theorem run (s : Saga) (events : List Event) :
    s.Reached (shellOf events) (s.run events).1 (s.run events).2 := runFrom_creating events

end Reached

/-- A flow with one action. -/
def lone : Flow := ⟨"Report", .webhook "Call" [], [.code "Run" none []], [], none⟩

end Flowline.Deployment.Saga
