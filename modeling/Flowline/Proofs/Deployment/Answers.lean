import Flowline.Proofs.Deployment.Course
import Flowline.Proofs.Deployment.Plan

/-!
Deployments whose calls are all answered. Such a deployment ends: with the error of the creation,
with the flow when every mutation succeeds, and else with the error of the first mutation that fails
and one deletion.
-/
namespace Flowline.Deployment
open Engine

/-- An engine that answers every call, with regard to all calls so far. -/
structure Host where
  created : List Call → Except Engine.Error String
  applied : List Call → Except Engine.Error Unit
  deleted : List Call → Except Engine.Error Unit

/-- The answer to the call in flight, if there is one. -/
def Host.answer (h : Host) (calls : List Call) : Stage → Option Event
  | .creating => some (.created (h.created calls))
  | .building _ (_ :: _) => some (.applied (h.applied calls))
  | .undoing .. => some (.deleted (h.deleted calls))
  | _ => none

namespace Saga

/-- More than the calls that can still be begun. -/
def left (s : Saga) : Stage → Nat
  | .creating => s.plan.length + 3
  | .building _ pending => pending.length + 2
  | .undoing .. => 1
  | _ => 0

theorem left_proceed_le (s : Saga) (shell : String) (pending : List Mutation) :
    s.left (s.proceed shell pending).1 ≤ pending.length + 2 := by
  cases pending <;> simp [proceed, left]

theorem left_step_lt (s : Saga) {h : Host} {calls : List Call} {stage : Stage} {e : Event}
    (he : h.answer calls stage = some e) : s.left (s.step stage e).1 < s.left stage := by
  cases stage with
  | creating =>
    obtain rfl := Option.some.inj he
    cases h.created calls with
    | ok shell =>
      have := s.left_proceed_le shell s.plan
      simp only [step, left, plan] at *
      omega
    | error error => simp [step, left]
  | building shell pending =>
    cases pending with
    | nil => cases he
    | cons m pending =>
      obtain rfl := Option.some.inj he
      cases h.applied calls with
      | ok value =>
        have := s.left_proceed_le shell pending
        simp only [step, left, List.length_cons] at *
        omega
      | error error => simp [step, undo, left]
  | undoing shell error =>
    obtain rfl := Option.some.inj he
    simp [step, left]
  | finished result => cases he
  | abandoned cleanup => cases he

/-- What a deployment meets from a stage on when every call is answered. -/
def answers (s : Saga) (h : Host) (stage : Stage) (calls : List Call) : List Event :=
  match _he : h.answer calls stage with
  | none => []
  | some e => e :: s.answers h (s.step stage e).1 (calls ++ (s.step stage e).2)
termination_by s.left stage
decreasing_by exact s.left_step_lt ‹_›

/-- A deployment whose calls are all answered, from its beginning to its end. -/
def runWith (s : Saga) (h : Host) : Stage × List Call :=
  s.run (s.answers h .creating [s.start])

/-- The rest of such a deployment, with the calls begun before. -/
def runWithFrom (s : Saga) (h : Host) (stage : Stage) (calls : List Call) : Stage × List Call :=
  ((s.runFrom stage (s.answers h stage calls)).1,
    calls ++ (s.runFrom stage (s.answers h stage calls)).2)

theorem runWith_eq (s : Saga) (h : Host) :
    s.runWith h = s.runWithFrom h .creating [s.start] := rfl

section
variable {s : Saga} {h : Host} {stage : Stage} {calls : List Call}

theorem runWithFrom_of_none (he : h.answer calls stage = none) :
    s.runWithFrom h stage calls = (stage, calls) := by
  have hanswers : s.answers h stage calls = [] := by
    unfold answers
    split
    · rfl
    · simp_all
  simp [runWithFrom, hanswers, runFrom]

theorem runWithFrom_of_some {e : Event} (he : h.answer calls stage = some e) :
    s.runWithFrom h stage calls =
      s.runWithFrom h (s.step stage e).1 (calls ++ (s.step stage e).2) := by
  have hanswers : s.answers h stage calls =
      e :: s.answers h (s.step stage e).1 (calls ++ (s.step stage e).2) := by
    rw [answers]
    split
    · simp_all
    · simp_all
  simp [runWithFrom, hanswers, runFrom]

theorem runWithFrom_undoing (shell : String) (e : Engine.Error) :
    s.runWithFrom h (.undoing shell e) calls = (.finished (.error e), calls) := by
  rw [runWithFrom_of_some rfl, runWithFrom_of_none rfl]
  simp [step]

theorem answer_building (shell : String) {k : Nat} (hk : k < s.plan.length) :
    h.answer calls (.building shell (s.plan.drop k)) = some (.applied (h.applied calls)) := by
  rw [List.drop_eq_getElem_cons hk]
  rfl

/-- From the `k`-th mutation on either all succeed or a first one fails. The induction is on the
mutations that are left. -/
theorem runWithFrom_proceed (shell : String) {k : Nat} (hk : k ≤ s.plan.length) :
    ((∀ j, k ≤ j → j < s.plan.length → h.applied (s.begun shell (j + 1)) = .ok ()) ∧
      s.runWithFrom h (s.proceed shell (s.plan.drop k)).1
          (s.begun shell k ++ (s.proceed shell (s.plan.drop k)).2) =
        (.finished (.ok (s.deployed shell)), s.begun shell s.plan.length)) ∨
    ∃ m e, m < s.plan.length ∧
      (∀ j, k ≤ j → j < m → h.applied (s.begun shell (j + 1)) = .ok ()) ∧
      h.applied (s.begun shell (m + 1)) = .error e ∧
      s.runWithFrom h (s.proceed shell (s.plan.drop k)).1
          (s.begun shell k ++ (s.proceed shell (s.plan.drop k)).2) =
        (.finished (.error e), s.begun shell (m + 1) ++ [.delete shell]) := by
  induction hn : s.plan.length - k generalizing k with
  | zero =>
    obtain rfl : k = s.plan.length := by omega
    left
    refine ⟨fun j hkj hj => absurd hj (by omega), ?_⟩
    rw [proceed_drop_length, List.append_nil, runWithFrom_of_none rfl]
  | succ n ih =>
    have hlt : k < s.plan.length := by omega
    rw [proceed_drop s shell hlt, ← begun_succ s shell hlt,
      runWithFrom_of_some (answer_building shell hlt)]
    cases hreply : h.applied (s.begun shell (k + 1)) with
    | error e =>
      right
      refine ⟨k, e, hlt, fun j hkj hj => absurd hkj (by omega), hreply, ?_⟩
      rw [step_failed]
      exact runWithFrom_undoing shell e
    | ok value =>
      have hfirst : ∀ j, k ≤ j → (k + 1 ≤ j → h.applied (s.begun shell (j + 1)) = .ok ()) →
          h.applied (s.begun shell (j + 1)) = .ok () := by
        intro j hkj hj
        rcases Nat.eq_or_lt_of_le hkj with rfl | hlt
        · exact hreply
        · exact hj hlt
      rw [step_applied s shell hlt]
      rcases ih hlt (by omega) with ⟨hok, hrun⟩ | ⟨m, e, hm, hok, herror, hrun⟩
      · left
        exact ⟨fun j hkj hj => hfirst j hkj fun h => hok j h hj, hrun⟩
      · right
        exact ⟨m, e, hm, fun j hkj hj => hfirst j hkj fun h => hok j h hj, herror, hrun⟩

end

theorem runWith_cases (s : Saga) (h : Host) :
    (∃ e, h.created [s.start] = .error e ∧ s.runWith h = (.finished (.error e), [s.start])) ∨
    (∃ shell, h.created [s.start] = .ok shell ∧
      (∀ k < s.plan.length, h.applied (s.begun shell (k + 1)) = .ok ()) ∧
      s.runWith h = (.finished (.ok (s.deployed shell)), s.begun shell s.plan.length)) ∨
    (∃ shell k e, h.created [s.start] = .ok shell ∧ k < s.plan.length ∧
      (∀ j < k, h.applied (s.begun shell (j + 1)) = .ok ()) ∧
      h.applied (s.begun shell (k + 1)) = .error e ∧
      s.runWith h = (.finished (.error e), s.begun shell (k + 1) ++ [.delete shell])) := by
  rw [runWith_eq, runWithFrom_of_some rfl]
  cases hcreated : h.created [s.start] with
  | error e =>
    left
    exact ⟨e, rfl, by rw [runWithFrom_of_none rfl]; rfl⟩
  | ok shell =>
    right
    rw [step_created, ← s.begun_zero shell]
    rcases runWithFrom_proceed shell (Nat.zero_le s.plan.length) with
      ⟨hok, hrun⟩ | ⟨m, e, hm, hok, herror, hrun⟩
    · left
      exact ⟨shell, rfl, fun k hk => hok k (Nat.zero_le k) hk, hrun⟩
    · right
      exact ⟨shell, m, e, rfl, hm, fun j hj => hok j (Nat.zero_le j) hj, herror, hrun⟩

theorem plan_eq (s : Saga) :
    s.plan = .updateTrigger (Step.ofTrigger s.options.defaultTimezone s.flow.trigger) ::
      ((s.flow.walk.map fun e => .addAction (planned e.1 e.2)) ++
        if s.options.autoPublish then [.publish] else []) := by
  rw [plan, mutations, additions_eq_map, List.map_map]
  rfl

/-- The shell has been created and `k` mutations have succeeded. -/
def successes (shell : String) (k : Nat) : List Event :=
  .created (.ok shell) :: List.replicate k (.applied (.ok ()))

/-- Every mutation but the first waits for the success of the one before it. -/
theorem run_successes (s : Saga) (shell : String) {k : Nat} (hk : k < s.plan.length) :
    s.run (successes shell k) = (.building shell (s.plan.drop k), s.begun shell (k + 1)) := by
  induction k with
  | zero =>
    have hrun : s.run (successes shell 0) = ((s.proceed shell (s.plan.drop 0)).1,
        s.start :: ((s.proceed shell (s.plan.drop 0)).2 ++ [])) := rfl
    rw [hrun, proceed_drop s shell hk, begun_succ s shell hk, List.append_nil]
    rfl
  | succ k ih =>
    have hlt : k < s.plan.length := by omega
    have hsplit : successes shell (k + 1) = successes shell k ++ [.applied (.ok ())] := by
      simp [successes, List.replicate_succ']
    rw [hsplit, run_concat, ih hlt, step_applied s shell hlt, proceed_drop s shell hk,
      begun_succ s shell hk]

/-- A deployment whose calls are all answered ends in one of three ways. Nothing follows a failed
creation. When every mutation succeeds there is no deletion, and the flow has as many steps as
actions. After the first mutation that fails there is one deletion and nothing else, and its answer
does not count. -/
theorem runWith_course (s : Saga) (h : Host) :
    s.plan = .updateTrigger (Step.ofTrigger s.options.defaultTimezone s.flow.trigger) ::
      ((s.flow.walk.map fun e => .addAction (planned e.1 e.2)) ++
        if s.options.autoPublish then [.publish] else []) ∧
    (∀ shell k, k < s.plan.length →
      s.run (successes shell k) =
        (.building shell (s.plan.drop k), s.start :: (s.plan.take (k + 1)).map (.apply shell))) ∧
    ((∃ e, h.created [s.start] = .error e ∧ s.runWith h = (.finished (.error e), [s.start])) ∨
    (∃ shell, h.created [s.start] = .ok shell ∧
      (∀ k < s.plan.length, h.applied (s.begun shell (k + 1)) = .ok ()) ∧
      s.runWith h =
        (.finished (.ok (s.deployed shell)), s.start :: s.plan.map (.apply shell)) ∧
      (s.deployed shell).flowId = shell ∧
      (s.deployed shell).stepCount = s.flow.totalActions ∧
      (s.deployed shell).published = s.options.autoPublish) ∨
    (∃ shell k e, h.created [s.start] = .ok shell ∧ k < s.plan.length ∧
      (∀ j < k, h.applied (s.begun shell (j + 1)) = .ok ()) ∧
      h.applied (s.begun shell (k + 1)) = .error e ∧
      s.runWith h = (.finished (.error e),
        s.start :: (s.plan.take (k + 1)).map (.apply shell) ++ [.delete shell]))) := by
  refine ⟨s.plan_eq, fun shell k hk => s.run_successes shell hk, ?_⟩
  rcases s.runWith_cases h with hrefused | ⟨shell, hcreated, hok, hrun⟩ | hfailed
  · exact .inl hrefused
  · rw [begun_length] at hrun
    exact .inr (.inl ⟨shell, hcreated, hok, hrun, rfl, length_additions s.flow, rfl⟩)
  · exact .inr (.inr hfailed)

/-- The addition fails, and so does the deletion. -/
def failing : Host where
  created _ := .ok "flow"
  applied calls := if calls.length = 3 then .error ⟨"POST", "", .timedOut⟩ else .ok ()
  deleted _ := .error ⟨"DELETE", "", .timedOut⟩

theorem runWith_failing :
    runWith ⟨lone, {}, false⟩ failing = (.finished (.error ⟨"POST", "", .timedOut⟩),
      .create "Report" none ::
        ((mutations {} lone).take 2).map (.apply "flow") ++ [.delete "flow"]) := by
  have hlength : (plan ⟨lone, {}, false⟩).length = 2 := rfl
  rcases (runWith_course ⟨lone, {}, false⟩ failing).2.2 with
    ⟨e, hcreated, -⟩ | ⟨shell, -, hok, -⟩ | ⟨shell, k, e, hcreated, hk, -, herror, hrun⟩
  · cases hcreated
  · have := hok 1 (by rw [hlength]; omega)
    cases this
  · obtain rfl := Except.ok.inj hcreated
    rw [hlength] at hk
    obtain rfl | rfl : k = 0 ∨ k = 1 := by omega
    · cases herror
    · obtain rfl := Except.error.inj herror
      exact hrun

end Saga
end Flowline.Deployment
