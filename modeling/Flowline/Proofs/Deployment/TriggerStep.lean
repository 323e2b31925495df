import Flowline.Proofs.Deployment.Course

/-!
The step that a deployment sets as the trigger of its flow: the one that stands for the trigger of
the flow, in every run that gets as far as creating the shell.
-/
namespace Flowline.Deployment.Saga
open Engine

theorem length_plan_pos (s : Saga) : 0 < s.plan.length := Nat.succ_pos _

theorem mem_plan {s : Saga} {m : Mutation} :
    m ∈ s.plan ↔ m = .updateTrigger (Step.ofTrigger s.options.defaultTimezone s.flow.trigger) ∨
      (∃ x ∈ additions s.flow, m = .addAction x) ∨
      (m = .publish ∧ s.options.autoPublish = true) := by
  rw [plan, mutations, List.mem_cons, List.mem_append, List.mem_map]
  cases s.options.autoPublish <;> simp [eq_comm]

theorem eq_ofTrigger_of_mem_plan {s : Saga} {step : Step} (h : .updateTrigger step ∈ s.plan) :
    step = Step.ofTrigger s.options.defaultTimezone s.flow.trigger := by
  rcases mem_plan.1 h with h | ⟨x, -, h⟩ | ⟨h, -⟩
  · exact Mutation.updateTrigger.inj h
  · cases h
  · cases h

theorem apply_mem_begun {s : Saga} {shell shell' : String} {k : Nat} {m : Mutation} :
    .apply shell' m ∈ s.begun shell k ↔ shell' = shell ∧ m ∈ s.plan.take k := by
  rw [begun, List.mem_cons, List.mem_map]
  constructor
  · rintro (h | ⟨m', hm', h⟩)
    · cases h
    · cases h
      exact ⟨rfl, hm'⟩
  · rintro ⟨rfl, hm⟩
    exact .inr ⟨m, hm, rfl⟩

namespace Reached
variable {s : Saga} {stage : Stage} {calls : List Call}

theorem calls_eq_start (h : s.Reached none stage calls) : calls = [s.start] := by
  cases h with
  | creating => rfl
  | refused => rfl
  | unstarted => rfl

/-- Once the shell exists the first mutation has been begun, and only deletions come after the
mutations. -/
theorem exists_begun {shell : String} (h : s.Reached (some shell) stage calls) :
    ∃ k tail, calls = s.begun shell (k + 1) ++ tail ∧ ∀ call ∈ tail, call = .delete shell := by
  cases h with
  | building _ k => exact ⟨k, [], by simp, by simp⟩
  | leaked _ k => exact ⟨k, [], by simp, by simp⟩
  | undoing _ k => exact ⟨k, _, rfl, by simp⟩
  | undone _ k => exact ⟨k, _, rfl, by simp⟩
  | detached _ k => exact ⟨k, _, rfl, by simp⟩
  | cutShort _ k => exact ⟨k, _, rfl, by simp⟩
  | built =>
    refine ⟨s.plan.length - 1, [], ?_, by simp⟩
    rw [List.append_nil, Nat.sub_add_cancel s.length_plan_pos]

end Reached

/-- Only what is planned is done to the shell. -/
theorem mem_plan_of_mem_run {s : Saga} {events : List Event} {shell : String} {m : Mutation}
    (h : .apply shell m ∈ (s.run events).2) : shellOf events = some shell ∧ m ∈ s.plan := by
  have hreached := Reached.run s events
  cases hshell : shellOf events with
  | none =>
    rw [hshell] at hreached
    simp [hreached.calls_eq_start, start] at h
  | some created =>
    rw [hshell] at hreached
    obtain ⟨k, tail, hcalls, htail⟩ := hreached.exists_begun
    rw [hcalls, List.mem_append, apply_mem_begun] at h
    rcases h with ⟨rfl, hmem⟩ | hmem
    · exact ⟨rfl, List.mem_of_mem_take hmem⟩
    · cases htail _ hmem

theorem updateTrigger_mem_run_iff {s : Saga} {events : List Event} {shell : String} {step : Step} :
    .apply shell (.updateTrigger step) ∈ (s.run events).2 ↔
      shellOf events = some shell ∧
        step = Step.ofTrigger s.options.defaultTimezone s.flow.trigger := by
  constructor
  · intro h
    obtain ⟨hshell, hmem⟩ := mem_plan_of_mem_run h
    exact ⟨hshell, eq_ofTrigger_of_mem_plan hmem⟩
  · rintro ⟨hshell, rfl⟩
    have hreached := Reached.run s events
    rw [hshell] at hreached
    obtain ⟨k, tail, hcalls, -⟩ := hreached.exists_begun
    rw [hcalls, List.mem_append, apply_mem_begun]
    exact .inl ⟨rfl, by simp [plan, mutations]⟩

end Flowline.Deployment.Saga
