import Flowline.Proofs.Deployment.Course

/-!
The deletion of the shell when a guarded deployment fails or the caller gives up. There is exactly
one deletion where the shell would be left behind, none where there is no shell or the flow is
deployed, and it is the last call.
-/
namespace Flowline.Deployment
open Engine

/-- The shells that are deleted, in order. -/
def deletions (calls : List Call) : List String :=
  calls.filterMap fun
    | .delete shell => some shell
    | _ => none

theorem deletions_append (calls rest : List Call) :
    deletions (calls ++ rest) = deletions calls ++ deletions rest := List.filterMap_append

/-- Whether the caller is waiting for the end of the deployment. -/
def Stage.isOpen : Stage → Bool
  | .creating | .building .. | .undoing .. => true
  | .finished _ | .abandoned _ => false

def Stage.isBuilding : Stage → Bool
  | .building .. => true
  | _ => false

namespace Saga

theorem eq_of_mem_begun {s : Saga} {shell : String} {k : Nat} {call : Call}
    (h : call ∈ s.begun shell k) : call = s.start ∨ ∃ m, call = .apply shell m := by
  rcases List.mem_cons.1 h with h | h
  · exact .inl h
  · obtain ⟨m, -, rfl⟩ := List.mem_map.1 h
    exact .inr ⟨m, rfl⟩

theorem delete_notMem_begun (s : Saga) (shell shell' : String) (k : Nat) :
    .delete shell' ∉ s.begun shell k := by
  intro h
  rcases eq_of_mem_begun h with h | ⟨m, h⟩
  · simp [start] at h
  · cases h

theorem deletions_begun (s : Saga) (shell : String) (k : Nat) :
    deletions (s.begun shell k) = [] := by
  rw [deletions, List.filterMap_eq_nil_iff]
  intro call hcall
  rcases eq_of_mem_begun hcall with rfl | ⟨m, rfl⟩
  · rfl
  · rfl

theorem eq_nil_of_begun_delete {s : Saga} {shell shell' shell'' : String} {k : Nat}
    {front back : List Call}
    (h : s.begun shell k ++ [.delete shell'] = front ++ .delete shell'' :: back) : back = [] := by
  rcases List.eq_nil_or_concat back with rfl | ⟨back, last, rfl⟩
  · rfl
  · rw [List.concat_eq_append, ← List.cons_append, ← List.append_assoc] at h
    have hmem : .delete shell'' ∈ s.begun shell k := by
      rw [(List.append_inj' h rfl).1]
      simp
    exact absurd hmem (s.delete_notMem_begun shell shell'' k)

/-- The deletions by the time that a stage is reached, with the shell, if it has been created. -/
def owed (o : Option String) : Stage → List String
  | .building .. => []
  | .finished (.ok _) => []
  | .abandoned .none => []
  | _ => o.toList

namespace Reached
variable {s : Saga} {o : Option String} {stage : Stage} {calls : List Call}

theorem deletions_eq (h : s.Reached o stage calls) : deletions calls = owed o stage := by
  cases h with
  | creating => rfl
  | refused => rfl
  | unstarted => rfl
  | building shell k => exact s.deletions_begun shell (k + 1)
  | built shell => exact s.deletions_begun shell _
  | leaked shell k => exact s.deletions_begun shell (k + 1)
  | undoing shell k => rw [deletions_append, deletions_begun]; rfl
  | undone shell k => rw [deletions_append, deletions_begun]; rfl
  | detached shell k => rw [deletions_append, deletions_begun]; rfl
  | cutShort shell k => rw [deletions_append, deletions_begun]; rfl

theorem eq_nil_of_delete (h : s.Reached o stage calls) {shell : String} {front back : List Call}
    (hcalls : calls = front ++ .delete shell :: back) : back = [] := by
  have hmem : .delete shell ∈ calls := by simp [hcalls]
  cases h with
  | creating => simp [start] at hmem
  | refused => simp [start] at hmem
  | unstarted => simp [start] at hmem
  | building shell' k => exact absurd hmem (s.delete_notMem_begun _ _ _)
  | built shell' => exact absurd hmem (s.delete_notMem_begun _ _ _)
  | leaked shell' k => exact absurd hmem (s.delete_notMem_begun _ _ _)
  | undoing shell' k => exact eq_nil_of_begun_delete hcalls
  | undone shell' k => exact eq_nil_of_begun_delete hcalls
  | detached shell' k => exact eq_nil_of_begun_delete hcalls
  | cutShort shell' k => exact eq_nil_of_begun_delete hcalls

end Reached

/-- Nothing happens any more when a deployment is over. -/
theorem runFrom_of_not_open (s : Saga) {stage : Stage} (h : stage.isOpen = false)
    (events : List Event) : s.runFrom stage events = (stage, []) := by
  induction events with
  | nil => rfl
  | cons e events ih =>
    have hstep : s.step stage e = (stage, []) := by
      cases stage with
      | creating => cases h
      | building => cases h
      | undoing => cases h
      | finished result => rfl
      | abandoned cleanup => rfl
    rw [runFrom_cons, hstep, ih]
    rfl

theorem exists_abandoned_of_dropped (s : Saga) {stage : Stage} (h : stage.isOpen = true)
    (alive : Bool) : ∃ cleanup, (s.step stage (.dropped alive)).1 = .abandoned cleanup := by
  cases stage with
  | creating => exact ⟨.none, rfl⟩
  | building shell pending =>
    rw [step_dropped]
    split
    · exact ⟨.detached, rfl⟩
    · exact ⟨.none, rfl⟩
  | undoing shell e => exact ⟨.cutShort, rfl⟩
  | finished result => cases h
  | abandoned cleanup => cases h

/-- Only what giving up begins follows it. -/
theorem run_dropped (s : Saga) {before : List Event} (h : (s.run before).1.isOpen = true)
    (alive : Bool) (after : List Event) :
    s.run (before ++ .dropped alive :: after) =
      ((s.step (s.run before).1 (.dropped alive)).1,
        (s.run before).2 ++ (s.step (s.run before).1 (.dropped alive)).2) := by
  obtain ⟨cleanup, hcleanup⟩ := s.exists_abandoned_of_dropped h alive
  rw [run_append, runFrom_cons, hcleanup, s.runFrom_of_not_open rfl, List.append_nil]

theorem proceed_isOpen_or_finished (s : Saga) (shell : String) (pending : List Mutation) :
    (s.proceed shell pending).1.isOpen = true ∨
      ∃ result, (s.proceed shell pending).1 = .finished result := by
  cases pending with
  | nil => exact .inr ⟨_, rfl⟩
  | cons m pending => exact .inl rfl

/-- Unless the caller gives up, a deployment goes on or returns. -/
theorem step_isOpen_or_finished (s : Saga) {stage : Stage} (h : stage.isOpen = true) {e : Event}
    (he : ∀ alive, e ≠ .dropped alive) :
    (s.step stage e).1.isOpen = true ∨ ∃ result, (s.step stage e).1 = .finished result := by
  unfold step
  split
  · exact proceed_isOpen_or_finished _ _ _
  · exact .inr ⟨_, rfl⟩
  · exact absurd rfl (he _)
  · exact proceed_isOpen_or_finished _ _ _
  · exact .inl rfl
  · exact .inl rfl
  · exact absurd rfl (he _)
  · exact .inr ⟨_, rfl⟩
  · exact absurd rfl (he _)
  · exact .inl h

/-- An abandoned deployment was given up while it was open. Until then it stays open, or it has
returned and can no longer be abandoned. -/
theorem exists_dropped_of_runFrom (s : Saga) {stage : Stage} (hopen : stage.isOpen = true)
    {events : List Event} {cleanup : Cleanup}
    (h : (s.runFrom stage events).1 = .abandoned cleanup) :
    ∃ before alive after, events = before ++ .dropped alive :: after ∧
      (s.runFrom stage before).1.isOpen = true := by
  induction events generalizing stage with
  | nil =>
    obtain rfl : stage = .abandoned cleanup := h
    cases hopen
  | cons e events ih =>
    by_cases he : ∃ alive, e = .dropped alive
    · obtain ⟨alive, rfl⟩ := he
      exact ⟨[], alive, events, rfl, hopen⟩
    · rw [runFrom_cons] at h
      rcases s.step_isOpen_or_finished hopen (fun alive h => he ⟨alive, h⟩) with
        hstep | ⟨result, hstep⟩
      · obtain ⟨before, alive, after, rfl, hbefore⟩ := ih hstep h
        exact ⟨e :: before, alive, after, rfl, by rw [runFrom_cons]; exact hbefore⟩
      · rw [hstep, s.runFrom_of_not_open rfl] at h
        cases h

theorem exists_dropped_of_abandoned (s : Saga) {events : List Event} {cleanup : Cleanup}
    (h : (s.run events).1 = .abandoned cleanup) :
    ∃ before alive after, events = before ++ .dropped alive :: after ∧
      (s.run before).1.isOpen = true := s.exists_dropped_of_runFrom rfl h

/-- What giving up begins: a deletion, unless the shell does not exist, or is being deleted, or no
runtime is left. -/
theorem step_dropped_of_reached {s : Saga} (hs : s.guarded = true) {o : Option String}
    {stage : Stage} {calls : List Call} (h : s.Reached o stage calls)
    (hopen : stage.isOpen = true) (alive : Bool) :
    deletions (calls ++ (s.step stage (.dropped alive)).2) =
        (if stage.isBuilding && !alive then [] else o.toList) ∧
      ∀ call ∈ (s.step stage (.dropped alive)).2, ∃ shell, call = .delete shell := by
  rw [deletions_append, h.deletions_eq]
  cases h with
  | creating => exact ⟨rfl, by simp [step]⟩
  | building shell k hk =>
    rw [step_dropped, hs]
    cases alive with
    | true => exact ⟨rfl, by simp⟩
    | false => exact ⟨rfl, by simp⟩
  | undoing shell k hk e => exact ⟨rfl, by simp [step]⟩
  | refused e => cases hopen
  | unstarted => cases hopen
  | built shell => cases hopen
  | leaked shell k hk => cases hopen
  | undone shell k hk e => cases hopen
  | detached shell k hk => cases hopen
  | cutShort shell k hk => cases hopen

end Saga

/-- A guarded deployment that returns has deleted its shell once if it fails, and not at all if it
succeeds; the deletion begins with the failure. One that the caller gives up has deleted it once,
unless no runtime is left to do so while the flow is being built. -/
theorem deletions_of_run (flow : Flow) (options : Options) (events : List Event) :
    let s : Saga := ⟨flow, options, true⟩
    (∀ result, (s.run events).1 = .finished result →
      deletions (s.run events).2 =
        match result with
        | .ok _ => []
        | .error _ => (Saga.shellOf events).toList) ∧
    (∀ shell error, (s.run events).1 = .undoing shell error →
      Saga.shellOf events = some shell ∧ deletions (s.run events).2 = [shell]) ∧
    (∀ cleanup, (s.run events).1 = .abandoned cleanup →
      ∃ before alive after, events = before ++ .dropped alive :: after ∧
        (s.run before).1.isOpen = true) ∧
    (∀ before alive after, events = before ++ .dropped alive :: after →
      (s.run before).1.isOpen = true →
      deletions (s.run events).2 =
        (if (s.run before).1.isBuilding && !alive then [] else (Saga.shellOf before).toList) ∧
      ∃ tail, (s.run events).2 = (s.run before).2 ++ tail ∧
        ∀ call ∈ tail, ∃ shell, call = .delete shell) ∧
    (∀ front shell back, (s.run events).2 = front ++ .delete shell :: back → back = []) := by
  intro s
  have hreached := Saga.Reached.run s events
  refine ⟨?_, ?_, fun cleanup h => s.exists_dropped_of_abandoned h, ?_,
    fun front shell back h => hreached.eq_nil_of_delete h⟩
  · intro result hresult
    rw [hreached.deletions_eq, hresult]
    cases result <;> rfl
  · intro shell error hundoing
    rw [hundoing] at hreached
    have hshell := hreached.shell_of_undoing
    exact ⟨hshell, by rw [hreached.deletions_eq, hshell]; rfl⟩
  · rintro before alive after rfl hopen
    obtain ⟨hdeletions, htail⟩ :=
      Saga.step_dropped_of_reached rfl (Saga.Reached.run s before) hopen alive
    rw [s.run_dropped hopen alive after]
    exact ⟨hdeletions, _, rfl, htail⟩

theorem deletions_of_lone :
    (∀ alive, deletions (Saga.run ⟨Saga.lone, {}, true⟩
      [.created (.ok "flow"), .applied (.ok ()), .dropped alive]).2 =
        if alive then ["flow"] else []) ∧
    deletions (Saga.run ⟨Saga.lone, {}, true⟩
      [.created (.ok "flow"), .expired, .deleted (.ok ())]).2 = ["flow"] ∧
    deletions (Saga.run ⟨Saga.lone, {}, true⟩ [.dropped true]).2 = [] := by
  refine ⟨fun alive => ?_, ?_, ?_⟩
  · have h := (deletions_of_run Saga.lone {}
      [.created (.ok "flow"), .applied (.ok ()), .dropped alive]).2.2.2.1
      [.created (.ok "flow"), .applied (.ok ())] alive [] rfl rfl
    cases alive with
    | true => exact h.1
    | false => exact h.1
  · exact (deletions_of_run Saga.lone {} [.created (.ok "flow"), .expired, .deleted (.ok ())]).1
      (.error (Saga.timeoutError "flow")) rfl
  · exact ((deletions_of_run Saga.lone {} [.dropped true]).2.2.2.1 [] true [] rfl rfl).1

end Flowline.Deployment
