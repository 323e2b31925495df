import Flowline.Proofs.Check.Acceptance
import Flowline.Proofs.Check.Located
import Flowline.Proofs.Session.Interval

/-!
Looser limits. With more room for branches the shape rules look at children that they did not look
at before, but there are none such in an accepted candidate, where the rules have looked at all
there are; and the semantic rules block whatever the limits are. So what is accepted and let through
under some limits is accepted and let through under all looser ones.
-/
namespace Flowline
open Json

/-- Limits that are nowhere tighter than others. The count that advises is free. -/
structure Limits.LooserThan (loose tight : Limits) : Prop where
  depth : tight.maxBranchDepth ≤ loose.maxBranchDepth
  actions : tight.maxActions ≤ loose.maxActions
  interval : loose.minIntervalMinutes ≤ tight.minIntervalMinutes

namespace Shape
variable {limit limit' : Nat}

mutual

/-- An action that keeps the shape rules keeps them under a higher limit. Where the lower one stops
at a branch it reports it, and everywhere else both lead to the same children. -/
theorem checkAction_of_le (hle : limit ≤ limit') {depth : Nat} {p : Path} :
    (v : Json) → checkAction limit depth p v = [] → checkAction limit' depth p v = []
  | .obj members, h => by
    rw [checkAction, List.append_eq_nil_iff] at h ⊢
    refine ⟨h.1, ?_⟩
    have hchildren := h.2
    by_cases hkind : (kindOf members == some "BRANCH") = true
    · rw [if_pos hkind] at hchildren ⊢
      split at hchildren
      · cases hchildren
      · rename_i hroom
        have hroom' : ¬ (isFilledBranch members && limit' < depth + 1) = true := by
          simp only [Bool.and_eq_true, decide_eq_true_eq, not_and, Nat.not_lt] at hroom ⊢
          exact fun hfilled => Nat.le_trans (hroom hfilled) hle
        rw [if_neg hroom']
        obtain ⟨htrue, hfalse⟩ := List.append_eq_nil_iff.1 hchildren
        rw [checkArm_of_le hle members htrue, checkArm_of_le hle members hfalse, List.nil_append]
    · rw [if_neg hkind]

theorem checkArm_of_le (hle : limit ≤ limit') {depth : Nat} {p : Path} {arm : Arm} {key : String} :
    (members : List (String × Json)) → checkArm limit depth p arm key members = [] →
      checkArm limit' depth p arm key members = []
  | [], _ => rfl
  | (k, v) :: rest, h => by
    rw [checkArm] at h ⊢
    split
    · rename_i hkey
      rw [if_pos hkey] at h
      exact checkChildren_of_le hle v h
    · rename_i hkey
      rw [if_neg hkey] at h
      exact checkArm_of_le hle rest h

theorem checkChildren_of_le (hle : limit ≤ limit') {depth : Nat} {stem : Stem} :
    (v : Json) → checkChildren limit depth stem v = [] → checkChildren limit' depth stem v = []
  | .arr elements, h => by
    rw [checkChildren] at h ⊢
    exact checkActions_of_le hle elements h
  | .null, _ | .bool _, _ | .num _, _ | .str _, _ | .obj _, _ => rfl

theorem checkActions_of_le (hle : limit ≤ limit') {depth : Nat} {stem : Stem} {i : Nat} :
    (elements : List Json) → checkActions limit depth stem i elements = [] →
      checkActions limit' depth stem i elements = []
  | [], _ => rfl
  | v :: rest, h => by
    rw [checkActions, List.append_eq_nil_iff] at h ⊢
    exact ⟨checkAction_of_le hle v h.1, checkActions_of_le hle rest h.2⟩

end

theorem check_of_le (hle : limit ≤ limit') {candidate : Json} (h : check limit candidate = []) :
    check limit' candidate = [] := by
  cases candidate <;> simp only [check, reduceCtorEq, List.append_eq_nil_iff] at h ⊢
  refine ⟨h.1, ?_⟩
  have hactions := h.2
  unfold checkActionList at hactions ⊢
  split at hactions
  · exact checkActions_of_le hle _ hactions
  · cases hactions

end Shape

/-- Whether a semantic rule blocks a flow is up to its trigger and its actions; their number only
advises. -/
theorem Flow.any_isBlocking_semanticFindings (catalog : Catalog) (limits : Limits) (flow : Flow) :
    (flow.semanticFindings catalog limits).any Finding.isBlocking =
      (Semantic.triggerFindings catalog flow.trigger ++
        Semantic.actionFindings catalog flow.walk).any Finding.isBlocking := by
  have hcount : (Semantic.countFindings limits flow.actions.length).any Finding.isBlocking =
      false := by
    rw [Semantic.countFindings]
    split <;> rfl
  rw [Semantic.semanticFindings_eq, List.any_append, hcount, Bool.or_false]

/-- A candidate that is accepted stays so, with the same flow, when there is more room for
branches. -/
theorem Candidate.flow_check_of_le {catalog : Catalog} {tight loose : Limits} {candidate : Json}
    {flow : Flow} (hle : tight.maxBranchDepth ≤ loose.maxBranchDepth)
    (h : (check catalog tight candidate).flow = some flow) :
    (check catalog loose candidate).flow = some flow := by
  obtain ⟨hrefusal, hshape, htyped, hblock⟩ := flow_check_eq_some_iff.1 h
  refine flow_check_eq_some_iff.2 ⟨hrefusal, Shape.check_of_le hle hshape, htyped, ?_⟩
  rw [Flow.any_isBlocking_semanticFindings] at hblock ⊢
  exact hblock

theorem Cron.TooFrequent.mono {tight loose : Limits} {expr : String}
    (hle : loose.minIntervalMinutes ≤ tight.minIntervalMinutes) (h : TooFrequent loose expr) :
    TooFrequent tight expr := by
  obtain ⟨n, hstep, hone, hless⟩ := h
  exact ⟨n, hstep, hone, Nat.lt_of_lt_of_le hless hle⟩

theorem Policy.allowed_of_looser {tight loose : Limits} {flow : Flow}
    (hlooser : loose.LooserThan tight)
    (h : (findings tight flow).any Finding.isBlocking = false) :
    (findings loose flow).any Finding.isBlocking = false := by
  obtain ⟨hschedule, hcount⟩ := allowed_iff.1 h
  refine allowed_iff.2 ⟨fun expr hcron hfrequent => ?_, Nat.le_trans hcount hlooser.actions⟩
  exact hschedule expr hcron (hfrequent.mono hlooser.interval)

/-- A candidate that is accepted under some limits, and whose flow the policy lets through, is
accepted as the same flow under looser limits, and the policy lets it through there. -/
theorem accepted_of_looser {catalog : Catalog} {tight loose : Limits} {candidate : Json}
    {flow : Flow} (hlooser : loose.LooserThan tight)
    (haccepted : (Candidate.check catalog tight candidate).flow = some flow)
    (hallowed : (Policy.findings tight flow).any Finding.isBlocking = false) :
    (Candidate.check catalog loose candidate).flow = some flow ∧
      (Policy.findings loose flow).any Finding.isBlocking = false :=
  ⟨Candidate.flow_check_of_le hlooser.depth haccepted, Policy.allowed_of_looser hlooser hallowed⟩

/-- Every seven minutes, a branch inside a branch. -/
def watch : Json :=
  .obj [("actions", .arr [.obj [("conditions", .arr [.obj []]), ("displayName", .str "New rows?"),
      ("onTrue", .arr [.obj [("conditions", .arr [.obj []]), ("displayName", .str "Urgent?"),
        ("onFalse", .arr [.obj [("code", .str "return 1"), ("displayName", .str "Note it"),
          ("type", .str "CODE")]]),
        ("type", .str "BRANCH")]]),
      ("type", .str "BRANCH")]]),
    ("displayName", .str "Watch"),
    ("trigger", .obj [("displayName", .str "Often"),
      ("input", .obj [("cronExpression", .str "*/7 * * * *")]), ("type", .str "SCHEDULE")])]

def watchFlow : Flow where
  displayName := "Watch"
  trigger := .schedule "Often" ⟨some "*/7 * * * *", none⟩
  actions := [.branch "New rows?" [.obj []]
    [.branch "Urgent?" [.obj []] [] [.code "Note it" (some "return 1") []]] []]
  connectionsNeeded := []
  explanation := none

/-- The tighter limits are those that just let the flow through. -/
theorem accepted_of_looser_watch :
    let tight : Limits := ⟨20, 1, 2, 7⟩
    let loose : Limits := ⟨1, 30, 10, 0⟩
    (loose.LooserThan tight ∧
      (Candidate.check (.live []) tight watch).flow = some watchFlow ∧
      (Policy.findings tight watchFlow).any Finding.isBlocking = false) ∧
    (Candidate.check (.live []) loose watch).flow = some watchFlow ∧
      (Policy.findings loose watchFlow).any Finding.isBlocking = false := by
  intro tight loose
  have hlooser : loose.LooserThan tight := ⟨by decide, by decide, by decide⟩
  have haccepted : (Candidate.check (.live []) tight watch).flow = some watchFlow := rfl
  have hallowed : (Policy.findings tight watchFlow).any Finding.isBlocking = false := by
    decide +kernel
  exact ⟨⟨hlooser, haccepted, hallowed⟩, accepted_of_looser hlooser haccepted hallowed⟩

end Flowline
