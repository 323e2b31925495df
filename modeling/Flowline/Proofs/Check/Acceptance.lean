import Flowline.Proofs.Check.Overlooked

/-!
Accepted candidates. An accepted candidate and its typed form are checked by different walks; they
agree on every flow except that the typed walk also looks into the arms that the other overlooks.
-/
namespace Flowline
open Json Decode

theorem Shape.Report.code_mem (r : Shape.Report) :
    r.issue.code ∈ ["S001", "S002", "S003", "S004", "S005", "S006", "S007", "S008", "S009", "S010",
      "S011"] := by
  obtain ⟨fault, place⟩ := r
  cases fault <;> simp [issue, Fault.code]

theorem Semantic.Report.code_mem (r : Semantic.Report) :
    r.finding.issue.code ∈ ["V002", "V003", "V004", "V005", "V006", "V007", "V008", "V009",
      "V010"] := by
  obtain ⟨fault, place⟩ := r
  cases fault <;> simp [finding, issue, Fault.code, Fault.blocks, Finding.issue]

namespace Candidate
variable {catalog : Catalog} {limits : Limits} {candidate : Json} {flow : Flow}

/-- A candidate is accepted when the drafter did not refuse, it keeps the shape rules, has a typed
form and no semantic finding blocks. -/
theorem flow_check_eq_some_iff :
    (check catalog limits candidate).flow = some flow ↔
      refusal candidate = none ∧ Shape.check limits.maxBranchDepth candidate = [] ∧
        toFlow candidate = .ok flow ∧
        (flow.semanticFindings catalog limits).any Finding.isBlocking = false := by
  constructor
  · intro h
    unfold check at h
    split at h
    · cases h
    · rename_i hrefusal
      split at h
      · rename_i hshape
        split at h
        · cases h
        · rename_i typed htyped
          simp only [verdict] at h
          split at h
          · cases h
          · rename_i hblock
            cases h
            exact ⟨hrefusal, hshape, htyped, by simpa using hblock⟩
      · cases h
  · rintro ⟨hrefusal, hshape, htyped, hblock⟩
    simp [check, hrefusal, hshape, htyped, verdict, hblock]

/-- What is known of a candidate that is accepted. -/
theorem accepted_iff_cases (h : (check catalog limits candidate).flow = some flow) :
    Shape.check limits.maxBranchDepth candidate = [] ∧ toFlow candidate = .ok flow ∧
      check catalog limits candidate = ⟨flow.semanticFindings catalog limits, false, some flow⟩ ∧
      (flow.semanticFindings catalog limits).any Finding.isBlocking = false := by
  obtain ⟨hrefusal, hshape, htyped, hblock⟩ := flow_check_eq_some_iff.1 h
  exact ⟨hshape, htyped, by simp [check, hrefusal, hshape, htyped, verdict, hblock], hblock⟩

/-- Where a finding comes from: a refusal, a shape rule, the typed form or a semantic rule. -/
theorem origin_of_mem_check {f : Finding} (h : f ∈ (check catalog limits candidate).findings) :
    (∃ reason, f = refusalFinding reason) ∨
    (∃ r ∈ Shape.check limits.maxBranchDepth candidate, f = .blocking r.issue) ∨
    (Shape.check limits.maxBranchDepth candidate = [] ∧
      ∃ why, toFlow candidate = .error why ∧ f = unreadableFinding why) ∨
    ∃ r : Semantic.Report, f = r.finding := by
  unfold check at h
  split at h
  · rename_i reason _
    exact .inl ⟨reason, List.mem_singleton.1 h⟩
  · split at h
    · rename_i hshape
      split at h
      · rename_i why hwhy
        exact .inr (.inr (.inl ⟨hshape, why, hwhy, List.mem_singleton.1 h⟩))
      · obtain ⟨r, -, rfl⟩ := List.mem_map.1 h
        exact .inr (.inr (.inr ⟨r, rfl⟩))
    · obtain ⟨r, hr, rfl⟩ := List.mem_map.1 h
      exact .inr (.inl ⟨r, hr, rfl⟩)

theorem mem_clean {root : Members} {key : String} {v : Json} (h : (key, v) ∈ root)
    (hv : v.isNull = false) :
    ∃ members, clean (.obj root) = .obj members ∧
      (key, if key = "trigger" then cleanTrigger v
        else if key = "actions" then cleanList v else v) ∈ members :=
  ⟨_, rfl, List.mem_map.2 ⟨(key, v), by simp [dropNulls, h, hv], rfl⟩⟩

theorem not_blank_of_toFlow {limit : Nat} (hcheck : Shape.check limit candidate = [])
    (h : toFlow candidate = .ok flow) : Text.isBlankText flow.displayName = false := by
  cases candidate <;> simp only [Shape.check, reduceCtorEq, List.append_eq_nil_iff] at hcheck
  rename_i root
  have hname : Shape.hasText (assoc "displayName" root) = true := Shape.demand_eq_nil.1 hcheck.1.1
  unfold Shape.hasText at hname
  split at hname
  · rename_i s hs
    obtain ⟨members, hclean, hmem⟩ := mem_clean (mem_of_assoc hs) rfl
    rw [toFlow, hclean] at h
    have := (Flow.read_of_ofJson h).1 _ hmem
    simp only [String.reduceEq, if_false, text, Except.ok.injEq] at this
    simpa [this] using hname
  · cases hname

/-- A typed form has the actions of the list that the shape rules looked at, in their order. -/
theorem actions_of_toFlow {limit : Nat} (hcheck : Shape.check limit candidate = [])
    (h : toFlow candidate = .ok flow) :
    ∃ elements, candidate.member? "actions" = some (.arr elements) ∧ elements ≠ [] ∧
      Shape.checkActions limit 0 .top 0 elements = [] ∧
      (elements.map cleanAction).mapM (Action.decode false) = .ok flow.actions := by
  cases candidate <;> simp only [Shape.check, reduceCtorEq, List.append_eq_nil_iff] at hcheck
  rename_i root
  have hactions := hcheck.2
  unfold Shape.checkActionList at hactions
  split at hactions
  · rename_i v rest hv
    obtain ⟨members, hclean, hmem⟩ := mem_clean (mem_of_assoc hv) rfl
    rw [toFlow, hclean] at h
    have := (Flow.read_of_ofJson h).2 _ hmem
    simp only [String.reduceEq, if_false, if_true, cleanList, list, cleanAll_eq_map] at this
    exact ⟨v :: rest, by simp [Json.member?, Json.asObject, hv], by simp, hactions, this⟩
  · cases hactions

theorem actions_ne_nil_of_toFlow {limit : Nat} (hcheck : Shape.check limit candidate = [])
    (h : toFlow candidate = .ok flow) : flow.actions ≠ [] := by
  obtain ⟨elements, -, hne, -, hdecode⟩ := actions_of_toFlow hcheck h
  intro hnil
  have := length_of_mapM hdecode
  simp [hnil, eq_comm, hne] at this

/-- An accepted flow keeps the depth rule wherever the shape rules looked. -/
theorem le_limit_of_not_overlooked {limit : Nat} (hcheck : Shape.check limit candidate = [])
    (h : toFlow candidate = .ok flow) {p : Path} {a : Action} (hp : flow.resolve? p = some a)
    (hoverlooked : isOverlooked candidate p = false) : p.hops.length ≤ limit := by
  obtain ⟨elements, helements, -, hactions, hdecode⟩ := actions_of_toFlow hcheck h
  obtain ⟨b, hb, ha⟩ := Option.bind_eq_some_iff.1 hp
  obtain ⟨v, hv, hread⟩ := getElem?_of_mapM hdecode hb
  rw [List.getElem?_map, Option.map_eq_some_iff] at hv
  obtain ⟨w, hw, rfl⟩ := hv
  have hrest : overlooks w p.hops = false := by
    simpa [isOverlooked, helements, hw] using hoverlooked
  cases hhops : p.hops with
  | nil => exact Nat.zero_le _
  | cons hop hops =>
    have hone := checkAction_of_getElem? hactions hw
    rw [Nat.zero_add] at hone
    have := le_limit_of_decode hone hread hrest (by simp [hhops]) ha
    simpa [hhops] using this

/-- The typed form of a candidate that keeps the shape rules breaks none of them exactly when no
action below an overlooked arm is too deep. -/
theorem checkFlow_eq_nil_iff {limit : Nat} (hcheck : Shape.check limit candidate = [])
    (h : toFlow candidate = .ok flow) :
    Shape.checkFlow limit flow = [] ↔
      ∀ p a, flow.resolve? p = some a → isOverlooked candidate p = true → p.hops.length ≤ limit := by
  rw [Shape.checkFlow_eq_nil_iff]
  constructor
  · rintro ⟨-, -, hdepth⟩ p a hp _
    exact hdepth p a hp
  · intro hdepth
    refine ⟨not_blank_of_toFlow hcheck h, actions_ne_nil_of_toFlow hcheck h, fun p a hp => ?_⟩
    by_cases hoverlooked : isOverlooked candidate p = true
    · exact hdepth p a hp hoverlooked
    · exact le_limit_of_not_overlooked hcheck h hp (by simpa using hoverlooked)

end Candidate

namespace Flow

theorem any_isBlocking_of_checkFlow {catalog : Catalog} {limits : Limits} {flow : Flow}
    (h : Shape.checkFlow limits.maxBranchDepth flow ≠ []) :
    (flow.findings catalog limits).any Finding.isBlocking = true := by
  unfold findings
  cases hreports : Shape.checkFlow limits.maxBranchDepth flow with
  | nil => exact absurd hreports h
  | cons r rest => rfl

/-- The findings of a typed flow are its semantic ones exactly when it keeps the shape rules, where
none of the semantic ones blocks. -/
theorem findings_eq_semanticFindings_iff {catalog : Catalog} {limits : Limits} {flow : Flow}
    (h : (flow.semanticFindings catalog limits).any Finding.isBlocking = false) :
    flow.findings catalog limits = flow.semanticFindings catalog limits ↔
      Shape.checkFlow limits.maxBranchDepth flow = [] := by
  constructor
  · intro heq
    by_contra hne
    have hblock : (flow.findings catalog limits).any Finding.isBlocking = true :=
      any_isBlocking_of_checkFlow hne
    rw [heq, h] at hblock
    cases hblock
  · intro hnil
    rw [findings, hnil]

end Flow
end Flowline
