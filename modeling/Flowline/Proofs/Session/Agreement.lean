import Flowline.Catalog.Builtin
import Flowline.Proofs.Draft.Repair
import Flowline.Session.Deploy
import Flowline.Session.Generate

/-!
A flow is checked when it is generated, from its JSON form, and again before it is deployed, in its
typed form. The two checks agree on a flow exactly when no action below an arm that the first one
overlooks is too deep; then the flow may be deployed with the warnings that it was generated with.
-/
namespace Flowline
open Json

namespace Draft

/-- An accepted draft is the typed form of a candidate in one of the replies. -/
theorem exists_candidate_of_draft {s : Setting} {request : String} {context : List Message}
    {spent : Reply} {replies : List Reply} {flow : Flow} {warnings : List Issue} {repaired : Bool}
    (h : ((draft s request context).play spent replies).1 =
      .ok (.accepted flow warnings repaired)) :
    ∃ reply ∈ spent :: replies, ∃ candidate, read reply = .ok candidate ∧
      (Candidate.check s.catalog s.limits candidate).flow = some flow ∧
      warnings = (Candidate.check s.catalog s.limits candidate).warnings := by
  have hreply : ∀ i, replies.getD i spent ∈ spent :: replies := fun i => by
    rw [List.getD_eq_getElem?_getD]
    cases hi : replies[i]? with
    | none => simp
    | some reply => exact List.mem_cons_of_mem _ (List.mem_of_getElem? hi)
  obtain ⟨result, asked, hplay, hcourse⟩ := course_draft s request context spent replies
  rw [hplay] at h
  cases hcourse with
  | unread e first => cases h
  | settled candidate first fit =>
    exact ⟨_, hreply 0, candidate, first, conclude_eq_accepted (Except.ok.inj h)⟩
  | lost candidate e first unfit second => cases h
  | repaired candidate last first unfit second =>
    exact ⟨_, hreply 1, last, second, conclude_eq_accepted (Except.ok.inj h)⟩

end Draft

namespace Session
open Draft

/-- A generated flow comes from an accepted candidate, and the policy does not block it. -/
theorem exists_candidate_of_generate {s : Setting} {request : String} {context : List Message}
    {spent : Reply} {replies : List Reply} {g : Generated}
    (h : ((generate s request context).play spent replies).1 = .ok g) :
    ∃ reply ∈ spent :: replies, ∃ candidate, read reply = .ok candidate ∧
      (Candidate.check s.catalog s.limits candidate).flow = some g.flow ∧
      g.warnings = (Candidate.check s.catalog s.limits candidate).warnings ++
        Finding.advice (Policy.findings s.limits g.flow) ∧
      (Policy.findings s.limits g.flow).any Finding.isBlocking = false := by
  rw [generate, Dialogue.play_map] at h
  dsimp only at h
  split at h
  · cases h
  · rename_i outcome houtcome
    unfold accept at h
    split at h
    · cases h
    · cases h
    · rename_i flow warnings repaired
      obtain ⟨reply, hreply, candidate, hread, hflow, hwarnings⟩ :=
        exists_candidate_of_draft houtcome
      dsimp only at h
      split at h
      · cases h
      · rename_i hblock
        cases h
        exact ⟨reply, hreply, candidate, hread, hflow, by rw [hwarnings], by simpa using hblock⟩

theorem generate_eq_ok {s : Setting} {request : String} {context : List Message} {reply : Reply}
    {candidate : Json} {flow : Flow} (hread : read reply = .ok candidate)
    (hflow : (Candidate.check s.catalog s.limits candidate).flow = some flow)
    (hpolicy : (Policy.findings s.limits flow).any Finding.isBlocking = false) :
    ((generate s request context).play reply []).1 =
      .ok ⟨flow, (Candidate.check s.catalog s.limits candidate).warnings ++
        Finding.advice (Policy.findings s.limits flow), false⟩ := by
  have hdraft : ((draft s request context).play reply []).1 =
      .ok (.accepted flow (Candidate.check s.catalog s.limits candidate).warnings false) := by
    simp [draft, Dialogue.play, onCandidate, hread, needsRepair, hflow, conclude]
  rw [generate, Dialogue.play_map]
  simp [hdraft, accept, hpolicy]

/-- The two checks of an accepted flow agree exactly when it may be deployed with the advice that
it was accepted with and that of the policy. -/
theorem permit_eq_ok_iff {catalog : Catalog} {limits : Limits} {flow : Flow}
    (hsemantic : (flow.semanticFindings catalog limits).any Finding.isBlocking = false)
    (hpolicy : (Policy.findings limits flow).any Finding.isBlocking = false) :
    permit catalog limits flow = .ok (Finding.advice (flow.semanticFindings catalog limits) ++
        Finding.advice (Policy.findings limits flow)) ↔
      flow.findings catalog limits = flow.semanticFindings catalog limits := by
  constructor
  · intro h
    rw [Flow.findings_eq_semanticFindings_iff hsemantic]
    by_contra hne
    have hblock : (flow.findings catalog limits).any Finding.isBlocking = true :=
      Flow.any_isBlocking_of_checkFlow hne
    simp [permit, hblock] at h
  · intro h
    simp [permit, h, hsemantic, hpolicy, Finding.advice]

end Session

/-- An accepted flow has a name and actions. The check of its typed form has the findings that it
was accepted with exactly when no action below an overlooked arm is too deep; and a generated flow
may be deployed, with the warnings that it was generated with, exactly when this holds of the
candidate that it comes from. -/
theorem findings_of_accepted_iff (catalog : Catalog) (limits : Limits) :
    (∀ candidate flow, (Candidate.check catalog limits candidate).flow = some flow →
      Text.isBlankText flow.displayName = false ∧ flow.actions ≠ [] ∧
      (flow.findings catalog limits = (Candidate.check catalog limits candidate).findings ↔
        ∀ p a, flow.resolve? p = some a → Candidate.isOverlooked candidate p = true →
          p.hops.length ≤ limits.maxBranchDepth)) ∧
    (∀ summaryLimit request context spent replies g,
      ((Session.generate ⟨catalog, limits, summaryLimit⟩ request context).play spent replies).1 =
        .ok g →
      ∃ reply ∈ spent :: replies, ∃ candidate, Draft.read reply = .ok candidate ∧
        (Candidate.check catalog limits candidate).flow = some g.flow ∧
        (Session.permit catalog limits g.flow = .ok g.warnings ↔
          ∀ p a, g.flow.resolve? p = some a → Candidate.isOverlooked candidate p = true →
            p.hops.length ≤ limits.maxBranchDepth)) := by
  constructor
  · intro candidate flow h
    obtain ⟨hshape, htyped, hcheck, hsemantic⟩ := Candidate.accepted_iff_cases h
    refine ⟨Candidate.not_blank_of_toFlow hshape htyped,
      Candidate.actions_ne_nil_of_toFlow hshape htyped, ?_⟩
    rw [hcheck, Flow.findings_eq_semanticFindings_iff hsemantic,
      Candidate.checkFlow_eq_nil_iff hshape htyped]
  · intro summaryLimit request context spent replies g h
    obtain ⟨reply, hreply, candidate, hread, hflow, hwarnings, hpolicy⟩ :=
      Session.exists_candidate_of_generate h
    obtain ⟨hshape, htyped, hcheck, hsemantic⟩ := Candidate.accepted_iff_cases hflow
    refine ⟨reply, hreply, candidate, hread, hflow, ?_⟩
    rw [hwarnings, hcheck, Verdict.warnings, Session.permit_eq_ok_iff hsemantic hpolicy,
      Flow.findings_eq_semanticFindings_iff hsemantic,
      Candidate.checkFlow_eq_nil_iff hshape htyped]

namespace Candidate

/-- A branch with a null for its true arm and an action under another spelling of the arm. -/
def masked : Json := .obj [
  ("actions", .arr [.obj [
    ("conditions", .arr [.arr []]), ("displayName", .str "Check"), ("onSuccessActions", .null),
    ("onTrue", .arr [.obj [
      ("code", .str "return 1"), ("displayName", .str "Run"), ("type", .str "CODE")]]),
    ("type", .str "BRANCH")]]),
  ("displayName", .str "Report"),
  ("trigger", .obj [("displayName", .str "Call"), ("type", .str "WEBHOOK")])]

def maskedText : String :=
  "\x7b\"actions\":[\x7b\"conditions\":[[]],\"displayName\":\"Check\",\"onSuccessActions\":null," ++
  ("\"onTrue\":[\x7b\"code\":\"return 1\",\"displayName\":\"Run\",\"type\":\"CODE\"\x7d]," ++
  ("\"type\":\"BRANCH\"\x7d],\"displayName\":\"Report\"," ++
  "\"trigger\":\x7b\"displayName\":\"Call\",\"type\":\"WEBHOOK\"\x7d\x7d"))

def maskedFlow : Flow where
  displayName := "Report"
  trigger := .webhook "Call" []
  actions := [.branch "Check" [.arr []] [.code "Run" (some "return 1") []] []]
  connectionsNeeded := []
  explanation := none

/-- The built-in catalog, with branches nested no deeper than this. -/
def limited (depth : Nat) : Draft.Setting := ⟨Catalog.builtin, { maxBranchDepth := depth }, 0⟩

theorem candidate_maskedText : Draft.candidate maskedText = .ok masked := by
  refine Draft.candidate_eq_ok
    (Draft.append_eq_ofList rfl (Draft.append_eq_ofList rfl (Draft.append_eq_ofList rfl rfl))) ?_
  decide +kernel

theorem read_maskedText : Draft.read (.ok maskedText) = .ok masked := by
  rw [Draft.read, candidate_maskedText]

theorem check_masked_zero : check Catalog.builtin { maxBranchDepth := 0 } masked =
    ⟨[], false, some maskedFlow⟩ := rfl

theorem check_masked_one : check Catalog.builtin { maxBranchDepth := 1 } masked =
    ⟨[], false, some maskedFlow⟩ := rfl

theorem generate_limited {depth : Nat}
    (h : check Catalog.builtin { maxBranchDepth := depth } masked = ⟨[], false, some maskedFlow⟩)
    (hpolicy : Policy.findings { maxBranchDepth := depth } maskedFlow = []) :
    ((Session.generate (limited depth) "" []).play (.ok maskedText) []).1 =
      .ok ⟨maskedFlow, [], false⟩ := by
  have h : check (limited depth).catalog (limited depth).limits masked =
      ⟨[], false, some maskedFlow⟩ := h
  have hpolicy : Policy.findings (limited depth).limits maskedFlow = [] := hpolicy
  rw [Session.generate_eq_ok read_maskedText (by rw [h]) (by rw [hpolicy]; rfl), h, hpolicy]
  rfl

/-- The action below the null is deeper than the limit: it is not looked at when the flow is
generated, and the flow may then not be deployed. -/
theorem masked_not_permitted :
    ((Session.generate (limited 0) "" []).play (.ok maskedText) []).1 =
      .ok ⟨maskedFlow, [], false⟩ ∧
    (check Catalog.builtin { maxBranchDepth := 0 } masked).flow = some maskedFlow ∧
    maskedFlow.findings Catalog.builtin { maxBranchDepth := 0 } ≠
      (check Catalog.builtin { maxBranchDepth := 0 } masked).findings ∧
    ∃ issue, Session.permit Catalog.builtin { maxBranchDepth := 0 } maskedFlow =
      .error (.malformed [issue]) := by
  refine ⟨generate_limited check_masked_zero rfl, ?_, ?_, ⟨_, rfl⟩⟩
  · rw [check_masked_zero]
  · rw [check_masked_zero]
    decide

/-- With one level more the same flow may be deployed. -/
theorem masked_permitted :
    (check Catalog.builtin { maxBranchDepth := 1 } masked).flow = some maskedFlow ∧
    (∀ p a, maskedFlow.resolve? p = some a → isOverlooked masked p = true → p.hops.length ≤ 1) ∧
    ((Session.generate (limited 1) "" []).play (.ok maskedText) []).1 =
      .ok ⟨maskedFlow, [], false⟩ ∧
    Session.permit Catalog.builtin { maxBranchDepth := 1 } maskedFlow = .ok [] := by
  have hflow : (check Catalog.builtin { maxBranchDepth := 1 } masked).flow = some maskedFlow := by
    rw [check_masked_one]
  have hlimit := ((findings_of_accepted_iff _ _).1 _ _ hflow).2.2.1
    (by rw [check_masked_one]; decide)
  have hgenerate := generate_limited check_masked_one rfl
  refine ⟨hflow, hlimit, hgenerate, ?_⟩
  obtain ⟨reply, hreply, candidate, hread, -, hpermit⟩ :=
    (findings_of_accepted_iff _ _).2 _ _ _ _ _ _ hgenerate
  obtain rfl : reply = .ok maskedText := by simpa using hreply
  obtain rfl : masked = candidate := by
    rw [read_maskedText] at hread
    exact Except.ok.inj hread
  exact hpermit.2 hlimit

end Candidate
end Flowline
