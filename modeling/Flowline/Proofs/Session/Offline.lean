import Flowline.Check.Offline
import Flowline.Proofs.Draft.Repair
import Flowline.Session.Generate

/-!
A reply that is checked offline and the same reply in a session. The offline check sorts the
findings, the session goes by the flow that comes out; the two say the same of every text.
-/
namespace Flowline
open Json

theorem Issue.toJson_eq (i : Issue) : i.toJson =
    .obj [("code", .str i.code), ("phase", .str i.phase.name), ("message", .str i.message),
      ("location", i.location.elim .null .str)] := by
  obtain ⟨code, phase, message, location⟩ := i
  cases location <;> rfl

theorem Phase.name_injective : Function.Injective Phase.name := by
  intro p q h
  cases p <;> cases q <;> simp [Phase.name] at h ⊢

/-- An issue is known by the object that is shown for it. -/
theorem Issue.toJson_injective : Function.Injective Issue.toJson := by
  rintro ⟨code, phase, message, location⟩ ⟨code', phase', message', location'⟩ h
  simp only [Issue.toJson, Json.obj.injEq, List.cons.injEq, Prod.mk.injEq, true_and, and_true,
    Json.str.injEq] at h
  obtain ⟨rfl, hphase, rfl, hlocation⟩ := h
  obtain rfl := Phase.name_injective hphase
  cases location <;> cases location' <;> simp_all [Json.nullable]

theorem Policy.Fault.code_ne_parse (f : Policy.Fault) : f.finding.issue.code ≠ "P001" := by
  cases f <;> simp [finding, issue, code, blocks, Finding.issue]

theorem Candidate.code_ne_parse {catalog : Catalog} {limits : Limits} {candidate : Json}
    {f : Finding} (h : f ∈ (check catalog limits candidate).findings) : f.issue.code ≠ "P001" := by
  intro hcode
  obtain ⟨reason, rfl⟩ | ⟨r, -, rfl⟩ | ⟨-, why, -, rfl⟩ | ⟨r, rfl⟩ := origin_of_mem_check h
  · simp [refusalFinding, Finding.issue] at hcode
  · exact absurd (hcode ▸ r.code_mem) (by decide)
  · simp [unreadableFinding, Finding.issue] at hcode
  · exact absurd (hcode ▸ r.code_mem) (by decide)

namespace Finding

theorem exists_of_mem_blocks {findings : List Finding} {i : Issue} (h : i ∈ blocks findings) :
    ∃ f ∈ findings, f.issue = i := by
  obtain ⟨f, hf, hi⟩ := List.mem_filterMap.1 h
  cases f with
  | blocking issue => exact ⟨_, hf, Option.some.inj hi⟩
  | advisory issue => cases hi

theorem blocks_append (l m : List Finding) : blocks (l ++ m) = blocks l ++ blocks m :=
  List.filterMap_append

theorem advice_append (l m : List Finding) : advice (l ++ m) = advice l ++ advice m :=
  List.filterMap_append

end Finding

namespace Offline

theorem guard_of_unreadable {text : String} {e : DraftError} (h : Draft.candidate text = .error e) :
    guard text = .unreadable e.message := by
  simp [guard, checkAgainst, h, Except.map]

theorem guard_of_rejected {text : String} {candidate : Json}
    (h : Draft.candidate text = .ok candidate)
    (hflow : (Candidate.check Catalog.builtin {} candidate).flow = none) :
    guard text = .checked (Candidate.check Catalog.builtin {} candidate).findings
      (Candidate.check Catalog.builtin {} candidate).refused := by
  simp [guard, checkAgainst, h, Except.map, hflow]

theorem guard_of_accepted {text : String} {candidate : Json} {flow : Flow}
    (h : Draft.candidate text = .ok candidate)
    (hflow : (Candidate.check Catalog.builtin {} candidate).flow = some flow) :
    guard text = .checked ((Candidate.check Catalog.builtin {} candidate).findings ++
      Policy.findings {} flow) false := by
  simp [guard, checkAgainst, h, Except.map, hflow]

/-- No finding has the code that stands for an unreadable text. -/
theorem code_ne_of_checked {text : String} {findings : List Finding} {refused : Bool}
    (h : guard text = .checked findings refused) {f : Finding} (hf : f ∈ findings) :
    f.issue.code ≠ "P001" := by
  cases hread : Draft.candidate text with
  | error e =>
    rw [guard_of_unreadable hread] at h
    cases h
  | ok candidate =>
    cases hflow : (Candidate.check Catalog.builtin {} candidate).flow with
    | none =>
      rw [guard_of_rejected hread hflow] at h
      cases h
      exact Candidate.code_ne_parse hf
    | some flow =>
      rw [guard_of_accepted hread hflow] at h
      cases h
      rcases List.mem_append.1 hf with hf | hf
      · exact Candidate.code_ne_parse hf
      · obtain ⟨fault, -, rfl⟩ := List.mem_map.1 hf
        exact fault.code_ne_parse

end Offline

namespace Session
open Draft Offline

/-- The checks accept the flow in a text and the policy does not. -/
def Overruled (text : String) : Prop :=
  ∃ c flow, candidate text = .ok c ∧ (Candidate.check Catalog.builtin {} c).flow = some flow ∧
    (Policy.findings {} flow).any Finding.isBlocking = true

theorem not_overruled_of_error {text : String} {e : DraftError} (h : candidate text = .error e) :
    ¬ Overruled text := by
  rintro ⟨c, flow, hread, -⟩
  rw [h] at hread
  cases hread

theorem not_overruled_of_rejected {text : String} {c : Json} (h : candidate text = .ok c)
    (hflow : (Candidate.check Catalog.builtin {} c).flow = none) : ¬ Overruled text := by
  rintro ⟨c', flow, hread, hflow', -⟩
  obtain rfl := Except.ok.inj (h.symm.trans hread)
  rw [hflow] at hflow'
  cases hflow'

theorem overruled_iff_of_accepted {text : String} {c : Json} {flow : Flow}
    (h : candidate text = .ok c)
    (hflow : (Candidate.check Catalog.builtin {} c).flow = some flow) :
    Overruled text ↔ (Policy.findings {} flow).any Finding.isBlocking = true := by
  constructor
  · rintro ⟨c', flow', hread, hflow', hpolicy⟩
    obtain rfl := Except.ok.inj (h.symm.trans hread)
    obtain rfl := Option.some.inj (hflow.symm.trans hflow')
    exact hpolicy
  · exact fun hpolicy => ⟨c, flow, h, hflow, hpolicy⟩

/-- What the offline check and a session make of the same first reply: the report, how the session
ends and the questions that it asks. -/
inductive Accord (s : Setting) (request : String) (first : Prompt) (text : String) :
    Report → Except FlowError Generated → List Prompt → Prop
  | unread (e : DraftError) (policy : ¬ Overruled text) :
    Accord s request first text (.unreadable e.message) (.error (.draft e)) [first]
  | refused (findings : List Finding) (reason : String) (policy : ¬ Overruled text)
    (blocked : findings.any Finding.isBlocking = true) :
    Accord s request first text (.checked findings true) (.error (.refused reason)) [first]
  | allowed (findings : List Finding) (g : Generated) (policy : ¬ Overruled text)
    (free : findings.any Finding.isBlocking = false)
    (warnings : g.warnings = Finding.advice findings) :
    Accord s request first text (.checked findings false) (.ok g) [first]
  | notAllowed (findings : List Finding) (policy : Overruled text)
    (blocked : findings.any Finding.isBlocking = true) :
    Accord s request first text (.checked findings false)
      (.error (.notAllowed (Finding.blocks findings))) [first]
  | repaired (c : Json) (findings : List Finding) (result : Except FlowError Generated)
    (read : candidate text = .ok c) (policy : ¬ Overruled text)
    (blocked : findings.any Finding.isBlocking = true) :
    Accord s request first text (.checked findings false) result
      [first, repairPrompt s request c (Finding.blocks findings)]

section
variable {s : Setting} {request text : String} {first : Prompt} {c : Json}

theorem accord_of_settled (hcatalog : s.catalog = Catalog.builtin) (hlimits : s.limits = {})
    (hread : candidate text = .ok c)
    (hfit : needsRepair (Candidate.check s.catalog s.limits c) = false) :
    Accord s request first text (guard text)
      (accept s.limits (conclude 1 (Candidate.check s.catalog s.limits c))) [first] := by
  rw [hcatalog, hlimits] at hfit ⊢
  rcases Candidate.flow_check_cases Catalog.builtin {} c with
    ⟨hblock, hflow⟩ | ⟨hblock, flow, -, hflow⟩
  · have hrefused : (Candidate.check Catalog.builtin {} c).refused = true := by
      simpa [needsRepair, hflow] using hfit
    rw [guard_of_rejected hread hflow, conclude, hflow, hrefused]
    exact .refused _ _ (not_overruled_of_rejected hread hflow) hblock
  · rw [guard_of_accepted hread hflow, conclude, hflow]
    have hpolicy := overruled_iff_of_accepted hread hflow
    cases hblocked : (Policy.findings {} flow).any Finding.isBlocking with
    | false =>
      simp only [accept, hblocked, Bool.false_eq_true, if_false]
      refine .allowed _ _ (by simp [hpolicy, hblocked]) (by simp [hblock, hblocked]) ?_
      rw [Finding.advice_append]
      rfl
    | true =>
      have hissues : Finding.blocks ((Candidate.check Catalog.builtin {} c).findings ++
          Policy.findings {} flow) = Finding.blocks (Policy.findings {} flow) := by
        rw [Finding.blocks_append, Finding.blocks_eq_nil_iff.2 hblock, List.nil_append]
      simp only [accept, hblocked, if_true]
      rw [← hissues]
      exact .notAllowed _ (hpolicy.2 hblocked) (by simp [hblocked])

theorem accord_of_repaired (hcatalog : s.catalog = Catalog.builtin) (hlimits : s.limits = {})
    (hread : candidate text = .ok c)
    (hunfit : needsRepair (Candidate.check s.catalog s.limits c) = true)
    (result : Except FlowError Generated) :
    Accord s request first text (guard text) result
      [first, repairPrompt s request c (Candidate.check s.catalog s.limits c).errors] := by
  rw [hcatalog, hlimits] at hunfit ⊢
  rcases Candidate.flow_check_cases Catalog.builtin {} c with
    ⟨hblock, hflow⟩ | ⟨hblock, flow, -, hflow⟩
  · have hrefused : (Candidate.check Catalog.builtin {} c).refused = false := by
      simpa [needsRepair, hflow] using hunfit
    rw [guard_of_rejected hread hflow, hrefused]
    exact .repaired c _ result hread (not_overruled_of_rejected hread hflow) hblock
  · simp [needsRepair, hflow] at hunfit

end

theorem accord_generate (s : Setting) (hcatalog : s.catalog = Catalog.builtin)
    (hlimits : s.limits = {}) (request : String) (context : List Message) (spent : Reply)
    (text : String) (rest : List Reply) :
    ∃ result asked left,
      (generate s request context).play spent (.ok text :: rest) = (result, asked, left) ∧
        Accord s request (firstPrompt s request context) text (guard text) result asked := by
  obtain ⟨outcome, asked, hplay, hcourse⟩ :=
    course_draft s request context spent (.ok text :: rest)
  refine ⟨_, asked, _, by rw [generate, Dialogue.play_map, hplay], ?_⟩
  cases hcourse with
  | unread e first =>
    have hread : candidate text = .error e := first
    rw [guard_of_unreadable hread]
    exact .unread e (not_overruled_of_error hread)
  | settled c first fit => exact accord_of_settled hcatalog hlimits first fit
  | lost c e first unfit second => exact accord_of_repaired hcatalog hlimits first unfit _
  | repaired c last first unfit second => exact accord_of_repaired hcatalog hlimits first unfit _

namespace Accord
variable {s : Setting} {request text : String} {first : Prompt} {report : Report}
  {result : Except FlowError Generated} {asked : List Prompt}

theorem isOk_iff (h : Accord s request first text report result asked) :
    report.isOk = true ↔ asked.length = 1 ∧ ∃ g, result = .ok g := by
  cases h with
  | unread e policy => simp [Report.isOk]
  | refused findings reason policy blocked => simp [Report.isOk, blocked]
  | allowed findings g policy free warnings => simp [Report.isOk, free]
  | notAllowed findings policy blocked => simp [Report.isOk, blocked]
  | repaired c findings result read policy blocked => simp [Report.isOk, blocked]

theorem issues_of_ok (h : Accord s request first text report result asked)
    (hasked : asked.length = 1) {g : Generated} (hresult : result = .ok g) :
    report.errors = [] ∧ report.warnings = g.warnings.map Issue.toJson := by
  cases h with
  | allowed findings g' policy free warnings =>
    obtain rfl := Except.ok.inj hresult
    have hnone := Finding.blocks_eq_nil_iff.2 free
    exact ⟨by simp [Report.errors, hnone], by rw [Report.warnings, warnings]⟩
  | repaired c findings result read policy blocked => simp at hasked
  | _ => cases hresult

theorem refused_iff (h : Accord s request first text report result asked) :
    report.refused = true ↔ asked.length = 1 ∧ ∃ reason, result = .error (.refused reason) := by
  cases h <;> simp [Report.refused]

theorem notAllowed_iff (h : Accord s request first text report result asked) :
    Overruled text ↔ asked.length = 1 ∧ ∃ issues, result = .error (.notAllowed issues) := by
  cases h <;> simp [*]

theorem errors_of_notAllowed (h : Accord s request first text report result asked)
    (hasked : asked.length = 1) {issues : List Issue}
    (hresult : result = .error (.notAllowed issues)) :
    report.errors = issues.map Issue.toJson := by
  cases h with
  | notAllowed findings policy blocked =>
    cases hresult
    rfl
  | repaired c findings result read policy blocked => simp at hasked
  | _ => cases hresult

/-- A code is reported for a text that cannot be read, and for no other. -/
theorem unread_iff (h : Accord s request first text report result asked)
    (hcode : ∀ findings refused, report = .checked findings refused →
      ∀ f ∈ findings, f.issue.code ≠ "P001") :
    (∃ e ∈ report.errors, e.member? "code" = some (.str "P001")) ↔
      asked.length = 1 ∧ ∃ e, result = .error (.draft e) := by
  have hchecked : ∀ findings refused, report = .checked findings refused →
      ¬ ∃ e ∈ report.errors, e.member? "code" = some (.str "P001") := by
    rintro findings refused rfl ⟨e, he, hmember⟩
    obtain ⟨issue, hissue, rfl⟩ := List.mem_map.1 he
    obtain ⟨f, hf, rfl⟩ := Finding.exists_of_mem_blocks hissue
    exact hcode _ _ rfl f hf (Json.str.inj (Option.some.inj hmember))
  cases h with
  | unread e policy => exact ⟨fun _ => ⟨rfl, e, rfl⟩, fun _ => ⟨_, List.mem_cons_self, rfl⟩⟩
  | refused findings reason policy blocked => simpa using hchecked _ _ rfl
  | allowed findings g policy free warnings => simpa using hchecked _ _ rfl
  | notAllowed findings policy blocked => simpa using hchecked _ _ rfl
  | repaired c findings result read policy blocked => simpa using hchecked _ _ rfl

theorem errors_of_unread (h : Accord s request first text report result asked)
    (hasked : asked.length = 1) {e : DraftError} (hresult : result = .error (.draft e)) :
    report.errors = [Report.unreadableJson (FlowError.draft e).message] := by
  cases h with
  | unread e policy =>
    cases hresult
    rfl
  | repaired c findings result read policy blocked => simp at hasked
  | _ => cases hresult

theorem second_of_rest (h : Accord s request first text report result asked) :
    (asked.length = 1 ∧ ((∃ g, result = .ok g) ∨ (∃ reason, result = .error (.refused reason)) ∨
      (∃ e, result = .error (.draft e)) ∨ ∃ issues, result = .error (.notAllowed issues))) ∨
    ∃ c issues, candidate text = .ok c ∧ asked = [first, repairPrompt s request c issues] ∧
      issues ≠ [] ∧ report.errors = issues.map Issue.toJson := by
  cases h with
  | repaired c findings result read policy blocked =>
    refine .inr ⟨c, _, read, rfl, fun hnil => ?_, rfl⟩
    rw [Finding.blocks_eq_nil_iff, blocked] at hnil
    cases hnil
  | _ => simp

end Accord

/-- The offline check of a text and a session whose first reply is this text, under the standard
limits and the built-in catalog. The report is shown as its four parts. It is good exactly when the
session ends well after one question, and warns of the same; it names a refusal, or an unreadable
text, exactly when the session ends so after one question. Where the policy alone blocks, the report
has the issues that the session ends with. In every other case the session asks once more and shows
exactly the issues of the report. -/
theorem offline_agrees (text : String) (summaryLimit : Nat) (request : String)
    (context : List Message) (spent : Reply) (rest : List Reply) :
    let s : Setting := ⟨Catalog.builtin, {}, summaryLimit⟩
    let report := guard text
    let shown := fun i : Issue => Json.obj [("code", .str i.code), ("phase", .str i.phase.name),
      ("message", .str i.message), ("location", i.location.elim .null .str)]
    ∃ result asked left,
      (generate s request context).play spent (.ok text :: rest) = (result, asked, left) ∧
      report.toJson = .obj [("ok", .bool report.isOk), ("userError", .bool report.refused),
        ("errors", .arr report.errors), ("warnings", .arr report.warnings)] ∧
      (report.isOk = true ↔ asked.length = 1 ∧ ∃ g, result = .ok g) ∧
      (∀ g, asked.length = 1 → result = .ok g →
        report.errors = [] ∧ report.warnings = g.warnings.map shown) ∧
      (report.refused = true ↔ asked.length = 1 ∧ ∃ reason, result = .error (.refused reason)) ∧
      ((∃ e ∈ report.errors, e.member? "code" = some (.str "P001")) ↔
        asked.length = 1 ∧ ∃ e, result = .error (.draft e)) ∧
      (∀ e, asked.length = 1 → result = .error (.draft e) →
        report.errors = [.obj [("code", .str "P001"), ("phase", .str "Parse"),
          ("message", .str (FlowError.draft e).message), ("location", .null)]]) ∧
      (Overruled text ↔ asked.length = 1 ∧ ∃ issues, result = .error (.notAllowed issues)) ∧
      (∀ issues, asked.length = 1 → result = .error (.notAllowed issues) →
        report.errors = issues.map shown) ∧
      ((asked.length = 1 ∧ ((∃ g, result = .ok g) ∨ (∃ reason, result = .error (.refused reason)) ∨
          (∃ e, result = .error (.draft e)) ∨ ∃ issues, result = .error (.notAllowed issues))) ∨
        ∃ c issues, candidate text = .ok c ∧ issues ≠ [] ∧
          report.errors = issues.map shown ∧ asked.length = 2 ∧
          asked[1]? = some ⟨systemText s.catalog summaryLimit, [],
            "Fix the following errors and reply with corrected JSON only.\n\nErrors:\n" ++
              issueLines issues ++ "\n\nPrevious JSON:\n" ++ c.pretty ++ "\n\nRequest: " ++
              request, .zero⟩) := by
  intro s report shown
  obtain ⟨result, asked, left, hplay, h⟩ :=
    accord_generate s rfl rfl request context spent text rest
  have hshown : shown = Issue.toJson := funext fun i => i.toJson_eq.symm
  rw [hshown]
  refine ⟨result, asked, left, hplay, rfl, h.isOk_iff,
    fun g hasked => h.issues_of_ok hasked, h.refused_iff,
    h.unread_iff fun findings refused hreport f => code_ne_of_checked hreport,
    fun e hasked => h.errors_of_unread hasked, h.notAllowed_iff,
    fun issues hasked => h.errors_of_notAllowed hasked, ?_⟩
  refine h.second_of_rest.imp_right ?_
  rintro ⟨c, issues, hread, rfl, hissues, herrors⟩
  refine ⟨c, issues, hread, hissues, herrors, rfl, ?_⟩
  rw [← repairText_eq]
  rfl

/-- A flow that runs every two minutes, as a text. -/
def frequentText : String :=
  "\x7b\"actions\":[\x7b\"code\":\"r\",\"displayName\":\"R\",\"type\":\"CODE\"\x7d]," ++
  ("\"displayName\":\"F\",\"trigger\":\x7b\"displayName\":\"S\"," ++
  "\"input\":\x7b\"cronExpression\":\"*/2 * * * *\"\x7d,\"type\":\"SCHEDULE\"\x7d\x7d")

def frequent : Json := .obj [
  ("actions", .arr [.obj [("code", .str "r"), ("displayName", .str "R"), ("type", .str "CODE")]]),
  ("displayName", .str "F"),
  ("trigger", .obj [("displayName", .str "S"),
    ("input", .obj [("cronExpression", .str "*/2 * * * *")]), ("type", .str "SCHEDULE")])]

def frequentFlow : Flow where
  displayName := "F"
  trigger := .schedule "S" ⟨some "*/2 * * * *", none⟩
  actions := [.code "R" (some "r") []]
  connectionsNeeded := []
  explanation := none

theorem candidate_frequentText : candidate frequentText = .ok frequent := by
  refine candidate_eq_ok (append_eq_ofList rfl (append_eq_ofList rfl rfl)) ?_
  decide +kernel

theorem check_frequent : Candidate.check Catalog.builtin {} frequent =
    ⟨[], false, some frequentFlow⟩ := by
  rfl

/-- What the policy says of the flow. -/
def frequentIssue : Issue :=
  ⟨"G001", .safety, "Schedule runs every 2 minutes; the minimum interval is 5 minutes", none⟩

theorem policy_frequentFlow : Policy.findings {} frequentFlow = [.blocking frequentIssue] := by
  decide +kernel

theorem overruled_frequentText : Overruled frequentText :=
  ⟨frequent, frequentFlow, candidate_frequentText, by rw [check_frequent],
    by rw [policy_frequentFlow]; rfl⟩

theorem errors_frequentText : (guard frequentText).errors = [frequentIssue].map Issue.toJson := by
  rw [guard_of_accepted candidate_frequentText (by rw [check_frequent]), check_frequent,
    policy_frequentFlow]
  rfl

theorem errors_braces : (guard "\x7b\x7d").errors = bracesIssues.map Issue.toJson := by
  rw [guard_of_rejected candidate_braces rfl, Report.errors, Finding.blocks_eq, blocking_braces]

/-- The checks accept the flow and the policy blocks it: both report this, and nothing is asked
again. Of a text without members the session asks again, a text without braces is unreadable to
both, and a refusal is one to both. -/
theorem offline_agrees_on_frequent :
    (∃ asked left, (generate ⟨Catalog.builtin, {}, 0⟩ "F" []).play (.error "down")
        [.ok frequentText] = (.error (.notAllowed [frequentIssue]), asked, left) ∧
      asked.length = 1 ∧ (guard frequentText).errors = [.obj [("code", .str "G001"),
        ("phase", .str "Safety"),
        ("message", .str "Schedule runs every 2 minutes; the minimum interval is 5 minutes"),
        ("location", .null)]]) ∧
    (∃ result asked left, (generate ⟨Catalog.builtin, {}, 0⟩ "F" []).play (.error "down")
        [.ok "\x7b\x7d"] = (result, asked, left) ∧ asked.length = 2 ∧
      asked[1]?.map Prompt.user = some bracesQuestion ∧
      (guard "\x7b\x7d").errors[1]? = some (.obj [("code", .str "S003"), ("phase", .str "Schema"),
        ("message", .str "trigger is required and must be an object"),
        ("location", .str "trigger")])) ∧
    (∃ e asked left, (generate ⟨Catalog.builtin, {}, 0⟩ "F" []).play (.error "down")
        [.ok "no"] = (.error (.draft e), asked, left) ∧ asked.length = 1 ∧
      (guard "no").errors = [.obj [("code", .str "P001"), ("phase", .str "Parse"),
        ("message", .str "IR producer returned no JSON object"), ("location", .null)]]) ∧
    ∃ reason asked left, (generate ⟨Catalog.builtin, {}, 0⟩ "F" []).play (.error "down")
        [.ok impossibleText] = (.error (.refused reason), asked, left) ∧ asked.length = 1 ∧
      (guard impossibleText).refused = true := by
  refine ⟨?frequent, ?braces, ?unreadable, ?refused⟩
  case frequent =>
    obtain ⟨result, asked, left, hplay, -, -, -, -, -, -, hoverruled, herrors, -⟩ :=
      offline_agrees frequentText 0 "F" [] (.error "down") []
    obtain ⟨hasked, issues, rfl⟩ := hoverruled.1 overruled_frequentText
    have hissues := herrors issues hasked rfl
    simp only [← Issue.toJson_eq, errors_frequentText] at hissues
    obtain rfl := Issue.toJson_injective.list_map hissues
    exact ⟨asked, left, hplay, hasked, errors_frequentText⟩
  case braces =>
    obtain ⟨result, asked, left, hplay, -, hok, -, hrefused, hunread, -, hoverruled, -, hrest⟩ :=
      offline_agrees "\x7b\x7d" 0 "F" [] (.error "down") []
    have hguard := guard_of_rejected candidate_braces rfl
    rw [hguard] at hok hrefused hunread
    obtain ⟨hasked, hg | hreason | he | hissues⟩ | ⟨c, issues, hc, -, herrors, hasked, hsecond⟩ :=
      hrest
    · exact absurd (hok.2 ⟨hasked, hg⟩) (by decide)
    · exact absurd (hrefused.2 ⟨hasked, hreason⟩) (by decide)
    · obtain ⟨e, hmem, hcode⟩ := hunread.2 ⟨hasked, he⟩
      obtain ⟨issue, hissue, rfl⟩ := List.mem_map.1 hmem
      obtain ⟨f, hf, rfl⟩ := Finding.exists_of_mem_blocks hissue
      exact absurd (Json.str.inj (Option.some.inj hcode)) (Candidate.code_ne_parse hf)
    · exact absurd (hoverruled.2 ⟨hasked, hissues⟩)
        (not_overruled_of_rejected candidate_braces rfl)
    · simp only [← Issue.toJson_eq, errors_braces] at herrors
      obtain rfl := Issue.toJson_injective.list_map herrors
      obtain rfl := Except.ok.inj (candidate_braces.symm.trans hc)
      refine ⟨result, asked, left, hplay, hasked, ?_, by rw [errors_braces]; rfl⟩
      rw [hsecond, issueLines_braces]
      rfl
  case unreadable =>
    have hread : candidate "no" = .error (.noObject "no") := rfl
    obtain ⟨result, asked, left, hplay, -, -, -, -, hunread, -⟩ :=
      offline_agrees "no" 0 "F" [] (.error "down") []
    rw [guard_of_unreadable hread] at hunread ⊢
    obtain ⟨hasked, e, rfl⟩ := hunread.1 ⟨_, List.mem_cons_self, rfl⟩
    exact ⟨e, asked, left, hplay, hasked, rfl⟩
  case refused =>
    have hguard : (guard impossibleText).refused = true := by
      rw [guard_of_rejected candidate_impossibleText rfl]
      rfl
    obtain ⟨result, asked, left, hplay, -, -, -, hrefused, -⟩ :=
      offline_agrees impossibleText 0 "F" [] (.error "down") []
    obtain ⟨hasked, reason, rfl⟩ := hrefused.1 hguard
    exact ⟨reason, asked, left, hplay, hasked, hguard⟩

end Session
end Flowline
