import Flowline.Proofs.Deployment.Naming
import Flowline.Proofs.Session.Interval

/-!
The source of a code step, from the flow to the engine. The step takes its own text or else the
member `code` of its input, whichever comes first, and drops it when it is blank: a blank text of
its own hides the source in the input. The placeholder is sent, and the missing source reported,
exactly when no source is taken. What else the input holds is sent as it is.
-/
namespace Flowline
open Json

namespace Action

/-- The first text with more than blanks in it: the step's own, or else the member `code` of its
input. -/
def givenSource (own : Option String) (input : Members) : Option String :=
  (own.toList ++ ((assoc "code" input).bind asString).toList).find? fun s => !Text.isBlankText s

/-- A blank text of its own stands before the source in the input. -/
def HidesSource (own : Option String) (input : Members) : Prop :=
  ∃ text source, own = some text ∧ Text.isBlankText text = true ∧
    assoc "code" input = some (.str source) ∧ Text.isBlankText source = false

section
variable {own : Option String} {input : Members} {source : String}

theorem bind_asString_eq_some_iff :
    (assoc "code" input).bind asString = some source ↔ assoc "code" input = some (.str source) := by
  constructor
  · intro h
    obtain ⟨v, hv, hsource⟩ := Option.bind_eq_some_iff.1 h
    cases v <;> cases hsource
    exact hv
  · intro h
    rw [h]
    rfl

theorem codeSource_of_hidesSource (h : HidesSource own input) : codeSource own input = none := by
  obtain ⟨text, source, rfl, hblank, -, -⟩ := h
  simp [codeSource, hblank]

theorem givenSource_of_hidesSource (h : HidesSource own input) :
    ∃ source, givenSource own input = some source := by
  obtain ⟨text, source, rfl, hblank, hcode, hsource⟩ := h
  exact ⟨source, by simp [givenSource, hblank, bind_asString_eq_some_iff.2 hcode, hsource]⟩

/-- Unless one hides the other, the source that is given is taken. -/
theorem codeSource_eq_givenSource (h : ¬ HidesSource own input) :
    codeSource own input = givenSource own input := by
  cases own with
  | none =>
    cases hcode : (assoc "code" input).bind asString with
    | none => simp [codeSource, givenSource, hcode]
    | some source =>
      by_cases hsource : Text.isBlankText source = true
      · simp [codeSource, givenSource, hcode, hsource]
      · simp [codeSource, givenSource, hcode, hsource]
  | some text =>
    by_cases hblank : Text.isBlankText text = true
    · have hnone : (((assoc "code" input).bind asString).toList.find?
          fun s => !Text.isBlankText s) = none := by
        rw [List.find?_eq_none]
        intro source hmem hsource
        have hcode := bind_asString_eq_some_iff.1 (Option.mem_toList.1 hmem)
        exact h ⟨text, source, rfl, hblank, hcode, by simpa using hsource⟩
      simp [codeSource, givenSource, hblank, hnone]
    · simp [codeSource, givenSource, hblank]

end

end Action

/-- The semantic findings at the place of an action are what is wrong with that action. -/
theorem Flow.mem_semanticFindings_at_iff (catalog : Catalog) (limits : Limits) {flow : Flow}
    {p : Path} {a : Action} (hp : (p, a) ∈ flow.walk) {f : Finding} :
    f ∈ flow.semanticFindings catalog limits ∧ f.issue.location = some p.text ↔
      ∃ fault, Semantic.actionFault catalog a = some fault ∧
        f = Semantic.Report.finding ⟨fault, .action p⟩ := by
  have hlocated : f ∈ flow.semanticFindings catalog limits ∧ f.issue.location = some p.text ↔
      f ∈ Finding.located p.text (flow.semanticFindings catalog limits) := by
    rw [Finding.located, List.mem_filter, decide_eq_true_iff]
  rw [hlocated, Semantic.located_text (Flow.mem_walk.1 hp), Semantic.actionFindings]
  simp only [List.mem_filterMap, List.mem_singleton, exists_eq_left, Option.map_eq_some_iff]
  exact exists_congr fun fault => and_congr_right' eq_comm

/-- The missing source of a code step is reported at its place. -/
def Flow.ReportsNoSource (catalog : Catalog) (limits : Limits) (flow : Flow) (p : Path) : Prop :=
  ∃ f ∈ flow.semanticFindings catalog limits,
    f.issue.code = "V009" ∧ f.issue.location = some p.text

theorem Flow.reportsNoSource_iff (catalog : Catalog) (limits : Limits) {flow : Flow} {p : Path}
    {name : String} {own : Option String} {input : Members}
    (hp : (p, .code name own input) ∈ flow.walk) :
    flow.ReportsNoSource catalog limits p ↔ Action.codeSource own input = none := by
  constructor
  · rintro ⟨f, hf, -, hlocation⟩
    obtain ⟨fault, hfault, -⟩ := (mem_semanticFindings_at_iff catalog limits hp).1 ⟨hf, hlocation⟩
    by_contra hsource
    simp [Semantic.actionFault, hsource] at hfault
  · intro hsource
    have hfault : Semantic.actionFault catalog (.code name own input) = some (.noSource name) := by
      simp [Semantic.actionFault, hsource]
    obtain ⟨hf, hlocation⟩ :=
      (mem_semanticFindings_at_iff catalog limits hp).2 ⟨_, hfault, rfl⟩
    exact ⟨_, hf, rfl, hlocation⟩

/-- A member of the input of a step as it is sent. -/
def Step.sentInput (s : Step) (key : String) : Option Json :=
  s.toJson.follow ["settings", "input", key]

theorem Step.sentInput_code (step name : String) (own : Option String) (input : Members)
    (key : String) :
    (ofAction step (.code name own input)).sentInput key =
      if key = "code" then some (.str ((Action.codeSource own input).getD placeholder))
      else assoc key input := by
  have hsent : (ofAction step (.code name own input)).sentInput key =
      (assoc key (Dict.insertEntry "code" (.str ((Action.codeSource own input).getD placeholder))
        input)).bind (·.follow []) := rfl
  rw [hsent, Dict.assoc_insertEntry]
  by_cases hkey : key = "code"
  · simp [hkey, Json.follow]
  · simp [hkey, Ne.symm hkey, Json.follow]

/-- Unless a blank text of its own hides the source in the input, a code step is sent with the
source that is given, the missing source is reported exactly when none is given, and the placeholder
is sent only then. A source that is hidden is lost: the placeholder is sent, and the source reported
as missing. Every other member of the input is sent as it is, and no member is added. -/
theorem source_kept_iff (catalog : Catalog) (limits : Limits) (flow : Flow) {p : Path}
    {name : String} {own : Option String} {input : Members}
    (hp : (p, .code name own input) ∈ flow.walk) (step : String) :
    (¬ Action.HidesSource own input ↔
      (Action.code name own input).source = Action.givenSource own input ∧
      (Step.ofAction step (.code name own input)).sentInput "code" =
        some (.str ((Action.givenSource own input).getD Step.placeholder)) ∧
      (flow.ReportsNoSource catalog limits p ↔ Action.givenSource own input = none)) ∧
    (Action.HidesSource own input →
      (Action.code name own input).source = none ∧
      (Step.ofAction step (.code name own input)).sentInput "code" =
        some (.str Step.placeholder) ∧
      flow.ReportsNoSource catalog limits p) ∧
    ∀ key, key ≠ "code" →
      (Step.ofAction step (.code name own input)).sentInput key = assoc key input := by
  have hreports := Flow.reportsNoSource_iff catalog limits hp
  have hcode := Step.sentInput_code step name own input "code"
  rw [if_pos rfl] at hcode
  refine ⟨⟨fun hshown => ?kept, fun hkept hhides => ?given⟩, fun hhides => ?lost,
    fun key hkey => ?rest⟩
  case kept =>
    have hsource := Action.codeSource_eq_givenSource hshown
    exact ⟨hsource, by rw [hcode, hsource], by rw [hreports, hsource]⟩
  case given =>
    obtain ⟨source, hgiven⟩ := Action.givenSource_of_hidesSource hhides
    have hnone : Action.givenSource own input = none := by
      rw [← hkept.1]
      exact Action.codeSource_of_hidesSource hhides
    rw [hgiven] at hnone
    cases hnone
  case lost =>
    have hnone := Action.codeSource_of_hidesSource hhides
    exact ⟨hnone, by rw [hcode, hnone, Option.getD_none], hreports.2 hnone⟩
  case rest => rw [Step.sentInput_code, if_neg hkey]

/-- A source in the input of a code step two branches deep, beside another member. -/
def tucked : Flow where
  displayName := "Report"
  trigger := .webhook "Call" []
  actions := [.branch "Check" [.arr []] []
    [.branch "Again" [.arr []]
      [.code "Run" none [("code", .str "return 1"), ("rows", .str "all")]] []]]
  connectionsNeeded := []
  explanation := none

theorem source_kept_tucked :
    ¬ Action.HidesSource none [("code", .str "return 1"), ("rows", .str "all")] ∧
    (Step.ofAction "step_1" (.code "Run" none [("code", .str "return 1"), ("rows", .str "all")])
      ).sentInput "code" = some (.str "return 1") ∧
    (Step.ofAction "step_1" (.code "Run" none [("code", .str "return 1"), ("rows", .str "all")])
      ).sentInput "rows" = some (.str "all") ∧
    ¬ tucked.ReportsNoSource Catalog.builtin {} ⟨0, [(.onFalse, 0), (.onTrue, 0)]⟩ := by
  have hp : (⟨0, [(.onFalse, 0), (.onTrue, 0)]⟩,
      .code "Run" none [("code", .str "return 1"), ("rows", .str "all")]) ∈ tucked.walk :=
    Flow.mem_walk.2 rfl
  have hshown : ¬ Action.HidesSource none [("code", .str "return 1"), ("rows", .str "all")] := by
    rintro ⟨text, source, hown, -⟩
    cases hown
  have hgiven : Action.givenSource none [("code", .str "return 1"), ("rows", .str "all")] =
      some "return 1" := by decide +kernel
  obtain ⟨hkept, -, hrest⟩ := source_kept_iff Catalog.builtin {} tucked hp "step_1"
  obtain ⟨-, hcode, hreports⟩ := hkept.1 hshown
  refine ⟨hshown, by rw [hcode, hgiven]; rfl, hrest "rows" (by decide), fun h => ?_⟩
  rw [hreports, hgiven] at h
  cases h

/-- A blank text of its own before the source in the input. -/
def shadowed : Flow where
  displayName := "Report"
  trigger := .webhook "Call" []
  actions := [.code "Run" (some " ") [("code", .str "return 1")]]
  connectionsNeeded := []
  explanation := none

/-- The source is given, and the placeholder is sent. -/
theorem shadowed_lost :
    Action.givenSource (some " ") [("code", .str "return 1")] = some "return 1" ∧
    (Step.ofAction "step_1" (.code "Run" (some " ") [("code", .str "return 1")])).sentInput "code" =
      some (.str "// Add your code here") ∧
    shadowed.ReportsNoSource Catalog.builtin {} ⟨0, []⟩ := by
  have hnone : Action.codeSource (some " ") [("code", .str "return 1")] = none := by decide +kernel
  have hp : (⟨0, []⟩, .code "Run" (some " ") [("code", .str "return 1")]) ∈ shadowed.walk :=
    Flow.mem_walk.2 rfl
  refine ⟨by decide +kernel, ?_, (Flow.reportsNoSource_iff Catalog.builtin {} hp).2 hnone⟩
  rw [Step.sentInput_code, if_pos rfl, hnone]
  rfl

end Flowline
