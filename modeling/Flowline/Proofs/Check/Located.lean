import Flowline.Catalog.Builtin
import Flowline.Check.Candidate
import Flowline.Proofs.Check.Frequency
import Flowline.Proofs.Flow.Arms
import Flowline.Proofs.Flow.PathText

/-!
Semantic findings and their places. Behind the findings on the trigger there is one for each action
that breaks a rule, at its path and in the order of the walk, and what is found at an action is told
by the action alone. From the number of top-level actions that advises, a flow is either advised or
blocked.
-/
namespace Flowline

/-- The findings that name a location. -/
def Finding.located (location : String) (findings : List Finding) : List Finding :=
  findings.filter fun f => f.issue.location = some location

theorem Finding.located_append (location : String) (l l' : List Finding) :
    located location (l ++ l') = located location l ++ located location l' := List.filter_append ..

/-- A path is visited once. -/
theorem Flow.filter_walk {flow : Flow} {p : Path} {a : Action}
    (h : flow.resolve? p = some a) : flow.walk.filter (fun e => e.1 = p) = [(p, a)] := by
  obtain ⟨before, after, hwalk⟩ := List.append_of_mem (Flow.mem_walk.2 h)
  have hnodup := flow.nodup_walk
  rw [hwalk, List.map_append, List.map_cons, List.nodup_middle, List.nodup_cons] at hnodup
  have hother : ∀ e ∈ before ++ after, ¬ decide (e.1 = p) = true := by
    intro e he hp
    refine hnodup.1 ?_
    rw [← List.map_append]
    exact List.mem_map.2 ⟨e, he, of_decide_eq_true hp⟩
  have hbefore : before.filter (fun e => e.1 = p) = [] :=
    List.filter_eq_nil_iff.2 fun e he => hother e (List.mem_append_left _ he)
  have hafter : after.filter (fun e => e.1 = p) = [] :=
    List.filter_eq_nil_iff.2 fun e he => hother e (List.mem_append_right _ he)
  rw [hwalk, List.filter_append, List.filter_cons_of_pos (by simp), hbefore, hafter,
    List.nil_append]

namespace Semantic

/-- Why a reference does not resolve: there is no such piece, or it has no such operation. -/
inductive Unresolved (catalog : Catalog) (piece operation : String) :
    Catalog.ReferenceError → Prop
  | piece (h : catalog.lookup piece = none) :
    Unresolved catalog piece operation (.unknownPiece piece (catalog.similar piece))
  | operation {p : Piece} (hp : catalog.lookup piece = some p)
      (h : p.hasOperation operation = false) :
    Unresolved catalog piece operation
      (.unknownOperation p.displayName operation p.operationNames)

/-- What is found at an action at a location, by what the action itself says. -/
inductive FoundAt (catalog : Catalog) (location : String) : Action → Finding → Prop
  | incomplete {name piece operation : String} {input : Json.Members}
      (h : Text.isBlankText piece = true ∨ Text.isBlankText operation = true) :
    FoundAt catalog location (.piece name piece operation input)
      (.blocking ⟨"V006", .semantic,
        "Step '" ++ name ++ "' requires both pieceName and actionName", some location⟩)
  | unresolved {name piece operation : String} {input : Json.Members}
      {why : Catalog.ReferenceError} (hpiece : Text.isBlankText piece = false)
      (hoperation : Text.isBlankText operation = false)
      (h : Unresolved catalog piece operation why) :
    FoundAt catalog location (.piece name piece operation input)
      (.advisory ⟨"V007", .semantic,
        "Step '" ++ name ++ "' will be ignored at build time: " ++ why.message, some location⟩)
  | unconditional {name : String} {onTrue onFalse : List Action} :
    FoundAt catalog location (.branch name [] onTrue onFalse)
      (.blocking ⟨"V008", .semantic,
        "Branch '" ++ name ++ "' requires at least one condition", some location⟩)
  | sourceless {name : String} {own : Option String} {input : Json.Members}
      (h : (Action.code name own input).source = none) :
    FoundAt catalog location (.code name own input)
      (.advisory ⟨"V009", .semantic,
        "Code step '" ++ name ++ "' has no source and will compile to a placeholder",
        some location⟩)

/-- Findings in the order of visits: one at each action where there is something to find, and none
at the others. -/
inductive FoundAlong (catalog : Catalog) : List (Path × Action) → List Finding → Prop
  | nil : FoundAlong catalog [] []
  | found {p : Path} {a : Action} {f : Finding} {visits : List (Path × Action)}
      {findings : List Finding} (h : FoundAt catalog p.text a f)
      (hrest : FoundAlong catalog visits findings) :
    FoundAlong catalog ((p, a) :: visits) (f :: findings)
  | clear {p : Path} {a : Action} {visits : List (Path × Action)} {findings : List Finding}
      (h : ∀ f, ¬ FoundAt catalog p.text a f) (hrest : FoundAlong catalog visits findings) :
    FoundAlong catalog ((p, a) :: visits) findings

variable {catalog : Catalog} {limits : Limits}

theorem unresolved_eq_some_iff {piece operation : String} {why : Catalog.ReferenceError}
    (h : Text.isBlankText operation = false) :
    unresolved catalog piece operation = some why ↔ Unresolved catalog piece operation why := by
  have hempty : operation.isEmpty = false := by
    by_contra hempty
    obtain rfl : operation = "" := by simpa using hempty
    cases h
  unfold unresolved Catalog.resolve
  cases hlookup : catalog.lookup piece with
  | none =>
    constructor
    · rintro ⟨⟩
      exact .piece hlookup
    · rintro (- | ⟨hp, -⟩)
      · rfl
      · cases hlookup.symm.trans hp
  | some p =>
    cases hoperation : p.hasOperation operation with
    | true =>
      simp only [hempty, hoperation, Bool.or_true, if_true, reduceCtorEq, false_iff]
      rintro (hnone | ⟨hp, hfalse⟩)
      · cases hlookup.symm.trans hnone
      · obtain rfl := Option.some.inj (hlookup.symm.trans hp)
        cases hoperation.symm.trans hfalse
    | false =>
      simp only [hempty, hoperation, Bool.or_self, Bool.false_eq_true, if_false]
      constructor
      · rintro ⟨⟩
        exact .operation hlookup hoperation
      · rintro (hnone | ⟨hp, -⟩)
        · cases hlookup.symm.trans hnone
        · obtain rfl := Option.some.inj (hlookup.symm.trans hp)
          rfl

theorem foundAt_iff {p : Path} {a : Action} {f : Finding} :
    FoundAt catalog p.text a f ↔
      ∃ fault, actionFault catalog a = some fault ∧ Report.finding ⟨fault, .action p⟩ = f := by
  cases a with
  | piece name piece operation input =>
    rw [actionFault]
    split
    · next hblank =>
      rw [incomplete, Bool.or_eq_true] at hblank
      constructor
      · rintro (- | ⟨hpiece, hoperation, -⟩)
        · exact ⟨_, rfl, rfl⟩
        · simp [hpiece, hoperation] at hblank
      · rintro ⟨fault, hfault, rfl⟩
        obtain rfl := Option.some.inj hfault
        exact .incomplete hblank
    · next hblank =>
      rw [incomplete, Bool.or_eq_true, not_or, Bool.not_eq_true, Bool.not_eq_true] at hblank
      constructor
      · rintro (hincomplete | ⟨-, -, hwhy⟩)
        · simp [hblank] at hincomplete
        · rw [(unresolved_eq_some_iff hblank.2).2 hwhy]
          exact ⟨_, rfl, rfl⟩
      · rintro ⟨fault, hfault, rfl⟩
        obtain ⟨why, hwhy, rfl⟩ := Option.map_eq_some_iff.1 hfault
        exact .unresolved hblank.1 hblank.2 ((unresolved_eq_some_iff hblank.2).1 hwhy)
  | code name own input =>
    rw [actionFault]
    split
    · next hsource =>
      rw [Option.isNone_iff_eq_none] at hsource
      constructor
      · intro h
        cases h with
        | sourceless => exact ⟨_, rfl, rfl⟩
      · rintro ⟨fault, hfault, rfl⟩
        obtain rfl := Option.some.inj hfault
        exact .sourceless hsource
    · next hsource =>
      rw [Option.isNone_iff_eq_none] at hsource
      constructor
      · intro h
        cases h with
        | sourceless hnone => exact absurd hnone hsource
      · rintro ⟨fault, hfault, -⟩
        cases hfault
  | branch name conditions onTrue onFalse =>
    cases conditions with
    | nil =>
      constructor
      · rintro ⟨⟩
        exact ⟨_, rfl, rfl⟩
      · rintro ⟨fault, hfault, rfl⟩
        obtain rfl := Option.some.inj hfault
        exact .unconditional
    | cons condition rest =>
      constructor
      · rintro ⟨⟩
      · rintro ⟨fault, hfault, -⟩
        cases hfault

/-- What the children of an action are does not matter. -/
theorem actionFault_bare (a : Action) : actionFault catalog a.bare = actionFault catalog a := by
  cases a <;> rfl

/-- The findings at the actions that are visited. -/
def actionFindings (catalog : Catalog) (visits : List (Path × Action)) : List Finding :=
  visits.filterMap fun e =>
    (actionFault catalog e.2).map fun fault => Report.finding ⟨fault, .action e.1⟩

theorem foundAlong_actionFindings (visits : List (Path × Action)) :
    FoundAlong catalog visits (actionFindings catalog visits) := by
  induction visits with
  | nil => exact .nil
  | cons e visits ih =>
    obtain ⟨p, a⟩ := e
    rw [actionFindings, List.filterMap_cons]
    cases hfault : actionFault catalog a with
    | none =>
      refine .clear (fun f hf => ?_) ih
      obtain ⟨fault, h, -⟩ := foundAt_iff.1 hf
      cases hfault.symm.trans h
    | some fault => exact .found (foundAt_iff.2 ⟨fault, hfault, rfl⟩) ih

theorem issue_finding (r : Report) : r.finding.issue = r.issue := by
  rw [Report.finding]
  split <;> rfl

theorem location_finding (r : Report) : r.finding.issue.location = r.place.text? := by
  rw [issue_finding]
  rfl

/-- Of the findings at actions, those at a path are on the visits of that path. -/
theorem located_actionFindings (p : Path) (visits : List (Path × Action)) :
    Finding.located p.text (actionFindings catalog visits) =
      actionFindings catalog (visits.filter fun e => e.1 = p) := by
  rw [Finding.located, actionFindings, List.filter_filterMap, actionFindings, List.filterMap_filter]
  congr 1
  funext e
  cases actionFault catalog e.2 with
  | none => simp
  | some fault =>
    have hlocation : (Report.finding ⟨fault, .action e.1⟩).issue.location = some p.text ↔
        e.1 = p := by
      rw [location_finding]
      simp [Place.text?, Path.text_injective.eq_iff]
    by_cases he : e.1 = p
    · rw [if_pos (decide_eq_true he), Option.map_some, Option.filter_some,
        if_pos (decide_eq_true (hlocation.2 he))]
    · rw [if_neg (by simpa using he), Option.map_some, Option.filter_some,
        if_neg (by simpa [hlocation] using he)]

/-- The findings on a trigger. -/
def triggerFindings (catalog : Catalog) (t : Trigger) : List Finding :=
  (triggerFaults catalog t).map fun fault => Report.finding ⟨fault, .trigger⟩

/-- The advice on the number of top-level actions, if any. -/
def countFindings (limits : Limits) (count : Nat) : List Finding :=
  if limits.warnActions ≤ count ∧ count ≤ limits.maxActions then
    [.advisory ⟨"V010", .semantic,
      "Flow has " ++ toString count ++ " steps; consider splitting it into smaller flows", none⟩]
  else []

theorem semanticFindings_eq (flow : Flow) :
    flow.semanticFindings catalog limits =
      triggerFindings catalog flow.trigger ++ actionFindings catalog flow.walk ++
        countFindings limits flow.actions.length := by
  have hcount : ((countFault limits flow.actions.length).map (Report.mk · .flow)).toList.map
      Report.finding = countFindings limits flow.actions.length := by
    rw [countFault, countFindings]
    split <;> rfl
  rw [Flow.semanticFindings, check, List.map_append, List.map_append, hcount, List.map_map,
    List.map_filterMap]
  congr 3
  funext e
  rw [Option.map_map]
  rfl

theorem located_countFindings (location : String) (count : Nat) :
    Finding.located location (countFindings limits count) = [] := by
  rw [countFindings]
  split
  · simp [Finding.located, Finding.issue]
  · rfl

theorem location_of_mem_triggerFindings {t : Trigger} {f : Finding}
    (h : f ∈ triggerFindings catalog t) : f.issue.location = some "trigger" := by
  obtain ⟨fault, -, rfl⟩ := List.mem_map.1 h
  exact location_finding _

theorem location_of_mem_actionFindings {visits : List (Path × Action)} {f : Finding}
    (h : f ∈ actionFindings catalog visits) : ∃ p : Path, f.issue.location = some p.text := by
  obtain ⟨e, -, hfault⟩ := List.mem_filterMap.1 h
  obtain ⟨fault, -, rfl⟩ := Option.map_eq_some_iff.1 hfault
  exact ⟨e.1, location_finding _⟩

theorem located_trigger (flow : Flow) :
    Finding.located "trigger" (flow.semanticFindings catalog limits) =
      triggerFindings catalog flow.trigger := by
  have htrigger : Finding.located "trigger" (triggerFindings catalog flow.trigger) =
      triggerFindings catalog flow.trigger :=
    List.filter_eq_self.2 fun f hf => decide_eq_true (location_of_mem_triggerFindings hf)
  have hactions : Finding.located "trigger" (actionFindings catalog flow.walk) = [] := by
    refine List.filter_eq_nil_iff.2 fun f hf => ?_
    obtain ⟨p, hp⟩ := location_of_mem_actionFindings hf
    simp [hp, p.text_ne_trigger]
  rw [semanticFindings_eq, Finding.located_append, Finding.located_append, htrigger, hactions,
    located_countFindings, List.append_nil, List.append_nil]

/-- What is found at the place of an action is found at this action. -/
theorem located_text {flow : Flow} {p : Path} {a : Action} (h : flow.resolve? p = some a) :
    Finding.located p.text (flow.semanticFindings catalog limits) =
      actionFindings catalog [(p, a)] := by
  have htrigger : Finding.located p.text (triggerFindings catalog flow.trigger) = [] := by
    refine List.filter_eq_nil_iff.2 fun f hf => ?_
    simp [location_of_mem_triggerFindings hf, p.text_ne_trigger.symm]
  rw [semanticFindings_eq, Finding.located_append, Finding.located_append, htrigger,
    located_actionFindings, Flow.filter_walk h, located_countFindings, List.nil_append,
    List.append_nil]

/-- What is found at an action is not about their number. -/
theorem FoundAt.code_ne {location : String} {a : Action} {f : Finding}
    (h : FoundAt catalog location a f) : f.issue.code ≠ "V010" := by
  cases h <;> simp [Finding.issue]

theorem code_ne_of_mem_triggerFindings {t : Trigger} {f : Finding}
    (h : f ∈ triggerFindings catalog t) : f.issue.code ≠ "V010" := by
  obtain ⟨fault, hfault, rfl⟩ := List.mem_map.1 h
  rw [issue_finding]
  change fault.code ≠ "V010"
  cases t with
  | schedule name input =>
    rcases List.mem_append.1 hfault with hcron | hreference
    · rw [Option.mem_toList, cronFault] at hcron
      split at hcron
      · obtain rfl := Option.some.inj hcron
        decide
      · split at hcron
        · cases hcron
        · obtain rfl := Option.some.inj hcron
          simp [Fault.code]
    · obtain ⟨why, -, rfl⟩ := Option.map_eq_some_iff.1 (Option.mem_toList.1 hreference)
      simp [Fault.code]
  | pieceEvent name piece trigger input =>
    rw [triggerFaults] at hfault
    split at hfault
    · obtain rfl := List.mem_singleton.1 hfault
      decide
    · obtain ⟨why, -, rfl⟩ := Option.map_eq_some_iff.1 (Option.mem_toList.1 hfault)
      simp [Fault.code]
  | webhook => cases hfault

theorem filter_countFindings (flow : Flow) :
    (flow.semanticFindings catalog limits).filter (fun f => f.issue.code = "V010") =
      countFindings limits flow.actions.length := by
  have htrigger : (triggerFindings catalog flow.trigger).filter
      (fun f => f.issue.code = "V010") = [] := by
    rw [List.filter_eq_nil_iff]
    intro f hf
    simp [code_ne_of_mem_triggerFindings hf]
  have hactions : (actionFindings catalog flow.walk).filter
      (fun f => f.issue.code = "V010") = [] := by
    rw [List.filter_eq_nil_iff]
    intro f hf
    obtain ⟨⟨p, a⟩, -, hfault⟩ := List.mem_filterMap.1 hf
    obtain ⟨fault, h, rfl⟩ := Option.map_eq_some_iff.1 hfault
    simp [(foundAt_iff.2 ⟨fault, h, rfl⟩).code_ne]
  have hcount : (countFindings limits flow.actions.length).filter
      (fun f => f.issue.code = "V010") = countFindings limits flow.actions.length := by
    rw [countFindings]
    split <;> rfl
  rw [semanticFindings_eq, List.filter_append, List.filter_append, htrigger, hactions, hcount]
  rfl

end Semantic

namespace Policy

theorem code_ne_of_mem_scheduleFaults {limits : Limits} {expr : String} {fault : Fault}
    (h : fault ∈ scheduleFaults limits expr) : fault.code ≠ "G005" := by
  rw [scheduleFaults, List.mem_append, List.mem_append] at h
  rcases h with (h | h) | h
  · split at h
    · split at h
      · obtain rfl := List.mem_singleton.1 h
        simp [Fault.code]
      · cases h
    · cases h
  · split at h
    · obtain rfl := List.mem_singleton.1 h
      decide
    · cases h
  · split at h
    · obtain rfl := List.mem_singleton.1 h
      decide
    · cases h

theorem code_ne_of_mem_triggerFaults {limits : Limits} {flow : Flow} {fault : Fault}
    (h : fault ∈ triggerFaults limits flow) : fault.code ≠ "G005" := by
  unfold triggerFaults at h
  split at h
  · next name input _ =>
    cases hcron : input.cron with
    | none =>
      rw [hcron] at h
      cases h
    | some expr =>
      rw [hcron] at h
      exact code_ne_of_mem_scheduleFaults h
  · split at h
    · obtain rfl := List.mem_singleton.1 h
      decide
    · cases h
  · cases h

/-- The policy blocks a flow for its size above the largest number of actions. -/
theorem coded_tooManyActions (limits : Limits) (flow : Flow) :
    coded "G005" limits flow =
      if limits.maxActions < flow.actions.length then
        [.blocking ⟨"G005", .safety, "Flow has " ++ toString flow.actions.length ++
          " steps; the maximum is " ++ toString limits.maxActions, none⟩]
      else [] := by
  have htrigger : (triggerFaults limits flow).filter (fun f => f.code = "G005") = [] := by
    rw [List.filter_eq_nil_iff]
    intro fault h
    simp [code_ne_of_mem_triggerFaults h]
  rw [coded_eq_map, check, List.filter_append, htrigger, List.nil_append]
  split <;> rfl

end Policy

/-- The semantic findings of a flow are those on its trigger, then one at each action that breaks a
rule, at its path and in the order of the walk, then at most the advice on the number of actions.
What is found at the place of an action is told by the action itself, its children apart, whatever
else is in the flow. From the number of top-level actions that advises on, a flow has either this
advice or a block of the policy for its size. -/
theorem semanticFindings_located (catalog : Catalog) (limits : Limits) (flow : Flow) :
    (∃ found, Semantic.FoundAlong catalog flow.walk found ∧
      flow.semanticFindings catalog limits =
        Semantic.triggerFindings catalog flow.trigger ++ found ++
          Semantic.countFindings limits flow.actions.length) ∧
    Finding.located "trigger" (flow.semanticFindings catalog limits) =
      Semantic.triggerFindings catalog flow.trigger ∧
    (∀ p a, flow.resolve? p = some a →
      Semantic.FoundAlong catalog [(p, a)]
        (Finding.located p.text (flow.semanticFindings catalog limits)) ∧
      ∀ (other : Flow) (b : Action), other.resolve? p = some b → b.bare = a.bare →
        Finding.located p.text (other.semanticFindings catalog limits) =
          Finding.located p.text (flow.semanticFindings catalog limits)) ∧
    (limits.warnActions ≤ flow.actions.length →
      let advice := (flow.semanticFindings catalog limits).filter fun f => f.issue.code = "V010"
      let blocks := Policy.coded "G005" limits flow
      (∃ i, advice = [.advisory i] ∧ blocks = []) ∨ ∃ i, advice = [] ∧ blocks = [.blocking i]) := by
  refine ⟨⟨_, Semantic.foundAlong_actionFindings _, Semantic.semanticFindings_eq flow⟩,
    Semantic.located_trigger flow, fun p a hp => ⟨?_, fun other b hb hbare => ?_⟩, fun hwarn => ?_⟩
  · rw [Semantic.located_text hp]
    exact Semantic.foundAlong_actionFindings _
  · have hfault : Semantic.actionFault catalog b = Semantic.actionFault catalog a := by
      rw [← Semantic.actionFault_bare, hbare, Semantic.actionFault_bare]
    rw [Semantic.located_text hp, Semantic.located_text hb]
    simp only [Semantic.actionFindings, List.filterMap_cons, hfault]
  · rw [Semantic.filter_countFindings, Policy.coded_tooManyActions, Semantic.countFindings]
    by_cases hmax : flow.actions.length ≤ limits.maxActions
    · rw [if_pos ⟨hwarn, hmax⟩, if_neg (Nat.not_lt.2 hmax)]
      exact .inl ⟨_, rfl, rfl⟩
    · rw [if_neg fun h => hmax h.2, if_pos (Nat.lt_of_not_le hmax)]
      exact .inr ⟨_, rfl, rfl⟩

/-- A branch that cannot be built, with a step in an arm that cannot be built either. -/
def flawed : Flow where
  displayName := "Report"
  trigger := .webhook "Call" []
  actions := [.branch "Check" [] [.code "Run" (some "return 1") []] [.piece "Mail" " " "send" []],
    .piece "Post" "mailer" "send" []]
  connectionsNeeded := []
  explanation := none

theorem semanticFindings_located_flawed :
    flawed.resolve? ⟨0, [(.onFalse, 0)]⟩ = some (.piece "Mail" " " "send" []) ∧
    Finding.located "actions[0].onFailureActions[0]"
        (flawed.semanticFindings Catalog.builtin { warnActions := 2, maxActions := 1 }) =
      [.blocking ⟨"V006", .semantic, "Step 'Mail' requires both pieceName and actionName",
        some "actions[0].onFailureActions[0]"⟩] ∧
    2 ≤ flawed.actions.length ∧
    ∃ i, Policy.coded "G005" { warnActions := 2, maxActions := 1 } flawed = [.blocking i] := by
  have hp : flawed.resolve? ⟨0, [(.onFalse, 0)]⟩ = some (.piece "Mail" " " "send" []) := rfl
  have hwarn : 2 ≤ flawed.actions.length := by decide
  obtain ⟨-, -, hplaces, hcount⟩ := semanticFindings_located Catalog.builtin
    { warnActions := 2, maxActions := 1 } flawed
  have htext : Path.text ⟨0, [(.onFalse, 0)]⟩ = "actions[0].onFailureActions[0]" := by decide +kernel
  have hblank : Text.isBlankText " " = true ∨ Text.isBlankText "send" = true :=
    .inl (by decide +kernel)
  refine ⟨hp, ?_, hwarn, ?_⟩
  · have hfound := (hplaces _ _ hp).1
    rw [htext] at hfound
    generalize Finding.located "actions[0].onFailureActions[0]" _ = findings at hfound ⊢
    cases hfound with
    | found h hrest =>
      cases hrest
      rw [htext] at h
      cases h with
      | incomplete => rfl
      | unresolved hpiece => exact absurd hpiece (by decide +kernel)
    | clear h => exact absurd (.incomplete hblank) (h _)
  · obtain ⟨i, hadvice, -⟩ | ⟨i, -, hblocks⟩ := hcount hwarn
    · rw [Semantic.filter_countFindings] at hadvice
      cases hadvice
    · exact ⟨i, hblocks⟩

end Flowline
