import Flowline.Catalog.Builtin
import Flowline.Session.Deploy

/-!
What the catalog can change. A flow is checked against the pieces that are known, and what is known
may be old; so whatever two catalogs hold, the findings under them differ in the advice about
references only, and a deployment takes the same course under both.
-/
namespace Flowline
open Deployment

/-- Whether an issue is about a reference that the catalog does not resolve. -/
def Issue.isReference (i : Issue) : Bool := ["V005", "V007"].contains i.code

namespace Finding

def isReference : Finding → Bool
  | .blocking _ => false
  | .advisory i => i.isReference

/-- The findings other than advice about references. -/
def settled (findings : List Finding) : List Finding := findings.filter fun f => !f.isReference

theorem filter_isBlocking_settled (findings : List Finding) :
    (settled findings).filter isBlocking = findings.filter isBlocking := by
  rw [settled, List.filter_filter]
  congr 1
  funext f
  cases f <;> simp [isBlocking, isReference]

theorem any_isBlocking_settled (findings : List Finding) :
    (settled findings).any isBlocking = findings.any isBlocking := by
  rw [settled, List.any_filter]
  congr 1
  funext f
  cases f <;> simp [isBlocking, isReference]

theorem blocks_settled (findings : List Finding) : blocks (settled findings) = blocks findings := by
  rw [settled, blocks, List.filterMap_filter]
  congr 1
  funext f
  cases f <;> simp [isReference]

theorem advice_settled (findings : List Finding) :
    advice (settled findings) = (advice findings).filter fun i => !i.isReference := by
  rw [settled, advice, advice, List.filterMap_filter, List.filter_filterMap]
  congr 1
  funext f
  cases f <;> simp [isReference, Option.filter]

theorem settled_append (l m : List Finding) : settled (l ++ m) = settled l ++ settled m :=
  List.filter_append ..

end Finding

namespace Semantic

/-- Whether a rule looks into the catalog. -/
def Fault.isReference : Fault → Bool
  | unresolvedTrigger _ | unresolvedPiece .. => true
  | _ => false

theorem isReference_finding (r : Report) : r.finding.isReference = r.fault.isReference := by
  obtain ⟨fault, place⟩ := r
  cases fault <;> rfl

theorem filter_unresolvedTrigger (why : Option Catalog.ReferenceError) :
    (why.map Fault.unresolvedTrigger).toList.filter (fun f => !f.isReference) = [] := by
  cases why <;> rfl

theorem filter_unresolvedPiece (name : String) (why : Option Catalog.ReferenceError) :
    (why.map (Fault.unresolvedPiece name)).filter (fun f => !f.isReference) = none := by
  cases why <;> rfl

theorem filter_triggerFaults (a b : Catalog) (t : Trigger) :
    (triggerFaults a t).filter (fun f => !f.isReference) =
      (triggerFaults b t).filter (fun f => !f.isReference) := by
  cases t with
  | schedule name input =>
    simp only [triggerFaults, List.filter_append, filter_unresolvedTrigger]
  | pieceEvent name piece trigger input =>
    simp only [triggerFaults]
    split
    · rfl
    · rw [filter_unresolvedTrigger, filter_unresolvedTrigger]
  | webhook name input => rfl

theorem filter_actionFault (a b : Catalog) (action : Action) :
    (actionFault a action).filter (fun f => !f.isReference) =
      (actionFault b action).filter (fun f => !f.isReference) := by
  cases action with
  | piece name piece operation input =>
    simp only [actionFault]
    split
    · rfl
    · rw [filter_unresolvedPiece, filter_unresolvedPiece]
  | code name own input => rfl
  | branch name conditions onTrue onFalse => rfl

/-- The reports other than those about references do not depend on the catalog. -/
theorem filter_check (a b : Catalog) (limits : Limits) (flow : Flow) :
    (check a limits flow).filter (fun r => !r.fault.isReference) =
      (check b limits flow).filter (fun r => !r.fault.isReference) := by
  have hplace (place : Place) :
      (fun r : Report => !r.fault.isReference) ∘ (Report.mk · place) = fun f => !f.isReference := rfl
  simp only [check, List.filter_append, List.filter_map, List.filter_filterMap, Option.filter_map,
    hplace, filter_triggerFaults a b, filter_actionFault a b]

end Semantic

theorem Flow.settled_semanticFindings (a b : Catalog) (limits : Limits) (flow : Flow) :
    Finding.settled (flow.semanticFindings a limits) =
      Finding.settled (flow.semanticFindings b limits) := by
  have hreport : (fun f : Finding => !f.isReference) ∘ Semantic.Report.finding =
      fun r => !r.fault.isReference := funext fun r => by simp [Semantic.isReference_finding]
  simp only [Finding.settled, semanticFindings, List.filter_map, hreport,
    Semantic.filter_check a b]

theorem Flow.settled_findings (a b : Catalog) (limits : Limits) (flow : Flow) :
    Finding.settled (flow.findings a limits) = Finding.settled (flow.findings b limits) := by
  unfold findings
  split
  · exact flow.settled_semanticFindings a b limits
  · rfl

namespace Candidate

theorem settled_verdict (a b : Catalog) (limits : Limits) (flow : Flow) :
    Finding.settled (verdict a limits flow).findings =
        Finding.settled (verdict b limits flow).findings ∧
      (verdict a limits flow).flow = (verdict b limits flow).flow := by
  have hsettled := flow.settled_semanticFindings a b limits
  refine ⟨hsettled, ?_⟩
  have hblocked := congrArg (List.any · Finding.isBlocking) hsettled
  simp only [Finding.any_isBlocking_settled] at hblocked
  simp only [verdict, hblocked]

/-- Under two catalogs a candidate has the same findings apart from advice about references, and
comes out as the same flow. -/
theorem settled_check (a b : Catalog) (limits : Limits) (candidate : Json) :
    (check a limits candidate).refused = (check b limits candidate).refused ∧
      Finding.settled (check a limits candidate).findings =
        Finding.settled (check b limits candidate).findings ∧
      (check a limits candidate).flow = (check b limits candidate).flow := by
  unfold check
  split
  · exact ⟨rfl, rfl, rfl⟩
  · split
    · split
      · exact ⟨rfl, rfl, rfl⟩
      · exact ⟨rfl, settled_verdict a b limits _⟩
    · exact ⟨rfl, rfl, rfl⟩

end Candidate

namespace Session

/-- Two catalogs permit the same flows and refuse the others for the same issues; what they advise
differs in references only. -/
theorem permit_cases (a b : Catalog) (limits : Limits) (flow : Flow) :
    (∃ e, permit a limits flow = .error e ∧ permit b limits flow = .error e) ∨
    ∃ advice advice', permit a limits flow = .ok advice ∧ permit b limits flow = .ok advice' ∧
      (advice.filter fun i => !i.isReference) = advice'.filter fun i => !i.isReference := by
  have hsettled := flow.settled_findings a b limits
  have hblocked := congrArg (List.any · Finding.isBlocking) hsettled
  have hblocks := congrArg Finding.blocks hsettled
  simp only [Finding.any_isBlocking_settled] at hblocked
  simp only [Finding.blocks_settled] at hblocks
  simp only [permit, hblocked, hblocks]
  split
  · exact .inl ⟨_, rfl, rfl⟩
  · split
    · exact .inl ⟨_, rfl, rfl⟩
    · refine .inr ⟨_, _, rfl, rfl, ?_⟩
      rw [← Finding.advice_settled, ← Finding.advice_settled, Finding.settled_append,
        Finding.settled_append, hsettled]

/-- How a deployment ends for the caller, with the advice that the flow was permitted with. -/
def DeployEnding.ofEnding (warnings : List Issue) : Ending → DeployEnding
  | .returned (.ok d) => .returned (.ok ⟨d, warnings⟩)
  | .returned (.error e) => .returned (.error (.engine e))
  | .abandoned => .abandoned
  | .hung => .hung

/-- The same ending without advice about references. -/
def DeployEnding.settled : DeployEnding → DeployEnding
  | .returned (.ok d) => .returned (.ok { d with warnings := d.warnings.filter (!·.isReference) })
  | ending => ending

/-- Deploys a flow if it may be, against an engine and a caller that bring about these events. -/
def deployAlong (catalog : Catalog) (limits : Limits) (options : Options) (events : List Event)
    (flow : Flow) : DeployEnding × List Engine.Call :=
  match permit catalog limits flow with
  | .error e => (.returned (.error e), [])
  | .ok warnings =>
    let (stage, calls) := Saga.run ⟨flow, options, true⟩ events
    (.ofEnding warnings stage.ending, calls)

theorem deploy_eq_deployAlong (catalog : Catalog) (limits : Limits) (options : Options)
    (c : Conditions) (flow : Flow) :
    deploy catalog limits options c flow =
      deployAlong catalog limits options (c.events ⟨flow, options, true⟩) flow := by
  unfold deploy deployAlong Saga.runUnder
  cases permit catalog limits flow with
  | error e => rfl
  | ok warnings =>
    obtain ⟨stage, calls⟩ := Saga.run ⟨flow, options, true⟩ (c.events ⟨flow, options, true⟩)
    cases stage with
    | finished result => cases result <;> rfl
    | _ => rfl

theorem settled_ofEnding {warnings warnings' : List Issue}
    (h : (warnings.filter fun i => !i.isReference) = warnings'.filter fun i => !i.isReference)
    (ending : Ending) :
    (DeployEnding.ofEnding warnings ending).settled =
      (DeployEnding.ofEnding warnings' ending).settled := by
  cases ending with
  | returned result =>
    cases result with
    | ok d => simp only [DeployEnding.ofEnding, DeployEnding.settled, h]
    | error e => rfl
  | abandoned => rfl
  | hung => rfl

theorem settled_deployAlong (a b : Catalog) (limits : Limits) (options : Options)
    (events : List Event) (flow : Flow) :
    (deployAlong a limits options events flow).2 = (deployAlong b limits options events flow).2 ∧
      (deployAlong a limits options events flow).1.settled =
        (deployAlong b limits options events flow).1.settled := by
  unfold deployAlong
  obtain ⟨e, ha, hb⟩ | ⟨advice, advice', ha, hb, hadvice⟩ := permit_cases a b limits flow
  · rw [ha, hb]
    exact ⟨rfl, rfl⟩
  · rw [ha, hb]
    exact ⟨rfl, settled_ofEnding hadvice _⟩

end Session

/-- The catalog only advises. Under any two catalogs a candidate has the same blocking findings in
the same order, is refused by the drafter or not, and comes out as the same flow; a deployment,
whatever the engine and the caller do, makes the same calls and ends with the same success or error.
All that can differ is advice about references. -/
theorem catalog_only_advises (a b : Catalog) (limits : Limits) :
    (∀ candidate,
      let v := Candidate.check a limits candidate
      let w := Candidate.check b limits candidate
      v.refused = w.refused ∧
      v.findings.filter Finding.isBlocking = w.findings.filter Finding.isBlocking ∧
      v.flow = w.flow ∧ Finding.settled v.findings = Finding.settled w.findings) ∧
    (∀ options events flow,
      let x := Session.deployAlong a limits options events flow
      let y := Session.deployAlong b limits options events flow
      x.2 = y.2 ∧ x.1.settled = y.1.settled) ∧
    ∀ options c flow,
      let x := Session.deploy a limits options c flow
      let y := Session.deploy b limits options c flow
      x.2 = y.2 ∧ x.1.settled = y.1.settled := by
  refine ⟨fun candidate => ?_, fun options events flow => ?_, fun options c flow => ?_⟩
  · obtain ⟨hrefused, hsettled, hflow⟩ := Candidate.settled_check a b limits candidate
    refine ⟨hrefused, ?_, hflow, hsettled⟩
    rw [← Finding.filter_isBlocking_settled, hsettled, Finding.filter_isBlocking_settled]
  · exact Session.settled_deployAlong a b limits options events flow
  · rw [Session.deploy_eq_deployAlong, Session.deploy_eq_deployAlong]
    exact Session.settled_deployAlong a b limits options _ flow

/-- A catalog without pieces adds advice to the same flow. -/
example :
    let daily : Flow := ⟨"Report", .schedule "Daily" ⟨some "0 9 * * *", none⟩,
      [.code "Run" (some "return 1") []], [], none⟩
    daily.findings Catalog.builtin {} = [] ∧
      (daily.findings (.live []) {}).map (·.issue.code) = ["V005"] := by
  decide +kernel

end Flowline
