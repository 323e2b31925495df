import Flowline.Check.Shape
import Flowline.Flow.Encode

/-!
The shape rules of a flow in its JSON form. They report what they report of the typed flow, and
besides, where the input of the trigger is free, each field of a schedule that it holds in another
form than text.
-/
namespace Flowline

/-- The input of a trigger that may hold anything. -/
def Trigger.freeInput : Trigger → Json.Members
  | .schedule .. => []
  | .pieceEvent _ _ _ input => input
  | .webhook _ input => input

namespace Shape

def scheduleFields : List String := ["cronExpression", "timezone"]

/-- What the rules say of the fields of a schedule in a free input. -/
def checkFreeInput (t : Trigger) : List Report :=
  (scheduleFields.filter fun key => !fits .text (assoc key t.freeInput)).map fun key =>
    ⟨.wrongForm ("trigger.input." ++ key) .text, .trigger⟩

theorem armFilled_toJsonAll (actions : List Action) :
    armFilled (some (.arr (Action.toJsonAll actions))) = !actions.isEmpty := by
  cases actions <;> rfl

theorem checkAction_piece (limit depth : Nat) (p : Path) (name piece action : String)
    (input : Json.Members) :
    checkAction limit depth p (Action.piece name piece action input).toJson = [] := by
  have hmembers : checkMembers [("type", .str "PIECE"), ("displayName", .str name),
      ("pieceName", .str piece), ("actionName", .str action), ("input", .obj input)]
      (.action p) = [] := rfl
  rw [Action.toJson, checkAction, hmembers]
  rfl

theorem checkAction_code (limit depth : Nat) (p : Path) (name : String) (own : Option String)
    (input : Json.Members) :
    checkAction limit depth p (Action.code name own input).toJson = [] := by
  have hmembers : checkMembers ([("type", .str "CODE"), ("displayName", .str name)] ++
      Json.optional "code" .str own ++ [("input", .obj input)]) (.action p) = [] := by
    cases own <;> rfl
  rw [Action.toJson, checkAction, hmembers]
  cases own <;> rfl

/-- A branch is looked at for its depth only, and its arms one level down. -/
theorem checkAction_branch (limit depth : Nat) (p : Path) (name : String)
    (conditions : List Json) (onTrue onFalse : List Action) :
    checkAction limit depth p (Action.branch name conditions onTrue onFalse).toJson =
      if !(onTrue.isEmpty && onFalse.isEmpty) && limit < depth + 1 then
        [⟨.tooDeep limit, .action p⟩]
      else
        checkActions limit (depth + 1) (.inside p .onTrue) 0 (Action.toJsonAll onTrue) ++
        checkActions limit (depth + 1) (.inside p .onFalse) 0 (Action.toJsonAll onFalse) := by
  rw [Action.toJson]
  generalize hmembers : ([("type", .str "BRANCH"), ("displayName", .str name),
    ("conditions", .arr conditions), ("onSuccessActions", .arr (Action.toJsonAll onTrue)),
    ("onFailureActions", .arr (Action.toJsonAll onFalse))] : Json.Members) = members
  have hcheck : checkMembers members (.action p) = [] := by rw [← hmembers]; rfl
  have hkind : (kindOf members == some "BRANCH") = true := by rw [← hmembers]; rfl
  have hfilled : isFilledBranch members = !(onTrue.isEmpty && onFalse.isEmpty) := by
    rw [isFilledBranch, hkind, Bool.true_and, Bool.not_and, ← armFilled_toJsonAll,
      ← armFilled_toJsonAll, ← hmembers]
    rfl
  have htrue : checkArm limit (depth + 1) p .onTrue (armKey members .onTrue) members =
      checkActions limit (depth + 1) (.inside p .onTrue) 0 (Action.toJsonAll onTrue) := by
    rw [← hmembers]
    simp [armKey, assoc, checkArm, checkChildren]
  have hfalse : checkArm limit (depth + 1) p .onFalse (armKey members .onFalse) members =
      checkActions limit (depth + 1) (.inside p .onFalse) 0 (Action.toJsonAll onFalse) := by
    rw [← hmembers]
    simp [armKey, assoc, checkArm, checkChildren]
  rw [checkAction, hcheck, hkind, hfilled, htrue, hfalse, List.nil_append, if_pos rfl]

mutual

theorem checkAction_toJson (limit depth : Nat) (p : Path) : (a : Action) →
    checkAction limit depth p a.toJson = depthOf limit depth p a
  | .piece .. => by rw [checkAction_piece, depthOf]; simp
  | .code .. => by rw [checkAction_code, depthOf]; simp
  | .branch _ _ onTrue onFalse => by
    rw [checkAction_branch, depthOf, checkActions_toJsonAll limit _ _ _ onTrue,
      checkActions_toJsonAll limit _ _ _ onFalse]

theorem checkActions_toJsonAll (limit depth : Nat) (stem : Stem) (i : Nat) :
    (actions : List Action) →
    checkActions limit depth stem i (Action.toJsonAll actions) =
      depthOfAll limit depth stem i actions
  | [] => rfl
  | a :: rest => by
    rw [Action.toJsonAll, checkActions, depthOfAll, checkAction_toJson limit _ _ a,
      checkActions_toJsonAll limit _ _ _ rest]

end

theorem checkActionList_toJson (limit : Nat) (flow : Flow) {root : Json.Members}
    (h : assoc "actions" root = some (.arr (Action.toJsonAll flow.actions))) :
    checkActionList limit root =
      demand (!flow.actions.isEmpty) .noActions .flow ++
        depthOfAll limit 0 .top 0 flow.actions := by
  rw [checkActionList, h]
  cases hactions : flow.actions with
  | nil => rfl
  | cons a rest => exact checkActions_toJsonAll limit 0 .top 0 (a :: rest)

theorem flatMap_demand (keys : List String) (kept : String → Bool) (fault : String → Fault)
    (place : Place) :
    (keys.flatMap fun key => demand (kept key) (fault key) place) =
      (keys.filter fun key => !kept key).map fun key => ⟨fault key, place⟩ := by
  induction keys with
  | nil => rfl
  | cons key rest ih =>
    rw [List.flatMap_cons, ih, List.filter_cons]
    cases kept key <;> rfl

theorem checkFreeInput_eq (t : Trigger) :
    checkFreeInput t = scheduleFields.flatMap fun key =>
      demand (fits .text (assoc key t.freeInput)) (.wrongForm ("trigger.input." ++ key) .text)
        .trigger :=
  (flatMap_demand scheduleFields (fun key => fits .text (assoc key t.freeInput))
    (fun key => .wrongForm ("trigger.input." ++ key) .text) .trigger).symm

theorem checkTrigger_toJson (t : Trigger) {root : Json.Members}
    (h : assoc "trigger" root = some t.toJson) : checkTrigger root = checkFreeInput t := by
  rw [checkTrigger, h]
  cases t with
  | schedule name input =>
    obtain ⟨cron, zone⟩ := input
    cases cron <;> cases zone <;> rfl
  | pieceEvent name piece event input => rw [checkFreeInput_eq]; rfl
  | webhook name input => rw [checkFreeInput_eq]; rfl

theorem fits_text_iff {v : Option Json} :
    fits .text v = true ↔ ∀ w, v = some w → w = .null ∨ ∃ s, w = .str s := by
  cases v with
  | none => simp [fits]
  | some w => cases w <;> simp [fits, Json.isNull, Json.isString, Json.asString]

theorem checkFreeInput_eq_nil_iff {t : Trigger} :
    checkFreeInput t = [] ↔
      ∀ key ∈ scheduleFields, ∀ v, assoc key t.freeInput = some v → v = .null ∨ ∃ s, v = .str s := by
  simp only [checkFreeInput, List.map_eq_nil_iff, List.filter_eq_nil_iff, Bool.not_eq_true,
    Bool.not_eq_false', fits_text_iff]

theorem checkName_toJson (flow : Flow) {root : Json.Members}
    (h : assoc "displayName" root = some (.str flow.displayName)) :
    checkName root = demand (!Text.isBlankText flow.displayName) .blankName .flow := by
  rw [checkName, h]
  rfl

/-- The reports on the JSON form are those on the typed flow, with those on the free input of the
trigger between the one on the name and the others. -/
theorem check_toJson (limit : Nat) (flow : Flow) :
    check limit flow.toJson =
      demand (!Text.isBlankText flow.displayName) .blankName .flow ++
      checkFreeInput flow.trigger ++
      (demand (!flow.actions.isEmpty) .noActions .flow ++
        depthOfAll limit 0 .top 0 flow.actions) := by
  rw [Flow.toJson, check, checkName_toJson flow rfl, checkTrigger_toJson flow.trigger rfl,
    checkActionList_toJson limit flow rfl]

/-- The shape rules find the same issues in a typed flow and in its JSON form exactly when a free
input of the trigger holds the fields of a schedule as text, if at all. Otherwise those of the JSON
form have besides one report for each of these fields, and all others are the same. -/
theorem issues_toJson_eq_iff (limit : Nat) (flow : Flow) :
    ((check limit flow.toJson).map Report.issue = (checkFlow limit flow).map Report.issue ↔
      ∀ key ∈ scheduleFields, ∀ v, assoc key flow.trigger.freeInput = some v →
        v = .null ∨ ∃ s, v = .str s) ∧
    ∃ front back, checkFlow limit flow = front ++ back ∧
      check limit flow.toJson = front ++ checkFreeInput flow.trigger ++ back := by
  have htyped : checkFlow limit flow =
      demand (!Text.isBlankText flow.displayName) .blankName .flow ++
        (demand (!flow.actions.isEmpty) .noActions .flow ++
          depthOfAll limit 0 .top 0 flow.actions) := List.append_assoc _ _ _
  refine ⟨?_, _, _, htyped, check_toJson limit flow⟩
  rw [← checkFreeInput_eq_nil_iff, check_toJson, htyped]
  constructor
  · intro h
    have hlength := congrArg List.length h
    simp only [List.length_map, List.length_append] at hlength
    exact List.eq_nil_of_length_eq_zero (by omega)
  · intro h
    rw [h, List.append_nil]

/-- A webhook that expects a number under a name that schedules use. -/
def numbered : Flow where
  displayName := "Report"
  trigger := .webhook "Call" [("cronExpression", .num (.int 5))]
  actions := [.code "Run" (some "return 1") []]
  connectionsNeeded := []
  explanation := none

/-- The typed flow keeps all shape rules and its JSON form does not. -/
theorem numbered_reported :
    (checkFlow 10 numbered).map Report.issue = [] ∧
    (check 10 numbered.toJson).map Report.issue =
      [⟨"S011", .schema, "trigger.input.cronExpression must be a string", some "trigger"⟩] := by
  decide +kernel

end Shape
end Flowline
