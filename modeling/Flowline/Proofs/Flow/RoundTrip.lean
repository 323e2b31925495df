import Flowline.Flow.Encode
import Flowline.Proofs.Flow.Decoding
import Flowline.Proofs.Json.Arranged

/-!
Flows, triggers and actions are read back from their JSON forms, whether the members come in the
order of declaration or arranged as a reader arranges them.
-/
namespace Flowline
open Json Json.Parser Decode

theorem Json.arranged_strings (l : List String) : (strings l).arranged = strings l := by
  have hmap : (l.map Json.str).map arranged = l.map Json.str := by simp [arranged]
  rw [strings, arranged, arrangedAll_eq_map, hmap]

namespace Action

theorem toJsonAll_eq_map (l : List Action) : toJsonAll l = l.map toJson := by
  induction l with
  | nil => rw [toJsonAll]; rfl
  | cons a rest ih => rw [toJsonAll, ih, List.map_cons]

end Action

theorem ScheduleInput.decode_toJson (buffered : Bool) (input : ScheduleInput) :
    decode buffered input.toJson = .ok input := by
  obtain ⟨cron, zone⟩ := input
  cases cron <;> cases zone <;> rfl

theorem Trigger.ofJson_toJson (t : Trigger) : ofJson t.toJson = .ok t := by
  cases t with
  | schedule name input =>
    obtain ⟨cron, zone⟩ := input
    cases cron <;> cases zone <;> rfl
  | pieceEvent name piece trigger input => rfl
  | webhook name input => rfl

namespace Action

mutual

theorem decode_toJson (buffered : Bool) : (a : Action) → decode buffered a.toJson = .ok a
  | .piece .. => by
    rw [toJson, decode_piece rfl]
    rfl
  | .code _ own _ => by
    rw [toJson, decode_code rfl]
    cases own <;> rfl
  | .branch name conditions onTrue onFalse => by
    rw [toJson, decode_branch rfl]
    simp only [Record.ofMembers, branchRecord, List.foldlM, putBranch, decodeList, list_any,
      decodeAll_toJsonAll onTrue, decodeAll_toJsonAll onFalse]
    rfl

theorem decodeAll_toJsonAll : (l : List Action) → decodeAll (toJsonAll l) = .ok l
  | [] => rfl
  | a :: rest => by
    rw [toJsonAll, decodeAll, decode_toJson true a, decodeAll_toJsonAll rest]
    rfl

end

end Action

theorem Flow.ofJson_toJson (flow : Flow) : ofJson flow.toJson = .ok flow := by
  obtain ⟨name, trigger, actions, connections, explanation⟩ := flow
  have hactions : list (Action.decode false) (.arr (Action.toJsonAll actions)) = .ok actions := by
    rw [Action.toJsonAll_eq_map]
    simpa using list_map (e := id) actions fun a _ => Action.decode_toJson false a
  cases explanation <;>
    simp only [ofJson, Record.decode, toJson, Record.ofMembers, record, Json.optional, List.foldlM,
      List.cons_append, List.nil_append, trigger.ofJson_toJson, hactions, list_strings] <;>
    rfl

theorem Json.arrange_arrangedMembers (members : Members) :
    arrange (arrangedMembers (arrange (arrangedMembers members))) =
      arrange (arrangedMembers members) := by
  have h := arranged_arranged (.obj members)
  rw [arranged, arranged] at h
  exact Json.obj.inj h

/-- The trigger with its free input arranged. -/
def Trigger.arranged : Trigger → Trigger
  | .schedule name input => .schedule name input
  | .pieceEvent name piece trigger input =>
    .pieceEvent name piece trigger (arrange (arrangedMembers input))
  | .webhook name input => .webhook name (arrange (arrangedMembers input))

namespace Action

mutual

/-- The action with all inputs and conditions arranged. -/
def arranged : Action → Action
  | .piece name pieceName operation input =>
    .piece name pieceName operation (arrange (arrangedMembers input))
  | .code name own input => .code name own (arrange (arrangedMembers input))
  | .branch name conditions onTrue onFalse =>
    .branch name (Json.arrangedAll conditions) (arrangedAll onTrue) (arrangedAll onFalse)

def arrangedAll : List Action → List Action
  | [] => []
  | a :: rest => a.arranged :: arrangedAll rest

end

theorem arrangedAll_eq_map (l : List Action) : arrangedAll l = l.map arranged := by
  induction l with
  | nil => rw [arrangedAll]; rfl
  | cons a rest ih => rw [arrangedAll, ih, List.map_cons]

end Action

def Flow.arranged (flow : Flow) : Flow :=
  { flow with trigger := flow.trigger.arranged, actions := Action.arrangedAll flow.actions }

theorem Trigger.arranged_arranged (t : Trigger) : t.arranged.arranged = t.arranged := by
  cases t <;> simp only [arranged, arrange_arrangedMembers]

namespace Action

mutual

theorem arranged_arranged : (a : Action) → a.arranged.arranged = a.arranged
  | .piece .. | .code .. => by simp only [arranged, arrange_arrangedMembers]
  | .branch _ conditions onTrue onFalse => by
    simp only [arranged, Json.arrangedAll_arrangedAll, arrangedAll_arrangedAll onTrue,
      arrangedAll_arrangedAll onFalse]

theorem arrangedAll_arrangedAll : (l : List Action) → arrangedAll (arrangedAll l) = arrangedAll l
  | [] => rfl
  | a :: rest => by
    rw [arrangedAll, arrangedAll, arranged_arranged a, arrangedAll_arrangedAll rest]

end

end Action

theorem Flow.arranged_arranged (flow : Flow) : flow.arranged.arranged = flow.arranged := by
  simp only [arranged, flow.trigger.arranged_arranged, Action.arrangedAll_arrangedAll]

theorem ScheduleInput.arranged_toJson (input : ScheduleInput) :
    input.toJson.arranged = input.toJson := by
  obtain ⟨cron, zone⟩ := input
  cases cron <;> cases zone <;>
    simp only [toJson, Json.optional, arrangedMembers, Json.arranged, arrange_eq_foldl,
      List.cons_append, List.nil_append, List.foldl_cons, List.foldl_nil, Dict.insertEntry,
      String.reduceLT, String.reduceEq, if_false]

theorem Trigger.ofJson_arranged (t : Trigger) : ofJson t.toJson.arranged = .ok t.arranged := by
  cases t with
  | schedule name input =>
    have hmembers : (Trigger.schedule name input).toJson.arranged = .obj [
        ("displayName", .str name), ("input", input.toJson), ("type", .str "SCHEDULE")] := by
      simp only [toJson, arrangedMembers, Json.arranged, ScheduleInput.arranged_toJson,
        arrange_eq_foldl, List.foldl_cons, List.foldl_nil, Dict.insertEntry, String.reduceLT,
        String.reduceEq, if_true, if_false]
    rw [hmembers]
    obtain ⟨cron, zone⟩ := input
    cases cron <;> cases zone <;> rfl
  | pieceEvent name piece trigger input =>
    have hmembers : (Trigger.pieceEvent name piece trigger input).toJson.arranged = .obj [
        ("displayName", .str name), ("input", .obj (arrange (arrangedMembers input))),
        ("pieceName", .str piece), ("triggerName", .str trigger),
        ("type", .str "PIECE_TRIGGER")] := by
      simp only [toJson, arrangedMembers, Json.arranged, arrange_eq_foldl, List.foldl_cons,
        List.foldl_nil, Dict.insertEntry, String.reduceLT, String.reduceEq, if_true, if_false]
    rw [hmembers]
    rfl
  | webhook name input =>
    have hmembers : (Trigger.webhook name input).toJson.arranged = .obj [
        ("displayName", .str name), ("input", .obj (arrange (arrangedMembers input))),
        ("type", .str "WEBHOOK")] := by
      simp only [toJson, arrangedMembers, Json.arranged, arrange_eq_foldl, List.foldl_cons,
        List.foldl_nil, Dict.insertEntry, String.reduceLT, String.reduceEq, if_true, if_false]
    rw [hmembers]
    rfl

namespace Action

mutual

theorem decode_arranged (buffered : Bool) :
    (a : Action) → decode buffered a.toJson.arranged = .ok a.arranged
  | .piece name pieceName operation input => by
    have hmembers : (Action.piece name pieceName operation input).toJson.arranged = .obj [
        ("actionName", .str operation), ("displayName", .str name),
        ("input", .obj (arrange (arrangedMembers input))), ("pieceName", .str pieceName),
        ("type", .str "PIECE")] := by
      simp only [toJson, arrangedMembers, Json.arranged, arrange_eq_foldl, List.foldl_cons,
        List.foldl_nil, Dict.insertEntry, String.reduceLT, String.reduceEq, if_true, if_false]
    rw [hmembers, decode_piece rfl, arranged]
    rfl
  | .code name own input => by
    have hmembers : (Action.code name own input).toJson.arranged =
        .obj (Json.optional "code" .str own ++ [("displayName", .str name),
          ("input", .obj (arrange (arrangedMembers input))), ("type", .str "CODE")]) := by
      cases own <;> simp only [toJson, Json.optional, arrangedMembers, Json.arranged,
        arrange_eq_foldl, List.cons_append, List.nil_append, List.foldl_cons, List.foldl_nil,
        Dict.insertEntry, String.reduceLT, String.reduceEq, if_true, if_false]
    rw [hmembers, arranged]
    cases own <;> rw [decode_code rfl] <;> rfl
  | .branch name conditions onTrue onFalse => by
    have hmembers : (Action.branch name conditions onTrue onFalse).toJson.arranged = .obj [
        ("conditions", .arr (Json.arrangedAll conditions)), ("displayName", .str name),
        ("onFailureActions", .arr (Json.arrangedAll (toJsonAll onFalse))),
        ("onSuccessActions", .arr (Json.arrangedAll (toJsonAll onTrue))),
        ("type", .str "BRANCH")] := by
      simp only [toJson, arrangedMembers, Json.arranged, arrange_eq_foldl, List.foldl_cons,
        List.foldl_nil, Dict.insertEntry, String.reduceLT, String.reduceEq, if_true, if_false]
    rw [hmembers, decode_branch rfl, arranged]
    simp only [Record.ofMembers, branchRecord, List.foldlM, putBranch, decodeList, list_any,
      decodeAll_arrangedAll onTrue, decodeAll_arrangedAll onFalse]
    rfl

theorem decodeAll_arrangedAll : (l : List Action) →
    decodeAll (Json.arrangedAll (toJsonAll l)) = .ok (arrangedAll l)
  | [] => rfl
  | a :: rest => by
    rw [toJsonAll, Json.arrangedAll, decodeAll, decode_arranged true a,
      decodeAll_arrangedAll rest]
    rfl

end

end Action

theorem Flow.ofJson_arranged (flow : Flow) : ofJson flow.toJson.arranged = .ok flow.arranged := by
  obtain ⟨name, trigger, actions, connections, explanation⟩ := flow
  have hmembers : (Flow.mk name trigger actions connections explanation).toJson.arranged =
      .obj ([("actions", .arr (Json.arrangedAll (Action.toJsonAll actions))),
        ("connections_needed", strings connections), ("displayName", .str name)] ++
        Json.optional "explanation" .str explanation ++
        [("trigger", trigger.toJson.arranged)]) := by
    cases explanation <;> simp only [toJson, Json.optional, arrangedMembers, arranged_strings,
      Json.arranged, arrange_eq_foldl, List.cons_append, List.nil_append, List.foldl_cons,
      List.foldl_nil, Dict.insertEntry, String.reduceLT, String.reduceEq, if_true, if_false]
  have hactions : list (Action.decode false) (.arr (Json.arrangedAll (Action.toJsonAll actions))) =
      .ok (Action.arrangedAll actions) := by
    rw [Action.toJsonAll_eq_map, arrangedAll_eq_map, List.map_map, Action.arrangedAll_eq_map]
    exact list_map actions fun a _ => Action.decode_arranged false a
  rw [hmembers]
  cases explanation <;>
    simp only [ofJson, Record.decode, arranged, Record.ofMembers, record, Json.optional,
      List.foldlM, List.cons_append, List.nil_append, trigger.ofJson_arranged, hactions,
      list_strings] <;>
    rfl

theorem Trigger.arranged_toJson (t : Trigger) : t.arranged.toJson.arranged = t.toJson.arranged := by
  cases t <;> simp only [arranged, toJson, Json.arranged, arrangedMembers, arrange_arrangedMembers]

namespace Action

mutual

theorem arranged_toJson : (a : Action) → a.arranged.toJson.arranged = a.toJson.arranged
  | .piece .. => by
    simp only [arranged, toJson, Json.arranged, arrangedMembers, arrange_arrangedMembers]
  | .code _ own _ => by
    cases own <;> simp only [arranged, toJson, Json.optional, List.cons_append, List.nil_append,
      Json.arranged, arrangedMembers, arrange_arrangedMembers]
  | .branch name conditions onTrue onFalse => by
    simp only [arranged, toJson, Json.arranged, arrangedMembers, Json.arrangedAll_arrangedAll,
      arrangedAll_toJsonAll onTrue, arrangedAll_toJsonAll onFalse]

theorem arrangedAll_toJsonAll : (l : List Action) →
    Json.arrangedAll (toJsonAll (arrangedAll l)) = Json.arrangedAll (toJsonAll l)
  | [] => rfl
  | a :: rest => by
    simp only [arrangedAll, toJsonAll, Json.arrangedAll, arranged_toJson a,
      arrangedAll_toJsonAll rest]

end

end Action

theorem Flow.arranged_toJson (flow : Flow) :
    flow.arranged.toJson.arranged = flow.toJson.arranged := by
  obtain ⟨name, trigger, actions, connections, explanation⟩ := flow
  simp only [arranged, toJson, Json.arranged, List.cons_append, List.nil_append, arrangedMembers,
    trigger.arranged_toJson, Action.arrangedAll_toJsonAll]

/-- A JSON form from which `decode` reads back what `encode` wrote. With the members in the order of
declaration it is the value itself; with the members of all objects arranged it is the arranged
value, which is the value itself if its free objects came out of a reader. -/
structure Lossless {α : Type} (encode : α → Json) (decode : Decoder α) (arrange : α → α) :
    Prop where
  read_declared : ∀ a, decode (encode a) = .ok a
  read_arranged : ∀ a, decode (encode a).arranged = .ok (arrange a)
  write_again : ∀ a, (encode (arrange a)).arranged = (encode a).arranged
  arrange_arrange : ∀ a, arrange (arrange a) = arrange a

/-- The JSON forms of flows, triggers and actions lose nothing. -/
theorem toJson_lossless :
    Lossless Flow.toJson Flow.ofJson Flow.arranged ∧
    Lossless Trigger.toJson Trigger.ofJson Trigger.arranged ∧
    ∀ buffered, Lossless Action.toJson (Action.decode buffered) Action.arranged := by
  refine ⟨?flow, ?trigger, fun buffered => ?action⟩
  case flow =>
    exact ⟨Flow.ofJson_toJson, Flow.ofJson_arranged, Flow.arranged_toJson, Flow.arranged_arranged⟩
  case trigger =>
    exact ⟨Trigger.ofJson_toJson, Trigger.ofJson_arranged, Trigger.arranged_toJson,
      Trigger.arranged_arranged⟩
  case action =>
    exact ⟨Action.decode_toJson buffered, Action.decode_arranged buffered, Action.arranged_toJson,
      Action.arranged_arranged⟩

end Flowline
