import Flowline.Proofs.Flow.Layouts
import Flowline.Proofs.Json.Order

/-!
The records that a flow is made of may be read in any order and with any of the spellings: each
field has a slot of its own.
-/
namespace Flowline
open Json Decode

namespace Trigger

/-- The other spellings of the keys of a trigger of any kind. -/
def allSpellings : Spellings := spellings (some "PIECE_TRIGGER")

def nameSlot : Slot Fields :=
  ⟨"displayName", text, Fields.displayName, fun d a => { d with displayName := a }, fun _ _ => rfl⟩

def pieceSlot : Slot Fields :=
  ⟨"pieceName", text, Fields.pieceName, fun d a => { d with pieceName := a }, fun _ _ => rfl⟩

def eventSlot : Slot Fields :=
  ⟨"triggerName", text, Fields.triggerName, fun d a => { d with triggerName := a }, fun _ _ => rfl⟩

def scheduleSlot : Slot Fields :=
  ⟨"input", ScheduleInput.decode true, Fields.schedule, fun d a => { d with schedule := a },
    fun _ _ => rfl⟩

def inputSlot : Slot Fields :=
  ⟨"input", object, Fields.input, fun d a => { d with input := a }, fun _ _ => rfl⟩

theorem pairwise_apart :
    [nameSlot, pieceSlot, eventSlot, scheduleSlot, inputSlot].Pairwise Slot.Apart := by
  simp [Slot.Apart, nameSlot, pieceSlot, eventSlot, scheduleSlot, inputSlot]

theorem scheduleRecord_unordered : Unordered scheduleRecord allSpellings := by
  refine .of_slots [nameSlot, scheduleSlot] (fun d key v => ?put) (by decide)
    (pairwise_apart.sublist (by simp))
  simp only [scheduleRecord]
  split
  case h_3 =>
    refine (Slot.putIn_own ?_ d v).symm
    simp_all [allSpellings, spellings, nameSlot, scheduleSlot]
  all_goals rfl

theorem pieceEventRecord_unordered : Unordered pieceEventRecord allSpellings := by
  refine .of_slots [nameSlot, pieceSlot, eventSlot, inputSlot] (fun d key v => ?put)
    (by decide) (pairwise_apart.sublist (by simp))
  simp only [pieceEventRecord]
  split
  case h_7 =>
    refine (Slot.putIn_own ?_ d v).symm
    simp_all [allSpellings, spellings, nameSlot, pieceSlot, eventSlot, inputSlot]
  all_goals rfl

theorem webhookRecord_unordered : Unordered webhookRecord allSpellings := by
  refine .of_slots [nameSlot, inputSlot] (fun d key v => ?put) (by decide)
    (pairwise_apart.sublist (by simp))
  simp only [webhookRecord]
  split
  case h_3 =>
    refine (Slot.putIn_own ?_ d v).symm
    simp_all [allSpellings, spellings, nameSlot, inputSlot]
  all_goals rfl

end Trigger

namespace Action

/-- The other spellings of the keys of an action of any kind. -/
def allSpellings : Spellings :=
  spellings (some "PIECE") ++ spellings (some "CODE") ++ spellings (some "BRANCH")

def nameSlot : Slot Fields :=
  ⟨"displayName", text, Fields.displayName, fun d a => { d with displayName := a }, fun _ _ => rfl⟩

def pieceSlot : Slot Fields :=
  ⟨"pieceName", text, Fields.pieceName, fun d a => { d with pieceName := a }, fun _ _ => rfl⟩

def actionSlot : Slot Fields :=
  ⟨"actionName", text, Fields.actionName, fun d a => { d with actionName := a }, fun _ _ => rfl⟩

def codeSlot : Slot Fields :=
  ⟨"code", option text, Fields.code, fun d a => { d with code := a }, fun _ _ => rfl⟩

def inputSlot : Slot Fields :=
  ⟨"input", object, Fields.input, fun d a => { d with input := a }, fun _ _ => rfl⟩

def conditionsSlot : Slot Fields :=
  ⟨"conditions", list any, Fields.conditions, fun d a => { d with conditions := a }, fun _ _ => rfl⟩

def onTrueSlot : Slot Fields :=
  ⟨"onSuccessActions", decodeList, Fields.onTrue, fun d a => { d with onTrue := a }, fun _ _ => rfl⟩

def onFalseSlot : Slot Fields :=
  ⟨"onFailureActions", decodeList, Fields.onFalse, fun d a => { d with onFalse := a },
    fun _ _ => rfl⟩

theorem pairwise_apart :
    [nameSlot, pieceSlot, actionSlot, codeSlot, inputSlot, conditionsSlot, onTrueSlot,
      onFalseSlot].Pairwise Slot.Apart := by
  simp [Slot.Apart, nameSlot, pieceSlot, actionSlot, codeSlot, inputSlot, conditionsSlot,
    onTrueSlot, onFalseSlot]

theorem pieceRecord_unordered : Unordered pieceRecord allSpellings := by
  refine .of_slots [nameSlot, pieceSlot, actionSlot, inputSlot] (fun d key v => ?put)
    (by decide) (pairwise_apart.sublist (by simp))
  simp only [pieceRecord]
  split
  case h_7 =>
    refine (Slot.putIn_own ?_ d v).symm
    simp_all [allSpellings, spellings, nameSlot, pieceSlot, actionSlot, inputSlot]
  all_goals rfl

theorem codeRecord_unordered : Unordered codeRecord allSpellings := by
  refine .of_slots [nameSlot, codeSlot, inputSlot] (fun d key v => ?put) (by decide)
    (pairwise_apart.sublist (by simp))
  simp only [codeRecord]
  split
  case h_5 =>
    refine (Slot.putIn_own ?_ d v).symm
    simp_all [allSpellings, spellings, nameSlot, codeSlot, inputSlot]
  all_goals rfl

theorem branchRecord_unordered : Unordered branchRecord allSpellings := by
  refine .of_slots [nameSlot, conditionsSlot, onTrueSlot, onFalseSlot]
    (fun d key v => ?put) (by decide) (pairwise_apart.sublist ?arms)
  case arms =>
    exact (List.sublist_append_right [pieceSlot, actionSlot, codeSlot, inputSlot] _).cons_cons _
  simp only [branchRecord, putBranch]
  split
  case h_7 =>
    refine (Slot.putIn_own ?_ d v).symm
    simp_all [allSpellings, spellings, nameSlot, conditionsSlot, onTrueSlot, onFalseSlot]
  all_goals rfl

end Action

namespace Flow

def nameSlot : Slot Fields :=
  ⟨"displayName", text, Fields.displayName, fun d a => { d with displayName := a }, fun _ _ => rfl⟩

def triggerSlot : Slot Fields :=
  ⟨"trigger", Trigger.ofJson, Fields.trigger, fun d a => { d with trigger := a }, fun _ _ => rfl⟩

def actionsSlot : Slot Fields :=
  ⟨"actions", list (Action.decode false), Fields.actions, fun d a => { d with actions := a },
    fun _ _ => rfl⟩

def connectionsSlot : Slot Fields :=
  ⟨"connections_needed", list text, Fields.connectionsNeeded,
    fun d a => { d with connectionsNeeded := a }, fun _ _ => rfl⟩

def explanationSlot : Slot Fields :=
  ⟨"explanation", option text, Fields.explanation, fun d a => { d with explanation := a },
    fun _ _ => rfl⟩

theorem record_unordered : Unordered record spellings := by
  refine .of_slots [nameSlot, triggerSlot, actionsSlot, connectionsSlot, explanationSlot]
    (fun d key v => ?put) (by decide) ?apart
  case apart =>
    simp [Slot.Apart, nameSlot, triggerSlot, actionsSlot, connectionsSlot, explanationSlot]
  simp only [record]
  split
  case h_8 =>
    refine (Slot.putIn_own ?_ d v).symm
    simp_all [spellings, nameSlot, triggerSlot, actionsSlot, connectionsSlot, explanationSlot]
  all_goals rfl

end Flow
end Flowline
