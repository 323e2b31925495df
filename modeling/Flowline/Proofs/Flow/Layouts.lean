import Flowline.Proofs.Flow.Decoding
import Flowline.Proofs.Json.Layout

/-!
The layouts of the records that a flow is made of.
-/
namespace Flowline
open Json Decode

namespace ScheduleInput

def Fields.has (d : Fields) : String → Bool
  | "cronExpression" => d.cronExpression.isSome
  | "timezone" => d.timezone.isSome
  | _ => false

def layout : Layout record where
  spellings := []
  needs := []
  has := Fields.has
  targets_nodup := by decide
  needs_subset := by simp [record]
  own_needs := by decide
  has_start := by decide
  put_ok := by
    intro d e key v h hnew
    simp only [record] at h hnew ⊢
    split at h
    case h_3 => exact ⟨d, rfl, iff_or_eq_own _ (by simp_all) (by simp_all)⟩
    all_goals
      obtain ⟨-, a, hread, -⟩ := fill_bind_eq_ok.1 h
      have hnone := hnew (by simp [own, assoc])
      simp [own, assoc, Fields.has] at hnone
      exact ⟨_, fill_bind_eq_ok.2 ⟨by simp [hnone], a, hread, rfl⟩,
        by simp [own, assoc, Fields.has]⟩
  build_ok := fun _ => ⟨_, rfl⟩

end ScheduleInput

namespace Trigger

/-- The other spellings of the keys of a trigger, by its kind. -/
def spellings : Option String → Spellings
  | some "PIECE_TRIGGER" => [("pieceId", "pieceName"), ("eventId", "triggerName")]
  | _ => []

/-- Whether a field has been met, in any of the three records. -/
def Fields.has (d : Fields) : String → Bool
  | "displayName" => d.displayName.isSome
  | "pieceName" => d.pieceName.isSome
  | "triggerName" => d.triggerName.isSome
  | "input" => d.schedule.isSome || d.input.isSome
  | _ => false

def scheduleLayout : Layout scheduleRecord where
  spellings := spellings (some "SCHEDULE")
  needs := ["displayName"]
  has := Fields.has
  targets_nodup := by decide
  needs_subset := by simp [scheduleRecord]
  own_needs := by decide
  has_start := by decide
  put_ok := by
    intro d e key v h hnew
    simp only [scheduleRecord, spellings] at h hnew ⊢
    split at h
    case h_3 => exact ⟨d, rfl, iff_or_eq_own _ (by simp_all) (by simp_all)⟩
    all_goals
      obtain ⟨-, a, hread, -⟩ := fill_bind_eq_ok.1 h
      have hnone := hnew (by simp [own, assoc])
      simp [own, assoc, Fields.has] at hnone
      exact ⟨_, fill_bind_eq_ok.2 ⟨by simp [hnone], a, hread, rfl⟩,
        by simp [own, assoc, Fields.has]⟩
  build_ok := fun hneeds => by
    obtain ⟨name, hname⟩ := Option.isSome_iff_exists.1 (hneeds "displayName" (by simp))
    exact ⟨_, bind_eq_ok.2 ⟨name, required_eq_ok.2 hname, rfl⟩⟩

def pieceEventLayout : Layout pieceEventRecord where
  spellings := spellings (some "PIECE_TRIGGER")
  needs := ["displayName"]
  has := Fields.has
  targets_nodup := by decide
  needs_subset := by simp [pieceEventRecord]
  own_needs := by decide
  has_start := by decide
  put_ok := by
    intro d e key v h hnew
    simp only [pieceEventRecord, spellings] at h hnew ⊢
    split at h
    case h_7 => exact ⟨d, rfl, iff_or_eq_own _ (by simp_all) (by simp_all)⟩
    all_goals
      obtain ⟨-, a, hread, -⟩ := fill_bind_eq_ok.1 h
      have hnone := hnew (by simp [own, assoc])
      simp [own, assoc, Fields.has] at hnone
      exact ⟨_, fill_bind_eq_ok.2 ⟨by simp [hnone], a, hread, rfl⟩,
        by simp [own, assoc, Fields.has]⟩
  build_ok := fun hneeds => by
    obtain ⟨name, hname⟩ := Option.isSome_iff_exists.1 (hneeds "displayName" (by simp))
    exact ⟨_, bind_eq_ok.2 ⟨name, required_eq_ok.2 hname, rfl⟩⟩

def webhookLayout : Layout webhookRecord where
  spellings := spellings (some "WEBHOOK")
  needs := ["displayName"]
  has := Fields.has
  targets_nodup := by decide
  needs_subset := by simp [webhookRecord]
  own_needs := by decide
  has_start := by decide
  put_ok := by
    intro d e key v h hnew
    simp only [webhookRecord, spellings] at h hnew ⊢
    split at h
    case h_3 => exact ⟨d, rfl, iff_or_eq_own _ (by simp_all) (by simp_all)⟩
    all_goals
      obtain ⟨-, a, hread, -⟩ := fill_bind_eq_ok.1 h
      have hnone := hnew (by simp [own, assoc])
      simp [own, assoc, Fields.has] at hnone
      exact ⟨_, fill_bind_eq_ok.2 ⟨by simp [hnone], a, hread, rfl⟩,
        by simp [own, assoc, Fields.has]⟩
  build_ok := fun hneeds => by
    obtain ⟨name, hname⟩ := Option.isSome_iff_exists.1 (hneeds "displayName" (by simp))
    exact ⟨_, bind_eq_ok.2 ⟨name, required_eq_ok.2 hname, rfl⟩⟩

end Trigger

namespace Action

/-- The other spellings of the keys of an action, by its kind. -/
def spellings : Option String → Spellings
  | some "PIECE" => [("pieceId", "pieceName"), ("operationId", "actionName")]
  | some "CODE" => [("sourceText", "code")]
  | some "BRANCH" => [("onTrue", "onSuccessActions"), ("onFalse", "onFailureActions")]
  | _ => []

/-- Whether a field has been met, in any of the three records. -/
def Fields.has (d : Fields) : String → Bool
  | "displayName" => d.displayName.isSome
  | "pieceName" => d.pieceName.isSome
  | "actionName" => d.actionName.isSome
  | "code" => d.code.isSome
  | "input" => d.input.isSome
  | "conditions" => d.conditions.isSome
  | "onSuccessActions" => d.onTrue.isSome
  | "onFailureActions" => d.onFalse.isSome
  | _ => false

def pieceLayout : Layout pieceRecord where
  spellings := spellings (some "PIECE")
  needs := ["displayName"]
  has := Fields.has
  targets_nodup := by decide
  needs_subset := by simp [pieceRecord]
  own_needs := by decide
  has_start := by decide
  put_ok := by
    intro d e key v h hnew
    simp only [pieceRecord, spellings] at h hnew ⊢
    split at h
    case h_7 => exact ⟨d, rfl, iff_or_eq_own _ (by simp_all) (by simp_all)⟩
    all_goals
      obtain ⟨-, a, hread, -⟩ := fill_bind_eq_ok.1 h
      have hnone := hnew (by simp [own, assoc])
      simp [own, assoc, Fields.has] at hnone
      exact ⟨_, fill_bind_eq_ok.2 ⟨by simp [hnone], a, hread, rfl⟩,
        by simp [own, assoc, Fields.has]⟩
  build_ok := fun hneeds => by
    obtain ⟨name, hname⟩ := Option.isSome_iff_exists.1 (hneeds "displayName" (by simp))
    exact ⟨_, bind_eq_ok.2 ⟨name, required_eq_ok.2 hname, rfl⟩⟩

def codeLayout : Layout codeRecord where
  spellings := spellings (some "CODE")
  needs := ["displayName"]
  has := Fields.has
  targets_nodup := by decide
  needs_subset := by simp [codeRecord]
  own_needs := by decide
  has_start := by decide
  put_ok := by
    intro d e key v h hnew
    simp only [codeRecord, spellings] at h hnew ⊢
    split at h
    case h_5 => exact ⟨d, rfl, iff_or_eq_own _ (by simp_all) (by simp_all)⟩
    all_goals
      obtain ⟨-, a, hread, -⟩ := fill_bind_eq_ok.1 h
      have hnone := hnew (by simp [own, assoc])
      simp [own, assoc, Fields.has] at hnone
      exact ⟨_, fill_bind_eq_ok.2 ⟨by simp [hnone], a, hread, rfl⟩,
        by simp [own, assoc, Fields.has]⟩
  build_ok := fun hneeds => by
    obtain ⟨name, hname⟩ := Option.isSome_iff_exists.1 (hneeds "displayName" (by simp))
    exact ⟨_, bind_eq_ok.2 ⟨name, required_eq_ok.2 hname, rfl⟩⟩

def branchLayout : Layout branchRecord where
  spellings := spellings (some "BRANCH")
  needs := ["displayName"]
  has := Fields.has
  targets_nodup := by decide
  needs_subset := by simp [branchRecord, branchFields]
  own_needs := by decide
  has_start := by decide
  put_ok := by
    intro d e key v h hnew
    simp only [branchRecord, branchFields, putBranch, spellings] at h hnew ⊢
    split at h
    case h_7 => exact ⟨d, rfl, iff_or_eq_own _ (by simp_all) (by simp_all)⟩
    all_goals
      obtain ⟨-, a, hread, -⟩ := fill_bind_eq_ok.1 h
      have hnone := hnew (by simp [own, assoc])
      simp [own, assoc, Fields.has] at hnone
      exact ⟨_, fill_bind_eq_ok.2 ⟨by simp [hnone], a, hread, rfl⟩,
        by simp [own, assoc, Fields.has]⟩
  build_ok := fun hneeds => by
    obtain ⟨name, hname⟩ := Option.isSome_iff_exists.1 (hneeds "displayName" (by simp))
    exact ⟨_, bind_eq_ok.2 ⟨name, required_eq_ok.2 hname, rfl⟩⟩

end Action

namespace Flow

/-- The other spellings of the keys of a flow. -/
def spellings : Spellings :=
  [("connectionsNeeded", "connections_needed"), ("explanation_ar", "explanation")]

def Fields.has (d : Fields) : String → Bool
  | "displayName" => d.displayName.isSome
  | "trigger" => d.trigger.isSome
  | "actions" => d.actions.isSome
  | "connections_needed" => d.connectionsNeeded.isSome
  | "explanation" => d.explanation.isSome
  | _ => false

def layout : Layout record where
  spellings := spellings
  needs := ["displayName", "trigger", "actions"]
  has := Fields.has
  targets_nodup := by decide
  needs_subset := by simp [record]
  own_needs := by decide
  has_start := by decide
  put_ok := by
    intro d e key v h hnew
    simp only [record, spellings] at h hnew ⊢
    split at h
    case h_8 => exact ⟨d, rfl, iff_or_eq_own _ (by simp_all) (by simp_all)⟩
    all_goals
      obtain ⟨-, a, hread, -⟩ := fill_bind_eq_ok.1 h
      have hnone := hnew (by simp [own, assoc])
      simp [own, assoc, Fields.has] at hnone
      exact ⟨_, fill_bind_eq_ok.2 ⟨by simp [hnone], a, hread, rfl⟩,
        by simp [own, assoc, Fields.has]⟩
  build_ok := fun hneeds => by
    obtain ⟨name, hname⟩ := Option.isSome_iff_exists.1 (hneeds "displayName" (by simp))
    obtain ⟨trigger, htrigger⟩ := Option.isSome_iff_exists.1 (hneeds "trigger" (by simp))
    obtain ⟨actions, hactions⟩ := Option.isSome_iff_exists.1 (hneeds "actions" (by simp))
    exact ⟨_, bind_eq_ok.2 ⟨name, required_eq_ok.2 hname, bind_eq_ok.2 ⟨trigger,
      required_eq_ok.2 htrigger, bind_eq_ok.2 ⟨actions, required_eq_ok.2 hactions, rfl⟩⟩⟩⟩

end Flow
end Flowline
