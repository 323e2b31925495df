import Flowline.Proofs.Check.Overlooked
import Flowline.Proofs.Flow.Layouts

/-!
What the shape rules know of the members of triggers and actions: a member that is not null has the
form of its field. That much makes each member readable alone, in every record that it can be in.
-/
namespace Flowline

namespace Shape
open Json

def Form.admits : Form → Json → Bool
  | .object, v => v.isObject
  | .array, v | .actions, v => v.isArray
  | .text, v => v.isString

theorem admits_of_fits {form : Form} {v : Json} (h : fits form (some v) = true)
    (hv : v.isNull = false) : form.admits v = true := by
  cases form <;> simpa [fits, hv, Form.admits] using h

/-- The fields of triggers and actions whose forms the rules look at. -/
def fieldForms : List (String × Form) := ("displayName", .text) :: optionalFields

/-- A member has the form of its field. -/
def Formed (key : String) (v : Json) : Prop :=
  ∀ form, (key, form) ∈ fieldForms → form.admits v = true

namespace Formed
variable {key : String} {v : Json}

theorem text (h : Formed key v) (hkey : (key, Form.text) ∈ fieldForms) : ∃ s, v = .str s := by
  have := h .text hkey
  cases v <;> simp [Form.admits, isString, asString] at this
  exact ⟨_, rfl⟩

theorem object (h : Formed key v) (hkey : (key, Form.object) ∈ fieldForms) :
    ∃ members, v = .obj members := by
  have := h .object hkey
  cases v <;> simp [Form.admits, isObject, asObject] at this
  exact ⟨_, rfl⟩

theorem array (h : Formed key v) (hkey : (key, Form.array) ∈ fieldForms) :
    ∃ elements, v = .arr elements := by
  have := h .array hkey
  cases v <;> simp [Form.admits, isArray, asArray] at this
  exact ⟨_, rfl⟩

end Formed

theorem fits_of_checkFields {members : Members} {place : Place} (h : checkFields members place = [])
    {key : String} {form : Form} (hkey : (key, form) ∈ optionalFields) :
    fits form (assoc key members) = true := by
  by_contra hne
  have hmem : (key, form) ∈ optionalFields.filter fun f => !fits f.2 (assoc f.1 members) :=
    List.mem_filter.2 ⟨hkey, by simpa using hne⟩
  rw [checkFields, List.map_eq_nil_iff] at h
  rw [h] at hmem
  cases hmem

theorem exists_mem_of_hasString {key : String} {members : Members}
    (h : hasString (assoc key members) = true) : ∃ s, (key, .str s) ∈ members := by
  unfold hasString at h
  split at h
  · rename_i s hs
    exact ⟨s, mem_of_assoc hs⟩
  · cases h

/-- The members of a trigger or action that keeps the rules of its fields have their forms. -/
theorem formed_of_checkFields {members : Members} {place : Place} {key : String} {v : Json}
    (hkeys : (members.map Prod.fst).Nodup) (hname : hasString (assoc "displayName" members) = true)
    (hfields : checkFields members place = []) (hm : (key, v) ∈ members) (hv : v.isNull = false) :
    Formed key v := by
  intro form hform
  have hv' : assoc key members = some v := assoc_of_mem hkeys hm
  rcases List.mem_cons.1 hform with heq | hoptional
  · cases heq
    rw [hv'] at hname
    cases v <;> simp [hasString] at hname
    rfl
  · have := fits_of_checkFields hfields hoptional
    rw [hv'] at this
    exact admits_of_fits this hv

end Shape

open Json Decode Shape

theorem Shape.exists_option_text_of_fits {v : Json} (h : fits .text (some v) = true) :
    ∃ o, option Decode.text v = .ok o := by
  cases v <;> simp [fits, isNull, isString, asString] at h <;> exact ⟨_, rfl⟩

theorem ScheduleInput.alone {key : String} {v : Json}
    (htext : key ∈ ["cronExpression", "timezone"] → ∃ o, option Decode.text v = .ok o) :
    ∃ d, record.put record.start key v = .ok d := by
  simp only [record]
  split
  case h_3 => exact ⟨_, rfl⟩
  all_goals
    obtain ⟨o, hread⟩ := htext (by simp)
    exact ⟨_, fill_bind_eq_ok.2 ⟨rfl, o, hread, rfl⟩⟩

namespace Trigger
variable {key : String} {v : Json}

theorem schedule_alone (h : Formed key v)
    (hinput : key = "input" → ∃ input, ScheduleInput.decode true v = .ok input) :
    ∃ d, scheduleRecord.put scheduleRecord.start key v = .ok d := by
  simp only [scheduleRecord]
  split
  · obtain ⟨s, rfl⟩ := h.text (by decide)
    exact ⟨_, rfl⟩
  · obtain ⟨input, hread⟩ := hinput rfl
    exact ⟨_, fill_bind_eq_ok.2 ⟨rfl, input, hread, rfl⟩⟩
  · exact ⟨_, rfl⟩

theorem pieceEvent_alone (h : Formed key v) :
    ∃ d, pieceEventRecord.put pieceEventRecord.start key v = .ok d := by
  simp only [pieceEventRecord]
  split
  case h_6 =>
    obtain ⟨members, rfl⟩ := h.object (by decide)
    exact ⟨_, rfl⟩
  case h_7 => exact ⟨_, rfl⟩
  all_goals
    obtain ⟨s, rfl⟩ := h.text (by decide)
    exact ⟨_, rfl⟩

theorem webhook_alone (h : Formed key v) :
    ∃ d, webhookRecord.put webhookRecord.start key v = .ok d := by
  simp only [webhookRecord]
  split
  · obtain ⟨s, rfl⟩ := h.text (by decide)
    exact ⟨_, rfl⟩
  · obtain ⟨members, rfl⟩ := h.object (by decide)
    exact ⟨_, rfl⟩
  · exact ⟨_, rfl⟩

end Trigger

namespace Action
variable {key : String} {v : Json}

theorem piece_alone (h : Formed key v) :
    ∃ d, pieceRecord.put pieceRecord.start key v = .ok d := by
  simp only [pieceRecord]
  split
  case h_6 =>
    obtain ⟨members, rfl⟩ := h.object (by decide)
    exact ⟨_, rfl⟩
  case h_7 => exact ⟨_, rfl⟩
  all_goals
    obtain ⟨s, rfl⟩ := h.text (by decide)
    exact ⟨_, rfl⟩

theorem code_alone (h : Formed key v) :
    ∃ d, codeRecord.put codeRecord.start key v = .ok d := by
  simp only [codeRecord]
  split
  case h_4 =>
    obtain ⟨members, rfl⟩ := h.object (by decide)
    exact ⟨_, rfl⟩
  case h_5 => exact ⟨_, rfl⟩
  all_goals
    obtain ⟨s, rfl⟩ := h.text (by decide)
    exact ⟨_, rfl⟩

theorem branch_alone (h : Formed key v)
    (harms : ∀ arm, key ∈ armKeys arm → ∃ l, decodeList v = .ok l) :
    ∃ d, branchRecord.put branchRecord.start key v = .ok d := by
  simp only [branchRecord, putBranch]
  split
  case h_1 =>
    obtain ⟨s, rfl⟩ := h.text (by decide)
    exact ⟨_, rfl⟩
  case h_2 =>
    obtain ⟨elements, rfl⟩ := h.array (by decide)
    exact ⟨_, fill_bind_eq_ok.2 ⟨rfl, elements, list_any elements, rfl⟩⟩
  case h_3 | h_4 =>
    obtain ⟨l, hread⟩ := harms .onTrue (by simp [armKeys])
    exact ⟨_, fill_bind_eq_ok.2 ⟨rfl, l, hread, rfl⟩⟩
  case h_5 | h_6 =>
    obtain ⟨l, hread⟩ := harms .onFalse (by simp [armKeys])
    exact ⟨_, fill_bind_eq_ok.2 ⟨rfl, l, hread, rfl⟩⟩
  case h_7 => exact ⟨_, rfl⟩

end Action
namespace Flow
variable {key : String} {v : Json}

theorem alone (hname : key = "displayName" → ∃ s, v = .str s)
    (htrigger : key = "trigger" → ∃ t, Trigger.ofJson v = .ok t)
    (hactions : key = "actions" → ∃ l, list (Action.decode false) v = .ok l)
    (hconnections : key ∈ ["connections_needed", "connectionsNeeded"] →
      ∃ l, list Decode.text v = .ok l)
    (hexplanation : key ∈ ["explanation", "explanation_ar"] →
      ∃ o, option Decode.text v = .ok o) :
    ∃ d, record.put record.start key v = .ok d := by
  simp only [record]
  split
  case h_1 =>
    obtain ⟨s, rfl⟩ := hname rfl
    exact ⟨_, rfl⟩
  case h_2 =>
    obtain ⟨t, hread⟩ := htrigger rfl
    exact ⟨_, fill_bind_eq_ok.2 ⟨rfl, t, hread, rfl⟩⟩
  case h_3 =>
    obtain ⟨l, hread⟩ := hactions rfl
    exact ⟨_, fill_bind_eq_ok.2 ⟨rfl, l, hread, rfl⟩⟩
  case h_4 | h_5 =>
    obtain ⟨l, hread⟩ := hconnections (by simp)
    exact ⟨_, fill_bind_eq_ok.2 ⟨rfl, l, hread, rfl⟩⟩
  case h_6 | h_7 =>
    obtain ⟨o, hread⟩ := hexplanation (by simp)
    exact ⟨_, fill_bind_eq_ok.2 ⟨rfl, o, hread, rfl⟩⟩
  case h_8 => exact ⟨_, rfl⟩

end Flow
end Flowline
