import Flowline.Json.Decode

/-!
Fields of records. A record is read member by member, and a field may be met once only, so the one
member that names a field decides what the field holds.
-/
namespace Flowline.Json.Decode
variable {ε ε' δ α β : Type}

theorem bind_eq_ok {x : Except ε α} {f : α → Except ε β} {b : β} :
    x >>= f = .ok b ↔ ∃ a, x = .ok a ∧ f a = .ok b := by
  cases x <;> simp [bind, Except.bind]

theorem map_eq_ok {x : Except ε α} {f : α → β} {b : β} :
    x.map f = .ok b ↔ ∃ a, x = .ok a ∧ f a = b := by
  cases x <;> simp [Except.map]

theorem mapError_eq_ok {x : Except ε α} {f : ε → ε'} {a : α} :
    x.mapError f = .ok a ↔ x = .ok a := by
  cases x with
  | ok b => constructor <;> intro h <;> cases h <;> rfl
  | error e => constructor <;> intro h <;> cases h

theorem fill_eq_ok {name : String} {slot filled : Option α} {value : Except DecodeError α} :
    fill name slot value = .ok filled ↔ slot = none ∧ ∃ a, value = .ok a ∧ filled = some a := by
  cases slot with
  | some _ => simp [fill]
  | none =>
    simp only [fill, map_eq_ok, true_and]
    exact exists_congr fun a => and_congr_right fun _ => eq_comm

/-- A member fills an empty slot with what is read from it. -/
theorem fill_bind_eq_ok {name : String} {slot : Option α} {value : Except DecodeError α}
    {f : Option α → δ} {d : δ} :
    (fill name slot value >>= fun filled => .ok (f filled)) = .ok d ↔
      slot = none ∧ ∃ a, value = .ok a ∧ f (some a) = d := by
  rw [bind_eq_ok]
  constructor
  · rintro ⟨filled, hfill, h⟩
    obtain ⟨hnone, a, hvalue, rfl⟩ := fill_eq_ok.1 hfill
    exact ⟨hnone, a, hvalue, Except.ok.inj h⟩
  · rintro ⟨hnone, a, hvalue, rfl⟩
    exact ⟨some a, fill_eq_ok.2 ⟨hnone, a, hvalue, rfl⟩, rfl⟩

theorem required_eq_ok {name : String} {slot : Option α} {a : α} :
    required name slot = .ok a ↔ slot = some a := by
  cases slot <;> simp [required]

theorem Record.ofMembers_eq_ok {r : Record δ α} {members : Members} {a : α} :
    r.ofMembers members = .ok a ↔
      ∃ d, members.foldlM (fun d m => r.put d m.1 m.2) r.start = .ok d ∧ r.build d = .ok a := by
  simp only [Record.ofMembers, bind_eq_ok, mapError_eq_ok]

/-- A field of a record: where its value is kept, the keys that stand for it, and how it is read.
A member under another key leaves it alone. -/
structure Field (put : δ → String → Json → Except DecodeError δ) (α : Type) where
  slot : δ → Option α
  keys : List String
  read : Decoder α
  put_key : ∀ {d d' key v}, key ∈ keys → put d key v = .ok d' →
    slot d = none ∧ ∃ a, read v = .ok a ∧ slot d' = some a
  put_other : ∀ {d d' key v}, key ∉ keys → put d key v = .ok d' → slot d' = slot d

namespace Field
variable {put : δ → String → Json → Except DecodeError δ}

theorem slot_of_foldlM (f : Field put α) {members : Members} {d d' : δ}
    (h : members.foldlM (fun d m => put d m.1 m.2) d = .ok d')
    (hother : ∀ m ∈ members, m.1 ∉ f.keys) : f.slot d' = f.slot d := by
  induction members generalizing d with
  | nil => cases h; rfl
  | cons m rest ih =>
    rw [List.foldlM_cons] at h
    obtain ⟨middle, hput, hrest⟩ := bind_eq_ok.1 h
    rw [ih hrest fun m hm => hother m (by simp [hm]), f.put_other (hother m (by simp)) hput]

theorem slot_of_filled (f : Field put α) {members : Members} {d d' : δ} {a : α}
    (h : members.foldlM (fun d m => put d m.1 m.2) d = .ok d') (ha : f.slot d = some a) :
    f.slot d' = some a := by
  induction members generalizing d with
  | nil => cases h; exact ha
  | cons m rest ih =>
    rw [List.foldlM_cons] at h
    obtain ⟨middle, hput, hrest⟩ := bind_eq_ok.1 h
    apply ih hrest
    by_cases hkey : m.1 ∈ f.keys
    · simp [(f.put_key hkey hput).1] at ha
    · rw [f.put_other hkey hput, ha]

/-- The member under a key of the field gives its value. -/
theorem read_of_mem (f : Field put α) {members : Members} {d d' : δ} {m : String × Json}
    (h : members.foldlM (fun d m => put d m.1 m.2) d = .ok d') (hm : m ∈ members)
    (hkey : m.1 ∈ f.keys) : ∃ a, f.read m.2 = .ok a ∧ f.slot d' = some a := by
  induction members generalizing d with
  | nil => simp at hm
  | cons m' rest ih =>
    rw [List.foldlM_cons] at h
    obtain ⟨middle, hput, hrest⟩ := bind_eq_ok.1 h
    rcases List.mem_cons.1 hm with rfl | hm
    · obtain ⟨-, a, hread, ha⟩ := f.put_key hkey hput
      exact ⟨a, hread, f.slot_of_filled hrest ha⟩
    · exact ih hrest hm

end Field
end Flowline.Json.Decode
