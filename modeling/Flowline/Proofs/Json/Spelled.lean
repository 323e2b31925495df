import Flowline.Proofs.Json.Layout

/-!
Objects that hold the same fields, whatever key each field stands under and in whatever order they
come. A field that is null counts as absent.
-/
namespace Flowline.Json

/-- A value unless it is null. -/
def present (v : Option Json) : Option Json := v.filter fun v => !v.isNull

theorem present_eq_some {v : Option Json} {w : Json} :
    present v = some w ↔ v = some w ∧ w.isNull = false := by
  cases v <;> simp [present, Option.filter_eq_some_iff]

namespace Decode

/-- A key that no other stands for and that stands for itself. -/
def IsPlain (spellings : Spellings) (key : String) : Prop :=
  key ∉ spellings.map Prod.fst ∧ key ∉ spellings.map Prod.snd

instance (spellings : Spellings) (key : String) : Decidable (IsPlain spellings key) :=
  inferInstanceAs (Decidable (_ ∧ _))

theorem own_eq_iff_of_isPlain {spellings : Spellings} {key k : String}
    (h : IsPlain spellings key) : own spellings k = key ↔ k = key := by
  constructor
  · intro hown
    rcases own_cases spellings k with hmem | hself
    · exact absurd (List.mem_map.2 ⟨_, hmem, hown⟩) h.2
    · rw [← hself, hown]
  · rintro rfl
    rcases own_cases spellings k with hmem | hself
    · exact absurd (List.mem_map.2 ⟨_, hmem, rfl⟩) h.1
    · exact hself

/-- A key with just one other spelling. -/
def IsPair (spellings : Spellings) (key other : String) : Prop :=
  assoc other spellings = some key ∧ key ∉ spellings.map Prod.fst ∧
    ∀ s ∈ spellings, s.2 = key → s.1 = other

instance (spellings : Spellings) (key other : String) : Decidable (IsPair spellings key other) :=
  inferInstanceAs (Decidable (_ ∧ _ ∧ _))

theorem own_eq_iff_of_isPair {spellings : Spellings} {key other k : String}
    (h : IsPair spellings key other) : own spellings k = key ↔ k = key ∨ k = other := by
  obtain ⟨hother, hkey, hunique⟩ := h
  constructor
  · intro hown
    rcases own_cases spellings k with hmem | hself
    · exact .inr (hunique _ hmem hown)
    · exact .inl (by rw [← hself, hown])
  · rintro (rfl | rfl)
    · rcases own_cases spellings k with hmem | hself
      · exact absurd (List.mem_map.2 ⟨_, hmem, rfl⟩) hkey
      · exact hself
    · rw [own, hother, Option.getD_some]

/-- The members under the keys that theirs stand for. -/
def spelledOut (spellings : Spellings) (members : Members) : Members :=
  members.map fun m => (own spellings m.1, m.2)

/-- No two members stand for one field. -/
def isApart (spellings : Spellings) (members : Members) : Bool :=
  decide (members.map fun m => own spellings m.1).Nodup

theorem isApart_of_keys_eq {spellings : Spellings} {members others : Members}
    (hkeys : others.map Prod.fst = members.map Prod.fst)
    (h : isApart spellings members = true) : isApart spellings others = true := by
  have hmap (l : Members) : (l.map fun m => own spellings m.1) =
      (l.map Prod.fst).map (own spellings) := by simp
  rwa [isApart, hmap, hkeys, ← hmap]

theorem nodup_of_isApart {spellings : Spellings} {members : Members}
    (h : isApart spellings members = true) :
    ((spelledOut spellings members).map Prod.fst).Nodup := by
  rw [spelledOut, List.map_map]
  exact of_decide_eq_true h

theorem nodup_keys_of_isApart {spellings : Spellings} {members : Members}
    (h : isApart spellings members = true) : (members.map Prod.fst).Nodup := by
  have hown : ((members.map Prod.fst).map (own spellings)).Nodup := by
    rw [List.map_map]
    exact of_decide_eq_true h
  exact hown.of_map (own spellings)

theorem assoc_spelledOut_of_isPlain {spellings : Spellings} {key : String}
    (h : IsPlain spellings key) (members : Members) :
    assoc key (spelledOut spellings members) = assoc key members := by
  induction members with
  | nil => rfl
  | cons m rest ih =>
    simp only [spelledOut, List.map_cons, assoc, own_eq_iff_of_isPlain h] at ih ⊢
    rw [ih]

theorem assoc_eq_none_of_notMem {key : String} {members : Members}
    (h : key ∉ members.map Prod.fst) : assoc key members = none := by
  cases hassoc : assoc key members with
  | none => rfl
  | some v => exact absurd (List.mem_map.2 ⟨_, mem_of_assoc hassoc, rfl⟩) h

/-- A field with one other spelling is found under either. -/
theorem assoc_spelledOut_of_isPair {spellings : Spellings} {key other : String}
    (hpair : IsPair spellings key other) {members : Members}
    (h : isApart spellings members = true) :
    assoc key (spelledOut spellings members) = (assoc key members).or (assoc other members) := by
  have hnodup := nodup_of_isApart h
  clear h
  induction members with
  | nil => rfl
  | cons m rest ih =>
    obtain ⟨k, v⟩ := m
    rw [spelledOut, List.map_cons, List.map_cons, List.nodup_cons] at hnodup
    obtain ⟨hnew, hrest⟩ := hnodup
    have hcons : spelledOut spellings ((k, v) :: rest) =
        (own spellings k, v) :: spelledOut spellings rest := rfl
    rw [hcons, assoc, assoc, assoc]
    by_cases hown : own spellings k = key
    · have hnone : assoc key (spelledOut spellings rest) = none :=
        assoc_eq_none_of_notMem (hown ▸ hnew)
      rw [ih hrest, Option.or_eq_none_iff] at hnone
      rcases (own_eq_iff_of_isPair hpair).1 hown with rfl | hother
      · rw [if_pos hown, if_pos rfl, Option.some_or]
      · rw [if_pos hown, if_pos hother, hnone.1]
        split <;> rfl
    · have hne := not_or.1 (mt (own_eq_iff_of_isPair hpair).2 hown)
      rw [if_neg hown, if_neg hne.1, if_neg hne.2]
      exact ih hrest

/-- Two objects that hold the same fields with the same values, and each field once. -/
structure SameFields (spellings : Spellings) (members others : Members) : Prop where
  left : isApart spellings members = true
  right : isApart spellings others = true
  mem_iff : ∀ m : String × Json, m.2.isNull = false →
    (m ∈ spelledOut spellings members ↔ m ∈ spelledOut spellings others)

namespace SameFields
variable {spellings : Spellings} {members others : Members}

theorem present_assoc (h : SameFields spellings members others) (key : String) :
    present (assoc key (spelledOut spellings members)) =
      present (assoc key (spelledOut spellings others)) := by
  ext v
  rw [present_eq_some, present_eq_some, assoc_eq_some_iff (nodup_of_isApart h.left),
    assoc_eq_some_iff (nodup_of_isApart h.right)]
  exact and_congr_left fun hv => h.mem_iff (key, v) hv

theorem present_assoc_of_isPlain (h : SameFields spellings members others) {key : String}
    (hplain : IsPlain spellings key) :
    present (assoc key members) = present (assoc key others) := by
  rw [← assoc_spelledOut_of_isPlain hplain members, ← assoc_spelledOut_of_isPlain hplain others]
  exact h.present_assoc key

/-- The members in another order and under other keys. -/
theorem of_perm (hapart : isApart spellings members = true)
    (h : (spelledOut spellings others).Perm (spelledOut spellings members)) :
    SameFields spellings members others where
  left := hapart
  right := by
    have hnodup := (h.map Prod.fst).nodup_iff.2 (nodup_of_isApart hapart)
    rw [spelledOut, List.map_map] at hnodup
    exact decide_eq_true hnodup
  mem_iff _ _ := h.mem_iff.symm

end SameFields

/-- The object loses some members that are null. -/
def LosesNulls (members others : Members) : Prop :=
  ∃ isLost : String → Bool, others = members.filter fun m => !(m.2.isNull && isLost m.1)

theorem SameFields.of_losesNulls {spellings : Spellings} {members others : Members}
    (hapart : isApart spellings members = true) (h : LosesNulls members others) :
    SameFields spellings members others := by
  obtain ⟨isLost, rfl⟩ := h
  refine ⟨hapart, ?right, fun m hm => ?mem⟩
  case right =>
    have hnodup : (members.map fun m => own spellings m.1).Nodup := of_decide_eq_true hapart
    exact decide_eq_true (hnodup.sublist (List.filter_sublist.map _))
  case mem =>
    simp only [spelledOut, List.mem_map, List.mem_filter]
    constructor
    · rintro ⟨m', hm', rfl⟩
      exact ⟨m', ⟨hm', by simp [show m'.2.isNull = false from hm]⟩, rfl⟩
    · rintro ⟨m', ⟨hm', -⟩, rfl⟩
      exact ⟨m', hm', rfl⟩

end Decode
end Flowline.Json
