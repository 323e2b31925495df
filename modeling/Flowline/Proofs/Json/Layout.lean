import Flowline.Proofs.Dict
import Flowline.Proofs.Json.Fields

/-!
Records whose keys have other spellings. A record can be read as soon as each of its members can be
read alone, no two members stand for one field and no field that is needed is missing.
-/
namespace Flowline.Json

mutual

/-- Every object in the value has each key once. -/
def isKeyed : Json → Bool
  | .arr elements => isKeyedAll elements
  | .obj members => decide (members.map Prod.fst).Nodup && isKeyedMembers members
  | _ => true

def isKeyedAll : List Json → Bool
  | [] => true
  | v :: rest => v.isKeyed && isKeyedAll rest

def isKeyedMembers : List (String × Json) → Bool
  | [] => true
  | (_, v) :: rest => v.isKeyed && isKeyedMembers rest

end

theorem isKeyed_of_mem_arr {elements : List Json} {v : Json} (h : (arr elements).isKeyed = true)
    (hv : v ∈ elements) : v.isKeyed = true := by
  rw [isKeyed] at h
  induction elements with
  | nil => cases hv
  | cons w rest ih =>
    rw [isKeyedAll, Bool.and_eq_true] at h
    rcases List.mem_cons.1 hv with rfl | hv
    · exact h.1
    · exact ih h.2 hv

theorem isKeyed_of_mem_obj {members : Members} {m : String × Json}
    (h : (obj members).isKeyed = true) (hm : m ∈ members) : m.2.isKeyed = true := by
  rw [isKeyed, Bool.and_eq_true] at h
  replace h := h.2
  induction members with
  | nil => cases hm
  | cons m' rest ih =>
    rw [isKeyedMembers, Bool.and_eq_true] at h
    rcases List.mem_cons.1 hm with rfl | hm
    · exact h.1
    · exact ih hm h.2

theorem nodup_of_isKeyed {members : Members} (h : (obj members).isKeyed = true) :
    (members.map Prod.fst).Nodup := by
  rw [isKeyed, Bool.and_eq_true, decide_eq_true_eq] at h
  exact h.1

end Flowline.Json

namespace Flowline.Json.Decode
variable {δ α : Type}

/-- Other spellings of keys, each with the key it stands for. -/
abbrev Spellings := List (String × String)

/-- The key that a key stands for. -/
def own (spellings : Spellings) (key : String) : String := (assoc key spellings).getD key

/-- No key stands together with another spelling of it. -/
def isSpelledOnce (spellings : Spellings) (members : Members) : Bool :=
  spellings.all fun s => (assoc s.1 members).isNone || (assoc s.2 members).isNone

theorem own_cases (spellings : Spellings) (key : String) :
    (key, own spellings key) ∈ spellings ∨ own spellings key = key := by
  unfold own
  cases h : assoc key spellings with
  | none => exact .inr rfl
  | some target => exact .inl (mem_of_assoc h)

theorem not_both_of_isSpelledOnce {spellings : Spellings} {members : Members}
    (honce : isSpelledOnce spellings members = true) {other key : String}
    (hspelling : (other, key) ∈ spellings) (hother : other ∈ members.map Prod.fst) :
    key ∉ members.map Prod.fst := by
  intro hkey
  have := List.all_eq_true.1 honce _ hspelling
  simp only [Bool.or_eq_true, Option.isNone_iff_eq_none] at this
  have hother' := isSome_assoc_iff.2 hother
  have hkey' := isSome_assoc_iff.2 hkey
  rcases this with h | h
  · simp [h] at hother'
  · simp [h] at hkey'

/-- In an object that has each key once and no key beside another spelling of it, no two members
stand for one field. -/
theorem nodup_own {spellings : Spellings} {members : Members}
    (htargets : (spellings.map Prod.snd).Nodup) (hkeys : (members.map Prod.fst).Nodup)
    (honce : isSpelledOnce spellings members = true) :
    (members.map fun m => own spellings m.1).Nodup := by
  have hinj : ∀ k ∈ members.map Prod.fst, ∀ k' ∈ members.map Prod.fst,
      own spellings k = own spellings k' → k = k' := by
    intro k hk k' hk' heq
    rcases own_cases spellings k with h | h <;> rcases own_cases spellings k' with h' | h'
    · have := List.inj_on_of_nodup_map htargets h h' heq
      exact congrArg Prod.fst this
    · rw [heq, h'] at h
      exact absurd hk' (not_both_of_isSpelledOnce honce h hk)
    · rw [← heq, h] at h'
      exact absurd hk (not_both_of_isSpelledOnce honce h' hk')
    · rw [← h, heq, h']
  have := hkeys.map_on hinj
  rwa [List.map_map] at this

/-- A key that neither is a field nor stands for one is none of the fields. -/
theorem iff_or_eq_own {spellings : Spellings} {fields : List String} {key : String}
    (p : String → Prop) (hother : key ∉ spellings.map Prod.fst) (hfield : key ∉ fields) :
    ∀ name ∈ fields, (p name ↔ p name ∨ name = own spellings key) := by
  have hown : own spellings key = key := by
    rcases own_cases spellings key with h | h
    · exact absurd (List.mem_map.2 ⟨_, h, rfl⟩) hother
    · exact h
  intro name hname
  have hne : name ≠ own spellings key := by
    rintro rfl
    exact hfield (hown ▸ hname)
  simp [hne]

/-- How the keys of a record stand for its fields: the other spellings, which fields have been met,
and which of them the record needs. A field that has not been met takes whatever it takes first. -/
structure Layout (r : Record δ α) where
  spellings : Spellings
  needs : List String
  has : δ → String → Bool
  targets_nodup : (spellings.map Prod.snd).Nodup
  needs_subset : needs ⊆ r.fields
  own_needs : ∀ name ∈ needs, own spellings name = name
  has_start : ∀ name ∈ r.fields, has r.start name = false
  put_ok : ∀ {d e key v}, r.put r.start key v = .ok e →
    (own spellings key ∈ r.fields → has d (own spellings key) = false) →
    ∃ d', r.put d key v = .ok d' ∧ ∀ name ∈ r.fields,
      (has d' name = true ↔ has d name = true ∨ name = own spellings key)
  build_ok : ∀ {d}, (∀ name ∈ needs, has d name = true) → ∃ a, r.build d = .ok a

namespace Layout
variable {r : Record δ α}

theorem exists_foldlM (L : Layout r) {members : Members} {d : δ}
    (hdistinct : (members.map fun m => own L.spellings m.1).Nodup)
    (halone : ∀ m ∈ members, ∃ e, r.put r.start m.1 m.2 = .ok e)
    (hnew : ∀ m ∈ members, own L.spellings m.1 ∈ r.fields →
      L.has d (own L.spellings m.1) = false) :
    ∃ d', members.foldlM (fun d m => r.put d m.1 m.2) d = .ok d' ∧ ∀ name ∈ r.fields,
      (L.has d' name = true ↔
        L.has d name = true ∨ name ∈ members.map fun m => own L.spellings m.1) := by
  induction members generalizing d with
  | nil => exact ⟨d, rfl, by simp⟩
  | cons m rest ih =>
    rw [List.map_cons, List.nodup_cons] at hdistinct
    obtain ⟨e, he⟩ := halone m (by simp)
    obtain ⟨middle, hput, hmiddle⟩ := L.put_ok he (hnew m (by simp))
    have hnew' : ∀ m' ∈ rest, own L.spellings m'.1 ∈ r.fields →
        L.has middle (own L.spellings m'.1) = false := by
      intro m' hm' hfield
      have hne : own L.spellings m'.1 ≠ own L.spellings m.1 := fun heq =>
        hdistinct.1 (heq ▸ List.mem_map.2 ⟨m', hm', rfl⟩)
      have hold := hnew m' (by simp [hm']) hfield
      rw [← Bool.not_eq_true, hmiddle _ hfield]
      simp [hold, hne]
    obtain ⟨d', hfold, hhas⟩ := ih hdistinct.2 (fun m' hm' => halone m' (by simp [hm'])) hnew'
    refine ⟨d', ?_, fun name hname => ?_⟩
    · rw [List.foldlM_cons, hput]
      exact hfold
    · rw [hhas name hname, hmiddle name hname, List.map_cons, List.mem_cons, or_assoc]

/-- A record can be read from what is left of the members of an object that spells no field twice,
when each of these can be read alone and the needed fields are among them. -/
theorem exists_ofMembers (L : Layout r) {members cleaned : Members}
    (hkeys : (members.map Prod.fst).Nodup) (honce : isSpelledOnce L.spellings members = true)
    (hsub : (cleaned.map Prod.fst).Sublist (members.map Prod.fst))
    (halone : ∀ m ∈ cleaned, ∃ e, r.put r.start m.1 m.2 = .ok e)
    (hneeds : ∀ name ∈ L.needs, name ∈ cleaned.map Prod.fst) :
    ∃ a, r.ofMembers cleaned = .ok a := by
  have hdistinct : (cleaned.map fun m => own L.spellings m.1).Nodup := by
    have hall := nodup_own L.targets_nodup hkeys honce
    have hsub' := hsub.map (own L.spellings)
    rw [List.map_map, List.map_map] at hsub'
    exact hall.sublist hsub'
  obtain ⟨d, hfold, hhas⟩ := L.exists_foldlM hdistinct halone fun m _ h => L.has_start _ h
  have hmet : ∀ name ∈ L.needs, L.has d name = true := by
    intro name hname
    obtain ⟨m, hm, rfl⟩ := List.mem_map.1 (hneeds name hname)
    refine (hhas _ (L.needs_subset hname)).2 (.inr (List.mem_map.2 ⟨m, hm, ?_⟩))
    exact L.own_needs _ hname
  obtain ⟨a, hbuild⟩ := L.build_ok hmet
  exact ⟨a, Record.ofMembers_eq_ok.2 ⟨d, hfold, hbuild⟩⟩

end Layout
end Flowline.Json.Decode
