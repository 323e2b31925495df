import Flowline.Dict
import Mathlib.Data.Finset.Card
import Mathlib.Data.List.Dedup
import Mathlib.Data.List.Induction

/-!
Maps built from lists. A map holds the last value of each key in the list, so it has as many keys as
there are different ones in the list, and the list of its own pairs gives it again in any order.
-/
namespace Flowline
variable {α : Type u} {β : Type v}

theorem assoc_of_mem {k : String} {v : α} {l : List (String × α)}
    (hkeys : (l.map Prod.fst).Nodup) (h : (k, v) ∈ l) : assoc k l = some v := by
  induction l with
  | nil => simp at h
  | cons e rest ih =>
    obtain ⟨k', w⟩ := e
    rw [List.map_cons, List.nodup_cons] at hkeys
    rcases List.mem_cons.1 h with heq | hrest
    · cases heq
      simp [assoc]
    · have hne : k' ≠ k := by
        rintro rfl
        exact hkeys.1 (List.mem_map.2 ⟨(k', v), hrest, rfl⟩)
      rw [assoc, if_neg hne, ih hkeys.2 hrest]

theorem assoc_eq_some_iff {l : List (String × α)} (h : (l.map Prod.fst).Nodup) {k : String}
    {v : α} : assoc k l = some v ↔ (k, v) ∈ l :=
  ⟨mem_of_assoc, assoc_of_mem h⟩

theorem isSome_assoc_iff {k : String} {l : List (String × α)} :
    (assoc k l).isSome = true ↔ k ∈ l.map Prod.fst := by
  induction l with
  | nil => simp [assoc]
  | cons e rest ih =>
    obtain ⟨k', w⟩ := e
    by_cases hk : k' = k
    · simp [assoc, hk]
    · simpa [assoc, hk, Ne.symm hk] using ih

namespace Dict

theorem insertEntry_map (f : α → β) (k : String) (v : α) (l : List (String × α)) :
    insertEntry k (f v) (l.map fun e => (e.1, f e.2)) =
      (insertEntry k v l).map fun e => (e.1, f e.2) := by
  induction l with
  | nil => rfl
  | cons head rest ih =>
    obtain ⟨k', v'⟩ := head
    simp only [List.map_cons, insertEntry, ih]
    split
    · rfl
    · split <;> rfl

theorem entries_ofList_concat (l : List (String × α)) (e : String × α) :
    (ofList (l ++ [e])).entries = insertEntry e.1 e.2 (ofList l).entries := by
  simp [ofList, List.foldl_append, insert]

theorem entries_ofList_map (f : α → β) (l : List (String × α)) :
    (ofList (l.map fun e => (e.1, f e.2))).entries =
      (ofList l).entries.map fun e => (e.1, f e.2) := by
  induction l using List.reverseRecOn with
  | nil => rfl
  | append_singleton l e ih =>
    rw [List.map_append, List.map_singleton, entries_ofList_concat, entries_ofList_concat, ih]
    exact insertEntry_map f e.1 e.2 _

theorem pairwise_keys (d : Dict α) : d.keys.Pairwise (· < ·) := by
  rw [keys, List.pairwise_map]
  exact d.sorted

theorem nodup_keys (d : Dict α) : d.keys.Nodup := by
  apply d.pairwise_keys.imp
  rintro k _ hlt rfl
  exact String.lt_irrefl k hlt

theorem find?_eq_some_iff {d : Dict α} {k : String} {v : α} :
    d.find? k = some v ↔ (k, v) ∈ d.entries :=
  assoc_eq_some_iff d.nodup_keys

theorem isSome_find?_iff {d : Dict α} {k : String} : (d.find? k).isSome = true ↔ k ∈ d.keys :=
  isSome_assoc_iff

/-- Maps with the same value for each key are equal. -/
theorem ext_find? {d e : Dict α} (h : ∀ k, d.find? k = e.find? k) : d = e := by
  have hperm : d.entries.Perm e.entries := by
    rw [List.perm_ext_iff_of_nodup d.nodup_keys.of_map e.nodup_keys.of_map]
    rintro ⟨k, v⟩
    rw [← find?_eq_some_iff, ← find?_eq_some_iff, h]
  refine Dict.ext (hperm.eq_of_pairwise (fun a b _ _ hab hba => ?_) d.sorted e.sorted)
  exact absurd (String.lt_trans hab hba) (String.lt_irrefl _)

theorem find?_mapValues (f : String → α → β) (d : Dict α) (k : String) :
    (d.mapValues f).find? k = (d.find? k).map (f k) := by
  simp only [find?, mapValues]
  induction d.entries with
  | nil => rfl
  | cons e rest ih =>
    by_cases hk : e.1 = k
    · simp [assoc, hk]
    · simpa [assoc, hk] using ih

theorem mapValues_mapValues {γ : Type w} (f : String → α → β) (g : String → β → γ) (d : Dict α) :
    (d.mapValues f).mapValues g = d.mapValues fun k v => g k (f k v) := by
  simp [mapValues]

theorem size_mapValues (f : String → α → β) (d : Dict α) : (d.mapValues f).size = d.size := by
  simp [mapValues, size]

/-- The last value of a key in a list is the one that the map has. -/
theorem find?_ofList (l : List (String × α)) (k : String) :
    (ofList l).find? k = assoc k l.reverse := by
  induction l using List.reverseRecOn with
  | nil => rfl
  | append_singleton l e ih =>
    rw [find?, entries_ofList_concat, assoc_insertEntry, List.reverse_append,
      List.reverse_singleton, List.singleton_append, assoc, ← ih]
    rfl

theorem mem_keys_ofList {l : List (String × α)} {k : String} :
    k ∈ (ofList l).keys ↔ k ∈ l.map Prod.fst := by
  rw [← isSome_find?_iff, find?_ofList, isSome_assoc_iff, List.map_reverse, List.mem_reverse]

theorem size_ofList (l : List (String × α)) :
    (ofList l).size = (l.map Prod.fst).toFinset.card := by
  have hkeys : (ofList l).keys.toFinset = (l.map Prod.fst).toFinset := by
    ext k
    rw [List.mem_toFinset, List.mem_toFinset, mem_keys_ofList]
  rw [← hkeys, List.toFinset_card_of_nodup (nodup_keys _), keys, List.length_map, size]

theorem ofList_of_perm {l : List (String × α)} {d : Dict α} (h : l.Perm d.entries) :
    ofList l = d := by
  have hkeys : (l.reverse.map Prod.fst).Nodup := by
    rw [List.map_reverse, List.nodup_reverse]
    exact (h.map Prod.fst).nodup_iff.2 d.nodup_keys
  refine ext_find? fun k => Option.ext fun v => ?_
  rw [find?_ofList, assoc_eq_some_iff hkeys, find?_eq_some_iff, List.mem_reverse, h.mem_iff]

theorem entries_ofList_of_pairwise {l : List (String × α)} (h : l.Pairwise (·.1 < ·.1)) :
    (ofList l).entries = l :=
  congrArg entries (ofList_of_perm (d := ⟨l, h⟩) (.refl l))

end Dict
end Flowline
