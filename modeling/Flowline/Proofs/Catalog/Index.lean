import Flowline.Catalog.Basic
import Flowline.Proofs.Dict
import Flowline.Proofs.Text.Bytes
import Mathlib.Algebra.BigOperators.Group.List.Basic
import Mathlib.Algebra.GroupWithZero.Nat

/-!
What a catalog is of the pieces listed for it: a map from names to pieces, of which the last with a
name stays, with names for all operations. The summaries and the counts are those of the pieces that
stay, and a catalog that is built again from its own pieces is the same.
-/
namespace Flowline

theorem Operation.named_named (key : String) (op : Operation) :
    (op.named key).named key = op.named key := by
  by_cases hname : op.name.isEmpty <;> by_cases hshown : op.displayName.isEmpty <;>
    simp [named, hname, hshown]

theorem Operation.named_ne_empty {key : String} (h : key ≠ "") (op : Operation) :
    (op.named key).name ≠ "" ∧ (op.named key).displayName ≠ "" := by
  by_cases hname : op.name = "" <;> by_cases hshown : op.displayName = "" <;>
    simp [named, hname, hshown, h]

theorem Piece.normalized_normalized (p : Piece) : p.normalized.normalized = p.normalized := by
  simp only [normalized, Dict.mapValues_mapValues, Operation.named_named]

/-- An operation of a normalized piece has names unless its key is empty. -/
theorem Piece.named_of_normalized {p : Piece} {key : String} {op : Operation}
    (hop : p.normalized.triggers.find? key = some op ∨ p.normalized.actions.find? key = some op)
    (hkey : key ≠ "") : op.name ≠ "" ∧ op.displayName ≠ "" := by
  have hnamed : ∃ own : Operation, own.named key = op := by
    simp only [normalized, Dict.find?_mapValues, Option.map_eq_some_iff] at hop
    rcases hop with ⟨own, -, hown⟩ | ⟨own, -, hown⟩
    · exact ⟨own, hown⟩
    · exact ⟨own, hown⟩
  obtain ⟨own, rfl⟩ := hnamed
  exact Operation.named_ne_empty hkey own

namespace Catalog

/-- The last of the pieces with a name. -/
def lastNamed (pieces : List Piece) (name : String) : Option Piece :=
  pieces.reverse.find? fun p => p.name == name

/-- The pieces that no later one of the same name replaces. -/
def surviving (pieces : List Piece) : List Piece := pieces.pwFilter fun p q => p.name ≠ q.name

theorem lastNamed_cons (p : Piece) (rest : List Piece) (name : String) :
    lastNamed (p :: rest) name =
      (lastNamed rest name).or (if p.name = name then some p else none) := by
  by_cases h : p.name = name <;> simp [lastNamed, h]

theorem name_of_lastNamed {pieces : List Piece} {name : String} {p : Piece}
    (h : lastNamed pieces name = some p) : p.name = name := by
  simpa using List.find?_some h

theorem isSome_lastNamed_iff {pieces : List Piece} {name : String} :
    (lastNamed pieces name).isSome = true ↔ ∃ p ∈ pieces, p.name = name := by
  simp [lastNamed]

theorem mem_surviving_iff {pieces : List Piece} {p : Piece} :
    p ∈ surviving pieces ↔ lastNamed pieces p.name = some p := by
  induction pieces generalizing p with
  | nil => simp [surviving, lastNamed]
  | cons q rest ih =>
    rw [lastNamed_cons]
    cases hlast : lastNamed rest q.name with
    | none =>
      have hnew : ∀ b ∈ surviving rest, q.name ≠ b.name := by
        intro b hb hname
        rw [hname, ih.1 hb] at hlast
        cases hlast
      rw [surviving, List.pwFilter_cons_of_pos hnew, List.mem_cons]
      constructor
      · rintro (rfl | hp)
        · simp [hlast]
        · simp [ih.1 hp]
      · intro hp
        rcases Option.or_eq_some_iff.1 hp with hp | ⟨-, hp⟩
        · exact .inr (ih.2 hp)
        · exact .inl (by simpa using (Option.ite_none_right_eq_some.1 hp).2.symm)
    | some b =>
      have hname := name_of_lastNamed hlast
      have hold : ¬ ∀ b ∈ surviving rest, q.name ≠ b.name := fun h =>
        h b (ih.2 (hname ▸ hlast)) hname.symm
      rw [surviving, List.pwFilter_cons_of_neg hold]
      refine ih.trans ?_
      by_cases hp : q.name = p.name
      · simp [← hp, hlast]
      · simp [hp]

theorem nodup_names_surviving (pieces : List Piece) : ((surviving pieces).map (·.name)).Nodup :=
  List.pairwise_map.2 (List.pairwise_pwFilter pieces)

theorem assoc_map (pieces : List Piece) (name : String) :
    assoc name (pieces.map fun p => (p.name, p.normalized)) =
      (pieces.find? fun p => p.name == name).map Piece.normalized := by
  induction pieces with
  | nil => rfl
  | cons p rest ih =>
    by_cases hp : p.name = name
    · simp [assoc, hp]
    · simpa [assoc, hp] using ih

/-- A name resolves to the last piece that has it. -/
theorem find?_index (pieces : List Piece) (name : String) :
    (index pieces).find? name = (lastNamed pieces name).map Piece.normalized := by
  rw [index, Dict.find?_ofList, ← List.map_reverse, assoc_map, lastNamed]

theorem mem_entries_index {pieces : List Piece} {e : String × Piece} :
    e ∈ (index pieces).entries ↔ ∃ p ∈ surviving pieces, e = (p.name, p.normalized) := by
  obtain ⟨name, p⟩ := e
  rw [← Dict.find?_eq_some_iff, find?_index, Option.map_eq_some_iff]
  constructor
  · rintro ⟨q, hq, rfl⟩
    obtain rfl := name_of_lastNamed hq
    exact ⟨q, mem_surviving_iff.2 hq, rfl⟩
  · rintro ⟨q, hq, heq⟩
    cases heq
    exact ⟨q, mem_surviving_iff.1 hq, rfl⟩

/-- The catalog holds the pieces that stay, each normalized under its name. -/
theorem entries_index_perm (pieces : List Piece) :
    (index pieces).entries.Perm ((surviving pieces).map fun p => (p.name, p.normalized)) := by
  have hnodup : ((surviving pieces).map fun p => (p.name, p.normalized)).Nodup := by
    apply List.Nodup.of_map Prod.fst
    simpa [Function.comp_def] using nodup_names_surviving pieces
  rw [List.perm_ext_iff_of_nodup (index pieces).nodup_keys.of_map hnodup]
  intro e
  rw [mem_entries_index, List.mem_map]
  exact exists_congr fun p => and_congr_right fun _ => eq_comm

theorem values_index_perm (pieces : List Piece) :
    (index pieces).values.Perm ((surviving pieces).map Piece.normalized) := by
  simpa [Dict.values, Function.comp_def] using (entries_index_perm pieces).map Prod.snd

theorem entries_eq_map_values (pieces : List Piece) :
    (index pieces).entries = (index pieces).values.map fun p => (p.name, p.normalized) := by
  rw [Dict.values, List.map_map]
  refine (List.map_id _).symm.trans (List.map_congr_left fun e he => ?_)
  obtain ⟨p, -, rfl⟩ := mem_entries_index.1 he
  exact congrArg (Prod.mk p.name) p.normalized_normalized.symm

/-- A catalog is built again from its own pieces, whatever order they come in. -/
theorem index_of_perm {pieces again : List Piece} (h : again.Perm (index pieces).values) :
    index again = index pieces := by
  apply Dict.ofList_of_perm
  rw [entries_eq_map_values]
  exact h.map _

variable (origin : Origin) (pieces : List Piece)

theorem name_summaries (limit : Nat) :
    ((ofPieces origin pieces).summaries limit).map (·.name) =
      (ofPieces origin pieces).names.take limit := by
  have hkeys : (index pieces).keys = (index pieces).values.map (·.name) := by
    rw [Dict.keys, entries_eq_map_values, List.map_map]
    rfl
  rw [summaries, names, ofPieces, hkeys, List.map_map, ← List.map_take]
  rfl

/-- What normalizing keeps is counted over the pieces that stay. -/
theorem count_values {f : Piece → Nat} (hf : ∀ p : Piece, f p.normalized = f p) :
    (index pieces).values.foldr (f · + ·) 0 = ((surviving pieces).map f).sum := calc
  (index pieces).values.foldr (f · + ·) 0
    = ((index pieces).values.map f).sum := by rw [List.sum_eq_foldr, List.foldr_map]
  _ = (((surviving pieces).map Piece.normalized).map f).sum :=
      ((values_index_perm pieces).map f).sum_eq
  _ = ((surviving pieces).map f).sum := by
      rw [List.map_map]
      exact congrArg List.sum (List.map_congr_left fun p _ => hf p)

theorem mem_categories_stats {category : String} :
    category ∈ (ofPieces origin pieces).stats.categories ↔
      ∃ p ∈ surviving pieces, category ∈ p.categories := by
  have hcategories : category ∈ (ofPieces origin pieces).stats.categories ↔
      ∃ p ∈ (index pieces).values, category ∈ p.categories := by
    simp [stats, ofPieces, Dict.mem_keys_ofList]
  rw [hcategories]
  constructor
  · rintro ⟨p, hp, hcategory⟩
    obtain ⟨q, hq, rfl⟩ := List.mem_map.1 ((values_index_perm pieces).mem_iff.1 hp)
    exact ⟨q, hq, hcategory⟩
  · rintro ⟨q, hq, hcategory⟩
    exact ⟨q.normalized, (values_index_perm pieces).mem_iff.2 (List.mem_map_of_mem hq), hcategory⟩

/-- Keys ascend by their bytes. -/
theorem pairwise_bytes {names : List String} (h : names.Pairwise (· < ·)) :
    (names.map Text.bytes).Pairwise (· < ·) :=
  List.pairwise_map.2 (h.imp Text.bytes_lt_bytes_iff.2)

/-- A catalog is a map from names to normalized pieces: of those listed for it the last with a name
stays. Its summaries ascend in the byte order of names, a shorter list of them is the beginning of a
longer one, and its counts are those of the pieces that stay. -/
structure IsIndexOf (c : Catalog) (pieces : List Piece) : Prop where
  resolves : ∀ name, (c.lookup name).isSome = true ↔ ∃ p ∈ pieces, p.name = name
  lookup : ∀ name, c.lookup name = (lastNamed pieces name).map Piece.normalized
  named : ∀ name p key op, c.lookup name = some p →
    p.triggers.find? key = some op ∨ p.actions.find? key = some op →
    key ≠ "" → op.name ≠ "" ∧ op.displayName ≠ ""
  size : c.size = (pieces.map (·.name)).toFinset.card
  length_summaries : ∀ limit, (c.summaries limit).length = min limit c.size
  summaries_ascend : ∀ limit,
    ((c.summaries limit).map fun s => Text.bytes s.name).Pairwise (· < ·)
  summaries_extend : ∀ limit more, limit ≤ more → c.summaries limit <+: c.summaries more
  triggers : c.stats.triggers = ((surviving pieces).map (·.triggers.size)).sum
  actions : c.stats.actions = ((surviving pieces).map (·.actions.size)).sum
  categories_ascend : (c.stats.categories.map Text.bytes).Pairwise (· < ·)
  mem_categories : ∀ category, category ∈ c.stats.categories ↔
    ∃ p ∈ surviving pieces, category ∈ p.categories
  rebuilt : ∀ origin again, again.Perm c.pieces.values → (ofPieces origin again).pieces = c.pieces

theorem ofPieces_isIndexOf : (ofPieces origin pieces).IsIndexOf pieces where
  resolves name := by
    rw [lookup, ofPieces, find?_index, Option.isSome_map, isSome_lastNamed_iff]
  lookup := find?_index pieces
  named name p key op hp hop hkey := by
    obtain ⟨q, -, rfl⟩ := Option.map_eq_some_iff.1 ((find?_index pieces name).symm.trans hp)
    exact Piece.named_of_normalized hop hkey
  size := by
    rw [size, ofPieces, index, Dict.size_ofList, List.map_map]
    rfl
  length_summaries limit := by
    simp [summaries, size, Dict.size, Dict.values]
  summaries_ascend limit := by
    have hbytes : ((ofPieces origin pieces).summaries limit).map (fun s => Text.bytes s.name) =
        ((ofPieces origin pieces).names.take limit).map Text.bytes := by
      rw [← name_summaries, List.map_map]
      rfl
    rw [hbytes]
    exact pairwise_bytes ((index pieces).pairwise_keys.sublist (List.take_sublist limit _))
  summaries_extend limit more h := (List.take_isPrefix_take.2 (.inl h)).map _
  triggers := count_values pieces fun p => Dict.size_mapValues _ p.triggers
  actions := count_values pieces fun p => Dict.size_mapValues _ p.actions
  categories_ascend := pairwise_bytes (Dict.pairwise_keys _)
  mem_categories category := mem_categories_stats origin pieces
  rebuilt _ again h := index_of_perm h

end Catalog
end Flowline
