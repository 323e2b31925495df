/-!
Maps from text to values as lists in strictly ascending key order, so that equal maps are equal
lists. Keys compare by code point, which is the order of their UTF-8 bytes.
-/
namespace Flowline

/-- The value of the first pair with key `k`. -/
def assoc (k : String) : List (String × α) → Option α
  | [] => none
  | (k', v) :: rest => if k' = k then some v else assoc k rest

theorem mem_of_assoc {k : String} {v : α} {l : List (String × α)} (h : assoc k l = some v) :
    (k, v) ∈ l := by
  induction l with
  | nil => simp [assoc] at h
  | cons head rest ih =>
    obtain ⟨k', v'⟩ := head
    simp only [assoc] at h
    split at h
    · simp_all
    · exact List.mem_cons_of_mem _ (ih h)

/-- A map from text to `α`. -/
structure Dict (α : Type u) where
  entries : List (String × α)
  sorted : entries.Pairwise (·.1 < ·.1)

namespace Dict
variable {α : Type u} {β : Type v}

/-- Puts `(k, v)` in its place, over an earlier value of `k`. -/
def insertEntry (k : String) (v : α) : List (String × α) → List (String × α)
  | [] => [(k, v)]
  | (k', v') :: rest =>
    if k < k' then (k, v) :: (k', v') :: rest
    else if k = k' then (k, v) :: rest
    else (k', v') :: insertEntry k v rest

theorem mem_insertEntry {k : String} {v : α} {l : List (String × α)} {e : String × α}
    (h : e ∈ insertEntry k v l) : e = (k, v) ∨ e ∈ l := by
  induction l with
  | nil => simpa [insertEntry] using h
  | cons head rest ih =>
    obtain ⟨k', v'⟩ := head
    simp only [insertEntry] at h
    split at h
    · simpa using h
    · split at h
      · simp only [List.mem_cons] at h ⊢
        exact h.imp id .inr
      · simp only [List.mem_cons] at h ⊢
        rcases h with h | h
        · exact .inr (.inl h)
        · exact (ih h).imp id .inr

theorem lt_of_not_lt_of_ne {a b : String} (h : ¬ a < b) (hne : a ≠ b) : b < a := by
  rcases Std.lt_trichotomy a b with h' | h' | h'
  · exact absurd h' h
  · exact absurd h' hne
  · exact h'

theorem pairwise_insertEntry {k : String} {v : α} {l : List (String × α)}
    (h : l.Pairwise (·.1 < ·.1)) : (insertEntry k v l).Pairwise (·.1 < ·.1) := by
  induction l with
  | nil => simp [insertEntry]
  | cons head rest ih =>
    obtain ⟨k', v'⟩ := head
    have ⟨hhead, hrest⟩ := List.pairwise_cons.1 h
    simp only [insertEntry]
    split
    · rename_i hlt
      refine List.pairwise_cons.2 ⟨fun e he => ?_, h⟩
      rcases List.mem_cons.1 he with rfl | he
      · exact hlt
      · exact String.lt_trans hlt (hhead e he)
    · split
      · rename_i heq
        subst heq
        exact List.pairwise_cons.2 ⟨hhead, hrest⟩
      · rename_i hnlt hne
        refine List.pairwise_cons.2 ⟨fun e he => ?_, ih hrest⟩
        rcases mem_insertEntry he with rfl | he
        · exact lt_of_not_lt_of_ne hnlt hne
        · exact hhead e he

def empty : Dict α := ⟨[], .nil⟩

instance : Inhabited (Dict α) := ⟨empty⟩

def insert (d : Dict α) (k : String) (v : α) : Dict α :=
  ⟨insertEntry k v d.entries, pairwise_insertEntry d.sorted⟩

/-- The map with all the pairs; of two values of one key the later stays. -/
def ofList (l : List (String × α)) : Dict α := l.foldl (fun d e => d.insert e.1 e.2) empty

def find? (d : Dict α) (k : String) : Option α := assoc k d.entries

def contains (d : Dict α) (k : String) : Bool := (d.find? k).isSome

def keys (d : Dict α) : List String := d.entries.map (·.1)

def values (d : Dict α) : List α := d.entries.map (·.2)

def size (d : Dict α) : Nat := d.entries.length

/-- Replaces every value, with its key in view. -/
def mapValues (f : String → α → β) (d : Dict α) : Dict β :=
  ⟨d.entries.map fun e => (e.1, f e.1 e.2), by
    have := d.sorted
    simpa [List.pairwise_map] using this⟩

@[ext]
theorem ext {d e : Dict α} (h : d.entries = e.entries) : d = e := by
  cases d; cases e; cases h; rfl

theorem assoc_insertEntry {k k' : String} {v : α} {l : List (String × α)} :
    assoc k' (insertEntry k v l) = if k = k' then some v else assoc k' l := by
  induction l with
  | nil => simp [insertEntry, assoc]
  | cons head rest ih =>
    obtain ⟨a, b⟩ := head
    simp only [insertEntry]
    split
    · simp [assoc]
    · split
      · rename_i heq
        subst heq
        by_cases h : k = k' <;> simp [assoc, h]
      · rename_i hne
        by_cases h : k = k'
        · subst h
          simp [assoc, ih, Ne.symm hne]
        · simp [assoc, ih, h]

end Dict
end Flowline
