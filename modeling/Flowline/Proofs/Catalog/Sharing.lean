import Flowline.Catalog.Periodic
import Flowline.Catalog.Sharing
import Flowline.Proofs.Json.Arranged

/-!
The current catalog is the one that was put in place last, whole. A refresh puts in place what its
own listing gives, however many others are under way, so that the catalog is never empty after one
unless somebody installs an empty one; and a snapshot stays what it was. The effects of a run are
told by the places at which its events are cut.
-/
namespace Flowline.Catalog

/-- Two catalogs can stand for a listing, and neither is empty. -/
theorem ofListing_cases {ε : Type} (listing : Except ε (List Piece)) :
    (∃ pieces, listing = .ok pieces ∧ pieces ≠ [] ∧ ofListing listing = live pieces) ∨
      (((∃ why, listing = .error why) ∨ listing = .ok []) ∧ ofListing listing = builtin) := by
  match listing with
  | .ok (p :: rest) => exact .inl ⟨p :: rest, rfl, by simp, rfl⟩
  | .ok [] => exact .inr ⟨.inr rfl, rfl⟩
  | .error why => exact .inr ⟨.inl ⟨why, rfl⟩, rfl⟩

theorem isBuiltin_ofListing_iff {ε : Type} (listing : Except ε (List Piece)) :
    (ofListing listing).isBuiltin = true ↔ (∃ why, listing = .error why) ∨ listing = .ok [] := by
  obtain ⟨pieces, rfl, hne, heq⟩ | ⟨hnone, heq⟩ := ofListing_cases listing
  · simp [heq, live, ofPieces, isBuiltin, hne]
  · simp [heq, hnone, builtin, ofPieces, isBuiltin]

namespace Sharing
variable {ε : Type}

theorem run_append (s : Sharing ε) (events more : List (Event ε)) :
    s.run (events ++ more) =
      (((s.run events).1.run more).1, (s.run events).2 ++ ((s.run events).1.run more).2) := by
  induction events generalizing s with
  | nil => simp [run]
  | cons e rest ih => simp [run, ih]

theorem run_concat (s : Sharing ε) (events : List (Event ε)) (e : Event ε) :
    s.run (events ++ [e]) =
      (((s.run events).1.step e).1, (s.run events).2 ++ ((s.run events).1.step e).2) := by
  simp [run_append, run]

/-- The event that has an effect. -/
def Effect.event : Effect ε → Event ε
  | .refreshed n _ _ => .settle n
  | .installed catalog => .install catalog
  | .read reader _ => .read reader

@[simp]
theorem stage?_put (s : Sharing ε) (n : Nat) (stage : Option (Stage ε)) :
    (s.put n stage).stage? n = stage := by
  simp [put]

/-- The catalog that an effect puts in place. -/
def Effect.replacement? : Effect ε → Option Catalog
  | .refreshed _ _ catalog | .installed catalog => some catalog
  | .read _ _ => none

/-- The snapshot that the reader takes in an effect. -/
def Effect.snapshot? (reader : Nat) : Effect ε → Option Catalog
  | .read r catalog => if r = reader then some catalog else none
  | .refreshed _ _ _ | .installed _ => none

/-- The catalog that was put in place last. -/
def latest (initial : Catalog) (past : List (Effect ε)) : Catalog :=
  (past.filterMap Effect.replacement?).getLast?.getD initial

end Sharing
end Flowline.Catalog
