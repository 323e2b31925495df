import Flowline.Catalog.Registry
import Mathlib.Logic.Function.Basic
/-!
A registry that refreshes, installers and readers use side by side, as a transition system. A
refresh first fetches a listing and then installs the catalog for it; anything may happen in
between. A periodic refresh is one that begins again and again. A reader keeps the snapshot that it
took until it takes another.
-/
namespace Flowline.Catalog

/-- How far a refresh has come. -/
inductive Sharing.Stage (ε : Type) where
  | fetching
  | fetched (listing : Except ε (List Piece))

/-- The registry, the refreshes that are under way by number, and the snapshots by reader. -/
structure Sharing (ε : Type) where
  registry : Registry := {}
  stage? : Nat → Option (Sharing.Stage ε) := fun _ => none
  snapshot? : Nat → Option Catalog := fun _ => none

namespace Sharing
variable {ε : Type}

/-- What the program and the engine do; `drop` gives a refresh up wherever it stands. -/
inductive Event (ε : Type) where
  | begin (refresh : Nat)
  | fetched (refresh : Nat) (listing : Except ε (List Piece))
  | settle (refresh : Nat)
  | drop (refresh : Nat)
  | install (catalog : Catalog)
  | read (reader : Nat)

/-- What happens to the current catalog: a refresh or an installer replaces it, or a reader takes a
snapshot of it. -/
inductive Effect (ε : Type) where
  | refreshed (refresh : Nat) (listing : Except ε (List Piece)) (catalog : Catalog)
  | installed (catalog : Catalog)
  | read (reader : Nat) (catalog : Catalog)

/-- Nothing is under way yet, and nobody has read. -/
def start (initial : Catalog) : Sharing ε := { registry := ⟨initial⟩ }

def put (s : Sharing ε) (refresh : Nat) (stage : Option (Stage ε)) : Sharing ε :=
  { s with stage? := Function.update s.stage? refresh stage }

def step (s : Sharing ε) : Event ε → Sharing ε × List (Effect ε)
  | .begin refresh => (s.put refresh (some .fetching), [])
  | .fetched refresh listing =>
    match s.stage? refresh with
    | some .fetching => (s.put refresh (some (.fetched listing)), [])
    | _ => (s, [])
  | .settle refresh =>
    match s.stage? refresh with
    | some (.fetched listing) =>
      let registry := s.registry.refresh listing
      ({ s.put refresh none with registry }, [.refreshed refresh listing registry.current])
    | _ => (s, [])
  | .drop refresh => (s.put refresh none, [])
  | .install catalog => ({ s with registry := s.registry.install catalog }, [.installed catalog])
  | .read reader =>
    ({ s with snapshot? := Function.update s.snapshot? reader (some s.registry.current) },
      [.read reader s.registry.current])

/-- The registry after the events, and what happened to the current catalog. -/
def run (s : Sharing ε) : List (Event ε) → Sharing ε × List (Effect ε)
  | [] => (s, [])
  | e :: rest =>
    let (next, effects) := s.step e
    let (last, more) := next.run rest
    (last, effects ++ more)

end Sharing
end Flowline.Catalog
