import Flowline.Catalog.Builtin
/-!
The current catalog, replaced as a whole.
-/
namespace Flowline.Catalog

/-- The catalog for a listing of the engine: the built-in one stands in when the listing failed or
is empty. -/
def ofListing : Except ε (List Piece) → Catalog
  | .ok (p :: rest) => live (p :: rest)
  | .ok [] => builtin
  | .error _ => builtin

/-- Holds the current catalog. -/
structure Registry where
  current : Catalog := builtin

namespace Registry

def install (_ : Registry) (catalog : Catalog) : Registry := ⟨catalog⟩

/-- Installs what a listing gives. -/
def refresh (r : Registry) (listing : Except ε (List Piece)) : Registry :=
  r.install (ofListing listing)

end Registry

end Flowline.Catalog
