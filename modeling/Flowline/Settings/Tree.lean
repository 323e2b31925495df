import Flowline.Dict
import Flowline.Settings.Scalar
import Flowline.Text.Digits
/-!
Settings as sources give them: trees whose nodes know where they come from. Sources are laid over
one another; tables merge, and anything else replaces what was there.
-/
namespace Flowline.Settings

/-- A node of settings; one that no source gave as it is has no origin. -/
inductive Tree where
  | leaf (origin : Option String) (value : Scalar)
  | list (origin : Option String) (elements : List Tree)
  | table (origin : Option String) (entries : List (String × Tree))
  deriving Inhabited

/-- The members of a table, in ascending key order. -/
abbrev Entries := List (String × Tree)

namespace Tree

/-- The value of a place that nothing was put at. -/
def absent : Tree := .leaf none .nothing

/-- The entries of a table; nothing else has any. -/
def entries : Tree → Entries
  | .table _ entries => entries
  | _ => []

/-- The elements of a list; nothing else has any. -/
def elements : Tree → List Tree
  | .list _ elements => elements
  | _ => []

/-- The table in place of a node: a table stays the one it was, and anything else makes way for a
new one. -/
def withEntries (entries : Entries) : Tree → Tree
  | .table origin _ => .table origin entries
  | _ => .table none entries

/-- The list in place of a node, as `withEntries` for tables. -/
def withElements (elements : List Tree) : Tree → Tree
  | .list origin _ => .list origin elements
  | _ => .list none elements

/-- What stands under a key. -/
def under (tree : Tree) (key : String) : Tree := (assoc key tree.entries).getD absent

end Tree

mutual

/-- A tree with another laid over it. -/
def Tree.covered (base : Tree) : Tree → Tree
  | .table _ entries => base.withEntries (overlay base.entries entries)
  | tree => tree

/-- Entries laid over others. -/
def overlay (base : Entries) : Entries → Entries
  | [] => base
  | (key, tree) :: rest =>
    overlay (Dict.insertEntry key (Tree.covered ((assoc key base).getD .absent) tree) base) rest

end

/-- A step from a tree to a part of it. -/
inductive Step where
  | name (key : String)
  /-- The place in a list, counted from its end when negative. -/
  | index (i : Int)
  deriving DecidableEq, Repr

/-- Makes room for the place `i` of a list, in front of it if need be; the place counts from the
beginning of the list returned. -/
def makeRoom (elements : List Tree) (i : Int) : List Tree × Nat :=
  if 0 ≤ i then
    (elements ++ List.replicate (i.toNat + 1 - elements.length) .absent, i.toNat)
  else
    let missing := i.natAbs - elements.length
    (List.replicate missing .absent ++ elements, elements.length + missing - i.natAbs)

/-- A tree laid over the part of another that a path leads to. -/
def Tree.overlayAt (tree : Tree) : List Step → Tree → Tree
  | [], base => base.covered tree
  | .name key :: path, base =>
    base.withEntries (Dict.insertEntry key (tree.overlayAt path (base.under key)) base.entries)
  | .index i :: path, base =>
    let (elements, place) := makeRoom base.elements i
    base.withElements (elements.modify place (tree.overlayAt path))

/-- Letters, digits, `_` and `-` make up the names of settings. -/
def isNameChar (c : Char) : Bool := c.isAlphanum || c == '_' || c == '-'

/-- A place in a list, with blanks around it or not. -/
def readIndex (cs : List Char) : Option Int :=
  let isPad := fun c => c == ' ' || c == '\t'
  let number := ((cs.dropWhile isPad).reverse.dropWhile isPad).reverse
  if number.head? == some '+' then none else Text.readInt (Nat.pow 2 63) number

/-- The steps that a text stands for: names behind dots, and places in square brackets. The fuel is
the length of the text. -/
def readSteps : Nat → List Char → Option (List Step)
  | _, [] => some []
  | fuel + 1, '.' :: cs =>
    let name := cs.takeWhile isNameChar
    if name.isEmpty then none
    else (readSteps fuel (cs.drop name.length)).map (.name (String.ofList name) :: ·)
  | fuel + 1, '[' :: cs =>
    let index := cs.takeWhile (· != ']')
    match readIndex index, cs.drop index.length with
    | some i, ']' :: rest => (readSteps fuel rest).map (.index i :: ·)
    | _, _ => none
  | _, _ => none

/-- The path that a key stands for, or else the one name that it is. -/
def keyPath (key : String) : List Step :=
  (readSteps (key.length + 1) ('.' :: key.toList)).getD [.name key]

/-- The entries of a source, whose keys may be paths, laid over a tree. -/
def layer (base : Tree) (source : Entries) : Tree :=
  source.foldl (fun tree e => e.2.overlayAt (keyPath e.1) tree) base

end Flowline.Settings
