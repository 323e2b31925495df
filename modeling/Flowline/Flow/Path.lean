import Flowline.Flow.Basic
/-!
Paths to the actions of a flow, and the walk that visits every action with its path: depth first, a
branch before its true arm and that before its false arm. `resolve?` follows a path.
-/
namespace Flowline

/-- The arms of a branch. -/
inductive Arm where
  | onTrue | onFalse
  deriving DecidableEq, Repr

/-- The member of a branch that holds the arm. -/
def Arm.key : Arm → String
  | .onTrue => "onSuccessActions"
  | .onFalse => "onFailureActions"

/-- The sides of a step that another one can hang off, by name: an arm, or none. -/
def Arm.slotTable : List (String × Option Arm) :=
  [("None", none), ("TrueBranch", some .onTrue), ("FalseBranch", some .onFalse)]

def Arm.slotName : Option Arm → String
  | none => "None"
  | some .onTrue => "TrueBranch"
  | some .onFalse => "FalseBranch"

/-- The place of an action: its index at the top level, then the arm and index at every level
below. -/
structure Path where
  index : Nat
  hops : List (Arm × Nat)
  deriving DecidableEq, Repr

namespace Path

def hopText (hop : Arm × Nat) : String := "." ++ hop.1.key ++ "[" ++ toString hop.2 ++ "]"

/-- The path as a text, such as `actions[1].onSuccessActions[0]`. -/
def text (p : Path) : String :=
  p.hops.foldl (fun s hop => s ++ hopText hop) ("actions[" ++ toString p.index ++ "]")

/-- The place of a child. -/
def child (p : Path) (arm : Arm) (i : Nat) : Path := ⟨p.index, p.hops ++ [(arm, i)]⟩

end Path

/-- The list that an action stands in: the top level, or an arm of the branch at a path. -/
inductive Stem where
  | top
  | inside (branch : Path) (arm : Arm)
  deriving DecidableEq, Repr

/-- The place of the `i`-th action of the list. -/
def Stem.nth : Stem → Nat → Path
  | .top, i => ⟨i, []⟩
  | .inside branch arm, i => branch.child arm i

namespace Action

/-- The actions of one arm; only a branch has any. -/
def children : Action → Arm → List Action
  | .branch _ _ onTrue _, .onTrue => onTrue
  | .branch _ _ _ onFalse, .onFalse => onFalse
  | _, _ => []

/-- The descendant that hops lead to. -/
def descend (a : Action) : List (Arm × Nat) → Option Action
  | [] => some a
  | (arm, i) :: rest => (a.children arm)[i]?.bind (descend · rest)

mutual

/-- The proper descendants of the action at `p`, each with its path. -/
def walkInside (p : Path) : Action → List (Path × Action)
  | .branch _ _ onTrue onFalse =>
    walkFrom (.inside p .onTrue) 0 onTrue ++ walkFrom (.inside p .onFalse) 0 onFalse
  | _ => []

/-- The actions of a list from its `i`-th place on, with their descendants. -/
def walkFrom (stem : Stem) (i : Nat) : List Action → List (Path × Action)
  | [] => []
  | a :: rest => (stem.nth i, a) :: (walkInside (stem.nth i) a ++ walkFrom stem (i + 1) rest)

end

end Action

namespace Flow

/-- Every action with its path. -/
def walk (flow : Flow) : List (Path × Action) := Action.walkFrom .top 0 flow.actions

/-- The action that a path leads to. -/
def resolve? (flow : Flow) (p : Path) : Option Action :=
  flow.actions[p.index]?.bind (·.descend p.hops)

end Flow

/-- Where a finding applies. -/
inductive Place where
  | flow
  | trigger
  | action (path : Path)
  deriving DecidableEq, Repr

def Place.text? : Place → Option String
  | .flow => none
  | .trigger => some "trigger"
  | .action p => some p.text

end Flowline
