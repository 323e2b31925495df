import Flowline.Json.Parser
import Flowline.Proofs.Dict

/-!
JSON values with the members of every object in ascending key order, each key once, which is how a
reader arranges them.
-/
namespace Flowline

namespace Json
open Json.Parser

theorem arrange_map (f : Json → Json) (members : Members) :
    arrange (members.map fun m => (m.1, f m.2)) = (arrange members).map fun m => (m.1, f m.2) :=
  Dict.entries_ofList_map f members

theorem arrange_eq_foldl (members : Members) :
    arrange members = members.foldl (fun entries m => Dict.insertEntry m.1 m.2 entries) [] := by
  induction members using List.reverseRecOn with
  | nil => rfl
  | append_singleton members m ih =>
    rw [List.foldl_append, ← ih]
    exact Dict.entries_ofList_concat members m

theorem pairwise_arrange (members : Members) : (arrange members).Pairwise (·.1 < ·.1) :=
  (Dict.ofList members).sorted

theorem arrange_arrange (members : Members) : arrange (arrange members) = arrange members :=
  Dict.entries_ofList_of_pairwise (pairwise_arrange members)

mutual

/-- The value with the members of all its objects arranged. -/
def arranged : Json → Json
  | .arr elements => .arr (arrangedAll elements)
  | .obj members => .obj (arrange (arrangedMembers members))
  | v => v

def arrangedAll : List Json → List Json
  | [] => []
  | v :: rest => v.arranged :: arrangedAll rest

def arrangedMembers : List (String × Json) → List (String × Json)
  | [] => []
  | (key, v) :: rest => (key, v.arranged) :: arrangedMembers rest

end

theorem arrangedAll_eq_map (elements : List Json) :
    arrangedAll elements = elements.map arranged := by
  induction elements with
  | nil => rw [arrangedAll]; rfl
  | cons v rest ih => rw [arrangedAll, ih, List.map_cons]

theorem arrangedMembers_eq_map (members : Members) :
    arrangedMembers members = members.map fun m => (m.1, m.2.arranged) := by
  induction members with
  | nil => rw [arrangedMembers]; rfl
  | cons m rest ih => rw [arrangedMembers, ih, List.map_cons]

mutual

theorem arranged_arranged : (v : Json) → v.arranged.arranged = v.arranged
  | .null | .bool _ | .num _ | .str _ => by simp only [arranged]
  | .arr elements => by
    rw [arranged, arranged, arrangedAll_arrangedAll elements]
  | .obj members => by
    rw [arranged, arranged, arrangedMembers_eq_map (arrange _), ← arrange_map,
      ← arrangedMembers_eq_map, arrangedMembers_arrangedMembers members, arrange_arrange]

theorem arrangedAll_arrangedAll : (elements : List Json) →
    arrangedAll (arrangedAll elements) = arrangedAll elements
  | [] => by rw [arrangedAll, arrangedAll]
  | v :: rest => by
    rw [arrangedAll, arrangedAll, arranged_arranged v, arrangedAll_arrangedAll rest]

theorem arrangedMembers_arrangedMembers : (members : List (String × Json)) →
    arrangedMembers (arrangedMembers members) = arrangedMembers members
  | [] => by rw [arrangedMembers, arrangedMembers]
  | (key, v) :: rest => by
    rw [arrangedMembers, arrangedMembers, arranged_arranged v,
      arrangedMembers_arrangedMembers rest]

end

end Json
end Flowline
