import Flowline.Proofs.Flow.PathText
import Mathlib.Data.List.Induction
import Mathlib.Data.List.Nodup

/-!
What the walk of a flow visits, told by the texts of paths. A text is followed from the actions of
the flow, at every bracket to the place in the list and at every key into the arm; the walk visits
what can be come to in this way, once each, and in the one order of the tree.
-/
namespace Flowline.Flow

/-- Following the text from the actions of the flow leads to the action. -/
inductive Follows (flow : Flow) : String → Action → Prop where
  | top {i : Nat} {a : Action} (h : flow.actions[i]? = some a) :
    Follows flow ("actions[" ++ toString i ++ "]") a
  | inside {text : String} {branch a : Action} (arm : Arm) {i : Nat}
    (way : Follows flow text branch) (h : (branch.children arm)[i]? = some a) :
    Follows flow (text ++ ("." ++ arm.key ++ "[") ++ toString i ++ "]") a

variable {flow : Flow}

theorem follows_of_resolve? {p : Path} {a : Action} (h : flow.resolve? p = some a) :
    flow.Follows p.text a := by
  obtain ⟨i, hops⟩ := p
  induction hops using List.reverseRecOn generalizing a with
  | nil =>
    have hactions : flow.actions[i]? = some a := by simpa [resolve?, Action.descend] using h
    exact .top hactions
  | append_singleton hops hop ih =>
    obtain ⟨arm, j⟩ := hop
    have hchild : flow.resolve? ((Path.mk i hops).child arm j) = some a := h
    rw [resolve?_child, Option.bind_eq_some_iff] at hchild
    obtain ⟨branch, hbranch, ha⟩ := hchild
    have hway := (ih hbranch).inside arm ha
    rwa [← Path.text_child] at hway

theorem exists_path_of_follows {text : String} {a : Action} (h : flow.Follows text a) :
    ∃ p, flow.resolve? p = some a ∧ p.text = text := by
  induction h with
  | @top i a h => exact ⟨⟨i, []⟩, by simpa [resolve?, Action.descend] using h, rfl⟩
  | @inside text branch a arm i way h ih =>
    obtain ⟨p, hp, rfl⟩ := ih
    exact ⟨p.child arm i, by rw [resolve?_child, hp]; exact h, p.text_child arm i⟩

/-- A text leads to an action exactly when the walk visits the action with this text. -/
theorem follows_iff {text : String} {a : Action} :
    flow.Follows text a ↔ ∃ e ∈ flow.walk, e.1.text = text ∧ e.2 = a := by
  constructor
  · intro h
    obtain ⟨p, hp, htext⟩ := exists_path_of_follows h
    exact ⟨(p, a), mem_walk.2 hp, htext, rfl⟩
  · rintro ⟨⟨p, b⟩, hwalk, rfl, rfl⟩
    exact follows_of_resolve? (mem_walk.1 hwalk)

/-- There is one order of the visits in which every action stands before all below it, the true arm
before the false one and the first in a list before the second. -/
theorem perm_and_pairwise_iff (visits : List (Path × Action)) :
    visits.Perm flow.walk ∧ (visits.map (·.1)).Pairwise Path.Before ↔ visits = flow.walk := by
  constructor
  · rintro ⟨hperm, hpairwise⟩
    rw [List.pairwise_map] at hpairwise
    have hwalk := List.pairwise_map.1 flow.pairwise_walk
    exact hperm.eq_of_pairwise (fun e e' _ _ h h' => absurd h' h.asymm) hpairwise hwalk
  · rintro rfl
    exact ⟨.refl _, flow.pairwise_walk⟩

theorem nodup_text_walk (flow : Flow) : (flow.walk.map (·.1.text)).Nodup := by
  have htexts := flow.nodup_walk.map Path.text_injective
  rwa [List.map_map] at htexts

/-- The walk visits as many actions as the flow counts, in the order of the tree and no other, under
texts that all differ; what it visits under a text is what the text leads to, and it visits
everything that a text leads to. -/
theorem walk_enumerates (flow : Flow) :
    flow.walk.length = flow.totalActions ∧
    (∀ visits, visits.Perm flow.walk ∧ (visits.map (·.1)).Pairwise Path.Before ↔
      visits = flow.walk) ∧
    (flow.walk.map (·.1.text)).Nodup ∧
    ∀ text a, flow.Follows text a ↔ ∃ e ∈ flow.walk, e.1.text = text ∧ e.2 = a :=
  ⟨flow.length_walk, perm_and_pairwise_iff, flow.nodup_text_walk, fun _ _ => follows_iff⟩

end Flowline.Flow
