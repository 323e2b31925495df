import Flowline.Check.Shape
import Flowline.Proofs.Flow.Arms

/-!
The depth rule of typed flows. It reports the branches with children whose paths have as many hops
as the limit allows, and is kept exactly when no action stands deeper than the limit.
-/
namespace Flowline

/-- Whatever hops lead to below an action with `depth` branches above it stands within the limit. -/
def Action.Within (limit depth : Nat) (a : Action) : Prop :=
  ∀ hops b, hops ≠ [] → a.descend hops = some b → depth + hops.length ≤ limit

theorem Action.within_iff {limit depth : Nat} {a : Action} :
    a.Within limit depth ↔ ∀ (arm : Arm) (i : Nat) (b : Action),
      (a.children arm)[i]? = some b → depth + 1 ≤ limit ∧ b.Within limit (depth + 1) := by
  constructor
  · intro h arm i b hb
    refine ⟨h [(arm, i)] b (by simp) (by simp [descend, hb]), ?_⟩
    intro hops c _ hc
    have := h ((arm, i) :: hops) c (by simp) (by rw [descend_cons, hb]; exact hc)
    rw [List.length_cons] at this
    omega
  · rintro h (_ | ⟨⟨arm, i⟩, hops⟩) c hne hc
    · exact absurd rfl hne
    · obtain ⟨b, hb, hc⟩ := Option.bind_eq_some_iff.1 hc
      obtain ⟨hle, hwithin⟩ := h arm i b hb
      cases hops with
      | nil => exact hle
      | cons hop hops =>
        have := hwithin (hop :: hops) c (by simp) hc
        rw [List.length_cons]
        omega

/-- A branch keeps the rule when it has no children, or its children are within the limit and keep
the rule one level down. -/
theorem Action.within_branch_iff {limit depth : Nat} {name : String} {conditions : List Json}
    {onTrue onFalse : List Action} :
    (branch name conditions onTrue onFalse).Within limit depth ↔
      (onTrue = [] ∧ onFalse = [] ∨ depth + 1 ≤ limit) ∧
      (∀ a ∈ onTrue, a.Within limit (depth + 1)) ∧
      (∀ a ∈ onFalse, a.Within limit (depth + 1)) := by
  simp only [List.mem_iff_getElem?]
  rw [within_iff]
  constructor
  · intro h
    refine ⟨?_, fun a ⟨i, ha⟩ => (h .onTrue i a ha).2, fun a ⟨i, ha⟩ => (h .onFalse i a ha).2⟩
    cases onTrue with
    | cons a rest => exact .inr (h .onTrue 0 a rfl).1
    | nil =>
      cases onFalse with
      | cons a rest => exact .inr (h .onFalse 0 a rfl).1
      | nil => exact .inl ⟨rfl, rfl⟩
  · rintro ⟨hroom, htrue, hfalse⟩ arm i b hb
    have hroom : depth + 1 ≤ limit := by
      rcases hroom with ⟨rfl, rfl⟩ | hroom
      · cases arm <;> simp [children] at hb
      · exact hroom
    cases arm with
    | onTrue => exact ⟨hroom, htrue b ⟨i, hb⟩⟩
    | onFalse => exact ⟨hroom, hfalse b ⟨i, hb⟩⟩

/-- A branch with a child in one of its arms. -/
def Action.isFilled : Action → Bool
  | .branch _ _ onTrue onFalse => !(onTrue.isEmpty && onFalse.isEmpty)
  | _ => false

namespace Shape

theorem demand_eq_nil {kept : Bool} {fault : Fault} {place : Place} :
    demand kept fault place = [] ↔ kept = true := by
  cases kept <;> simp [demand]

mutual

theorem depthOf_eq_nil_iff {limit depth : Nat} {p : Path} : (a : Action) →
    (depthOf limit depth p a = [] ↔ a.Within limit depth)
  | .piece .. => by rw [Action.within_iff]; simp [depthOf, Action.children]
  | .code .. => by rw [Action.within_iff]; simp [depthOf, Action.children]
  | .branch _ _ onTrue onFalse => by
    have htrue : depthOfAll limit (depth + 1) (.inside p .onTrue) 0 onTrue = [] ↔ _ :=
      depthOfAll_eq_nil_iff onTrue
    have hfalse : depthOfAll limit (depth + 1) (.inside p .onFalse) 0 onFalse = [] ↔ _ :=
      depthOfAll_eq_nil_iff onFalse
    have hroom : (!(onTrue.isEmpty && onFalse.isEmpty) && decide (limit < depth + 1)) = false ↔
        onTrue = [] ∧ onFalse = [] ∨ depth + 1 ≤ limit := by
      cases onTrue <;> cases onFalse <;> simp
    rw [depthOf, Action.within_branch_iff, ← htrue, ← hfalse, ← hroom]
    generalize (!(onTrue.isEmpty && onFalse.isEmpty) && decide (limit < depth + 1)) = deep
    cases deep <;> simp

theorem depthOfAll_eq_nil_iff {limit depth : Nat} {stem : Stem} {n : Nat} :
    (actions : List Action) →
    (depthOfAll limit depth stem n actions = [] ↔ ∀ a ∈ actions, a.Within limit depth)
  | [] => by simp [depthOfAll]
  | a :: rest => by
    rw [depthOfAll, List.append_eq_nil_iff, depthOf_eq_nil_iff a, depthOfAll_eq_nil_iff rest,
      List.forall_mem_cons]

end

/-- The filled branches among visits whose paths have as many hops as the limit allows. -/
def deepest (limit : Nat) (l : List (Path × Action)) : List (Path × Action) :=
  l.filter fun e => e.2.isFilled ∧ e.1.hops.length = limit

theorem deepest_append (limit : Nat) (l l' : List (Path × Action)) :
    deepest limit (l ++ l') = deepest limit l ++ deepest limit l' := List.filter_append ..

/-- In an arm everything is deeper than the branch. -/
theorem deepest_inside_eq_nil {limit : Nat} {p : Path} (h : limit ≤ p.hops.length) (arm : Arm)
    (n : Nat) (l : List Action) :
    deepest limit (Action.walkFrom (.inside p arm) n l) = [] := by
  rw [deepest, List.filter_eq_nil_iff]
  intro e he
  obtain ⟨i, hops, hi⟩ := Action.below_of_mem_walkFrom (List.mem_map_of_mem he)
  have hlength : e.1.hops.length ≠ limit := by
    rw [hi]
    simp [Stem.nth, Path.child, Path.below]
    omega
  simp [hlength]

mutual

theorem depthOf_eq_map {limit depth : Nat} {p : Path} (hp : p.hops.length = depth)
    (hdepth : depth ≤ limit) : (a : Action) →
    depthOf limit depth p a =
      (deepest limit (a.visits p)).map fun e => ⟨.tooDeep limit, .action e.1⟩
  | .piece .. => by simp [depthOf, deepest, Action.visits, Action.walkInside, Action.isFilled]
  | .code .. => by simp [depthOf, deepest, Action.visits, Action.walkInside, Action.isFilled]
  | .branch name conditions onTrue onFalse => by
    have hinside (arm : Arm) (i : Nat) : ((Stem.inside p arm).nth i).hops.length = depth + 1 := by
      simp [Stem.nth, Path.child, hp]
    have hparts : deepest limit ((Action.branch name conditions onTrue onFalse).visits p) =
        deepest limit [(p, .branch name conditions onTrue onFalse)] ++
          (deepest limit (Action.walkFrom (.inside p .onTrue) 0 onTrue) ++
            deepest limit (Action.walkFrom (.inside p .onFalse) 0 onFalse)) := by
      rw [Action.visits_eq, ← List.singleton_append, deepest_append, deepest_append]
      rfl
    rw [depthOf, hparts]
    by_cases hfilled : (Action.branch name conditions onTrue onFalse).isFilled = true
    · by_cases hroom : limit < depth + 1
      · have hlimit : p.hops.length = limit := by omega
        have hown : deepest limit [(p, Action.branch name conditions onTrue onFalse)] =
            [(p, .branch name conditions onTrue onFalse)] := by
          simp [deepest, hfilled, hlimit]
        have hdeep : (!(onTrue.isEmpty && onFalse.isEmpty) && decide (limit < depth + 1)) = true :=
          Bool.and_eq_true_iff.2 ⟨hfilled, decide_eq_true hroom⟩
        have hle : limit ≤ p.hops.length := Nat.le_of_eq hlimit.symm
        rw [if_pos hdeep, hown, deepest_inside_eq_nil hle, deepest_inside_eq_nil hle]
        rfl
      · have hown : deepest limit [(p, Action.branch name conditions onTrue onFalse)] = [] := by
          have hlimit : p.hops.length ≠ limit := by omega
          simp [deepest, hlimit]
        rw [if_neg (by simp [hroom]), hown, List.nil_append, List.map_append,
          depthOfAll_eq_map (hinside .onTrue) (by omega) onTrue,
          depthOfAll_eq_map (hinside .onFalse) (by omega) onFalse]
    · obtain ⟨rfl, rfl⟩ : onTrue = [] ∧ onFalse = [] := by simpa [Action.isFilled] using hfilled
      simp [depthOfAll, deepest, Action.walkFrom, Action.isFilled]

theorem depthOfAll_eq_map {limit depth : Nat} {stem : Stem} {n : Nat}
    (hstem : ∀ i, (stem.nth i).hops.length = depth) (hdepth : depth ≤ limit) :
    (actions : List Action) →
    depthOfAll limit depth stem n actions =
      (deepest limit (Action.walkFrom stem n actions)).map fun e => ⟨.tooDeep limit, .action e.1⟩
  | [] => rfl
  | a :: rest => by
    rw [depthOfAll, Action.walkFrom_cons, deepest, List.filter_append, List.map_append,
      depthOf_eq_map (hstem n) hdepth a, depthOfAll_eq_map hstem hdepth rest]
    rfl

end

/-- The depth rule is kept exactly when no path to an action has more hops than the limit. -/
theorem depthOfAll_top_eq_nil_iff {limit : Nat} {flow : Flow} :
    depthOfAll limit 0 .top 0 flow.actions = [] ↔
      ∀ p a, flow.resolve? p = some a → p.hops.length ≤ limit := by
  rw [depthOfAll_eq_nil_iff]
  constructor
  · intro h p b hb
    obtain ⟨a, ha, hb⟩ := Option.bind_eq_some_iff.1 hb
    cases hhops : p.hops with
    | nil => exact Nat.zero_le _
    | cons hop hops =>
      have := h a (List.mem_of_getElem? ha) (hop :: hops) b (by simp) (hhops ▸ hb)
      simpa using this
  · intro h a ha hops b _ hb
    obtain ⟨i, ha⟩ := List.mem_iff_getElem?.1 ha
    simpa using h ⟨i, hops⟩ b (by simpa [Flow.resolve?, ha] using hb)

/-- The shape rules of a typed flow, in terms of its name, its actions and their paths. -/
theorem checkFlow_eq_nil_iff {limit : Nat} {flow : Flow} :
    checkFlow limit flow = [] ↔
      Text.isBlankText flow.displayName = false ∧ flow.actions ≠ [] ∧
        ∀ p a, flow.resolve? p = some a → p.hops.length ≤ limit := by
  rw [checkFlow, List.append_eq_nil_iff, List.append_eq_nil_iff, demand_eq_nil, demand_eq_nil,
    depthOfAll_top_eq_nil_iff, and_assoc]
  simp

end Shape
end Flowline
