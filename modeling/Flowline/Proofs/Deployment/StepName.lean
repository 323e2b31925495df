import Flowline.Deployment.Plan
import Flowline.Proofs.Flow.PathText

/-!
The names of steps. The name of a step spells out the path of its action: the part after the last
underscore is its place in a list, and the part before it tells which list. So different paths have
different names, and no step has the name of the trigger.
-/
namespace Flowline.Deployment

theorem armName_inj {arm arm' : Arm} : armName arm = armName arm' ↔ arm = arm' := by
  cases arm <;> cases arm' <;> decide

theorem underscore_notMem_armName (arm : Arm) : '_' ∉ (armName arm).toList := by
  cases arm <;> decide

namespace Scope

/-- The name of a step of a list, up to the last underscore. -/
def front : Scope → List Char
  | .top => ['s', 't', 'e', 'p']
  | .inside branch arm => branch.toList ++ '_' :: (armName arm).toList

theorem front_inj {scope scope' : Scope} : scope.front = scope'.front ↔ scope = scope' := by
  constructor
  · intro h
    cases scope with
    | top =>
      cases scope' with
      | top => rfl
      | inside branch arm =>
        have hmem : '_' ∈ front .top := by rw [h]; simp [front]
        exact absurd hmem (by decide)
    | inside branch arm =>
      cases scope' with
      | top =>
        have hmem : '_' ∈ front .top := by rw [← h]; simp [front]
        exact absurd hmem (by decide)
      | inside branch' arm' =>
        obtain ⟨hbranch, harm⟩ := (append_cons_inj_of_notMem (underscore_notMem_armName arm)
          (underscore_notMem_armName arm')).1 h
        rw [String.toList_inj.1 hbranch, armName_inj.1 (String.toList_inj.1 harm)]
  · rintro rfl
    rfl

theorem toList_stepName (scope : Scope) (n : Nat) :
    (scope.stepName n).toList = scope.front ++ '_' :: Nat.toDigits 10 n := by
  cases scope <;>
    simp [stepName, front, String.toList_append, Nat.toList_repr]

/-- A name tells the list that its step stands in, and where. -/
theorem stepName_inj {scope scope' : Scope} {m n : Nat} :
    scope.stepName m = scope'.stepName n ↔ scope = scope' ∧ m = n := by
  rw [← String.toList_inj, toList_stepName, toList_stepName,
    append_cons_inj_of_notMem Nat.underscore_not_in_toDigits Nat.underscore_not_in_toDigits,
    front_inj, toDigits_inj]

theorem stepName_ne_triggerName (scope : Scope) (n : Nat) :
    scope.stepName n ≠ Step.triggerName := by
  intro h
  have hmem : '_' ∈ Step.triggerName.toList := by simp [← h, toList_stepName]
  exact absurd hmem (by decide)

end Scope

/-- The name of the step of the action at a path. -/
def nameOf (p : Path) : String :=
  p.hops.foldl (fun name hop => (Scope.inside name hop.1).stepName (hop.2 + 1))
    (Scope.top.stepName (p.index + 1))

theorem nameOf_child (p : Path) (arm : Arm) (i : Nat) :
    nameOf (p.child arm i) = (Scope.inside (nameOf p) arm).stepName (i + 1) := by
  simp [nameOf, Path.child]

/-- The list of steps that stands for a list of actions. -/
def Scope.ofStem : Stem → Scope
  | .top => .top
  | .inside p arm => .inside (nameOf p) arm

theorem nameOf_nth (stem : Stem) (i : Nat) :
    nameOf (stem.nth i) = (Scope.ofStem stem).stepName (i + 1) := by
  cases stem with
  | top => rfl
  | inside p arm => exact nameOf_child p arm i

theorem nameOf_eq (p : Path) : nameOf p = (Scope.ofStem p.stem).stepName (p.place + 1) := by
  rw [← nameOf_nth, p.nth_stem_place]

theorem nameOf_inj {p q : Path} : nameOf p = nameOf q ↔ p = q := by
  refine Function.Injective.eq_iff (Path.injective_of_nth fun {stem stem' i i'} h => ?_)
  rw [nameOf_nth, nameOf_nth, Scope.stepName_inj] at h
  obtain ⟨hscope, hplace⟩ := h
  refine ⟨Nat.add_right_cancel hplace, ?_⟩
  cases stem with
  | top =>
    cases stem' with
    | top => exact .inl rfl
    | inside q' arm' => simp [Scope.ofStem] at hscope
  | inside q arm =>
    cases stem' with
    | top => simp [Scope.ofStem] at hscope
    | inside q' arm' =>
      simp only [Scope.ofStem, Scope.inside.injEq] at hscope
      exact .inr ⟨q, q', arm, rfl, by rw [hscope.2], hscope.1⟩

theorem nameOf_ne_triggerName (p : Path) : nameOf p ≠ Step.triggerName := by
  rw [nameOf_eq]
  exact Scope.stepName_ne_triggerName _ _

theorem Scope.ofStem_inj {stem stem' : Stem} :
    Scope.ofStem stem = Scope.ofStem stem' ↔ stem = stem' := by
  cases stem <;> cases stem' <;> simp [Scope.ofStem, nameOf_inj]

end Flowline.Deployment
