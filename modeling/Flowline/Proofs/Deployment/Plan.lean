import Flowline.Proofs.Deployment.StepName
import Mathlib.Data.List.Nodup

/-!
The plan of a deployment against the walk of its flow: there is one addition for each action, in
the order of the walk, and it can be told from the path of the action alone. Where a step attaches
tells its path in turn, so no two steps attach at the same place.
-/
namespace Flowline.Deployment
open Engine

/-- Where the `n`-th step of a list attaches, counted from zero. -/
def cursorOf (stem : Stem) : Nat → Cursor
  | 0 => Scope.start (.ofStem stem)
  | n + 1 => ⟨nameOf (stem.nth n), .after⟩

/-- The addition of the step that stands for the action at a path. -/
def planned (p : Path) (a : Action) : Addition :=
  addition (.ofStem p.stem) (cursorOf p.stem p.place) (nameOf p) a

theorem planned_nth (stem : Stem) (n : Nat) (a : Action) :
    planned (stem.nth n) a =
      addition (.ofStem stem) (cursorOf stem n) ((Scope.ofStem stem).stepName (n + 1)) a := by
  rw [planned, Stem.stem_nth, Stem.place_nth, nameOf_nth]

/-- A step hangs on the step of what its action hangs on, or on the trigger. -/
theorem parent_planned (p : Path) (a : Action) :
    (planned p a).parent = (p.host.map nameOf).getD Step.triggerName := by
  rw [planned, addition, Path.host]
  cases p.place with
  | succ n => rfl
  | zero =>
    cases p.stem with
    | top => rfl
    | inside q arm => cases arm <;> rfl

mutual

theorem additionsInside_eq_map (p : Path) : (a : Action) →
    additionsInside (nameOf p) a = (a.walkInside p).map fun e => planned e.1 e.2
  | .piece .. => by simp [additionsInside, Action.walkInside]
  | .code .. => by simp [additionsInside, Action.walkInside]
  | .branch _ _ onTrue onFalse => by
    rw [additionsInside, Action.walkInside, List.map_append,
      ← additionsFrom_eq_map (.inside p .onTrue) 0 onTrue,
      ← additionsFrom_eq_map (.inside p .onFalse) 0 onFalse]
    rfl

theorem additionsFrom_eq_map (stem : Stem) (n : Nat) : (actions : List Action) →
    additionsFrom (.ofStem stem) (cursorOf stem n) (n + 1) actions =
      (Action.walkFrom stem n actions).map fun e => planned e.1 e.2
  | [] => by simp [additionsFrom, Action.walkFrom]
  | a :: rest => by
    have hrest := additionsFrom_eq_map stem (n + 1) rest
    rw [cursorOf, nameOf_nth] at hrest
    rw [additionsFrom, Action.walkFrom, List.map_cons, List.map_append, planned_nth, ← hrest,
      ← additionsInside_eq_map (stem.nth n) a, nameOf_nth]

end

theorem additions_eq_map (flow : Flow) :
    additions flow = flow.walk.map fun e => planned e.1 e.2 :=
  additionsFrom_eq_map .top 0 flow.actions

theorem mem_additions {flow : Flow} {x : Addition} :
    x ∈ additions flow ↔ ∃ p a, flow.resolve? p = some a ∧ planned p a = x := by
  simp only [additions_eq_map, List.mem_map, Prod.exists, Flow.mem_walk]

theorem length_additions (flow : Flow) : (additions flow).length = flow.totalActions := by
  rw [additions_eq_map, List.length_map, Flow.length_walk]

/-- The first step of a list hangs on what the list hangs on, and on nothing else. -/
theorem start_inj {scope scope' : Scope} : scope.start = scope'.start ↔ scope = scope' := by
  constructor
  · intro h
    cases scope with
    | top =>
      cases scope' with
      | top => rfl
      | inside branch arm => cases arm <;> simp [Scope.start] at h
    | inside branch arm =>
      cases scope' with
      | top => cases arm <;> simp [Scope.start] at h
      | inside branch' arm' =>
        cases arm <;> cases arm' <;> simp [Scope.start] at h <;> rw [h]
  · rintro rfl
    rfl

theorem start_ne_after (scope : Scope) (p : Path) : scope.start ≠ ⟨nameOf p, .after⟩ := by
  cases scope with
  | top =>
    intro h
    exact nameOf_ne_triggerName p (Cursor.mk.inj h).1.symm
  | inside branch arm => cases arm <;> simp [Scope.start]

theorem cursorOf_inj {stem stem' : Stem} {m n : Nat} :
    cursorOf stem m = cursorOf stem' n ↔ stem = stem' ∧ m = n := by
  constructor
  · intro h
    cases m with
    | zero =>
      cases n with
      | zero => exact ⟨Scope.ofStem_inj.1 (start_inj.1 h), rfl⟩
      | succ n => exact absurd h (start_ne_after _ _)
    | succ m =>
      cases n with
      | zero => exact absurd h.symm (start_ne_after _ _)
      | succ n =>
        have hpath : stem.nth m = stem'.nth n := nameOf_inj.1 (Cursor.mk.inj h).1
        have hstem := congrArg Path.stem hpath
        have hplace := congrArg Path.place hpath
        rw [Stem.stem_nth, Stem.stem_nth] at hstem
        rw [Stem.place_nth, Stem.place_nth] at hplace
        exact ⟨hstem, congrArg (· + 1) hplace⟩
  · rintro ⟨rfl, rfl⟩
    rfl

/-- Where an addition attaches. -/
def attachment (x : Addition) : Cursor := ⟨x.parent, x.location⟩

theorem attachment_planned (p : Path) (a : Action) :
    attachment (planned p a) = cursorOf p.stem p.place := rfl

theorem attachment_planned_eq {p : Path} {a : Action} {stem : Stem} {n : Nat} :
    attachment (planned p a) = cursorOf stem n ↔ p = stem.nth n := by
  rw [attachment_planned, cursorOf_inj]
  constructor
  · rintro ⟨rfl, rfl⟩
    exact p.nth_stem_place.symm
  · rintro rfl
    exact ⟨stem.stem_nth n, stem.place_nth n⟩

/-- What tells the paths of two steps apart is different for any two steps of a plan. -/
theorem nodup_map_additions {β : Type} {f : Addition → β} {g : Path → β} (flow : Flow)
    (hf : ∀ p a, f (planned p a) = g p) (hg : ∀ p q, g p = g q → p = q) :
    ((additions flow).map f).Nodup := by
  have h : (additions flow).map f = (flow.walk.map (·.1)).map g := by
    rw [additions_eq_map, List.map_map, List.map_map]
    exact List.map_congr_left fun e _ => hf e.1 e.2
  rw [h]
  exact List.Nodup.map hg flow.nodup_walk

theorem nodup_attachment (flow : Flow) : ((additions flow).map attachment).Nodup := by
  refine nodup_map_additions flow attachment_planned ?_
  intro p q h
  obtain ⟨hstem, hplace⟩ := cursorOf_inj.1 h
  rw [← p.nth_stem_place, ← q.nth_stem_place, hstem, hplace]

theorem nodup_name (flow : Flow) : ((additions flow).map (·.step.name)).Nodup :=
  nodup_map_additions flow (fun _ _ => rfl) fun _ _ h => nameOf_inj.1 h

end Flowline.Deployment
