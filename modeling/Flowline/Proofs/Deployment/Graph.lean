import Flowline.Proofs.Deployment.Course
import Flowline.Proofs.Deployment.Plan

/-!
The graph of steps that the engine keeps. A step is put after another one, directly, or at the head
of an arm of a branch. Replaying the additions of a deployment puts every step where it can be put,
and the graph then reads as the actions of the flow.
-/
namespace Flowline.Deployment
open Engine

/-- The steps of a flow, and the name of the step that comes at a place: after a step, or first in
an arm. -/
structure Graph where
  steps : List Step
  next : Cursor → Option String

namespace Graph

def empty : Graph := ⟨[], fun _ => none⟩

/-- A step can be put after the trigger, after a step, and inside a branch. -/
def HasPlace (g : Graph) (c : Cursor) : Prop :=
  c = Scope.start .top ∨
    ∃ step ∈ g.steps, step.name = c.parent ∧ (c.location = .after ∨ step.settings.kind = .branch)

instance (g : Graph) (c : Cursor) : Decidable (g.HasPlace c) := by
  unfold HasPlace
  infer_instance

/-- A name that the graph has no step of. -/
def IsFree (g : Graph) (name : String) : Prop :=
  name ≠ Step.triggerName ∧ ∀ step ∈ g.steps, step.name ≠ name

instance (g : Graph) (name : String) : Decidable (g.IsFree name) := by
  unfold IsFree
  infer_instance

/-- Puts a step at a place; what came there comes after the step, whose arms are empty. -/
def insert (g : Graph) (c : Cursor) (step : Step) : Graph where
  steps := g.steps ++ [step]
  next d :=
    if d = c then some step.name
    else if d.parent = step.name then if d.location = .after then g.next c else none
    else g.next d

/-- An addition finds its place, and its name is free. -/
def add (g : Graph) (x : Addition) : Option Graph :=
  if g.HasPlace (attachment x) ∧ g.IsFree x.step.name then some (g.insert (attachment x) x.step)
  else none

/-- The graph after the additions in order. -/
def replay (l : List Addition) : Option Graph := l.foldlM add empty

/-- A graph reads as a list of actions from a place on: its steps are those of the actions, and its
arms read as theirs. -/
inductive Reads (g : Graph) : Cursor → List Action → Prop where
  | nil {c : Cursor} : g.next c = none → Reads g c []
  | cons {c : Cursor} {name : String} {a : Action} {rest : List Action} :
    g.next c = some name → Step.ofAction name a ∈ g.steps →
    Reads g (Scope.start (.inside name .onTrue)) (a.children .onTrue) →
    Reads g (Scope.start (.inside name .onFalse)) (a.children .onFalse) →
    Reads g ⟨name, .after⟩ rest → Reads g c (a :: rest)

/-- The graph in which every addition of a list has its place to itself. -/
def ofAdditions (l : List Addition) : Graph where
  steps := l.map (·.step)
  next c := (l.find? fun x => attachment x == c).map (·.step.name)

theorem next_ofAdditions_eq_none {l : List Addition} {c : Cursor}
    (h : ∀ x ∈ l, attachment x ≠ c) : (ofAdditions l).next c = none := by
  simpa [ofAdditions] using h

theorem next_ofAdditions_eq_some {l : List Addition} {x : Addition} (hx : x ∈ l)
    (hl : (l.map attachment).Nodup) : (ofAdditions l).next (attachment x) = some x.step.name := by
  have hfind : l.find? (fun y => attachment y == attachment x) = some x := by
    rw [List.find?_eq_some_iff_append]
    obtain ⟨before, after, rfl⟩ := List.append_of_mem hx
    refine ⟨by simp, before, after, rfl, fun y hy => ?_⟩
    rw [List.map_append, List.nodup_append] at hl
    simpa using hl.2.2 _ (List.mem_map_of_mem hy) (attachment x) (by simp)
  simp [ofAdditions, hfind]

theorem next_ofAdditions_concat (l : List Addition) (x : Addition) (c : Cursor) :
    (ofAdditions (l ++ [x])).next c = ((ofAdditions l).next c).or
      (if attachment x = c then some x.step.name else none) := by
  simp only [ofAdditions, List.find?_append, List.find?_cons, List.find?_nil]
  cases hfind : l.find? (fun y => attachment y == c) with
  | some y => simp
  | none =>
    by_cases hx : attachment x = c
    · simp [hx]
    · simp [hx, beq_eq_false_iff_ne.2 hx]

/-- An addition that finds its place, where nothing is, and nothing hangs on its step. -/
theorem add_ofAdditions {l : List Addition} {x : Addition}
    (hplace : (ofAdditions l).HasPlace (attachment x)) (hfree : (ofAdditions l).IsFree x.step.name)
    (hattach : ∀ y ∈ l, attachment y ≠ attachment x)
    (hparent : ∀ y ∈ l, y.parent ≠ x.step.name) :
    (ofAdditions l).add x = some (ofAdditions (l ++ [x])) := by
  have hnext : (ofAdditions l).next (attachment x) = none := next_ofAdditions_eq_none hattach
  have hinsert : ((ofAdditions l).insert (attachment x) x.step).next =
      (ofAdditions (l ++ [x])).next := by
    funext c
    rw [next_ofAdditions_concat, insert]
    by_cases hc : c = attachment x
    · subst hc
      simp [hnext]
    · by_cases hname : c.parent = x.step.name
      · have hnone : (ofAdditions l).next c = none :=
          next_ofAdditions_eq_none fun y hy h => hparent y hy (by rw [← hname, ← h]; rfl)
        simp [hc, Ne.symm hc, hname, hnone, hnext]
      · simp [hc, Ne.symm hc, hname]
  have hsteps : ((ofAdditions l).insert (attachment x) x.step).steps =
      (ofAdditions (l ++ [x])).steps := by simp [insert, ofAdditions]
  rw [add, if_pos ⟨hplace, hfree⟩, Option.some.injEq]
  calc
    (ofAdditions l).insert (attachment x) x.step
      = ⟨((ofAdditions l).insert (attachment x) x.step).steps,
          ((ofAdditions l).insert (attachment x) x.step).next⟩ := rfl
    _ = ofAdditions (l ++ [x]) := by rw [hsteps, hinsert]

theorem kind_ofAction {name : String} {a : Action} (h : a.kind = .branch) :
    (Step.ofAction name a).settings.kind = .branch := by
  cases a with
  | piece => cases h
  | code => cases h
  | branch => rfl

theorem step_mem {l : List Addition} {p : Path} {a : Action} (h : planned p a ∈ l) :
    Step.ofAction (nameOf p) a ∈ (ofAdditions l).steps := List.mem_map.2 ⟨_, h, rfl⟩

section
variable {flow : Flow} {before after : List (Path × Action)} {p : Path} {a : Action}

theorem mem_of_host (h : flow.walk = before ++ (p, a) :: after) {q : Path} (hq : p.host = some q) :
    ∃ b, (q, b) ∈ before := by
  have hfirst := flow.hostFirst_walk
  rw [h] at hfirst
  simpa using hfirst.mem hq

theorem hasPlace_planned (h : flow.walk = before ++ (p, a) :: after) :
    (ofAdditions (before.map fun e => planned e.1 e.2)).HasPlace (attachment (planned p a)) := by
  have hstep : ∀ q b, (q, b) ∈ before → Step.ofAction (nameOf q) b ∈
      (ofAdditions (before.map fun e => planned e.1 e.2)).steps :=
    fun q b hb => step_mem (List.mem_map.2 ⟨(q, b), hb, rfl⟩)
  rw [attachment_planned]
  cases hplace : p.place with
  | succ n =>
    obtain ⟨b, hb⟩ := mem_of_host h (q := p.stem.nth n) (by simp [Path.host, hplace])
    exact .inr ⟨_, hstep _ b hb, rfl, .inl rfl⟩
  | zero =>
    cases hstem : p.stem with
    | top => exact .inl rfl
    | inside q arm =>
      obtain ⟨b, hb⟩ := mem_of_host h (q := q) (by simp [Path.host, hplace, hstem])
      have hq : flow.resolve? q = some b := Flow.mem_walk.1 (h ▸ List.mem_append_left _ hb)
      have hp : flow.resolve? p = some a := Flow.mem_walk.1 (h ▸ List.mem_append_right _ (by simp))
      have hchild : (b.children arm)[0]? = some a := by
        rw [← p.nth_stem_place, hplace, hstem, Stem.nth_inside, Flow.resolve?_child, hq] at hp
        exact hp
      refine .inr ⟨_, hstep q b hb, ?_, .inr (kind_ofAction (Action.kind_of_children hchild))⟩
      cases arm <;> rfl

/-- Nothing hangs on a step before it is added. -/
theorem parent_ne_of_mem (h : flow.walk = before ++ (p, a) :: after) {q : Path} {b : Action}
    (hb : (q, b) ∈ before) : (planned q b).parent ≠ nameOf p := by
  rw [parent_planned]
  cases hhost : q.host with
  | none => exact (nameOf_ne_triggerName p).symm
  | some r =>
    intro hname
    obtain rfl : r = p := nameOf_inj.1 hname
    obtain ⟨front, back, rfl⟩ := List.append_of_mem hb
    obtain ⟨c, hc⟩ := mem_of_host (by rw [h, List.append_assoc, List.cons_append]) hhost
    have hnodup := flow.nodup_walk
    rw [h, List.map_append, List.nodup_append] at hnodup
    exact hnodup.2.2 r (List.mem_map.2 ⟨(r, c), List.mem_append_left _ hc, rfl⟩) r (by simp) rfl

theorem add_planned (h : flow.walk = before ++ (p, a) :: after) :
    (ofAdditions (before.map fun e => planned e.1 e.2)).add (planned p a) =
      some (ofAdditions ((before.map fun e => planned e.1 e.2) ++ [planned p a])) := by
  have hadditions : additions flow = (before.map fun e => planned e.1 e.2) ++
      planned p a :: after.map fun e => planned e.1 e.2 := by
    rw [additions_eq_map, h, List.map_append, List.map_cons]
  have hattach := nodup_attachment flow
  have hname := nodup_name flow
  rw [hadditions, List.map_append, List.nodup_append] at hattach hname
  refine add_ofAdditions (hasPlace_planned h) ⟨nameOf_ne_triggerName p, ?_⟩ ?_ ?_
  · intro step hstep
    obtain ⟨y, hy, rfl⟩ := List.mem_map.1 hstep
    exact hname.2.2 _ (List.mem_map_of_mem hy) _ (by simp)
  · intro y hy
    exact hattach.2.2 _ (List.mem_map_of_mem hy) _ (by simp)
  · intro y hy
    obtain ⟨⟨q, b⟩, hb, rfl⟩ := List.mem_map.1 hy
    exact parent_ne_of_mem h hb

end

/-- The additions one after another, of which each finds the graph of those before it. -/
theorem replay_additions (flow : Flow) :
    replay (additions flow) = some (ofAdditions (additions flow)) := by
  have hfold : ∀ rest before : List (Path × Action), flow.walk = before ++ rest →
      (rest.map fun e => planned e.1 e.2).foldlM add
          (ofAdditions (before.map fun e => planned e.1 e.2)) =
        some (ofAdditions (flow.walk.map fun e => planned e.1 e.2)) := by
    intro rest
    induction rest with
    | nil =>
      intro before h
      rw [h, List.append_nil]
      rfl
    | cons e rest ih =>
      intro before h
      have hrest := ih (before ++ [e]) (by simp [h])
      rw [List.map_append] at hrest
      rw [List.map_cons, List.foldlM_cons, add_planned h]
      exact hrest
  rw [additions_eq_map]
  exact hfold flow.walk [] rfl

section
variable {flow : Flow} {stem : Stem} {n : Nat}

theorem next_additions_eq_some {a : Action} (h : flow.resolve? (stem.nth n) = some a) :
    (ofAdditions (additions flow)).next (cursorOf stem n) = some (nameOf (stem.nth n)) := by
  have hx : planned (stem.nth n) a ∈ additions flow := mem_additions.2 ⟨_, a, h, rfl⟩
  rw [← attachment_planned_eq.2 (rfl : stem.nth n = stem.nth n)]
  exact next_ofAdditions_eq_some hx (nodup_attachment flow)

theorem next_additions_eq_none (h : flow.resolve? (stem.nth n) = none) :
    (ofAdditions (additions flow)).next (cursorOf stem n) = none := by
  refine next_ofAdditions_eq_none fun x hx hattach => ?_
  obtain ⟨p, a, hp, rfl⟩ := mem_additions.1 hx
  rw [attachment_planned_eq.1 hattach, h] at hp
  cases hp

theorem resolve?_nth_inside {p : Path} {a : Action} (h : flow.resolve? p = some a) (arm : Arm)
    (i : Nat) : flow.resolve? ((Stem.inside p arm).nth (0 + i)) = (a.children arm)[i]? := by
  rw [Nat.zero_add, Stem.nth_inside, Flow.resolve?_child, h]
  rfl

end

mutual

/-- The arms of an action are read off the graph: one is empty exactly where no path leads. -/
theorem reads_children {flow : Flow} {p : Path} : (a : Action) → flow.resolve? p = some a →
    ∀ arm, (ofAdditions (additions flow)).Reads (Scope.start (.inside (nameOf p) arm))
      (a.children arm)
  | .piece .., h, arm => .nil (next_additions_eq_none (resolve?_nth_inside h arm 0))
  | .code .., h, arm => .nil (next_additions_eq_none (resolve?_nth_inside h arm 0))
  | .branch _ _ onTrue onFalse, h, arm => by
    cases arm with
    | onTrue => exact reads_from (.inside p .onTrue) 0 onTrue (resolve?_nth_inside h .onTrue)
    | onFalse => exact reads_from (.inside p .onFalse) 0 onFalse (resolve?_nth_inside h .onFalse)

theorem reads_from {flow : Flow} (stem : Stem) (n : Nat) : (actions : List Action) →
    (∀ i, flow.resolve? (stem.nth (n + i)) = actions[i]?) →
    (ofAdditions (additions flow)).Reads (cursorOf stem n) actions
  | [], h => .nil (next_additions_eq_none (h 0))
  | a :: rest, h => by
    have ha : flow.resolve? (stem.nth n) = some a := h 0
    have hstep := step_mem (mem_additions.2 ⟨stem.nth n, a, ha, rfl⟩)
    refine .cons (next_additions_eq_some ha) hstep (reads_children a ha .onTrue)
      (reads_children a ha .onFalse) ?_
    refine reads_from stem (n + 1) rest fun i => ?_
    rw [Nat.add_right_comm]
    exact h (i + 1)

end

theorem reads_additions (flow : Flow) :
    (ofAdditions (additions flow)).Reads (Scope.start .top) flow.actions := by
  refine reads_from .top 0 flow.actions fun i => ?_
  rw [Nat.zero_add]
  simp [Stem.nth, Flow.resolve?, Action.descend]

end Graph

/-- The additions among calls, in order. -/
def additionsAmong (calls : List Call) : List Addition :=
  calls.filterMap fun
    | .apply _ (.addAction x) => some x
    | _ => none

theorem additionsAmong_begun (s : Saga) (shell : String) :
    additionsAmong (s.begun shell s.plan.length) = additions s.flow := by
  rw [Saga.begun_length, Saga.plan, mutations, Saga.start]
  cases s.options.autoPublish <;>
    simp [additionsAmong, List.filterMap_map, List.filterMap_append, Function.comp_def]

theorem additionsAmong_run {s : Saga} {events : List Event} {d : Deployed}
    (h : (s.run events).1 = .finished (.ok d)) :
    additionsAmong (s.run events).2 = additions s.flow := by
  have hreached := Saga.Reached.run s events
  rw [h] at hreached
  obtain ⟨shell, -, -, hcalls⟩ := hreached.of_ok
  rw [hcalls, additionsAmong_begun]

/-- Replaying the additions of a deployment that succeeds, from the empty graph on, puts every step
where it can be put and no two at the same place. The graph then has one step for each action and
reads as the actions of the flow. -/
theorem replay_of_finished {s : Saga} {events : List Event} {d : Deployed}
    (h : (s.run events).1 = .finished (.ok d)) :
    ((additionsAmong (s.run events).2).map attachment).Nodup ∧
    ∃ g, Graph.replay (additionsAmong (s.run events).2) = some g ∧
      g.Reads (Scope.start .top) s.flow.actions ∧
      (g.steps.map (·.name)).Nodup ∧ g.steps.length = s.flow.totalActions := by
  rw [additionsAmong_run h]
  refine ⟨nodup_attachment s.flow, _, Graph.replay_additions s.flow,
    Graph.reads_additions s.flow, ?_, ?_⟩
  · rw [Graph.ofAdditions, List.map_map]
    exact nodup_name s.flow
  · rw [Graph.ofAdditions, List.length_map, length_additions]

/-- A branch between two other steps, with an empty arm and a branch in the other. -/
def nested : Saga where
  flow := {
    displayName := "Report"
    trigger := .webhook "Call" []
    actions := [.code "Run" none [],
      .branch "Check" [] [] [.branch "Again" [] [.code "Low" none []] [], .code "High" none []],
      .code "End" none []]
    connectionsNeeded := []
    explanation := none }
  options := { autoPublish := true }
  guarded := true

theorem replay_nested :
    (nested.run (.created (.ok "flow") :: List.replicate 8 (.applied (.ok ())))).1 =
      .finished (.ok (nested.deployed "flow")) ∧
    ∃ g, Graph.replay (additionsAmong
        (nested.run (.created (.ok "flow") :: List.replicate 8 (.applied (.ok ())))).2) = some g ∧
      g.Reads (Scope.start .top) nested.flow.actions ∧ g.steps.length = 6 := by
  have h : (nested.run (.created (.ok "flow") :: List.replicate 8 (.applied (.ok ())))).1 =
      .finished (.ok (nested.deployed "flow")) := rfl
  obtain ⟨-, g, hreplay, hreads, -, hlength⟩ := replay_of_finished h
  exact ⟨h, g, hreplay, hreads, hlength⟩

end Flowline.Deployment
