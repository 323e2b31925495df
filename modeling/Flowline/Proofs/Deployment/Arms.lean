import Flowline.Proofs.Deployment.Graph
import Flowline.Proofs.Flow.Arms

/-!
Arms of a branch do not see each other. When one arm of a branch holds other actions, a deployment
issues the same requests for everything outside that arm, in the same order, and those for the arm
in one block: that of the true arm right behind the request for the branch, and that of the false
arm right behind it.
-/
namespace Flowline.Deployment
open Engine

/-- The children of an action are in requests of their own. -/
theorem planned_bare (p : Path) (a : Action) : planned p a = planned p a.bare := by
  cases a <;> rfl

/-- Requests, with a place each, are for the actions that the walk of a flow visits there. -/
def Serves (flow : Flow) (l : List (Path × Addition)) : Prop :=
  l.map (·.1) = flow.walk.map (·.1) ∧
    ∀ e ∈ l, ∃ a, flow.resolve? e.1 = some a ∧ e.2.step = Step.ofAction e.2.step.name a

theorem serves_planned (flow : Flow) : Serves flow (Action.labelled planned flow.walk) := by
  refine ⟨Action.map_fst_labelled .., fun e he => ?_⟩
  obtain ⟨⟨p, a⟩, hp, rfl⟩ := List.mem_map.1 he
  exact ⟨a, Flow.mem_walk.1 hp, rfl⟩

theorem map_snd_planned (flow : Flow) :
    (Action.labelled planned flow.walk).map (·.2) = additions flow := by
  rw [additions_eq_map, Action.labelled, List.map_map]
  rfl

/-- Two deployments succeed, and the flow of the second is that of the first with other actions in
one arm of a branch. Outside that arm both issue the same requests in the same order. Those for the
two arms follow the request for the branch, one arm after the other. -/
theorem arms_independent {s t : Saga} {events events' : List Event} {d d' : Deployed} {p : Path}
    {a : Action} {arm : Arm} {actions : List Action}
    (hs : (s.run events).1 = .finished (.ok d)) (ht : (t.run events').1 = .finished (.ok d'))
    (hp : s.flow.resolve? p = some a) (hbranch : a.kind = .branch)
    (hflow : t.flow = s.flow.replaceArm p arm actions) :
    (∃ b, t.flow.resolve? p = some b ∧ b.bare = a.bare ∧
      ∀ other, b.children other = if other = arm then actions else a.children other) ∧
    ∃ l m : List (Path × Addition),
      (l.map (·.2) = additionsAmong (s.run events).2 ∧ Serves s.flow l) ∧
      (m.map (·.2) = additionsAmong (t.run events').2 ∧ Serves t.flow m) ∧
      p.outside arm l = p.outside arm m ∧
      ∃ before own after, own.1 = p ∧
        l = before ++ own :: (p.within .onTrue l ++ (p.within .onFalse l ++ after)) ∧
        m = before ++ own :: (p.within .onTrue m ++ (p.within .onFalse m ++ after)) := by
  rw [additionsAmong_run hs, additionsAmong_run ht]
  have hreplaced : t.flow.resolve? p = some (a.withArm arm actions) := by
    rw [hflow]
    exact Flow.resolve?_adjust hp _
  refine ⟨⟨_, hreplaced, a.bare_withArm arm actions, Action.children_withArm hbranch⟩,
    Action.labelled planned s.flow.walk, Action.labelled planned t.flow.walk,
    ⟨map_snd_planned s.flow, serves_planned s.flow⟩,
    ⟨map_snd_planned t.flow, serves_planned t.flow⟩, ?_⟩
  obtain ⟨before, after, hblocks⟩ := Flow.exists_blocks planned_bare hp
  have hl := hblocks id rfl (Action.labelled planned s.flow.walk) (by rw [Flow.adjust_id])
  have hm := hblocks _ (a.bare_withArm arm actions) (Action.labelled planned t.flow.walk)
    (by rw [hflow]; rfl)
  generalize Action.labelled planned s.flow.walk = l at hl ⊢
  generalize Action.labelled planned t.flow.walk = m at hm ⊢
  have hsame (other : Arm) :
      p.outside arm (p.within other l) = p.outside arm (p.within other m) := by
    by_cases hother : other = arm
    · rw [hother, Path.outside_within_self, Path.outside_within_self]
    · rw [(hl.2 other).1, (hm.2 other).1, Action.children_withArm hbranch, if_neg hother]
      rfl
  refine ⟨?_, before, _, after, rfl, hl.1, hm.1⟩
  rw [(hl.2 arm).2, (hm.2 arm).2, hsame .onTrue, hsame .onFalse]

/-- The deployment with two steps in the arm that is empty, inside an arm of another branch. -/
def refilled : Saga where
  flow := nested.flow.replaceArm ⟨1, [(.onFalse, 0)]⟩ .onFalse
    [.code "Left" none [], .code "Right" none []]
  options := { autoPublish := true }
  guarded := true

theorem arms_independent_nested :
    (nested.run (.created (.ok "flow") :: List.replicate 8 (.applied (.ok ())))).1 =
      .finished (.ok (nested.deployed "flow")) ∧
    (refilled.run (.created (.ok "flow") :: List.replicate 10 (.applied (.ok ())))).1 =
      .finished (.ok (refilled.deployed "flow")) ∧
    nested.flow.resolve? ⟨1, [(.onFalse, 0)]⟩ =
      some (.branch "Again" [] [.code "Low" none []] []) ∧
    ∃ l m : List (Path × Addition),
      l.map (·.2.step.name) = ["step_1", "step_2", "step_2_false_1", "step_2_false_1_true_1",
        "step_2_false_2", "step_3"] ∧
      m.map (·.2.step.name) = ["step_1", "step_2", "step_2_false_1", "step_2_false_1_true_1",
        "step_2_false_1_false_1", "step_2_false_1_false_2", "step_2_false_2", "step_3"] ∧
      Path.outside ⟨1, [(.onFalse, 0)]⟩ .onFalse l =
        Path.outside ⟨1, [(.onFalse, 0)]⟩ .onFalse m := by
  have hs : (nested.run (.created (.ok "flow") :: List.replicate 8 (.applied (.ok ())))).1 =
      .finished (.ok (nested.deployed "flow")) := rfl
  have ht : (refilled.run (.created (.ok "flow") :: List.replicate 10 (.applied (.ok ())))).1 =
      .finished (.ok (refilled.deployed "flow")) := rfl
  have hp : nested.flow.resolve? ⟨1, [(.onFalse, 0)]⟩ =
      some (.branch "Again" [] [.code "Low" none []] []) := rfl
  have hflow : refilled.flow = nested.flow.replaceArm ⟨1, [(.onFalse, 0)]⟩ .onFalse
      [.code "Left" none [], .code "Right" none []] := rfl
  obtain ⟨-, l, m, ⟨hl, -⟩, ⟨hm, -⟩, houtside, -⟩ := arms_independent hs ht hp rfl hflow
  refine ⟨hs, ht, hp, l, m, ?_, ?_, houtside⟩
  · have hnames := congrArg (List.map (·.step.name)) hl
    rw [List.map_map] at hnames
    exact hnames.trans (by decide +kernel)
  · have hnames := congrArg (List.map (·.step.name)) hm
    rw [List.map_map] at hnames
    exact hnames.trans (by decide +kernel)

end Flowline.Deployment
