import Flowline.Proofs.Flow.Walk
import Mathlib.Data.List.Nodup

/-!
What stands in an arm of a branch, and flows with another list of actions in one. The visits of an
arm come one after another in the walk, those of its true arm right behind the branch and those of
the false arm right behind them; all other visits see the same actions, children apart, whatever the
arm holds.
-/
namespace Flowline

/-- The arm of the branch at the first path that the action at the second one stands in, at whatever
depth. -/
def Path.armTo (p q : Path) : Option Arm :=
  if p.index = q.index then (q.hops.dropPrefix? p.hops).bind fun hops => hops.head?.map (·.1)
  else none

theorem Path.armTo_eq_some_iff {p q : Path} {arm : Arm} :
    p.armTo q = some arm ↔ ∃ i hops, q = p.below ((arm, i) :: hops) := by
  obtain ⟨m, front⟩ := p
  obtain ⟨n, hops⟩ := q
  constructor
  · intro h
    rw [armTo] at h
    split at h
    · rename_i hindex
      obtain ⟨back, hback, harm⟩ := Option.bind_eq_some_iff.1 h
      obtain ⟨front', hfront, heq⟩ := List.dropPrefix?_eq_some_iff.1 hback
      obtain rfl : front' = front := by simpa using heq
      obtain ⟨⟨arm', i⟩, hhead, rfl⟩ := Option.map_eq_some_iff.1 harm
      obtain ⟨rest, rfl⟩ := List.head?_eq_some_iff.1 hhead
      exact ⟨i, rest, by simp_all [below]⟩
    · cases h
  · rintro ⟨i, rest, h⟩
    obtain ⟨rfl, rfl⟩ := Path.mk.inj h
    have hback : (front ++ (arm, i) :: rest).dropPrefix? front = some ((arm, i) :: rest) :=
      List.dropPrefix?_eq_some_iff.2 ⟨front, rfl, by simp⟩
    simp [armTo, hback]

theorem Path.armTo_below_cons (p : Path) (arm : Arm) (i : Nat) (hops : List (Arm × Nat)) :
    p.armTo (p.below ((arm, i) :: hops)) = some arm := armTo_eq_some_iff.2 ⟨i, hops, rfl⟩

theorem Path.length_lt_of_armTo {p q : Path} {arm : Arm} (h : p.armTo q = some arm) :
    p.hops.length < q.hops.length := by
  obtain ⟨i, hops, rfl⟩ := armTo_eq_some_iff.1 h
  simp [below]

theorem Path.armTo_self (p : Path) : p.armTo p = none := by
  by_contra h
  obtain ⟨arm, harm⟩ := Option.ne_none_iff_exists'.1 h
  exact Nat.lt_irrefl _ (length_lt_of_armTo harm)

/-- Of what is told of places, what is told of those in one arm of the branch at a path. -/
def Path.within {β : Type} (p : Path) (arm : Arm) (l : List (Path × β)) : List (Path × β) :=
  l.filter fun e => p.armTo e.1 = some arm

/-- Of what is told of places, what is told of all others. -/
def Path.outside {β : Type} (p : Path) (arm : Arm) (l : List (Path × β)) : List (Path × β) :=
  l.filter fun e => p.armTo e.1 ≠ some arm

/-- A test of the arm that a place stands in takes all or none of the places in one arm. -/
theorem Path.filter_of_forall {β : Type} {p : Path} {o : Option Arm} {l : List (Path × β)}
    (h : ∀ e ∈ l, p.armTo e.1 = o) (test : Option Arm → Bool) :
    l.filter (fun e => test (p.armTo e.1)) = if test o then l else [] := by
  have hsame : ∀ e ∈ l, test (p.armTo e.1) = test o := fun e he => by rw [h e he]
  rw [List.filter_congr hsame]
  cases test o <;> simp

theorem Path.within_of_forall {β : Type} {p : Path} {o : Option Arm} {l : List (Path × β)}
    (h : ∀ e ∈ l, p.armTo e.1 = o) (arm : Arm) :
    p.within arm l = if o = some arm then l else [] := by
  have hfilter := filter_of_forall h fun place => decide (place = some arm)
  simpa [within] using hfilter

theorem Path.outside_of_forall {β : Type} {p : Path} {o : Option Arm} {l : List (Path × β)}
    (h : ∀ e ∈ l, p.armTo e.1 = o) (arm : Arm) :
    p.outside arm l = if o = some arm then [] else l := by
  have hfilter := filter_of_forall h fun place => decide (place ≠ some arm)
  simpa [outside] using hfilter

theorem Path.within_append {β : Type} (p : Path) (arm : Arm) (l l' : List (Path × β)) :
    p.within arm (l ++ l') = p.within arm l ++ p.within arm l' := List.filter_append ..

theorem Path.outside_append {β : Type} (p : Path) (arm : Arm) (l l' : List (Path × β)) :
    p.outside arm (l ++ l') = p.outside arm l ++ p.outside arm l' := List.filter_append ..

theorem Path.outside_within_self {β : Type} (p : Path) (arm : Arm) (l : List (Path × β)) :
    p.outside arm (p.within arm l) = [] := by
  simp [outside, within]

namespace Action

/-- The action without its children. -/
def bare : Action → Action
  | .branch name conditions _ _ => .branch name conditions [] []
  | a => a

/-- The branch with other actions in one arm. -/
def withArm (arm : Arm) (actions : List Action) : Action → Action
  | .branch name conditions onTrue onFalse =>
    match arm with
    | .onTrue => .branch name conditions actions onFalse
    | .onFalse => .branch name conditions onTrue actions
  | a => a

/-- The action with `f` done to the descendant that hops lead to. -/
def adjust (f : Action → Action) : List (Arm × Nat) → Action → Action
  | [], a => f a
  | (arm, i) :: rest, a => a.withArm arm ((a.children arm).modify i (adjust f rest))

theorem bare_withArm (arm : Arm) (actions : List Action) (a : Action) :
    (a.withArm arm actions).bare = a.bare := by
  cases a <;> cases arm <;> rfl

theorem withArm_children (arm : Arm) (a : Action) : a.withArm arm (a.children arm) = a := by
  cases a <;> cases arm <;> rfl

theorem children_withArm {arm : Arm} {actions : List Action} {a : Action} (h : a.kind = .branch)
    (other : Arm) :
    (a.withArm arm actions).children other = if other = arm then actions else a.children other := by
  cases a with
  | piece => cases h
  | code => cases h
  | branch => cases arm <;> cases other <;> rfl

theorem adjust_id (hops : List (Arm × Nat)) : adjust id hops = id := by
  induction hops with
  | nil => rfl
  | cons hop rest ih =>
    obtain ⟨arm, i⟩ := hop
    funext a
    rw [adjust, ih, List.modify_id, withArm_children]
    rfl

theorem descend_adjust (f : Action → Action) {hops : List (Arm × Nat)} {a c : Action}
    (h : a.descend hops = some c) : (a.adjust f hops).descend hops = some (f c) := by
  induction hops generalizing a with
  | nil =>
    obtain rfl : a = c := by simpa [descend] using h
    rfl
  | cons hop rest ih =>
    obtain ⟨arm, i⟩ := hop
    obtain ⟨b, hb, hc⟩ := Option.bind_eq_some_iff.1 h
    rw [adjust, descend_cons, children_withArm (kind_of_children hb), if_pos rfl,
      List.getElem?_modify_eq, hb]
    exact ih hc

theorem walkFrom_append (stem : Stem) (n : Nat) (l l' : List Action) :
    walkFrom stem n (l ++ l') = walkFrom stem n l ++ walkFrom stem (n + l.length) l' := by
  induction l generalizing n with
  | nil => rfl
  | cons a l ih =>
    rw [List.cons_append, walkFrom, walkFrom, ih, List.length_cons, Nat.add_right_comm,
      Nat.add_assoc, List.cons_append, List.append_assoc]

/-- The visits of the action at a path and of everything below it. -/
def visits (p : Path) (a : Action) : List (Path × Action) := (p, a) :: a.walkInside p

/-- An action is visited before its true arm, and that before its false arm. -/
theorem visits_eq (p : Path) (a : Action) :
    a.visits p = (p, a) :: (walkFrom (.inside p .onTrue) 0 (a.children .onTrue) ++
      walkFrom (.inside p .onFalse) 0 (a.children .onFalse)) := by
  cases a with
  | piece => simp [visits, walkInside, walkFrom, children]
  | code => simp [visits, walkInside, walkFrom, children]
  | branch => rw [visits, walkInside]; rfl

theorem walkFrom_cons (stem : Stem) (n : Nat) (a : Action) (rest : List Action) :
    walkFrom stem n (a :: rest) = a.visits (stem.nth n) ++ walkFrom stem (n + 1) rest := rfl

/-- What is done to one action of a list is seen only when it and what is below it are visited. -/
theorem walkFrom_modify (stem : Stem) (n : Nat) (f : Action → Action) {l : List Action} {i : Nat}
    {a : Action} (h : l[i]? = some a) :
    walkFrom stem n (l.modify i f) =
      walkFrom stem n (l.take i) ++ ((f a).visits (stem.nth (n + i)) ++
        walkFrom stem (n + i + 1) (l.drop (i + 1))) := by
  obtain ⟨hi, ha⟩ := List.getElem?_eq_some_iff.1 h
  have hlength : (l.take i).length = i := by simp [Nat.le_of_lt hi]
  rw [List.modify_eq_take_cons_drop hi, ha, walkFrom_append, walkFrom_cons, hlength]

/-- Visits with a label each; labels tell what an action is, its children apart. -/
def labelled {β : Type} (label : Path → Action → β) (l : List (Path × Action)) : List (Path × β) :=
  l.map fun e => (e.1, label e.1 e.2)

section
variable {β : Type} {label : Path → Action → β} {q : Path} {c : Action}
  {shown : (Action → Action) → List (Path × β)}

theorem labelled_append (l l' : List (Path × Action)) :
    labelled label (l ++ l') = labelled label l ++ labelled label l' := List.map_append

theorem map_fst_labelled (label : Path → Action → β) (l : List (Path × Action)) :
    (labelled label l).map (·.1) = l.map (·.1) := by
  rw [labelled, List.map_map]
  rfl

theorem labelled_visits (p : Path) (a : Action) :
    labelled label (a.visits p) = (p, label p a) ::
      (labelled label (walkFrom (.inside p .onTrue) 0 (a.children .onTrue)) ++
        labelled label (walkFrom (.inside p .onFalse) 0 (a.children .onFalse))) := by
  rw [← labelled_append, visits_eq]
  rfl

theorem armTo_of_mem_labelled {p : Path} {arm : Arm} {n : Nat} {l : List Action} {e : Path × β}
    (h : e ∈ labelled label (walkFrom (.inside p arm) n l)) : p.armTo e.1 = some arm := by
  have hpath : e.1 ∈ (walkFrom (.inside p arm) n l).map (·.1) := by
    rw [← map_fst_labelled label]
    exact List.mem_map_of_mem h
  obtain ⟨i, hops, hi⟩ := below_of_mem_walkFrom hpath
  rw [hi, Stem.nth_inside, Path.child_below, Path.armTo_below_cons]

/-- What is done to `c`, its own data apart, shows only where `c` and what is below it are
visited. -/
def Confined (label : Path → Action → β) (q : Path) (c : Action)
    (shown : (Action → Action) → List (Path × β)) : Prop :=
  ∃ before after, ∀ f : Action → Action, (f c).bare = c.bare →
    shown f = before ++ (labelled label ((f c).visits q) ++ after)

theorem Confined.surround (h : Confined label q c shown) (front back : List (Path × β)) :
    Confined label q c fun f => front ++ (shown f ++ back) := by
  obtain ⟨before, after, h⟩ := h
  exact ⟨front ++ before, after ++ back, fun f hf => by simp [h f hf]⟩

theorem Confined.modify (stem : Stem) (n : Nat) {i : Nat} {l : List Action} {a : Action}
    {change : (Action → Action) → Action → Action} (ha : l[i]? = some a)
    (h : Confined label q c fun f => labelled label ((change f a).visits (stem.nth (n + i)))) :
    Confined label q c fun f => labelled label (walkFrom stem n (l.modify i (change f))) := by
  have hlist := h.surround (labelled label (walkFrom stem n (l.take i)))
    (labelled label (walkFrom stem (n + i + 1) (l.drop (i + 1))))
  simpa only [walkFrom_modify stem n _ ha, labelled_append] using hlist

/-- A change of the action that hops lead to leaves the lists around it alone, hop by hop. -/
theorem confined_adjust (hlabel : ∀ q b, label q b = label q b.bare) {hops : List (Arm × Nat)}
    {a : Action} {p : Path} (h : a.descend hops = some c) :
    Confined label (p.below hops) c fun f => labelled label ((a.adjust f hops).visits p) := by
  induction hops generalizing a p with
  | nil =>
    obtain rfl : a = c := by simpa [descend] using h
    exact ⟨[], [], fun f _ => by rw [Path.below_nil, List.append_nil]; rfl⟩
  | cons hop rest ih =>
    obtain ⟨arm, i⟩ := hop
    obtain ⟨b, hb, hc⟩ := Option.bind_eq_some_iff.1 h
    have hrest := ih (p := p.child arm i) hc
    rw [Path.child_below] at hrest
    cases a with
    | piece => cases kind_of_children hb
    | code => cases kind_of_children hb
    | branch name conditions onTrue onFalse =>
      have hown (onTrue' onFalse' : List Action) :
          label p (branch name conditions onTrue' onFalse') =
            label p (branch name conditions [] []) := hlabel _ _
      cases arm with
      | onTrue =>
        have hlist := Confined.modify (.inside p .onTrue) 0 hb
          (by rwa [Nat.zero_add, Stem.nth_inside])
        have hall := hlist.surround [(p, label p (branch name conditions [] []))]
          (labelled label (walkFrom (.inside p .onFalse) 0 onFalse))
        simpa only [adjust, withArm, children, labelled_visits, hown,
          List.singleton_append] using hall
      | onFalse =>
        have hlist := Confined.modify (.inside p .onFalse) 0 hb
          (by rwa [Nat.zero_add, Stem.nth_inside])
        have hall := hlist.surround ((p, label p (branch name conditions [] [])) ::
          labelled label (walkFrom (.inside p .onTrue) 0 onTrue)) []
        simpa only [adjust, withArm, children, labelled_visits, hown, List.append_nil,
          List.cons_append] using hall

end

end Action

namespace Flow
open Flowline.Action

/-- The flow with `f` done to the action at a path. -/
def adjust (flow : Flow) (f : Action → Action) (p : Path) : Flow :=
  { flow with actions := flow.actions.modify p.index (Action.adjust f p.hops) }

/-- The flow with other actions in one arm of the branch at a path. -/
def replaceArm (flow : Flow) (p : Path) (arm : Arm) (actions : List Action) : Flow :=
  flow.adjust (Action.withArm arm actions) p

theorem adjust_id (flow : Flow) (p : Path) : flow.adjust id p = flow := by
  rw [adjust, Action.adjust_id, List.modify_id]

theorem resolve?_adjust {flow : Flow} {p : Path} {a : Action} (h : flow.resolve? p = some a)
    (f : Action → Action) : (flow.adjust f p).resolve? p = some (f a) := by
  obtain ⟨b, hb, ha⟩ := Option.bind_eq_some_iff.1 h
  rw [resolve?, adjust, List.getElem?_modify_eq, hb]
  exact descend_adjust f ha

section
variable {β : Type} {label : Path → Action → β} {flow : Flow} {p : Path} {a : Action}

theorem confined_walk (hlabel : ∀ q b, label q b = label q b.bare)
    (h : flow.resolve? p = some a) :
    Confined label p a fun f => labelled label (flow.adjust f p).walk := by
  obtain ⟨b, hb, ha⟩ := Option.bind_eq_some_iff.1 h
  have hone := confined_adjust (p := ⟨p.index, []⟩) hlabel ha
  refine Confined.modify .top 0 hb ?_
  rwa [Nat.zero_add]

/-- A place in an arm that the walk visits is visited inside the branch. -/
theorem mem_walkInside_of_armTo {q : Path} {b : Action} {arm : Arm}
    (h : flow.resolve? p = some a) (hq : (q, b) ∈ flow.walk) (harm : p.armTo q = some arm) :
    (q, b) ∈ a.walkInside p := by
  obtain ⟨i, hops, rfl⟩ := Path.armTo_eq_some_iff.1 harm
  obtain ⟨c, hc, ha⟩ := Option.bind_eq_some_iff.1 h
  have hb := mem_walk.1 hq
  rw [resolve?, Path.below, hc, Option.bind_some, descend_append, ha, Option.bind_some] at hb
  exact (mem_walkInside a).2 ⟨arm, i, hops, rfl, hb⟩

/-- Around the visits of an action and of what is below it, no place in one of its arms is visited. -/
theorem exists_labelled_walk (hlabel : ∀ q b, label q b = label q b.bare)
    (h : flow.resolve? p = some a) :
    ∃ before after, (∀ e ∈ before ++ after, p.armTo e.1 = none) ∧
      ∀ f : Action → Action, (f a).bare = a.bare →
        labelled label (flow.adjust f p).walk =
          before ++ (labelled label ((f a).visits p) ++ after) := by
  obtain ⟨before, after, hconfined⟩ := confined_walk hlabel h
  refine ⟨before, after, fun e he => ?_, hconfined⟩
  have hwalk : labelled label flow.walk = before ++ (labelled label (a.visits p) ++ after) := by
    have hid : labelled label (flow.adjust id p).walk = _ := hconfined id rfl
    rwa [id_eq, adjust_id] at hid
  have hpaths : ((labelled label (a.visits p) ++ (before ++ after)).map (·.1)).Nodup := by
    have hnodup := flow.nodup_walk
    rw [← map_fst_labelled label, hwalk] at hnodup
    exact ((List.perm_append_comm_assoc _ _ _).map _).nodup hnodup
  by_contra hne
  obtain ⟨arm, harm⟩ := Option.ne_none_iff_exists'.1 hne
  have hvisit : e ∈ labelled label flow.walk := by
    rw [hwalk]
    simp only [List.mem_append] at he ⊢
    tauto
  obtain ⟨⟨q, b⟩, hb, rfl⟩ := List.mem_map.1 hvisit
  have hinside := mem_walkInside_of_armTo h hb harm
  rw [List.map_append, List.nodup_append] at hpaths
  refine hpaths.2.2 q ?_ q (List.mem_map_of_mem he) rfl
  rw [map_fst_labelled]
  exact List.mem_map_of_mem (List.mem_cons_of_mem _ hinside)

/-- The visits of the arms come right behind that of their branch, and the others stay as they are
whatever is done to the arms. -/
theorem exists_blocks (hlabel : ∀ q b, label q b = label q b.bare)
    (h : flow.resolve? p = some a) :
    ∃ before after, ∀ f : Action → Action, (f a).bare = a.bare →
      ∀ l, l = labelled label (flow.adjust f p).walk →
        l = before ++ (p, label p a) :: (p.within .onTrue l ++ (p.within .onFalse l ++ after)) ∧
        ∀ arm, p.within arm l =
            labelled label (walkFrom (.inside p arm) 0 ((f a).children arm)) ∧
          p.outside arm l = before ++ (p, label p a) ::
            (p.outside arm (p.within .onTrue l) ++ (p.outside arm (p.within .onFalse l) ++ after))
    := by
  obtain ⟨before, after, hnone, hwalk⟩ := exists_labelled_walk hlabel h
  refine ⟨before, after, fun f hf l hl => ?_⟩
  have hown : label p (f a) = label p a := by rw [hlabel, hf, ← hlabel]
  have hparts := hwalk f hf
  rw [← hl, labelled_visits, hown, List.cons_append, ← List.singleton_append,
    List.append_assoc] at hparts
  have hbefore : ∀ e ∈ before, p.armTo e.1 = none := fun e he => hnone e (by simp [he])
  have hafter : ∀ e ∈ after, p.armTo e.1 = none := fun e he => hnone e (by simp [he])
  have hself : ∀ e ∈ [(p, label p a)], p.armTo e.1 = none := by simp [p.armTo_self]
  have hinside (arm : Arm) : ∀ e ∈ labelled label (walkFrom (.inside p arm) 0 ((f a).children arm)),
      p.armTo e.1 = some arm := fun e he => armTo_of_mem_labelled he
  have hwithin (arm : Arm) : p.within arm l =
      labelled label (walkFrom (.inside p arm) 0 ((f a).children arm)) := by
    rw [hparts]
    simp only [Path.within_append, Path.within_of_forall hbefore, Path.within_of_forall hself,
      Path.within_of_forall hafter, Path.within_of_forall (hinside .onTrue),
      Path.within_of_forall (hinside .onFalse)]
    cases arm <;> simp
  refine ⟨by rw [hwithin, hwithin]; exact hparts, fun arm => ⟨hwithin arm, ?_⟩⟩
  rw [hwithin, hwithin, hparts]
  simp only [Path.outside_append, Path.outside_of_forall hbefore, Path.outside_of_forall hself,
    Path.outside_of_forall hafter, reduceCtorEq, if_false]
  rfl

end

end Flow
end Flowline
