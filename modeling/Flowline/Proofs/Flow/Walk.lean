import Flowline.Flow.Path

/-!
The walk of a flow and the paths of its actions. The walk visits exactly the actions that a path
leads to, each path once and in the order of the tree, and as many as the flow counts.
-/
namespace Flowline

/-- The place that hops lead to from a path. -/
def Path.below (p : Path) (hops : List (Arm × Nat)) : Path := ⟨p.index, p.hops ++ hops⟩

theorem Path.below_nil (p : Path) : p.below [] = p := by simp [Path.below]

theorem Path.child_below (p : Path) (arm : Arm) (i : Nat) (hops : List (Arm × Nat)) :
    (p.child arm i).below hops = p.below ((arm, i) :: hops) := by
  simp [Path.child, Path.below]

theorem Stem.nth_inside (p : Path) (arm : Arm) (i : Nat) :
    (Stem.inside p arm).nth i = p.child arm i := rfl

/-- The list that the action at a path stands in. -/
def Path.stem (p : Path) : Stem :=
  match p.hops.getLast? with
  | none => .top
  | some hop => .inside ⟨p.index, p.hops.dropLast⟩ hop.1

/-- Where in its list the action at a path stands. -/
def Path.place (p : Path) : Nat :=
  match p.hops.getLast? with
  | none => p.index
  | some hop => hop.2

theorem Stem.stem_nth (stem : Stem) (i : Nat) : (stem.nth i).stem = stem := by
  cases stem <;> simp [Stem.nth, Path.stem, Path.child]

theorem Stem.place_nth (stem : Stem) (i : Nat) : (stem.nth i).place = i := by
  cases stem <;> simp [Stem.nth, Path.place, Path.child]

theorem Path.nth_stem_place (p : Path) : p.stem.nth p.place = p := by
  obtain ⟨i, hops⟩ := p
  cases h : hops.getLast? with
  | none =>
    obtain rfl : hops = [] := by simpa using h
    rfl
  | some hop =>
    obtain ⟨front, rfl⟩ := List.getLast?_eq_some_iff.1 h
    simp [Path.stem, Path.place, Stem.nth, Path.child]

/-- What an action hangs on: the one before it in its list, or the branch that the list is in. -/
def Path.host (p : Path) : Option Path :=
  match p.place, p.stem with
  | n + 1, stem => some (stem.nth n)
  | 0, .inside q _ => some q
  | 0, .top => none

theorem Stem.host_nth_succ (stem : Stem) (n : Nat) :
    (stem.nth (n + 1)).host = some (stem.nth n) := by
  simp [Path.host, Stem.place_nth, Stem.stem_nth]

theorem Stem.host_nth_zero_inside (p : Path) (arm : Arm) :
    ((Stem.inside p arm).nth 0).host = some p := by
  simp [Path.host, Stem.place_nth, Stem.stem_nth]

theorem Stem.host_nth_zero_top : (Stem.top.nth 0).host = none := rfl

theorem Path.length_lt_of_stem {p q : Path} {arm : Arm} (h : p.stem = .inside q arm) :
    q.hops.length < p.hops.length := by
  rw [← p.nth_stem_place, h, Stem.nth_inside]
  simp [Path.child]

/-- The order of a walk: an action stands before all that is below it, what is in the true arm of a
branch before what is in its false arm, and of two actions in one list the first with all below it
before the second with all below it. -/
inductive Path.Before : Path → Path → Prop where
  | inside (p : Path) (hop : Arm × Nat) (hops : List (Arm × Nat)) :
    Before p (p.below (hop :: hops))
  | arms (p : Path) (i j : Nat) (hops hops' : List (Arm × Nat)) :
    Before (p.below ((.onTrue, i) :: hops)) (p.below ((.onFalse, j) :: hops'))
  | siblings (stem : Stem) {m n : Nat} (h : m < n) (hops hops' : List (Arm × Nat)) :
    Before ((stem.nth m).below hops) ((stem.nth n).below hops')

/-- The numbers of the arms and places on the way, the true arm first. -/
def Path.numbers (hops : List (Arm × Nat)) : List Nat :=
  hops.flatMap fun hop => [if hop.1 = .onTrue then 0 else 1, hop.2]

/-- The path as a list of numbers, whose order is that of a walk. -/
def Path.rank (p : Path) : List Nat := p.index :: numbers p.hops

theorem Path.rank_below (p : Path) (hops : List (Arm × Nat)) :
    (p.below hops).rank = p.rank ++ numbers hops := by
  simp [below, rank, numbers]

/-- Ranks of places in one list part at the number of the place. -/
theorem Stem.exists_rank_nth_below (stem : Stem) : ∃ front : List Nat, ∀ n hops,
    ((stem.nth n).below hops).rank = front ++ n :: Path.numbers hops := by
  cases stem with
  | top => exact ⟨[], fun n hops => rfl⟩
  | inside p arm =>
    refine ⟨p.rank ++ [if arm = .onTrue then 0 else 1], fun n hops => ?_⟩
    rw [nth_inside, Path.child_below, Path.rank_below]
    simp [Path.numbers]

theorem Path.Before.rank_lt {p q : Path} (h : p.Before q) : p.rank < q.rank := by
  cases h with
  | inside _ hop hops =>
    have hlt : p.rank ++ [] < p.rank ++ numbers (hop :: hops) :=
      List.append_left_lt (List.nil_lt_cons _ _)
    rwa [List.append_nil, ← rank_below] at hlt
  | arms r i j hops hops' =>
    rw [rank_below, rank_below]
    exact List.append_left_lt (List.cons_lt_cons_iff.2 (.inl Nat.zero_lt_one))
  | siblings stem h hops hops' =>
    obtain ⟨front, hrank⟩ := stem.exists_rank_nth_below
    rw [hrank, hrank]
    exact List.append_left_lt (List.cons_lt_cons_iff.2 (.inl h))

theorem Path.Before.irrefl (p : Path) : ¬ p.Before p := fun h => List.lt_irrefl _ h.rank_lt

theorem Path.Before.asymm {p q : Path} (h : p.Before q) : ¬ q.Before p := fun h' =>
  List.lt_asymm h.rank_lt h'.rank_lt

namespace Action

theorem descend_cons (a : Action) (arm : Arm) (i : Nat) (hops : List (Arm × Nat)) :
    a.descend ((arm, i) :: hops) = (a.children arm)[i]?.bind (·.descend hops) := rfl

theorem descend_append (a : Action) (hops hops' : List (Arm × Nat)) :
    a.descend (hops ++ hops') = (a.descend hops).bind (·.descend hops') := by
  induction hops generalizing a with
  | nil => rfl
  | cons hop hops ih =>
    obtain ⟨arm, i⟩ := hop
    rw [List.cons_append, descend_cons, descend_cons, Option.bind_assoc]
    simp only [ih]

theorem kind_of_children {a b : Action} {arm : Arm} {i : Nat} (h : (a.children arm)[i]? = some b) :
    a.kind = .branch := by
  cases a with
  | piece => simp [children] at h
  | code => simp [children] at h
  | branch => rfl

mutual

theorem mem_walkInside {p q : Path} {b : Action} : (a : Action) →
    ((q, b) ∈ a.walkInside p ↔
      ∃ arm i hops, q = p.below ((arm, i) :: hops) ∧ a.descend ((arm, i) :: hops) = some b)
  | .piece .. => by simp [walkInside, descend_cons, children]
  | .code .. => by simp [walkInside, descend_cons, children]
  | .branch _ _ onTrue onFalse => by
    rw [walkInside, List.mem_append, mem_walkFrom onTrue, mem_walkFrom onFalse]
    simp only [Nat.zero_add, Stem.nth_inside, Path.child_below]
    constructor
    · rintro (⟨i, a, hops, ha, rfl, hb⟩ | ⟨i, a, hops, ha, rfl, hb⟩)
      · exact ⟨.onTrue, i, hops, rfl, by simp [descend_cons, children, ha, hb]⟩
      · exact ⟨.onFalse, i, hops, rfl, by simp [descend_cons, children, ha, hb]⟩
    · rintro ⟨arm, i, hops, rfl, h⟩
      obtain ⟨a, ha, hb⟩ := Option.bind_eq_some_iff.1 h
      cases arm with
      | onTrue => exact .inl ⟨i, a, hops, ha, rfl, hb⟩
      | onFalse => exact .inr ⟨i, a, hops, ha, rfl, hb⟩

theorem mem_walkFrom {stem : Stem} {n : Nat} {q : Path} {b : Action} : (actions : List Action) →
    ((q, b) ∈ walkFrom stem n actions ↔
      ∃ i a hops, actions[i]? = some a ∧ q = (stem.nth (n + i)).below hops ∧
        a.descend hops = some b)
  | [] => by simp [walkFrom]
  | a :: rest => by
    rw [walkFrom, List.mem_cons, List.mem_append, mem_walkInside a, mem_walkFrom rest]
    constructor
    · rintro (h | ⟨arm, i, hops, rfl, hb⟩ | ⟨i, c, hops, hc, rfl, hb⟩)
      · obtain ⟨rfl, rfl⟩ := Prod.mk.inj h
        exact ⟨0, b, [], rfl, (Path.below_nil _).symm, rfl⟩
      · exact ⟨0, a, _, rfl, rfl, hb⟩
      · exact ⟨i + 1, c, hops, hc, by rw [Nat.add_right_comm, Nat.add_assoc], hb⟩
    · rintro ⟨i, c, hops, hc, rfl, hb⟩
      cases i with
      | succ i =>
        exact .inr (.inr ⟨i, c, hops, hc, by rw [Nat.add_right_comm, Nat.add_assoc], hb⟩)
      | zero =>
        obtain rfl : a = c := by simpa using hc
        cases hops with
        | nil =>
          obtain rfl : a = b := by simpa [descend] using hb
          exact .inl (by rw [Path.below_nil]; rfl)
        | cons hop hops => exact .inr (.inl ⟨hop.1, hop.2, hops, rfl, hb⟩)

end

theorem below_of_mem_walkInside {a : Action} {p q : Path}
    (h : q ∈ (a.walkInside p).map (·.1)) : ∃ hop hops, q = p.below (hop :: hops) := by
  obtain ⟨⟨r, b⟩, hr, rfl⟩ := List.mem_map.1 h
  obtain ⟨arm, i, hops, hq, -⟩ := (mem_walkInside a).1 hr
  exact ⟨(arm, i), hops, hq⟩

theorem below_of_mem_walkFrom {actions : List Action} {stem : Stem} {n : Nat} {q : Path}
    (h : q ∈ (walkFrom stem n actions).map (·.1)) :
    ∃ i hops, q = (stem.nth (n + i)).below hops := by
  obtain ⟨⟨r, b⟩, hr, rfl⟩ := List.mem_map.1 h
  obtain ⟨i, -, hops, -, hq, -⟩ := (mem_walkFrom actions).1 hr
  exact ⟨i, hops, hq⟩

mutual

theorem pairwise_walkInside (p : Path) : (a : Action) →
    ((a.walkInside p).map (·.1)).Pairwise Path.Before
  | .piece .. => by simp [walkInside]
  | .code .. => by simp [walkInside]
  | .branch _ _ onTrue onFalse => by
    rw [walkInside, List.map_append, List.pairwise_append]
    refine ⟨pairwise_walkFrom _ _ onTrue, pairwise_walkFrom _ _ onFalse, fun q hq r hr => ?_⟩
    obtain ⟨i, hops, rfl⟩ := below_of_mem_walkFrom hq
    obtain ⟨j, hops', rfl⟩ := below_of_mem_walkFrom hr
    rw [Stem.nth_inside, Stem.nth_inside, Path.child_below, Path.child_below]
    exact .arms p _ _ hops hops'

theorem pairwise_walkFrom (stem : Stem) (n : Nat) : (actions : List Action) →
    ((walkFrom stem n actions).map (·.1)).Pairwise Path.Before
  | [] => by simp [walkFrom]
  | a :: rest => by
    rw [walkFrom, List.map_cons, List.map_append, List.pairwise_cons, List.pairwise_append]
    refine ⟨fun q hq => ?_, pairwise_walkInside _ a, pairwise_walkFrom _ _ rest,
      fun q hq r hr => ?_⟩
    · rcases List.mem_append.1 hq with hq | hq
      · obtain ⟨hop, hops, rfl⟩ := below_of_mem_walkInside hq
        exact .inside _ hop hops
      · obtain ⟨i, hops, rfl⟩ := below_of_mem_walkFrom hq
        have hlater := Path.Before.siblings stem (m := n) (n := n + 1 + i) (by omega) [] hops
        rwa [Path.below_nil] at hlater
    · obtain ⟨hop, hops, rfl⟩ := below_of_mem_walkInside hq
      obtain ⟨i, hops', rfl⟩ := below_of_mem_walkFrom hr
      exact .siblings stem (by omega) (hop :: hops) hops'

end

/-- No entry comes before what it hangs on, unless that is known. -/
def HostFirst (known : List Path) : List (Path × Action) → Prop
  | [] => True
  | e :: rest => (∀ q, e.1.host = some q → q ∈ known) ∧ HostFirst (known ++ [e.1]) rest

theorem HostFirst.append {known : List Path} {l l' : List (Path × Action)}
    (h : HostFirst known l) (h' : HostFirst (known ++ l.map (·.1)) l') :
    HostFirst known (l ++ l') := by
  induction l generalizing known with
  | nil => simpa using h'
  | cons e l ih => exact ⟨h.1, ih h.2 (by simpa using h')⟩

theorem HostFirst.mem {known : List Path} {l l' : List (Path × Action)} {e : Path × Action}
    {q : Path} (h : HostFirst known (l ++ e :: l')) (hq : e.1.host = some q) :
    q ∈ known ++ l.map (·.1) := by
  induction l generalizing known with
  | nil => simpa using h.1 q hq
  | cons e' l ih => simpa using ih h.2

mutual

theorem hostFirst_walkInside {p : Path} {known : List Path} (hp : p ∈ known) :
    (a : Action) → HostFirst known (a.walkInside p)
  | .piece .. => by simp [walkInside, HostFirst]
  | .code .. => by simp [walkInside, HostFirst]
  | .branch _ _ onTrue onFalse => by
    rw [walkInside]
    refine (hostFirst_walkFrom ?_ onTrue).append (hostFirst_walkFrom ?_ onFalse)
    · intro q hq
      obtain rfl := Option.some.inj ((Stem.host_nth_zero_inside p _).symm.trans hq)
      exact hp
    · intro q hq
      obtain rfl := Option.some.inj ((Stem.host_nth_zero_inside p _).symm.trans hq)
      exact List.mem_append_left _ hp

theorem hostFirst_walkFrom {stem : Stem} {n : Nat} {known : List Path}
    (hknown : ∀ q, (stem.nth n).host = some q → q ∈ known) :
    (actions : List Action) → HostFirst known (walkFrom stem n actions)
  | [] => by simp [walkFrom, HostFirst]
  | a :: rest => by
    rw [walkFrom]
    refine ⟨hknown, (hostFirst_walkInside (by simp) a).append (hostFirst_walkFrom ?_ rest)⟩
    intro q hq
    obtain rfl := Option.some.inj ((stem.host_nth_succ n).symm.trans hq)
    simp

end

mutual

theorem length_walkInside (p : Path) : (a : Action) → (a.walkInside p).length + 1 = a.count
  | .piece .. => rfl
  | .code .. => rfl
  | .branch _ _ onTrue onFalse => by
    rw [walkInside, List.length_append, length_walkFrom, length_walkFrom, count]
    omega

theorem length_walkFrom (stem : Stem) (n : Nat) : (actions : List Action) →
    (walkFrom stem n actions).length = countAll actions
  | [] => rfl
  | a :: rest => by
    have h := length_walkInside (stem.nth n) a
    rw [walkFrom, List.length_cons, List.length_append, length_walkFrom, countAll]
    omega

end

end Action

namespace Flow

theorem mem_walk {flow : Flow} {q : Path} {b : Action} :
    (q, b) ∈ flow.walk ↔ flow.resolve? q = some b := by
  rw [walk, Action.mem_walkFrom, resolve?, Option.bind_eq_some_iff]
  constructor
  · rintro ⟨i, a, hops, ha, rfl, hb⟩
    simpa [Stem.nth, Path.below, ha] using hb
  · rintro ⟨a, ha, hb⟩
    exact ⟨q.index, a, q.hops, ha, by simp [Stem.nth, Path.below], hb⟩

theorem pairwise_walk (flow : Flow) : (flow.walk.map (·.1)).Pairwise Path.Before :=
  Action.pairwise_walkFrom _ _ _

theorem nodup_walk (flow : Flow) : (flow.walk.map (·.1)).Nodup := by
  apply flow.pairwise_walk.imp
  rintro p _ h rfl
  exact Path.Before.irrefl p h

theorem hostFirst_walk (flow : Flow) : Action.HostFirst [] flow.walk :=
  Action.hostFirst_walkFrom (by simp [Stem.host_nth_zero_top]) flow.actions

theorem length_walk (flow : Flow) : flow.walk.length = flow.totalActions :=
  Action.length_walkFrom _ _ _

/-- A path into an arm leads to a child of what the path of the branch leads to. -/
theorem resolve?_child (flow : Flow) (p : Path) (arm : Arm) (i : Nat) :
    flow.resolve? (p.child arm i) = (flow.resolve? p).bind fun a => (a.children arm)[i]? := by
  simp only [resolve?, Path.child, Action.descend_append, Option.bind_assoc]
  congr
  funext a
  congr
  funext b
  simp [Action.descend]

end Flow
end Flowline
