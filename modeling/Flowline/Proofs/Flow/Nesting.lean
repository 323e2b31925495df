import Flowline.Proofs.Flow.Depth

/-!
Branches inside branches. The depth rule of typed flows reports the branches with children that
stand below as many branches as the limit allows, once each and in the order of the walk. So it
reports nothing exactly when no chain of nested branches with children is longer than the limit, that
is, when no action stands below more branches.
-/
namespace Flowline

theorem Action.isFilled_eq_true_iff {a : Action} :
    a.isFilled = true ↔ ∃ (arm : Arm) (i : Nat) (b : Action), (a.children arm)[i]? = some b := by
  constructor
  · intro h
    cases a with
    | piece => cases h
    | code => cases h
    | branch name conditions onTrue onFalse =>
      cases onTrue with
      | cons b rest => exact ⟨.onTrue, 0, b, rfl⟩
      | nil =>
        cases onFalse with
        | cons b rest => exact ⟨.onFalse, 0, b, rfl⟩
        | nil => cases h
  · rintro ⟨arm, i, b, hb⟩
    cases a with
    | piece => simp [children] at hb
    | code => simp [children] at hb
    | branch name conditions onTrue onFalse =>
      cases arm with
      | onTrue =>
        have : onTrue ≠ [] := by rintro rfl; simp [children] at hb
        simp [isFilled, this]
      | onFalse =>
        have : onFalse ≠ [] := by rintro rfl; simp [children] at hb
        simp [isFilled, this]

/-- The place after the first `k` hops. -/
def Path.upTo (p : Path) (k : Nat) : Path := ⟨p.index, p.hops.take k⟩

theorem Path.armTo_isSome_iff {p q : Path} :
    (q.armTo p).isSome ↔ ∃ k < p.hops.length, q = p.upTo k := by
  constructor
  · intro h
    obtain ⟨arm, harm⟩ := Option.isSome_iff_exists.1 h
    obtain ⟨i, hops, rfl⟩ := armTo_eq_some_iff.1 harm
    refine ⟨q.hops.length, by simp [below], ?_⟩
    simp [below, upTo]
  · rintro ⟨k, hk, rfl⟩
    have hp : p = (p.upTo k).below (p.hops[k] :: p.hops.drop (k + 1)) := by
      rw [← List.drop_eq_getElem_cons hk, below, upTo, List.take_append_drop]
    exact Option.isSome_iff_exists.2 ⟨_, armTo_eq_some_iff.2 ⟨_, _, hp⟩⟩

namespace Flow

/-- The branches that have the place in one of their arms, at whatever depth. -/
def branchesAbove (flow : Flow) (p : Path) : List (Path × Action) :=
  flow.walk.filter fun e => e.2.kind = .branch ∧ (e.1.armTo p).isSome

variable {flow : Flow} {p : Path} {a : Action}

/-- On the way to an action there are branches with children only. -/
theorem exists_filled_upTo (h : flow.resolve? p = some a) {k : Nat} (hk : k < p.hops.length) :
    ∃ b, flow.resolve? (p.upTo k) = some b ∧ b.isFilled = true ∧ b.kind = .branch := by
  obtain ⟨c, hc, ha⟩ := Option.bind_eq_some_iff.1 h
  rw [← List.take_append_drop k p.hops, Action.descend_append, List.drop_eq_getElem_cons hk] at ha
  obtain ⟨b, hb, ha⟩ := Option.bind_eq_some_iff.1 ha
  obtain ⟨child, hchild, -⟩ := Option.bind_eq_some_iff.1 ha
  refine ⟨b, by rw [resolve?, Path.upTo, hc]; exact hb, ?_, Action.kind_of_children hchild⟩
  exact Action.isFilled_eq_true_iff.2 ⟨_, _, child, hchild⟩

/-- There is one branch above an action for each hop to it. -/
theorem length_branchesAbove (h : flow.resolve? p = some a) :
    (flow.branchesAbove p).length = p.hops.length := by
  have hplaces : ((flow.branchesAbove p).map (·.1)).Perm
      ((List.range p.hops.length).map p.upTo) := by
    refine (List.perm_ext_iff_of_nodup ?_ ?_).2 fun q => ?_
    · exact flow.nodup_walk.sublist (List.filter_sublist.map _)
    · refine List.Nodup.map_on (fun j hj k hk hjk => ?_) List.nodup_range
      have hlength := congrArg (fun q : Path => q.hops.length) hjk
      simp only [Path.upTo, List.length_take, List.mem_range] at hlength hj hk
      omega
    · simp only [branchesAbove, List.mem_map, List.mem_filter, decide_eq_true_eq, Prod.exists,
        exists_and_right, exists_eq_right, List.mem_range, Path.armTo_isSome_iff, mem_walk]
      constructor
      · rintro ⟨b, -, -, k, hk, rfl⟩
        exact ⟨k, hk, rfl⟩
      · rintro ⟨k, hk, rfl⟩
        obtain ⟨b, hb, -, hkind⟩ := exists_filled_upTo h hk
        exact ⟨b, hb, hkind, k, hk, rfl⟩
  simpa using hplaces.length_eq

/-- Branches with children, from the outside in: each stands in an arm of the one before it, at
whatever depth. -/
def IsNest (flow : Flow) (chain : List Path) : Prop :=
  chain.Pairwise (fun p q => (p.armTo q).isSome) ∧
    ∀ p ∈ chain, ∃ a, flow.resolve? p = some a ∧ a.isFilled = true

theorem isNest_upTo (h : flow.resolve? p = some a) :
    flow.IsNest ((List.range p.hops.length).map p.upTo) := by
  constructor
  · rw [List.pairwise_map]
    refine List.Pairwise.imp_of_mem (fun {j k} _ hk hjk => ?_) List.pairwise_lt_range
    rw [List.mem_range] at hk
    refine Path.armTo_isSome_iff.2 ⟨j, by simp [Path.upTo]; omega, ?_⟩
    simp [Path.upTo, List.take_take]
    omega
  · intro q hq
    obtain ⟨k, hk, rfl⟩ := List.mem_map.1 hq
    obtain ⟨b, hb, hfilled, -⟩ := exists_filled_upTo h (List.mem_range.1 hk)
    exact ⟨b, hb, hfilled⟩

/-- A chain of nested places is no longer than the places are deep. -/
theorem add_length_le_of_pairwise {n d : Nat} (hn : n ≤ d) {chain : List Path}
    (hchain : chain.Pairwise fun p q => (p.armTo q).isSome)
    (hdepth : ∀ p ∈ chain, n ≤ p.hops.length ∧ p.hops.length < d) : n + chain.length ≤ d := by
  induction chain generalizing n with
  | nil => exact hn
  | cons p rest ih =>
    obtain ⟨hp, hrest⟩ := List.pairwise_cons.1 hchain
    obtain ⟨hle, hlt⟩ := hdepth p (by simp)
    have := ih (n := n + 1) (by omega) hrest fun q hq => by
      obtain ⟨arm, harm⟩ := Option.isSome_iff_exists.1 (hp q hq)
      have hdeeper := Path.length_lt_of_armTo harm
      exact ⟨by omega, (hdepth q (List.mem_cons_of_mem _ hq)).2⟩
    rw [List.length_cons]
    omega

theorem forall_isNest_iff {d : Nat} :
    (∀ chain, flow.IsNest chain → chain.length ≤ d) ↔
      ∀ p a, flow.resolve? p = some a → p.hops.length ≤ d := by
  constructor
  · intro h p a hp
    simpa using h _ (isNest_upTo hp)
  · rintro h chain ⟨hchain, hfilled⟩
    have := add_length_le_of_pairwise (Nat.zero_le d) hchain fun p hp => by
      obtain ⟨a, ha, hfilled⟩ := hfilled p hp
      obtain ⟨arm, i, b, hb⟩ := Action.isFilled_eq_true_iff.1 hfilled
      have hdeeper := h (p.child arm i) b (by rw [resolve?_child, ha]; exact hb)
      simp only [Path.child, List.length_append, List.length_singleton] at hdeeper
      exact ⟨Nat.zero_le _, hdeeper⟩
    omega

end Flow

namespace Shape

/-- The depth rule on a whole flow. It reports the branches with children that stand below exactly as
many branches as the limit allows, each once, at its path and in the order of the walk. It reports
nothing exactly when no chain of nested branches with children is longer than the limit, and exactly
when no action stands below more branches than the limit. -/
theorem depthOfAll_reports (limit : Nat) (flow : Flow) :
    (depthOfAll limit 0 .top 0 flow.actions).map Report.issue =
      ((flow.walk.filter fun e => e.2.isFilled ∧ (flow.branchesAbove e.1).length = limit).map
        fun e => ⟨"S010", .schema, "Branches are nested deeper than " ++ toString limit ++ " levels",
          some e.1.text⟩) ∧
    (depthOfAll limit 0 .top 0 flow.actions = [] ↔
      ∀ chain, flow.IsNest chain → chain.length ≤ limit) ∧
    (depthOfAll limit 0 .top 0 flow.actions = [] ↔
      ∀ e ∈ flow.walk, (flow.branchesAbove e.1).length ≤ limit) := by
  have habove (e : Path × Action) (he : e ∈ flow.walk) :
      (flow.branchesAbove e.1).length = e.1.hops.length :=
    Flow.length_branchesAbove (Flow.mem_walk.1 he)
  refine ⟨?reports, ?chains, ?actions⟩
  case reports =>
    have hdeepest : deepest limit flow.walk =
        flow.walk.filter fun e => e.2.isFilled ∧ (flow.branchesAbove e.1).length = limit :=
      List.filter_congr fun e he => by rw [habove e he]
    rw [← hdeepest, depthOfAll_eq_map (fun _ => rfl) (Nat.zero_le limit), List.map_map]
    rfl
  case chains => rw [depthOfAll_top_eq_nil_iff, Flow.forall_isNest_iff]
  case actions =>
    rw [depthOfAll_top_eq_nil_iff]
    constructor
    · intro h e he
      rw [habove e he]
      exact h e.1 e.2 (Flow.mem_walk.1 he)
    · intro h p a hp
      have hwalk : (p, a) ∈ flow.walk := Flow.mem_walk.2 hp
      rw [← habove (p, a) hwalk]
      exact h (p, a) hwalk

end Shape
end Flowline
