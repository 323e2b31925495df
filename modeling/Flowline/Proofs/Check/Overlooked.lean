import Flowline.Check.Candidate
import Flowline.Proofs.Flow.Decoding
import Flowline.Proofs.Flow.Depth

/-!
Arms that the shape rules overlook. The rules look for the children of an arm under its own key
when there is such a member, even one that is null; the typed form ignores null members and may
find children under the other key. Everywhere else an accepted candidate keeps the depth rule.
-/
namespace Flowline.Candidate
open Json Decode

/-- Whether hops lead through an arm that is null where the shape rules look for it. -/
def overlooks : Json → List (Arm × Nat) → Bool
  | .obj members, (arm, i) :: rest =>
    match Shape.armMember members arm with
    | some .null => true
    | some (.arr elements) => (elements[i]?.map (overlooks · rest)).getD false
    | _ => false
  | _, _ => false

/-- Whether a path of a candidate leads through an arm that the shape rules overlook. -/
def isOverlooked (candidate : Json) (p : Path) : Bool :=
  match candidate.member? "actions" with
  | some (.arr elements) => (elements[p.index]?.map (overlooks · p.hops)).getD false
  | _ => false

theorem cleanMembers_eq_map (members : Members) :
    cleanMembers members =
      (dropNulls members).map fun m => (m.1, if isArmKey m.1 then cleanList m.2 else m.2) := by
  induction members with
  | nil => rw [cleanMembers]; rfl
  | cons m rest ih =>
    obtain ⟨key, v⟩ := m
    rw [cleanMembers, ih]
    cases h : v.isNull <;> simp [dropNulls, h]

theorem cleanAll_eq_map (elements : List Json) : cleanAll elements = elements.map cleanAction := by
  induction elements with
  | nil => rw [cleanAll]; rfl
  | cons v rest ih => rw [cleanAll, ih, List.map_cons]

theorem isArmKey_of_mem_armKeys {key : String} {arm : Arm} (h : key ∈ Action.armKeys arm) :
    isArmKey key = true := by
  cases arm <;> simp only [Action.armKeys, List.mem_cons, List.not_mem_nil, or_false] at h <;>
    rcases h with rfl | rfl <;> rfl

theorem mem_cleanMembers {key : String} {v : Json} {members : Members} {arm : Arm}
    (h : (key, v) ∈ members) (hkey : key ∈ Action.armKeys arm) (hv : v.isNull = false) :
    (key, cleanList v) ∈ cleanMembers members := by
  rw [cleanMembers_eq_map]
  refine List.mem_map.2 ⟨(key, v), ?_, by simp [isArmKey_of_mem_armKeys hkey]⟩
  simp [dropNulls, h, hv]

theorem exists_mem_of_mem_cleanMembers {m : String × Json} {members : Members}
    (h : m ∈ cleanMembers members) : ∃ v, (m.1, v) ∈ members ∧ v.isNull = false := by
  rw [cleanMembers_eq_map] at h
  obtain ⟨m', hm', rfl⟩ := List.mem_map.1 h
  have := List.mem_filter.1 hm'
  exact ⟨m'.2, this.1, by simpa using this.2⟩

theorem assoc_type_cleanMembers {members : Members} {s : String}
    (h : assoc "type" members = some (.str s)) :
    assoc "type" (cleanMembers members) = some (.str s) := by
  induction members with
  | nil => simp [assoc] at h
  | cons m rest ih =>
    obtain ⟨key, v⟩ := m
    rw [assoc] at h
    rw [cleanMembers]
    split at h
    · rename_i hkey
      cases h
      subst hkey
      simp [Json.isNull, assoc, isArmKey]
    · rename_i hkey
      split
      · exact ih h
      · rw [assoc, if_neg hkey, ih h]

/-- The member of an arm stands under one of its keys, and there is none without it. -/
theorem mem_of_armMember {members : Members} {arm : Arm} {v : Json}
    (h : Shape.armMember members arm = some v) :
    ∃ key ∈ Action.armKeys arm, (key, v) ∈ members := by
  cases arm <;> simp only [Shape.armMember, Option.or_eq_some_iff] at h <;>
    rcases h with h | ⟨-, h⟩ <;> exact ⟨_, by simp [Action.armKeys], mem_of_assoc h⟩

theorem assoc_eq_none {key : String} {l : List (String × Json)} (h : assoc key l = none) (v : Json) :
    (key, v) ∉ l := by
  induction l with
  | nil => simp
  | cons m rest ih =>
    obtain ⟨k, w⟩ := m
    rw [assoc] at h
    split at h
    · cases h
    · rename_i hne
      have := ih h
      simp [Ne.symm hne, this]

theorem not_mem_of_armMember {members : Members} {arm : Arm}
    (h : Shape.armMember members arm = none) {key : String} (hkey : key ∈ Action.armKeys arm)
    (v : Json) : (key, v) ∉ members := by
  cases arm <;> simp only [Shape.armMember, Option.or_eq_none_iff] at h <;>
    simp only [Action.armKeys, List.mem_cons, List.not_mem_nil, or_false] at hkey <;>
    rcases hkey with rfl | rfl
  · exact assoc_eq_none h.1 v
  · exact assoc_eq_none h.2 v
  · exact assoc_eq_none h.1 v
  · exact assoc_eq_none h.2 v

theorem assoc_armKey (members : Members) (arm : Arm) :
    assoc (Shape.armKey members arm) members = Shape.armMember members arm := by
  have hpick (own other : String) :
      assoc (if (assoc own members).isSome then own else other) members =
        (assoc own members).or (assoc other members) := by
    cases h : assoc own members <;> simp [h]
  cases arm with
  | onTrue => exact hpick "onSuccessActions" "onTrue"
  | onFalse => exact hpick "onFailureActions" "onFalse"

theorem checkArm_eq (limit depth : Nat) (p : Path) (arm : Arm) (key : String) (members : Members) :
    Shape.checkArm limit depth p arm key members =
      match assoc key members with
      | some v => Shape.checkChildren limit depth (.inside p arm) v
      | none => [] := by
  induction members with
  | nil => rw [Shape.checkArm]; rfl
  | cons m rest ih =>
    obtain ⟨k, v⟩ := m
    rw [Shape.checkArm, assoc]
    split
    · rfl
    · exact ih

theorem checkAction_of_getElem? {limit depth : Nat} {stem : Stem} {n i : Nat} {elements : List Json}
    {v : Json} (h : Shape.checkActions limit depth stem n elements = [])
    (hv : elements[i]? = some v) : Shape.checkAction limit depth (stem.nth (n + i)) v = [] := by
  induction elements generalizing n i with
  | nil => simp at hv
  | cons w rest ih =>
    rw [Shape.checkActions, List.append_eq_nil_iff] at h
    cases i with
    | zero =>
      obtain rfl : w = v := by simpa using hv
      exact h.1
    | succ i =>
      have := ih h.2 (by simpa using hv)
      rwa [Nat.add_assoc, Nat.add_comm 1] at this

/-- What the shape rules know of a branch that keeps them: the children of an arm that is not null
keep the rules one level down, for which there is room. -/
theorem checkAction_child {limit depth : Nat} {p : Path} {members : Members} {arm : Arm}
    {elements : List Json} {i : Nat} {v : Json}
    (h : Shape.checkAction limit depth p (.obj members) = [])
    (hkind : Shape.kindOf members = some "BRANCH")
    (harm : Shape.armMember members arm = some (.arr elements)) (hv : elements[i]? = some v) :
    depth + 1 ≤ limit ∧
      Shape.checkAction limit (depth + 1) ((Stem.inside p arm).nth i) v = [] := by
  have hfilled : Shape.isFilledBranch members = true := by
    have : Shape.armFilled (some (.arr elements)) = true := by
      cases elements with
      | nil => simp at hv
      | cons => rfl
    cases arm <;> simp [Shape.isFilledBranch, hkind, harm, this]
  rw [Shape.checkAction, List.append_eq_nil_iff, if_pos (by simp [hkind])] at h
  obtain ⟨-, h⟩ := h
  split at h
  · cases h
  · rename_i hroom
    simp only [hfilled, Bool.true_and, decide_eq_true_eq, Nat.not_lt] at hroom
    refine ⟨hroom, ?_⟩
    obtain ⟨htrue, hfalse⟩ := List.append_eq_nil_iff.1 h
    have harms : Shape.checkArm limit (depth + 1) p arm (Shape.armKey members arm) members = [] := by
      cases arm with
      | onTrue => exact htrue
      | onFalse => exact hfalse
    rw [checkArm_eq, assoc_armKey, harm] at harms
    simp only [Shape.checkChildren] at harms
    simpa using checkAction_of_getElem? harms hv

theorem exists_kind_of_isOneOf {members : Members} {kinds : List String}
    (h : Shape.isOneOf (Shape.kindOf members) kinds = true) :
    ∃ kind ∈ kinds, assoc "type" members = some (.str kind) := by
  unfold Shape.kindOf at h
  cases htype : assoc "type" members with
  | none => simp [htype, Shape.isOneOf] at h
  | some t =>
    cases t <;> simp [htype, Shape.isOneOf, Json.asString] at h
    exact ⟨_, h, rfl⟩

theorem exists_kind_of_checkAction {limit depth : Nat} {p : Path} {members : Members}
    (h : Shape.checkAction limit depth p (.obj members) = []) :
    ∃ kind, assoc "type" members = some (.str kind) := by
  rw [Shape.checkAction, Shape.checkMembers] at h
  simp only [List.append_eq_nil_iff, Shape.demand_eq_nil] at h
  obtain ⟨kind, -, hkind⟩ := exists_kind_of_isOneOf h.1.1.1.1
  exact ⟨kind, hkind⟩

theorem kindOf_of_tagOf {buffered : Bool} {members : Members} {kind : String} {n : Nat}
    (hkind : assoc "type" members = some (.str kind))
    (h : tagOf buffered "Action" Action.tags (.obj (cleanMembers members)) = .ok n)
    (hpiece : n ≠ 0) (hcode : n ≠ 1) : Shape.kindOf members = some "BRANCH" := by
  simp only [tagOf, assoc_type_cleanMembers hkind] at h
  obtain rfl := Action.eq_branch_of_tag h hpiece hcode
  simp [Shape.kindOf, hkind, Json.asString]

/-- An arm with a child that the shape rules do not overlook holds the child in its place. -/
theorem exists_elements_of_decode {buffered : Bool} {members : Members} {a b : Action} {arm : Arm}
    {i : Nat} (h : Action.decode buffered (.obj (cleanMembers members)) = .ok a)
    (hb : (a.children arm)[i]? = some b) (hnull : Shape.armMember members arm ≠ some .null) :
    ∃ elements v, Shape.armMember members arm = some (.arr elements) ∧ elements[i]? = some v ∧
      Action.decode true (cleanAction v) = .ok b := by
  obtain ⟨-, ⟨m, hm, hkey⟩, hread⟩ := Action.child_of_decode h hb
  obtain ⟨v, hv, -⟩ := exists_mem_of_mem_cleanMembers hm
  cases harm : Shape.armMember members arm with
  | none => exact absurd hv (not_mem_of_armMember harm hkey v)
  | some w =>
    obtain ⟨key, hkey, hw⟩ := mem_of_armMember harm
    have hwnull : w.isNull = false := by
      cases w <;> first | rfl | exact absurd harm hnull
    obtain ⟨cleaned, v', hcleaned, hget, hdecode⟩ := hread _ (mem_cleanMembers hw hkey hwnull) hkey
    cases w <;> simp only [cleanList, reduceCtorEq, Json.arr.injEq] at hcleaned
    rename_i elements
    rw [← hcleaned, cleanAll_eq_map, List.getElem?_map, Option.map_eq_some_iff] at hget
    obtain ⟨v, hget, rfl⟩ := hget
    exact ⟨elements, v, rfl, hget, hdecode⟩

/-- Below an action that keeps the shape rules, whatever hops lead to in its typed form stands
within the limit unless the hops lead through an overlooked arm. Each hop leads to the same child in
the object and in its typed form, and the shape rules are kept there one level down. -/
theorem le_limit_of_decode {limit : Nat} {hops : List (Arm × Nat)} {c : Action} {depth : Nat}
    {p : Path} {v : Json} {a : Action} {buffered : Bool}
    (hcheck : Shape.checkAction limit depth p v = [])
    (hdecode : Action.decode buffered (cleanAction v) = .ok a)
    (hoverlooks : overlooks v hops = false) (hne : hops ≠ []) (hc : a.descend hops = some c) :
    depth + hops.length ≤ limit := by
  induction hops generalizing depth p v a buffered with
  | nil => exact absurd rfl hne
  | cons hop rest ih =>
    obtain ⟨arm, i⟩ := hop
    obtain ⟨b, hb, hc⟩ := Option.bind_eq_some_iff.1 hc
    cases v with
    | obj members =>
      rw [cleanAction] at hdecode
      have hnull : Shape.armMember members arm ≠ some .null := by
        intro h
        simp [overlooks, h] at hoverlooks
      obtain ⟨kind, hkind⟩ := exists_kind_of_checkAction hcheck
      obtain ⟨⟨n, htag, hpiece, hcode⟩, -⟩ := Action.child_of_decode hdecode hb
      obtain ⟨elements, w, harm, hw, hdecode⟩ := exists_elements_of_decode hdecode hb hnull
      obtain ⟨hroom, hcheck⟩ :=
        checkAction_child hcheck (kindOf_of_tagOf hkind htag hpiece hcode) harm hw
      have hoverlooks : overlooks w rest = false := by
        simpa [overlooks, harm, hw] using hoverlooks
      cases rest with
      | nil => exact hroom
      | cons hop rest =>
        have := ih hcheck hdecode hoverlooks (by simp) hc
        simp only [List.length_cons] at this ⊢
        omega
    | _ => simp [Shape.checkAction] at hcheck

end Flowline.Candidate
