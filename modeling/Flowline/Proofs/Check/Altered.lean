import Flowline.Proofs.Check.Readable
import Flowline.Proofs.Json.Spelled

/-!
Candidates whose objects change but keep their fields: the root, the trigger and the actions, as
deep as the arms lead. The shape rules find the same faults in the same places.
-/
namespace Flowline.Candidate
open Json Decode

mutual

/-- An action before and after a change to its own members and to those of the actions below. -/
inductive Altered (change : Members → Members → Prop) : Json → Json → Prop
  | object {members middle others : Members} (harms : AlteredArms change members middle)
      (hchange : change middle others) : Altered change (.obj members) (.obj others)
  | other {v : Json} (hv : v.isObject = false) : Altered change v v

/-- The same members with the lists under the keys of the arms altered. -/
inductive AlteredArms (change : Members → Members → Prop) : Members → Members → Prop
  | nil : AlteredArms change [] []
  | arm {key : String} {v w : Json} {rest others : Members} (arm : Arm)
      (hkey : key ∈ Action.armKeys arm) (hlist : AlteredList change v w)
      (hrest : AlteredArms change rest others) :
      AlteredArms change ((key, v) :: rest) ((key, w) :: others)
  | other {key : String} {v : Json} {rest others : Members}
      (hkey : ∀ arm, key ∉ Action.armKeys arm) (hrest : AlteredArms change rest others) :
      AlteredArms change ((key, v) :: rest) ((key, v) :: others)

inductive AlteredList (change : Members → Members → Prop) : Json → Json → Prop
  | elements {elements others : List Json} (hall : AlteredAll change elements others) :
      AlteredList change (.arr elements) (.arr others)
  | other {v : Json} (hv : v.isArray = false) : AlteredList change v v

inductive AlteredAll (change : Members → Members → Prop) : List Json → List Json → Prop
  | nil : AlteredAll change [] []
  | cons {v w : Json} {rest others : List Json} (hv : Altered change v w)
      (hrest : AlteredAll change rest others) : AlteredAll change (v :: rest) (w :: others)

end

/-- A trigger before and after a change to its members. -/
inductive AlteredTrigger (change : Members → Members → Prop) : Json → Json → Prop
  | object {members others : Members} (hchange : change members others) :
      AlteredTrigger change (.obj members) (.obj others)
  | other {v : Json} (hv : v.isObject = false) : AlteredTrigger change v v

/-- What happens to the members of the root, of the trigger and of each action. -/
structure Change where
  root : Members → Members → Prop
  trigger : Members → Members → Prop
  action : Members → Members → Prop

/-- What a change of the trigger and of the actions makes of a member of the root. -/
def Change.Member (change : Change) (m other : String × Json) : Prop :=
  other.1 = m.1 ∧
    if m.1 = "trigger" then AlteredTrigger change.trigger m.2 other.2
    else if m.1 = "actions" then AlteredList change.action m.2 other.2
    else other.2 = m.2

/-- A candidate before and after a change. -/
inductive Change.Takes (change : Change) : Json → Json → Prop
  | object {root middle others : Members} (hmembers : List.Forall₂ change.Member root middle)
      (hchange : change.root middle others) : change.Takes (.obj root) (.obj others)
  | other {v : Json} (hv : v.isObject = false) : change.Takes v v

instance {p : Arm → Prop} [DecidablePred p] : Decidable (∀ arm, p arm) :=
  decidable_of_iff (p .onTrue ∧ p .onFalse)
    ⟨fun h arm => by
      cases arm with
      | onTrue => exact h.1
      | onFalse => exact h.2,
    fun h => ⟨h .onTrue, h .onFalse⟩⟩

/-- The key of an arm in drafts. -/
def otherKey : Arm → String
  | .onTrue => "onTrue"
  | .onFalse => "onFalse"

/-- Other spellings of the keys of the root, the trigger and the actions, those of the arms among
them. -/
structure Vocabulary where
  root : Spellings
  trigger : Spellings
  action : Spellings
  root_plain : ∀ key ∈ ["error", "displayName", "trigger", "actions"], IsPlain root key
  trigger_plain : ∀ key ∈ ["type", "displayName", "input"], IsPlain trigger key
  action_plain : ∀ key ∈ ["type", "displayName"], IsPlain action key
  action_arms : ∀ arm, IsPair action arm.key (otherKey arm)

/-- Neither in the root nor in the trigger nor in an action do two members stand for one field. -/
def Vocabulary.isApart (vocabulary : Vocabulary) : Json → Bool
  | .obj root =>
    Decode.isApart vocabulary.root root &&
    ((assoc "trigger" root).bind asObject).all (Decode.isApart vocabulary.trigger) &&
    ((assoc "actions" root).map objectsOf).all fun objects =>
      objects.all (Decode.isApart vocabulary.action)
  | _ => true

theorem present_bind (f : Json → Option α) (hf : f .null = none) (v : Option Json) :
    (present v).bind f = v.bind f := by
  cases v with
  | none => rfl
  | some w => cases w <;> simp [present, Option.filter, isNull, hf]

def elementsOf (v : Option Json) : List Json := (v.bind asArray).getD []

theorem elementsOf_present (v : Option Json) : elementsOf (present v) = elementsOf v := by
  rw [elementsOf, present_bind asArray rfl, elementsOf]

theorem hasString_present (v : Option Json) : Shape.hasString (present v) = Shape.hasString v := by
  cases v with
  | none => rfl
  | some w => cases w <;> rfl

theorem hasText_present (v : Option Json) : Shape.hasText (present v) = Shape.hasText v := by
  cases v with
  | none => rfl
  | some w => cases w <;> rfl

theorem fits_present (form : Shape.Form) (v : Option Json) :
    Shape.fits form (present v) = Shape.fits form v := by
  cases v with
  | none => rfl
  | some w => cases w <;> rfl

theorem armFilled_eq (v : Option Json) : Shape.armFilled v = !(elementsOf v).isEmpty := by
  cases v with
  | none => rfl
  | some w =>
    cases w with
    | arr elements => cases elements <;> rfl
    | _ => rfl

/-- The rules look at an action and at the lists of its arms. -/
theorem checkAction_obj (limit depth : Nat) (p : Path) (members : Members) :
    Shape.checkAction limit depth p (.obj members) =
      Shape.checkMembers members (.action p) ++
      if Shape.kindOf members == some "BRANCH" then
        let onTrue := elementsOf (Shape.armMember members .onTrue)
        let onFalse := elementsOf (Shape.armMember members .onFalse)
        if (!onTrue.isEmpty || !onFalse.isEmpty) && limit < depth + 1 then
          [⟨.tooDeep limit, .action p⟩]
        else
          Shape.checkActions limit (depth + 1) (.inside p .onTrue) 0 onTrue ++
          Shape.checkActions limit (depth + 1) (.inside p .onFalse) 0 onFalse
      else [] := by
  have harm (arm : Arm) :
      Shape.checkArm limit (depth + 1) p arm (Shape.armKey members arm) members =
        Shape.checkActions limit (depth + 1) (.inside p arm) 0
          (elementsOf (Shape.armMember members arm)) := by
    rw [checkArm_eq, assoc_armKey]
    cases Shape.armMember members arm with
    | none => rw [elementsOf, Option.bind_none, Option.getD_none, Shape.checkActions]
    | some v => cases v <;> simp [Shape.checkChildren, elementsOf, asArray, Shape.checkActions]
  rw [Shape.checkAction]
  by_cases hkind : Shape.kindOf members == some "BRANCH"
  · simp only [hkind, if_true, Shape.isFilledBranch, Bool.true_and, armFilled_eq, harm]
  · rw [if_neg hkind, if_neg hkind]

theorem checkActionList_eq (limit : Nat) (root : Members) :
    Shape.checkActionList limit root =
      if (elementsOf (assoc "actions" root)).isEmpty then [⟨.noActions, .flow⟩]
      else Shape.checkActions limit 0 .top 0 (elementsOf (assoc "actions" root)) := by
  unfold Shape.checkActionList
  cases assoc "actions" root with
  | none => rfl
  | some v =>
    cases v with
    | arr elements => cases elements <;> rfl
    | _ => rfl

section
variable {change : Members → Members → Prop} {members middle : Members}

theorem AlteredArms.keys_eq (h : AlteredArms change members middle) :
    middle.map Prod.fst = members.map Prod.fst := by
  induction members generalizing middle with
  | nil =>
    cases h
    rfl
  | cons m rest ih =>
    cases h with
    | arm _ _ _ hrest | other _ hrest => rw [List.map_cons, List.map_cons, ih hrest]

theorem AlteredArms.assoc_eq (h : AlteredArms change members middle) {key : String}
    (hkey : ∀ arm, key ∉ Action.armKeys arm) : assoc key middle = assoc key members := by
  induction members generalizing middle with
  | nil =>
    cases h
    rfl
  | cons m rest ih =>
    obtain ⟨k, v⟩ := m
    cases h with
    | arm arm harm _ hrest =>
      have hne : k ≠ key := fun heq => hkey arm (heq ▸ harm)
      rw [assoc, assoc, if_neg hne, if_neg hne, ih hrest]
    | other _ hrest => rw [assoc, assoc, ih hrest]

theorem AlteredArms.assoc_rel (h : AlteredArms change members middle) {key : String} {arm : Arm}
    (hkey : key ∈ Action.armKeys arm) :
    Option.Rel (AlteredList change) (assoc key members) (assoc key middle) := by
  induction members generalizing middle with
  | nil =>
    cases h
    exact .none
  | cons m rest ih =>
    obtain ⟨k, v⟩ := m
    cases h with
    | arm _ _ hlist hrest =>
      rw [assoc, assoc]
      split
      · exact .some hlist
      · exact ih hrest
    | other hother hrest =>
      have hne : k ≠ key := fun heq => hother arm (heq ▸ hkey)
      rw [assoc, assoc, if_neg hne, if_neg hne]
      exact ih hrest

theorem AlteredArms.armMember_rel (h : AlteredArms change members middle) (arm : Arm) :
    Option.Rel (AlteredList change) (Shape.armMember members arm) (Shape.armMember middle arm) := by
  have hor {x y x' y' : Option Json} (hx : Option.Rel (AlteredList change) x x')
      (hy : Option.Rel (AlteredList change) y y') :
      Option.Rel (AlteredList change) (x.or y) (x'.or y') := by
    cases hx with
    | some hlist => exact .some hlist
    | none => exact hy
  cases arm with
  | onTrue =>
    have hkeys : ∀ key ∈ ["onSuccessActions", "onTrue"], key ∈ Action.armKeys .onTrue := by decide
    exact hor (h.assoc_rel (hkeys "onSuccessActions" (by simp)))
      (h.assoc_rel (hkeys "onTrue" (by simp)))
  | onFalse =>
    have hkeys : ∀ key ∈ ["onFailureActions", "onFalse"], key ∈ Action.armKeys .onFalse := by decide
    exact hor (h.assoc_rel (hkeys "onFailureActions" (by simp)))
      (h.assoc_rel (hkeys "onFalse" (by simp)))

theorem isNull_of_altered {v w : Json} (h : AlteredList change v w) : w.isNull = v.isNull := by
  cases h <;> rfl

theorem AlteredAll.forall₂ {R : Json → Json → Prop} {elements others : List Json}
    (h : AlteredAll change elements others)
    (hR : ∀ v ∈ elements, ∀ w, Altered change v w → R v w) : List.Forall₂ R elements others := by
  induction elements generalizing others with
  | nil =>
    cases h
    exact .nil
  | cons v rest ih =>
    cases h with
    | cons hv hrest =>
      exact .cons (hR v (by simp) _ hv) (ih hrest fun v' hv' => hR v' (by simp [hv']))

theorem AlteredAll.isEmpty_eq {elements others : List Json} (h : AlteredAll change elements others) :
    others.isEmpty = elements.isEmpty := by
  cases h <;> rfl

theorem fits_actions_of_rel {x y : Option Json} (h : Option.Rel (AlteredList change) x y) :
    Shape.fits .actions y = Shape.fits .actions x := by
  cases h with
  | none => rfl
  | some hlist => cases hlist <;> rfl

theorem elementsOf_of_rel {x y : Option Json} (h : Option.Rel (AlteredList change) x y) :
    AlteredAll change (elementsOf x) (elementsOf y) := by
  cases h with
  | none => exact .nil
  | some hlist =>
    cases hlist with
    | elements hall => exact hall
    | other hv =>
      rename_i v
      cases v with
      | arr elements => cases hv
      | _ => exact .nil

end

/-- What cleaning makes of a member of the root. -/
def cleanPart (key : String) (v : Json) : Json :=
  if key = "trigger" then cleanTrigger v else if key = "actions" then cleanList v else v

theorem clean_obj (root : Members) :
    clean (.obj root) = .obj ((dropNulls root).map fun m => (m.1, cleanPart m.1 m.2)) := rfl

theorem isNull_of_member {change : Change} {m other : String × Json} (h : change.Member m other) :
    other.2.isNull = m.2.isNull := by
  obtain ⟨key, v⟩ := m
  obtain ⟨key', w⟩ := other
  obtain ⟨-, h⟩ := h
  split at h
  · cases h <;> rfl
  · split at h
    · exact isNull_of_altered h
    · rw [h]

theorem cleanParts_of_members {change : Change} {R : String × Json → String × Json → Prop}
    {root middle : Members} (h : List.Forall₂ change.Member root middle)
    (hR : ∀ m ∈ root, ∀ other, change.Member m other →
      R (m.1, cleanPart m.1 m.2) (other.1, cleanPart other.1 other.2)) :
    List.Forall₂ R ((dropNulls root).map fun m => (m.1, cleanPart m.1 m.2))
      ((dropNulls middle).map fun m => (m.1, cleanPart m.1 m.2)) := by
  induction h with
  | nil => exact .nil
  | cons hm _ ih =>
    have hrest := ih fun m hmem => hR m (.tail _ hmem)
    rw [dropNulls, dropNulls, List.filter_cons, List.filter_cons, isNull_of_member hm]
    split
    · exact .cons (hR _ (by simp) _ hm) hrest
    · exact hrest

/-- A change keeps the fields of each object, and no rule on fields tells the difference. -/
structure Change.Faithful (change : Change) (vocabulary : Vocabulary)
    (view : Shape.Report → β) : Prop where
  root : ∀ {members others}, Decode.isApart vocabulary.root members = true →
    change.root members others → SameFields vocabulary.root members others
  trigger : ∀ {members others}, Decode.isApart vocabulary.trigger members = true →
    change.trigger members others → SameFields vocabulary.trigger members others
  action : ∀ {members others}, Decode.isApart vocabulary.action members = true →
    change.action members others → SameFields vocabulary.action members others
  trigger_fields : ∀ {members others}, SameFields vocabulary.trigger members others → ∀ place,
    (Shape.checkFields others place).map view = (Shape.checkFields members place).map view
  action_fields : ∀ {members others}, SameFields vocabulary.action members others → ∀ place,
    (Shape.checkFields others place).map view = (Shape.checkFields members place).map view

section
variable {spellings : Spellings} {members others : Members}

theorem kindOf_eq (h : SameFields spellings members others) (htype : IsPlain spellings "type") :
    Shape.kindOf others = Shape.kindOf members := by
  rw [Shape.kindOf, ← present_bind asString rfl, ← h.present_assoc_of_isPlain htype,
    present_bind asString rfl, Shape.kindOf]

theorem hasString_eq (h : SameFields spellings members others) {key : String}
    (hkey : IsPlain spellings key) :
    Shape.hasString (assoc key others) = Shape.hasString (assoc key members) := by
  rw [← hasString_present, ← h.present_assoc_of_isPlain hkey, hasString_present]

theorem bind_asObject_eq (h : SameFields spellings members others) {key : String}
    (hkey : IsPlain spellings key) :
    (assoc key others).bind asObject = (assoc key members).bind asObject := by
  rw [← present_bind asObject rfl, ← h.present_assoc_of_isPlain hkey, present_bind asObject rfl]

/-- The arms of a branch are among the fields. -/
theorem armMember_eq_assoc (harms : ∀ arm, IsPair spellings arm.key (otherKey arm))
    (h : isApart spellings members = true) (arm : Arm) :
    Shape.armMember members arm = assoc arm.key (spelledOut spellings members) := by
  cases arm with
  | onTrue => exact (assoc_spelledOut_of_isPair (harms .onTrue) h).symm
  | onFalse => exact (assoc_spelledOut_of_isPair (harms .onFalse) h).symm

theorem armMember_of_mem_of_isApart (harms : ∀ arm, IsPair spellings arm.key (otherKey arm))
    (h : isApart spellings members = true) {arm : Arm} {key : String} {v : Json}
    (hkey : key ∈ Action.armKeys arm) (hv : (key, v) ∈ members) :
    Shape.armMember members arm = some v := by
  have hown : own spellings key = arm.key := by
    rw [own_eq_iff_of_isPair (harms arm)]
    cases arm <;> simpa [Action.armKeys, Arm.key, otherKey] using hkey
  rw [armMember_eq_assoc harms h]
  exact assoc_of_mem (nodup_of_isApart h) (List.mem_map.2 ⟨(key, v), hv, by rw [hown]⟩)

theorem present_armMember (h : SameFields spellings members others)
    (harms : ∀ arm, IsPair spellings arm.key (otherKey arm)) (arm : Arm) :
    present (Shape.armMember members arm) = present (Shape.armMember others arm) := by
  rw [armMember_eq_assoc harms h.left, armMember_eq_assoc harms h.right]
  exact h.present_assoc arm.key

end

section
variable {vocabulary : Vocabulary} {change : Change} {view : Shape.Report → β}

theorem not_mem_armKeys_of_mem {key : String}
    (h : key ∈ ["type", "displayName"] ++ Shape.optionalFields.map Prod.fst) (arm : Arm) :
    key ∉ Action.armKeys arm := by
  have hall : ∀ key ∈ ["type", "displayName"] ++ Shape.optionalFields.map Prod.fst,
      ∀ arm, key ∉ Action.armKeys arm := by decide
  exact hall key h arm

/-- What the rules of one action read of its members. -/
structure ReadAlike (view : Shape.Report → β) (members others : Members) : Prop where
  kind : Shape.kindOf others = Shape.kindOf members
  name : Shape.hasString (assoc "displayName" others) =
    Shape.hasString (assoc "displayName" members)
  fields : ∀ place, (Shape.checkFields others place).map view =
    (Shape.checkFields members place).map view
  fits : ∀ arm, Shape.fits .actions (Shape.armMember others arm) =
    Shape.fits .actions (Shape.armMember members arm)

theorem ReadAlike.checkMembers {members others : Members} (h : ReadAlike view members others)
    (place : Place) : (Shape.checkMembers others place).map view =
      (Shape.checkMembers members place).map view := by
  simp only [Shape.checkMembers, List.map_append, h.kind, h.name, h.fields, h.fits]

theorem ReadAlike.trans {members middle others : Members} (h : ReadAlike view members middle)
    (h' : ReadAlike view middle others) : ReadAlike view members others where
  kind := h'.kind.trans h.kind
  name := h'.name.trans h.name
  fields place := (h'.fields place).trans (h.fields place)
  fits arm := (h'.fits arm).trans (h.fits arm)

theorem AlteredArms.readAlike {step : Members → Members → Prop} {members middle : Members}
    (h : AlteredArms step members middle) : ReadAlike view members middle where
  kind := by
    rw [Shape.kindOf, h.assoc_eq (not_mem_armKeys_of_mem (by simp)), Shape.kindOf]
  name := by rw [h.assoc_eq (not_mem_armKeys_of_mem (by simp))]
  fields place := by
    have hfields : Shape.checkFields middle place = Shape.checkFields members place := by
      rw [Shape.checkFields, Shape.checkFields]
      congr 1
      refine List.filter_congr fun f hf => ?_
      rw [h.assoc_eq (not_mem_armKeys_of_mem (List.mem_append_right _ (List.mem_map_of_mem hf)))]
    rw [hfields]
  fits arm := fits_actions_of_rel (h.armMember_rel arm)

theorem Change.Faithful.readAlike (hfaithful : change.Faithful vocabulary view)
    {members others : Members} (h : SameFields vocabulary.action members others) :
    ReadAlike view members others where
  kind := kindOf_eq h (vocabulary.action_plain _ (by simp))
  name := hasString_eq h (vocabulary.action_plain _ (by simp))
  fields := hfaithful.action_fields h
  fits arm := by
    rw [← fits_present, ← present_armMember h vocabulary.action_arms, fits_present]

theorem checkActions_altered {limit depth : Nat} {elements others : List Json} {stem : Stem}
    {n : Nat}
    (h : List.Forall₂ (fun v w => ∀ p, (Shape.checkAction limit depth p w).map view =
      (Shape.checkAction limit depth p v).map view) elements others) :
    (Shape.checkActions limit depth stem n others).map view =
      (Shape.checkActions limit depth stem n elements).map view := by
  induction h generalizing n with
  | nil => rfl
  | cons hv _ ih =>
    rw [Shape.checkActions, Shape.checkActions, List.map_append, List.map_append, hv, ih]

theorem objectsIn_child {members : Members} {arm : Arm} {v : Json}
    (hkind : Shape.kindOf members = some "BRANCH")
    (hv : v ∈ elementsOf (Shape.armMember members arm)) :
    objectsIn v ⊆ objectsIn (.obj members) := by
  cases harm : Shape.armMember members arm with
  | none => simp [harm, elementsOf] at hv
  | some w =>
    cases w <;> simp only [harm, elementsOf, asArray, Option.bind_some, Option.getD_none,
      Option.getD_some, List.not_mem_nil] at hv
    obtain ⟨key, hkey, hmem⟩ := mem_of_armMember harm
    exact objectsIn_subset hkind hmem (isArmKey_of_mem_armKeys hkey) hv

/-- The rules find the same faults in an action after a change that keeps its fields. The induction
is on the room below the limit, for they look at the children only where there is some left. -/
theorem checkAction_altered (hfaithful : change.Faithful vocabulary view) {limit depth : Nat}
    {p : Path} {v w : Json} (h : Altered change.action v w)
    (hapart : ∀ members ∈ objectsIn v, Decode.isApart vocabulary.action members = true) :
    (Shape.checkAction limit depth p w).map view =
      (Shape.checkAction limit depth p v).map view := by
  induction hroom : limit - depth using Nat.strongRecOn generalizing depth p v w with
  | _ room ih =>
    cases h with
    | other => rfl
    | @object members middle others harms hchange =>
      have hmembers : Decode.isApart vocabulary.action middle = true :=
        isApart_of_keys_eq harms.keys_eq (hapart members (by simp [objectsIn]))
      have hsame := hfaithful.action hmembers hchange
      have hread : ReadAlike view members others :=
        harms.readAlike.trans (hfaithful.readAlike hsame)
      have hall (arm : Arm) : AlteredAll change.action (elementsOf (Shape.armMember members arm))
          (elementsOf (Shape.armMember others arm)) := by
        rw [← elementsOf_present (Shape.armMember others arm),
          ← present_armMember hsame vocabulary.action_arms, elementsOf_present]
        exact elementsOf_of_rel (harms.armMember_rel arm)
      rw [checkAction_obj, checkAction_obj, List.map_append, List.map_append,
        hread.checkMembers, hread.kind]
      congr 1
      split
      · rename_i hkind
        simp only [(hall .onTrue).isEmpty_eq, (hall .onFalse).isEmpty_eq]
        split
        · rfl
        · rename_i hfilled
          have hchildren (arm : Arm) :
              (Shape.checkActions limit (depth + 1) (.inside p arm) 0
                (elementsOf (Shape.armMember others arm))).map view =
              (Shape.checkActions limit (depth + 1) (.inside p arm) 0
                (elementsOf (Shape.armMember members arm))).map view := by
            refine checkActions_altered ((hall arm).forall₂ fun v hv w halt p => ?_)
            refine ih (limit - (depth + 1)) ?_ halt (fun object hobject =>
              hapart object (objectsIn_child (by simpa using hkind) hv hobject)) rfl
            have hroom : ¬ limit < depth + 1 := fun hlt => hfilled (by
              cases arm <;> simp [List.ne_nil_of_mem hv, hlt])
            omega
          rw [List.map_append, List.map_append, hchildren .onTrue, hchildren .onFalse]
      · rfl

theorem keys_eq_of_members {root middle : Members}
    (h : List.Forall₂ change.Member root middle) : middle.map Prod.fst = root.map Prod.fst := by
  induction h with
  | nil => rfl
  | cons hm _ ih => rw [List.map_cons, List.map_cons, hm.1, ih]

theorem assoc_rel_of_members {root middle : Members} (h : List.Forall₂ change.Member root middle)
    (key : String) :
    Option.Rel (fun v w => change.Member (key, v) (key, w)) (assoc key root) (assoc key middle) := by
  induction h with
  | nil => exact .none
  | @cons m other rest others hm _ ih =>
    obtain ⟨k, v⟩ := m
    obtain ⟨k', w⟩ := other
    obtain rfl : k' = k := hm.1
    rw [assoc, assoc]
    split
    · rename_i hkey
      exact .some (hkey ▸ hm)
    · exact ih

theorem assoc_eq_of_members {root middle : Members} (h : List.Forall₂ change.Member root middle)
    {key : String} (htrigger : key ≠ "trigger") (hactions : key ≠ "actions") :
    assoc key middle = assoc key root := by
  have hrel := assoc_rel_of_members h key
  generalize assoc key root = x at hrel ⊢
  generalize assoc key middle = y at hrel ⊢
  cases hrel with
  | none => rfl
  | some hm =>
    obtain ⟨-, hm⟩ := hm
    rw [if_neg htrigger, if_neg hactions] at hm
    exact congrArg some hm

/-- What a change that keeps the fields does to the members of the root. -/
structure Change.Root (change : Change) (root others : Members) : Prop where
  error : (assoc "error" others).bind asString = (assoc "error" root).bind asString
  name : Shape.hasText (assoc "displayName" others) = Shape.hasText (assoc "displayName" root)
  trigger : Option.Rel change.trigger ((assoc "trigger" root).bind asObject)
    ((assoc "trigger" others).bind asObject)
  actions : AlteredAll change.action (elementsOf (assoc "actions" root))
    (elementsOf (assoc "actions" others))

theorem Change.Faithful.takesRoot (hfaithful : change.Faithful vocabulary view)
    {root middle others : Members} (hmembers : List.Forall₂ change.Member root middle)
    (hchange : change.root middle others) (hapart : Decode.isApart vocabulary.root root = true) :
    change.Root root others := by
  have hmiddle : Decode.isApart vocabulary.root middle = true :=
    isApart_of_keys_eq (keys_eq_of_members hmembers) hapart
  have hsame := hfaithful.root hmiddle hchange
  have hplain := vocabulary.root_plain
  refine ⟨?error, ?name, ?trigger, ?actions⟩
  case error =>
    rw [← present_bind asString rfl, ← hsame.present_assoc_of_isPlain (hplain _ (by simp)),
      present_bind asString rfl, assoc_eq_of_members hmembers (by decide) (by decide)]
  case name =>
    rw [← hasText_present, ← hsame.present_assoc_of_isPlain (hplain _ (by simp)), hasText_present,
      assoc_eq_of_members hmembers (by decide) (by decide)]
  case trigger =>
    rw [bind_asObject_eq hsame (hplain _ (by simp))]
    have hrel := assoc_rel_of_members hmembers "trigger"
    generalize assoc "trigger" root = x at hrel ⊢
    generalize assoc "trigger" middle = y at hrel ⊢
    cases hrel with
    | none => exact .none
    | some hm =>
      have htrigger : AlteredTrigger change.trigger _ _ := hm.2
      cases htrigger with
      | object hchange => exact .some hchange
      | other hv =>
        rename_i v
        cases v with
        | obj members => cases hv
        | _ => exact .none
  case actions =>
    rw [← elementsOf_present (assoc "actions" others),
      ← hsame.present_assoc_of_isPlain (hplain _ (by simp)), elementsOf_present]
    have hrel := assoc_rel_of_members hmembers "actions"
    refine elementsOf_of_rel ?_
    generalize assoc "actions" root = x at hrel ⊢
    generalize assoc "actions" middle = y at hrel ⊢
    cases hrel with
    | none => exact .none
    | some hm => exact .some hm.2

theorem checkTrigger_takes (hfaithful : change.Faithful vocabulary view) {root others : Members}
    (h : change.Root root others)
    (hapart : ∀ trigger, (assoc "trigger" root).bind asObject = some trigger →
      Decode.isApart vocabulary.trigger trigger = true) :
    (Shape.checkTrigger others).map view = (Shape.checkTrigger root).map view := by
  have hrel := h.trigger
  unfold Shape.checkTrigger
  generalize (assoc "trigger" root).bind asObject = x at hrel hapart ⊢
  generalize (assoc "trigger" others).bind asObject = y at hrel ⊢
  cases hrel with
  | none => rfl
  | some hchange =>
    have hsame := hfaithful.trigger (hapart _ rfl) hchange
    have hplain := vocabulary.trigger_plain
    simp only [List.map_append, kindOf_eq hsame (hplain _ (by simp)),
      hasString_eq hsame (hplain "displayName" (by simp)), hfaithful.trigger_fields hsame,
      bind_asObject_eq hsame (hplain "input" (by simp))]

theorem checkActionList_takes (hfaithful : change.Faithful vocabulary view) {limit : Nat}
    {root others : Members} (h : change.Root root others)
    (hapart : ∀ v ∈ elementsOf (assoc "actions" root), ∀ members ∈ objectsIn v,
      Decode.isApart vocabulary.action members = true) :
    (Shape.checkActionList limit others).map view =
      (Shape.checkActionList limit root).map view := by
  rw [checkActionList_eq, checkActionList_eq, h.actions.isEmpty_eq]
  split
  · rfl
  · exact checkActions_altered (h.actions.forall₂ fun v hv w halt p =>
      checkAction_altered hfaithful halt (hapart v hv))

/-- What a candidate without a field spelled twice looks like. -/
theorem apart_of_isApart {root : Members} (h : vocabulary.isApart (.obj root) = true) :
    Decode.isApart vocabulary.root root = true ∧
    (∀ trigger, (assoc "trigger" root).bind asObject = some trigger →
      Decode.isApart vocabulary.trigger trigger = true) ∧
    ∀ v ∈ elementsOf (assoc "actions" root), ∀ members ∈ objectsIn v,
      Decode.isApart vocabulary.action members = true := by
  simp only [Vocabulary.isApart, Bool.and_eq_true] at h
  obtain ⟨⟨hroot, htrigger⟩, hactions⟩ := h
  refine ⟨hroot, fun trigger h => by simpa [h] using htrigger, fun v hv members hmembers => ?_⟩
  cases hlist : assoc "actions" root with
  | none => simp [hlist, elementsOf] at hv
  | some w =>
    cases w <;> simp only [hlist, elementsOf, asArray, Option.bind_some, Option.getD_none,
      Option.getD_some, List.not_mem_nil] at hv
    simp only [hlist, Option.map_some, Option.all_some, objectsOf] at hactions
    exact List.all_eq_true.1 hactions members (mem_objectsAll hv hmembers)

variable {v w : Json}

/-- The shape rules find the same faults after a change that keeps the fields. -/
theorem check_takes (hfaithful : change.Faithful vocabulary view) (limit : Nat)
    (h : change.Takes v w) (hapart : vocabulary.isApart v = true) :
    (Shape.check limit w).map view = (Shape.check limit v).map view := by
  cases h with
  | other => rfl
  | object hmembers hchange =>
    obtain ⟨hroot, htrigger, hactions⟩ := apart_of_isApart hapart
    have hrel := hfaithful.takesRoot hmembers hchange hroot
    simp only [Shape.check, Shape.checkName, List.map_append, hrel.name,
      checkTrigger_takes hfaithful hrel htrigger, checkActionList_takes hfaithful hrel hactions]

theorem refusal_takes (hfaithful : change.Faithful vocabulary view) (h : change.Takes v w)
    (hapart : vocabulary.isApart v = true) : refusal w = refusal v := by
  cases h with
  | other => rfl
  | object hmembers hchange =>
    have hrel := hfaithful.takesRoot hmembers hchange (apart_of_isApart hapart).1
    simp only [refusal, member?, asObject, Option.bind_some, hrel.error]

end

end Flowline.Candidate
