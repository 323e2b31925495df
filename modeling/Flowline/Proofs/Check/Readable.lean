import Flowline.Proofs.Check.Acceptance
import Flowline.Proofs.Check.Forms

/-!
Candidates that keep the shape rules can be read. What the rules do not look at has to be readable
of itself: the notes of the root, and that no field is spelled twice.
-/
namespace Flowline.Candidate
open Json Decode

mutual

/-- The objects that are actions: that of an action and those below it. -/
def objectsIn : Json → List Members
  | .obj members =>
    members :: (if Shape.kindOf members == some "BRANCH" then objectsUnder members else [])
  | _ => []

def objectsUnder : List (String × Json) → List Members
  | [] => []
  | (key, v) :: rest => (if isArmKey key then objectsOf v else []) ++ objectsUnder rest

def objectsOf : Json → List Members
  | .arr elements => objectsAll elements
  | _ => []

def objectsAll : List Json → List Members
  | [] => []
  | v :: rest => objectsIn v ++ objectsAll rest

end

/-- No action has a key beside another spelling of it. -/
def spelledOnceIn (objects : List Members) : Bool :=
  objects.all fun members => isSpelledOnce (Action.spellings (Shape.kindOf members)) members

/-- Neither the root nor the trigger nor an action has a key beside another spelling of it. -/
def spelledOnce : Json → Bool
  | .obj root =>
    isSpelledOnce Flow.spellings root &&
    ((assoc "trigger" root).bind asObject).all (fun trigger =>
      isSpelledOnce (Trigger.spellings (Shape.kindOf trigger)) trigger) &&
    ((assoc "actions" root).map objectsOf).all spelledOnceIn
  | _ => true

def isTexts : Json → Bool
  | .arr elements => elements.all isString
  | _ => false

/-- The needed connections are a list of texts and the explanation is a text, under each key, unless
absent or null. -/
def hasReadableNotes (candidate : Json) : Bool :=
  (["connections_needed", "connectionsNeeded"].all fun key =>
    (candidate.member? key).all fun v => v.isNull || isTexts v) &&
  ["explanation", "explanation_ar"].all fun key =>
    (candidate.member? key).all fun v => v.isNull || v.isString

theorem mem_objectsAll {elements : List Json} {w : Json} {members : Members} (hw : w ∈ elements)
    (h : members ∈ objectsIn w) : members ∈ objectsAll elements := by
  induction elements with
  | nil => cases hw
  | cons v rest ih =>
    rw [objectsAll, List.mem_append]
    rcases List.mem_cons.1 hw with rfl | hw
    · exact .inl h
    · exact .inr (ih hw)

theorem mem_objectsUnder {branch members : Members} {key : String} {v : Json}
    (hm : (key, v) ∈ branch) (hkey : isArmKey key = true) (h : members ∈ objectsOf v) :
    members ∈ objectsUnder branch := by
  induction branch with
  | nil => cases hm
  | cons m rest ih =>
    rw [objectsUnder, List.mem_append]
    rcases List.mem_cons.1 hm with rfl | hm
    · exact .inl (by rwa [if_pos hkey])
    · exact .inr (ih hm)

theorem objectsIn_subset {branch : Members} {key : String} {elements : List Json} {w : Json}
    (hkind : Shape.kindOf branch = some "BRANCH") (hm : (key, .arr elements) ∈ branch)
    (hkey : isArmKey key = true) (hw : w ∈ elements) :
    objectsIn w ⊆ objectsIn (.obj branch) := by
  intro members h
  rw [objectsIn, if_pos (by simp [hkind])]
  refine List.mem_cons_of_mem _ (mem_objectsUnder hm hkey ?_)
  rw [objectsOf]
  exact mem_objectsAll hw h

theorem keys_dropNulls_sublist (members : Members) :
    ((dropNulls members).map Prod.fst).Sublist (members.map Prod.fst) :=
  List.filter_sublist.map Prod.fst

theorem keys_cleanMembers (members : Members) :
    (cleanMembers members).map Prod.fst = (dropNulls members).map Prod.fst := by
  rw [cleanMembers_eq_map, List.map_map]
  rfl

theorem mem_keys_dropNulls {key : String} {v : Json} {members : Members} (h : (key, v) ∈ members)
    (hv : v.isNull = false) : key ∈ (dropNulls members).map Prod.fst :=
  List.mem_map.2 ⟨(key, v), List.mem_filter.2 ⟨h, by simp [hv]⟩, rfl⟩

theorem needs_displayName {members : Members}
    (h : Shape.hasString (assoc "displayName" members) = true) :
    ∀ name ∈ ["displayName"], name ∈ (dropNulls members).map Prod.fst := by
  intro name hname
  obtain rfl := List.mem_singleton.1 hname
  obtain ⟨s, hs⟩ := Shape.exists_mem_of_hasString h
  exact mem_keys_dropNulls hs rfl

theorem not_isArmKey_of_mem_fieldForms {key : String} {form : Shape.Form}
    (h : (key, form) ∈ Shape.fieldForms) : isArmKey key = false := by
  have : ∀ f ∈ Shape.fieldForms, isArmKey f.1 = false := by decide
  exact this _ h

/-- Cleaning leaves the members alone whose forms the rules look at. -/
theorem formed_clean {key : String} {v : Json} (h : Shape.Formed key v) :
    Shape.Formed key (if isArmKey key then cleanList v else v) := by
  intro form hform
  rw [not_isArmKey_of_mem_fieldForms hform]
  exact h form hform

theorem formed_of_mem_dropNulls {members : Members} {place : Place}
    (hkeys : (members.map Prod.fst).Nodup)
    (hname : Shape.hasString (assoc "displayName" members) = true)
    (hfields : Shape.checkFields members place = []) :
    ∀ m ∈ dropNulls members, Shape.Formed m.1 m.2 := by
  intro m hm
  obtain ⟨hm, hnull⟩ := List.mem_filter.1 hm
  exact Shape.formed_of_checkFields hkeys hname hfields hm (by simpa using hnull)

theorem formed_of_mem_cleanMembers {members : Members} {place : Place}
    (hkeys : (members.map Prod.fst).Nodup)
    (hname : Shape.hasString (assoc "displayName" members) = true)
    (hfields : Shape.checkFields members place = []) :
    ∀ m ∈ cleanMembers members, Shape.Formed m.1 m.2 := by
  intro m hm
  rw [cleanMembers_eq_map] at hm
  obtain ⟨m', hm', rfl⟩ := List.mem_map.1 hm
  exact formed_clean (formed_of_mem_dropNulls hkeys hname hfields m' hm')

theorem rules_of_checkAction {limit depth : Nat} {p : Path} {members : Members}
    (h : Shape.checkAction limit depth p (.obj members) = []) :
    (∃ kind ∈ Shape.actionKinds, assoc "type" members = some (.str kind)) ∧
      Shape.hasString (assoc "displayName" members) = true ∧
      Shape.checkFields members (.action p) = [] ∧
      (Shape.kindOf members = some "BRANCH" →
        ∀ arm, Shape.fits .actions (Shape.armMember members arm) = true) := by
  rw [Shape.checkAction, List.append_eq_nil_iff, Shape.checkMembers] at h
  simp only [List.append_eq_nil_iff, Shape.demand_eq_nil] at h
  obtain ⟨⟨⟨⟨hkind, hname⟩, hfields⟩, harms⟩, -⟩ := h
  refine ⟨exists_kind_of_isOneOf hkind, hname, hfields, fun hbranch arm => ?_⟩
  rw [if_pos (by simp [hbranch])] at harms
  simp only [List.flatMap_cons, List.flatMap_nil, List.append_nil, List.append_eq_nil_iff,
    Shape.demand_eq_nil] at harms
  cases arm with
  | onTrue => exact harms.1
  | onFalse => exact harms.2

/-- In a branch that spells no field twice, a member under a key of an arm is the one that the rules
look at. -/
theorem armMember_of_mem {members : Members} {arm : Arm} {key : String} {v : Json}
    (hkeys : (members.map Prod.fst).Nodup)
    (honce : isSpelledOnce (Action.spellings (some "BRANCH")) members = true)
    (hm : (key, v) ∈ members) (hkey : key ∈ Action.armKeys arm) :
    Shape.armMember members arm = some v := by
  have hv := assoc_of_mem hkeys hm
  simp only [isSpelledOnce, Action.spellings, List.all_cons, List.all_nil, Bool.and_true,
    Bool.and_eq_true, Bool.or_eq_true, Option.isNone_iff_eq_none] at honce
  cases arm <;> simp only [Action.armKeys, List.mem_cons, List.not_mem_nil, or_false] at hkey <;>
    rcases hkey with rfl | rfl <;> simp_all [Shape.armMember]

theorem exists_decodeList {members : Members} {arm : Arm} {m : String × Json}
    (hkeys : (members.map Prod.fst).Nodup)
    (honce : isSpelledOnce (Action.spellings (some "BRANCH")) members = true)
    (hfits : Shape.fits .actions (Shape.armMember members arm) = true)
    (hchild : ∀ key elements, key ∈ Action.armKeys arm → (key, .arr elements) ∈ members →
      Shape.armMember members arm = some (.arr elements) →
      ∀ w ∈ elements, ∃ a, Action.decode true (cleanAction w) = .ok a)
    (hm : m ∈ cleanMembers members) (hkey : m.1 ∈ Action.armKeys arm) :
    ∃ l, Action.decodeList m.2 = .ok l := by
  rw [cleanMembers_eq_map] at hm
  obtain ⟨⟨key, v⟩, hv, rfl⟩ := List.mem_map.1 hm
  obtain ⟨hv, hnull⟩ := List.mem_filter.1 hv
  have harm := armMember_of_mem hkeys honce hv hkey
  rw [harm] at hfits
  have hadmits := Shape.admits_of_fits hfits (by simpa using hnull)
  obtain ⟨elements, rfl⟩ : ∃ elements, v = .arr elements := by
    cases v <;> simp [Shape.Form.admits, isArray, asArray] at hadmits
    exact ⟨_, rfl⟩
  obtain ⟨l, hl⟩ := exists_mapM (hchild key elements hkey hv harm)
  refine ⟨l, ?_⟩
  rw [if_pos (isArmKey_of_mem_armKeys hkey), cleanList, Action.decodeList, cleanAll_eq_map,
    Action.decodeAll_eq_mapM, List.mapM_map]
  exact hl

/-- An action can be read when its members have their forms, no field of it is spelled twice and its
arms can be read. -/
theorem exists_decode_of_formed {members : Members} {kind : String} {buffered : Bool}
    (hkind : kind ∈ Shape.actionKinds) (htype : assoc "type" members = some (.str kind))
    (hkeys : (members.map Prod.fst).Nodup)
    (honce : isSpelledOnce (Action.spellings (some kind)) members = true)
    (hname : Shape.hasString (assoc "displayName" members) = true)
    (hformed : ∀ m ∈ cleanMembers members, Shape.Formed m.1 m.2)
    (harms : kind = "BRANCH" → ∀ m ∈ cleanMembers members, ∀ arm, m.1 ∈ Action.armKeys arm →
      ∃ l, Action.decodeList m.2 = .ok l) :
    ∃ a, Action.decode buffered (cleanAction (.obj members)) = .ok a := by
  have htype' := assoc_type_cleanMembers htype
  have hsub : ((cleanMembers members).map Prod.fst).Sublist (members.map Prod.fst) :=
    keys_cleanMembers members ▸ keys_dropNulls_sublist members
  have hneeds : ∀ name ∈ ["displayName"], name ∈ (cleanMembers members).map Prod.fst :=
    keys_cleanMembers members ▸ needs_displayName hname
  rw [cleanAction]
  simp only [Shape.actionKinds, List.mem_cons, List.not_mem_nil, or_false] at hkind
  rcases hkind with rfl | rfl | rfl
  case inl =>
    rw [Action.decode_piece htype']
    exact Action.pieceLayout.exists_ofMembers hkeys honce hsub
      (fun m hm => Action.piece_alone (hformed m hm)) hneeds
  case inr.inl =>
    rw [Action.decode_code htype']
    exact Action.codeLayout.exists_ofMembers hkeys honce hsub
      (fun m hm => Action.code_alone (hformed m hm)) hneeds
  case inr.inr =>
    rw [Action.decode_branch htype']
    exact Action.branchLayout.exists_ofMembers hkeys honce hsub
      (fun m hm => Action.branch_alone (hformed m hm) (harms rfl m hm)) hneeds

/-- An action that keeps the shape rules, with no field spelled twice in it or below it, can be
read. The induction is on the room below the limit, of which a branch leaves less to its
children. -/
theorem exists_decode_of_checkAction {limit depth : Nat} {p : Path} {v : Json} {buffered : Bool}
    (hcheck : Shape.checkAction limit depth p v = []) (hkeyed : v.isKeyed = true)
    (honce : spelledOnceIn (objectsIn v) = true) :
    ∃ a, Action.decode buffered (cleanAction v) = .ok a := by
  induction hroom : limit - depth using Nat.strongRecOn generalizing depth p v buffered with
  | _ room ih =>
    cases v with
    | obj members =>
      obtain ⟨⟨kind, hkind, htype⟩, hname, hfields, harms⟩ := rules_of_checkAction hcheck
      have hkindOf : Shape.kindOf members = some kind := by
        simp [Shape.kindOf, htype, Json.asString]
      have hkeys := nodup_of_isKeyed hkeyed
      have honceHere : isSpelledOnce (Action.spellings (some kind)) members = true := by
        rw [← hkindOf]
        exact List.all_eq_true.1 honce members (by simp [objectsIn])
      refine exists_decode_of_formed hkind htype hkeys honceHere hname
        (formed_of_mem_cleanMembers hkeys hname hfields) ?_
      rintro rfl m hm arm hkey
      refine exists_decodeList hkeys honceHere (harms hkindOf arm) ?_ hm hkey
      intro key elements hkey hmem harm w hw
      obtain ⟨i, hi⟩ := List.mem_iff_getElem?.1 hw
      obtain ⟨hle, hchild⟩ := checkAction_child hcheck hkindOf harm hi
      have hkeyed' := isKeyed_of_mem_arr (isKeyed_of_mem_obj hkeyed hmem) hw
      have honce' : spelledOnceIn (objectsIn w) = true :=
        List.all_eq_true.2 fun object h => List.all_eq_true.1 honce object
          (objectsIn_subset hkindOf hmem (isArmKey_of_mem_armKeys hkey) hw h)
      exact ih (limit - (depth + 1)) (by omega) hchild hkeyed' honce' rfl
    | _ => simp [Shape.checkAction] at hcheck

theorem rules_of_checkTrigger {root : Members} (h : Shape.checkTrigger root = []) :
    ∃ trigger, assoc "trigger" root = some (.obj trigger) ∧
      (∃ kind ∈ Shape.triggerKinds, assoc "type" trigger = some (.str kind)) ∧
      Shape.hasString (assoc "displayName" trigger) = true ∧
      Shape.checkFields trigger .trigger = [] ∧
      ∀ input, assoc "input" trigger = some (.obj input) →
        ∀ key ∈ ["cronExpression", "timezone"], Shape.fits .text (assoc key input) = true := by
  unfold Shape.checkTrigger at h
  split at h
  · cases h
  · rename_i trigger htrigger
    simp only [List.append_eq_nil_iff, Shape.demand_eq_nil] at h
    obtain ⟨⟨⟨hkind, hname⟩, hfields⟩, hinput⟩ := h
    refine ⟨trigger, ?_, exists_kind_of_isOneOf hkind, hname, hfields, ?_⟩
    · cases h : assoc "trigger" root with
      | none => simp [h] at htrigger
      | some v =>
        cases v <;> simp [h, asObject] at htrigger
        rw [htrigger]
    · intro input hassoc key hkey
      simp only [hassoc, Option.bind_some, asObject, List.flatMap_eq_nil_iff,
        Shape.demand_eq_nil] at hinput
      exact hinput key hkey

theorem exists_decode_scheduleInput {input : Members}
    (hkeyed : (obj input).isKeyed = true)
    (htexts : ∀ key ∈ ["cronExpression", "timezone"], Shape.fits .text (assoc key input) = true) :
    ∃ s, ScheduleInput.decode true (.obj input) = .ok s := by
  have hkeys := nodup_of_isKeyed hkeyed
  refine ScheduleInput.layout.exists_ofMembers hkeys rfl (List.Sublist.refl _) (fun m hm => ?_)
    (by simp [ScheduleInput.layout])
  refine ScheduleInput.alone fun hkey => Shape.exists_option_text_of_fits ?_
  rw [← assoc_of_mem hkeys hm]
  exact htexts m.1 hkey

theorem exists_ofJson_of_rules {trigger : Members}
    (hkeyed : (obj trigger).isKeyed = true)
    (honce : isSpelledOnce (Trigger.spellings (Shape.kindOf trigger)) trigger = true)
    (hkind : ∃ kind ∈ Shape.triggerKinds, assoc "type" trigger = some (.str kind))
    (hname : Shape.hasString (assoc "displayName" trigger) = true)
    (hfields : Shape.checkFields trigger .trigger = [])
    (hinput : ∀ input, assoc "input" trigger = some (.obj input) →
      ∀ key ∈ ["cronExpression", "timezone"], Shape.fits .text (assoc key input) = true) :
    ∃ t, Trigger.ofJson (cleanTrigger (.obj trigger)) = .ok t := by
  obtain ⟨kind, hkind, htype⟩ := hkind
  have hkindOf : Shape.kindOf trigger = some kind := by simp [Shape.kindOf, htype, Json.asString]
  rw [hkindOf] at honce
  have hkeys := nodup_of_isKeyed hkeyed
  have hsub := keys_dropNulls_sublist trigger
  have hneeds := needs_displayName hname
  have hformed := formed_of_mem_dropNulls hkeys hname hfields
  have htype' : assoc "type" (dropNulls trigger) = some (.str kind) :=
    assoc_of_mem (hkeys.sublist hsub) (List.mem_filter.2 ⟨mem_of_assoc htype, rfl⟩)
  rw [cleanTrigger]
  simp only [Shape.triggerKinds, List.mem_cons, List.not_mem_nil, or_false] at hkind
  rcases hkind with rfl | rfl | rfl
  case inl =>
    rw [Trigger.ofJson_schedule htype']
    refine Trigger.scheduleLayout.exists_ofMembers hkeys honce hsub (fun m hm => ?_) hneeds
    refine Trigger.schedule_alone (hformed m hm) fun hkey => ?_
    obtain ⟨input, hv⟩ := Shape.Formed.object (hkey ▸ hformed m hm) (by decide)
    have hm : ("input", .obj input) ∈ trigger := by
      rw [← hkey, ← hv]
      exact (List.mem_filter.1 hm).1
    rw [hv]
    exact exists_decode_scheduleInput (isKeyed_of_mem_obj hkeyed hm)
      (hinput input (assoc_of_mem hkeys hm))
  case inr.inl =>
    rw [Trigger.ofJson_pieceEvent htype']
    exact Trigger.pieceEventLayout.exists_ofMembers hkeys honce hsub
      (fun m hm => Trigger.pieceEvent_alone (hformed m hm)) hneeds
  case inr.inr =>
    rw [Trigger.ofJson_webhook htype']
    exact Trigger.webhookLayout.exists_ofMembers hkeys honce hsub
      (fun m hm => Trigger.webhook_alone (hformed m hm)) hneeds

theorem exists_list_of_checkActionList {limit : Nat} {root : Members}
    (hcheck : Shape.checkActionList limit root = [])
    (hkeyed : (obj root).isKeyed = true)
    (honce : ((assoc "actions" root).map objectsOf).all spelledOnceIn = true) :
    ∃ v, assoc "actions" root = some v ∧ v.isNull = false ∧
      ∃ l, list (Action.decode false) (cleanList v) = .ok l := by
  unfold Shape.checkActionList at hcheck
  split at hcheck
  · rename_i first rest hactions
    refine ⟨_, hactions, rfl, ?_⟩
    have hall := isKeyed_of_mem_obj hkeyed (mem_of_assoc hactions)
    rw [hactions] at honce
    simp only [Option.map_some, Option.all_some, objectsOf] at honce
    rw [cleanList, cleanAll_eq_map, list, List.mapM_map]
    refine exists_mapM fun w hw => ?_
    obtain ⟨i, hi⟩ := List.mem_iff_getElem?.1 hw
    have hrules := checkAction_of_getElem? hcheck hi
    have honce' : spelledOnceIn (objectsIn w) = true :=
      List.all_eq_true.2 fun object h => List.all_eq_true.1 honce object (mem_objectsAll hw h)
    exact exists_decode_of_checkAction hrules (isKeyed_of_mem_arr hall hw) honce'
  · cases hcheck

theorem exists_list_text {v : Json} (h : isTexts v = true) : ∃ l, list text v = .ok l := by
  cases v <;> simp only [isTexts, Bool.false_eq_true] at h
  rename_i elements
  refine exists_mapM fun w hw => ?_
  have := List.all_eq_true.1 h w hw
  cases w <;> simp [isString, asString] at this
  exact ⟨_, rfl⟩

theorem exists_str_of_hasText {key : String} {members : Members}
    (h : Shape.hasText (assoc key members) = true) : ∃ s, assoc key members = some (.str s) := by
  unfold Shape.hasText at h
  split at h
  · rename_i s hs
    exact ⟨s, hs⟩
  · cases h

theorem exists_notes {root : Members} {key : String} {v : Json}
    (hnotes : hasReadableNotes (.obj root) = true) (hv : assoc key root = some v)
    (hnull : v.isNull = false) :
    (key ∈ ["connections_needed", "connectionsNeeded"] → ∃ l, list text v = .ok l) ∧
    (key ∈ ["explanation", "explanation_ar"] → ∃ o, option text v = .ok o) := by
  rw [hasReadableNotes, Bool.and_eq_true] at hnotes
  constructor
  · intro hkey
    have := List.all_eq_true.1 hnotes.1 key hkey
    simp only [member?, asObject, Option.bind_some, hv, Option.all_some, hnull,
      Bool.false_or] at this
    exact exists_list_text this
  · intro hkey
    have := List.all_eq_true.1 hnotes.2 key hkey
    simp only [member?, asObject, Option.bind_some, hv, Option.all_some] at this
    exact Shape.exists_option_text_of_fits this

theorem root_alone {root trigger : Members} {s key : String} {v w : Json}
    (hkeys : (root.map Prod.fst).Nodup) (hnotes : hasReadableNotes (.obj root) = true)
    (hname : assoc "displayName" root = some (.str s))
    (htrigger : assoc "trigger" root = some (.obj trigger))
    (hread : ∃ t, Trigger.ofJson (cleanTrigger (.obj trigger)) = .ok t)
    (hactions : assoc "actions" root = some v)
    (hlist : ∃ l, list (Action.decode false) (cleanList v) = .ok l)
    (hw : (key, w) ∈ root) (hnull : w.isNull = false) :
    ∃ d, Flow.record.put Flow.record.start key (if key = "trigger" then cleanTrigger w
      else if key = "actions" then cleanList w else w) = .ok d := by
  have hw' := assoc_of_mem hkeys hw
  obtain ⟨hconnections, hexplanation⟩ := exists_notes hnotes hw' hnull
  refine Flow.alone ?name ?trigger ?actions ?connections ?explanation
  case name =>
    rintro rfl
    exact ⟨s, by simpa [hname, eq_comm] using hw'⟩
  case trigger =>
    rintro rfl
    obtain rfl : w = .obj trigger := by simpa [htrigger, eq_comm] using hw'
    exact hread
  case actions =>
    rintro rfl
    obtain rfl : w = v := by simpa [hactions, eq_comm] using hw'
    exact hlist
  case connections =>
    intro hkey
    have hother : key ≠ "trigger" ∧ key ≠ "actions" := by
      constructor <;> rintro rfl <;> simp at hkey
    simpa [hother] using hconnections hkey
  case explanation =>
    intro hkey
    have hother : key ≠ "trigger" ∧ key ≠ "actions" := by
      constructor <;> rintro rfl <;> simp at hkey
    simpa [hother] using hexplanation hkey

theorem exists_toFlow {limit : Nat} {candidate : Json} (hkeyed : candidate.isKeyed = true)
    (hshape : Shape.check limit candidate = []) (hnotes : hasReadableNotes candidate = true)
    (honce : spelledOnce candidate = true) : ∃ flow, toFlow candidate = .ok flow := by
  cases candidate with
  | obj root =>
    simp only [Shape.check, Shape.checkName, List.append_eq_nil_iff, Shape.demand_eq_nil] at hshape
    obtain ⟨⟨hname, htrigger⟩, hactions⟩ := hshape
    simp only [spelledOnce, Bool.and_eq_true] at honce
    obtain ⟨⟨honceRoot, honceTrigger⟩, honceActions⟩ := honce
    have hkeys := nodup_of_isKeyed hkeyed
    obtain ⟨s, hs⟩ := exists_str_of_hasText hname
    obtain ⟨trigger, hassoc, hkind, htname, hfields, hinput⟩ := rules_of_checkTrigger htrigger
    have hread : ∃ t, Trigger.ofJson (cleanTrigger (.obj trigger)) = .ok t := by
      refine exists_ofJson_of_rules (isKeyed_of_mem_obj hkeyed (mem_of_assoc hassoc)) ?_ hkind
        htname hfields hinput
      simpa [hassoc, asObject] using honceTrigger
    obtain ⟨v, hv, hvnull, hlist⟩ := exists_list_of_checkActionList hactions hkeyed honceActions
    refine Flow.layout.exists_ofMembers hkeys honceRoot ?sub ?alone ?needs
    case sub =>
      rw [List.map_map]
      exact keys_dropNulls_sublist root
    case alone =>
      intro m hm
      obtain ⟨⟨key, w⟩, hw, rfl⟩ := List.mem_map.1 hm
      obtain ⟨hw, hnull⟩ := List.mem_filter.1 hw
      exact root_alone hkeys hnotes hs hassoc hread hv hlist hw (by simpa using hnull)
    case needs =>
      intro name hneed
      rw [List.map_map]
      simp only [Flow.layout, List.mem_cons, List.not_mem_nil, or_false] at hneed
      rcases hneed with rfl | rfl | rfl
      · exact mem_keys_dropNulls (mem_of_assoc hs) rfl
      · exact mem_keys_dropNulls (mem_of_assoc hassoc) rfl
      · exact mem_keys_dropNulls (mem_of_assoc hv) hvnull
  | _ => simp [Shape.check] at hshape

theorem eq_unreadable_of_code {catalog : Catalog} {limits : Limits} {candidate : Json} {f : Finding}
    (h : f ∈ (check catalog limits candidate).findings) (hcode : f.issue.code = "S012") :
    ∃ why, toFlow candidate = .error why := by
  rcases origin_of_mem_check h with ⟨reason, rfl⟩ | ⟨r, -, rfl⟩ | ⟨-, why, hwhy, -⟩ | ⟨r, rfl⟩
  · simp [refusalFinding, Finding.issue] at hcode
  · exact absurd (hcode ▸ r.code_mem) (by decide)
  · exact ⟨why, hwhy⟩
  · exact absurd (hcode ▸ r.code_mem) (by decide)

/-- A candidate that keeps the shape rules, with readable notes and no field spelled twice, can be
read as a flow, so no check of it finds it unreadable. -/
theorem readable_of_shape {limit : Nat} {candidate : Json}
    (hkeyed : candidate.isKeyed = true) (hshape : Shape.check limit candidate = [])
    (hnotes : hasReadableNotes candidate = true) (honce : spelledOnce candidate = true) :
    (∃ flow, toFlow candidate = .ok flow) ∧
      ∀ catalog limits, ∀ f ∈ (check catalog limits candidate).findings,
        f.issue.code ≠ "S012" := by
  obtain ⟨flow, hflow⟩ := exists_toFlow hkeyed hshape hnotes honce
  refine ⟨⟨flow, hflow⟩, fun catalog limits f hf hcode => ?_⟩
  obtain ⟨why, hwhy⟩ := eq_unreadable_of_code hf hcode
  rw [hflow] at hwhy
  cases hwhy

/-- The shape rules alone do not see that the source of a step is given twice. -/
example :
    let twice : Json := .obj [
      ("actions", .arr [.obj [("code", .str "return 1"), ("displayName", .str "Run"),
        ("sourceText", .str "return 2"), ("type", .str "CODE")]]),
      ("displayName", .str "Report"),
      ("trigger", .obj [("displayName", .str "Call"), ("type", .str "WEBHOOK")])]
    Shape.check 0 twice = [] ∧
      (check (.live []) {} twice).findings.map (·.issue.code) = ["S012"] := by
  decide +kernel

/-- A candidate with a null for every optional field that has no other value. -/
def sparse : Json :=
  .obj [("actions", .arr [.obj [("conditions", .null), ("displayName", .str "Any new rows?"),
      ("input", .null), ("onFalse", .arr [.obj [("displayName", .str "Note it"), ("input", .null),
        ("sourceText", .null), ("type", .str "CODE")]]),
      ("onSuccessActions", .arr [.obj [("actionName", .null), ("displayName", .str "Send mail"),
        ("input", .null), ("pieceId", .str "@activepieces/piece-gmail"), ("type", .str "PIECE")]]),
      ("type", .str "BRANCH")]]),
    ("connectionsNeeded", .null), ("displayName", .str "Daily report"), ("explanation", .null),
    ("trigger", .obj [("displayName", .str "Every morning"),
      ("input", .obj [("cronExpression", .null), ("timezone", .str "Asia/Riyadh")]),
      ("pieceName", .null), ("type", .str "SCHEDULE")])]

theorem readable_of_shape_sparse :
    (sparse.isKeyed = true ∧ Shape.check 1 sparse = [] ∧ hasReadableNotes sparse = true ∧
      spelledOnce sparse = true) ∧
    (∃ flow, toFlow sparse = .ok flow) ∧
      ∀ catalog limits, ∀ f ∈ (check catalog limits sparse).findings, f.issue.code ≠ "S012" := by
  have hkeyed : sparse.isKeyed = true := by decide +kernel
  have hshape : Shape.check 1 sparse = [] := by decide +kernel
  have hnotes : hasReadableNotes sparse = true := by decide +kernel
  have honce : spelledOnce sparse = true := by decide +kernel
  exact ⟨⟨hkeyed, hshape, hnotes, honce⟩, readable_of_shape hkeyed hshape hnotes honce⟩

end Flowline.Candidate
