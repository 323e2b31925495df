import Flowline.Proofs.Check.Altered
import Flowline.Proofs.Flow.Orders

/-!
The generic names of drafts mean the same as the keys of the typed form: the check of a candidate
does not tell which of them it uses.
-/
namespace Flowline.Candidate
open Json Decode

/-- The members stand under other spellings of their keys, and in another order. -/
def Respells (spellings : Spellings) (members others : Members) : Prop :=
  (spelledOut spellings others).Perm (spelledOut spellings members)

/-- All spellings that can be read. -/
def Vocabulary.full : Vocabulary where
  root := Flow.spellings
  trigger := Trigger.allSpellings
  action := Action.allSpellings
  root_plain := by decide
  trigger_plain := by decide
  action_plain := by decide
  action_arms := by decide

/-- The root, the trigger and the actions are spelled otherwise. -/
def Change.respells : Change :=
  ⟨Respells Flow.spellings, Respells Trigger.allSpellings, Respells Action.allSpellings⟩

/-- A broken rule by its code. -/
def gist (r : Shape.Report) : String × Place := (r.fault.code, r.place)

def isIllFormed (m : String × Json) : Bool :=
  (assoc m.1 Shape.optionalFields).any fun form => !Shape.fits form (some m.2)

theorem gist_checkFields (members : Members) (place : Place) :
    (Shape.checkFields members place).map gist =
      List.replicate (Shape.checkFields members place).length ("S011", place) := by
  rw [List.eq_replicate_iff]
  refine ⟨List.length_map _, fun g hg => ?_⟩
  simp only [Shape.checkFields, List.mem_map] at hg
  obtain ⟨r, ⟨f, -, rfl⟩, rfl⟩ := hg
  rfl

theorem mem_checked_iff {members : Members} (hkeys : (members.map Prod.fst).Nodup) (key : String) :
    key ∈ (Shape.optionalFields.filter fun f => !Shape.fits f.2 (assoc f.1 members)).map Prod.fst ↔
      key ∈ (members.filter isIllFormed).map Prod.fst := by
  have hforms : (Shape.optionalFields.map Prod.fst).Nodup := by decide
  simp only [List.mem_map, List.mem_filter, isIllFormed, Option.any_eq_true]
  constructor
  · rintro ⟨⟨key, form⟩, ⟨hform, hfits⟩, rfl⟩
    cases hv : assoc key members with
    | none => simp [hv, Shape.fits] at hfits
    | some v =>
      rw [hv] at hfits
      exact ⟨(key, v), ⟨mem_of_assoc hv, form, assoc_of_mem hforms hform, hfits⟩, rfl⟩
  · rintro ⟨⟨key, v⟩, ⟨hv, form, hform, hfits⟩, rfl⟩
    exact ⟨(key, form), ⟨mem_of_assoc hform, by rwa [assoc_of_mem hkeys hv]⟩, rfl⟩

/-- There is one report for every member of a wrong form. -/
theorem length_checkFields {members : Members} (hkeys : (members.map Prod.fst).Nodup)
    (place : Place) :
    (Shape.checkFields members place).length = (members.filter isIllFormed).length := by
  have hforms : (Shape.optionalFields.map Prod.fst).Nodup := by decide
  have hperm := (List.perm_ext_iff_of_nodup (hforms.sublist (List.filter_sublist.map _))
    (hkeys.sublist (List.filter_sublist.map _))).2 (mem_checked_iff hkeys)
  simpa [Shape.checkFields] using hperm.length_eq

section
variable {spellings : Spellings} {members others : Members}

theorem isIllFormed_own (hforms : ∀ s ∈ spellings,
    assoc s.2 Shape.optionalFields = assoc s.1 Shape.optionalFields) (m : String × Json) :
    isIllFormed (own spellings m.1, m.2) = isIllFormed m := by
  rcases own_cases spellings m.1 with hmem | hself
  · rw [isIllFormed, hforms _ hmem, isIllFormed]
  · rw [hself]

theorem isNull_of_isIllFormed {m : String × Json} (h : isIllFormed m = true) :
    m.2.isNull = false := by
  obtain ⟨form, -, hfits⟩ := (Option.any_eq_true _ _).1 h
  cases hnull : m.2.isNull with
  | false => rfl
  | true => simp [Shape.fits, hnull] at hfits

theorem length_illFormed_eq (hforms : ∀ s ∈ spellings,
    assoc s.2 Shape.optionalFields = assoc s.1 Shape.optionalFields)
    (h : SameFields spellings members others) :
    (others.filter isIllFormed).length = (members.filter isIllFormed).length := by
  have hspelled (l : Members) : ((spelledOut spellings l).filter isIllFormed).length =
      (l.filter isIllFormed).length := by
    rw [spelledOut, List.filter_map, List.length_map]
    congr 1
    exact List.filter_congr fun m _ => isIllFormed_own hforms m
  have hnodup {l : Members} (hl : isApart spellings l = true) :
      ((spelledOut spellings l).filter isIllFormed).Nodup :=
    ((nodup_of_isApart hl).of_map _).sublist List.filter_sublist
  rw [← hspelled others, ← hspelled members]
  refine ((List.perm_ext_iff_of_nodup (hnodup h.right) (hnodup h.left)).2 fun m => ?_).length_eq
  rw [List.mem_filter, List.mem_filter]
  exact and_congr_left fun hm => (h.mem_iff m (isNull_of_isIllFormed hm)).symm

theorem gist_checkFields_eq (hforms : ∀ s ∈ spellings,
    assoc s.2 Shape.optionalFields = assoc s.1 Shape.optionalFields)
    (h : SameFields spellings members others) (place : Place) :
    (Shape.checkFields others place).map gist = (Shape.checkFields members place).map gist := by
  rw [gist_checkFields, gist_checkFields, length_checkFields (nodup_keys_of_isApart h.right),
    length_checkFields (nodup_keys_of_isApart h.left), length_illFormed_eq hforms h]

end

theorem respells_faithful : Change.respells.Faithful Vocabulary.full gist where
  root := SameFields.of_perm
  trigger := SameFields.of_perm
  action := SameFields.of_perm
  trigger_fields := gist_checkFields_eq (by decide)
  action_fields := gist_checkFields_eq (by decide)

section
variable {spellings : Spellings} {members others : Members}

theorem spelledOut_dropNulls (spellings : Spellings) (members : Members) :
    spelledOut spellings (dropNulls members) = dropNulls (spelledOut spellings members) := by
  rw [spelledOut, dropNulls, dropNulls, spelledOut, List.filter_map]
  rfl

theorem respells_dropNulls (h : Respells spellings members others) :
    Respells spellings (dropNulls members) (dropNulls others) := by
  rw [Respells, spelledOut_dropNulls, spelledOut_dropNulls]
  exact h.filter _

/-- What cleaning does to a member goes by the field that it is. -/
theorem respells_map {f : String → Json → Json}
    (hf : ∀ s ∈ spellings, f s.2 = f s.1) (h : Respells spellings members others) :
    Respells spellings (members.map fun m => (m.1, f m.1 m.2))
      (others.map fun m => (m.1, f m.1 m.2)) := by
  have hown (key : String) : f (own spellings key) = f key := by
    rcases own_cases spellings key with hmem | hself
    · exact hf _ hmem
    · rw [hself]
  have hspelled (l : Members) : spelledOut spellings (l.map fun m => (m.1, f m.1 m.2)) =
      (spelledOut spellings l).map fun m => (m.1, f m.1 m.2) := by
    simp [spelledOut, hown]
  rw [Respells, hspelled, hspelled]
  exact h.map _

theorem respells_cleanMembers (h : Respells Action.allSpellings members others) :
    Respells Action.allSpellings (cleanMembers members) (cleanMembers others) := by
  rw [cleanMembers_eq_map, cleanMembers_eq_map]
  have harms : ∀ s ∈ Action.allSpellings, isArmKey s.2 = isArmKey s.1 := by decide
  exact respells_map (f := fun key v => if isArmKey key then cleanList v else v)
    (fun s hs => by rw [harms s hs]) (respells_dropNulls h)

end

theorem assoc_type_of_kindOf {members : Members} {kind : String}
    (h : Shape.kindOf members = some kind) : assoc "type" members = some (.str kind) := by
  obtain ⟨t, ht, hkind⟩ := Option.bind_eq_some_iff.1 h
  cases t <;> simp only [asString, reduceCtorEq, Option.some.injEq] at hkind
  rw [ht, hkind]

/-- An alteration of the arms changes what a record reads only as far as it reads the arms. -/
theorem agrees_cleanMembers {δ : Type} {put : δ → String → Json → Except DecodeError δ}
    {step : Members → Members → Prop} {members middle : Members}
    (h : AlteredArms step members middle)
    (harm : ∀ arm key v w, key ∈ Action.armKeys arm → (key, v) ∈ members → AlteredList step v w →
      ∀ d, Agrees (put d key (cleanList v)) (put d key (cleanList w))) :
    List.Forall₂ (fun m other => ∀ d, Agrees (put d m.1 m.2) (put d other.1 other.2))
      (cleanMembers members) (cleanMembers middle) := by
  induction members generalizing middle with
  | nil =>
    cases h
    exact .nil
  | cons m rest ih =>
    obtain ⟨key, v⟩ := m
    cases h with
    | arm arm hkey hlist hrest =>
      have hmore := ih hrest fun arm key v w hkey hv => harm arm key v w hkey (.tail _ hv)
      simp only [cleanMembers, isNull_of_altered hlist, isArmKey_of_mem_armKeys hkey, if_true]
      split
      · exact hmore
      · exact .cons (harm arm key v _ hkey (by simp) hlist) hmore
    | other hkey hrest =>
      have hmore := ih hrest fun arm key v w hkey hv => harm arm key v w hkey (.tail _ hv)
      simp only [cleanMembers]
      split
      · exact hmore
      · exact .cons (fun d => .refl _) hmore

theorem piece_put_arm {arm : Arm} {key : String} (h : key ∈ Action.armKeys arm)
    (d : Action.Fields) (v : Json) : Action.pieceRecord.put d key v = .ok d := by
  cases arm <;> simp only [Action.armKeys, List.mem_cons, List.not_mem_nil, or_false] at h <;>
    rcases h with rfl | rfl <;> rfl

theorem code_put_arm {arm : Arm} {key : String} (h : key ∈ Action.armKeys arm)
    (d : Action.Fields) (v : Json) : Action.codeRecord.put d key v = .ok d := by
  cases arm <;> simp only [Action.armKeys, List.mem_cons, List.not_mem_nil, or_false] at h <;>
    rcases h with rfl | rfl <;> rfl

theorem branch_put_arm {arm : Arm} {key : String} (h : key ∈ Action.armKeys arm) {v w : Json}
    (hread : Agrees (Action.decodeList v) (Action.decodeList w)) (d : Action.Fields) :
    Agrees (Action.branchRecord.put d key v) (Action.branchRecord.put d key w) := by
  cases arm <;> simp only [Action.armKeys, List.mem_cons, List.not_mem_nil, or_false] at h <;>
    rcases h with rfl | rfl <;> exact (hread.fill _ _).bind fun _ => .refl _

theorem agrees_list {buffered : Bool} {step : Members → Members → Prop} {v w : Json}
    (h : AlteredList step v w)
    (hchild : ∀ elements, v = .arr elements → ∀ a ∈ elements, ∀ b, Altered step a b →
      Agrees (Action.decode buffered (cleanAction a)) (Action.decode buffered (cleanAction b))) :
    Agrees (list (Action.decode buffered) (cleanList v))
      (list (Action.decode buffered) (cleanList w)) := by
  cases h with
  | other => rfl
  | elements hall =>
    simp only [cleanList, cleanAll_eq_map, list, List.mapM_map]
    exact Agrees.mapM (hall.forall₂ (hchild _ rfl))

theorem decodeList_eq_list (v : Json) : Action.decodeList v = list (Action.decode true) v := by
  cases v <;> simp only [Action.decodeList, list]
  exact Action.decodeAll_eq_mapM _

/-- An action that keeps the shape rules is read alike when it is respelled. The induction is on the
room below the limit, as for the rules. -/
theorem agrees_decode {limit depth : Nat} {p : Path} {v w : Json} {buffered : Bool}
    (hcheck : Shape.checkAction limit depth p v = [])
    (h : Altered (Respells Action.allSpellings) v w)
    (hapart : ∀ members ∈ objectsIn v, isApart Action.allSpellings members = true) :
    Agrees (Action.decode buffered (cleanAction v)) (Action.decode buffered (cleanAction w)) := by
  induction hroom : limit - depth using Nat.strongRecOn generalizing depth p v w buffered with
  | _ room ih =>
    cases h with
    | other => rfl
    | @object members middle others harms hchange =>
      have hmembers := hapart members (by simp [objectsIn])
      have hsame := SameFields.of_perm (isApart_of_keys_eq harms.keys_eq hmembers) hchange
      have hread : ReadAlike gist members others :=
        harms.readAlike.trans (respells_faithful.readAlike hsame)
      obtain ⟨⟨kind, hkind, htype⟩, -, -, -⟩ := rules_of_checkAction hcheck
      have hkindOf : Shape.kindOf members = some kind := by
        simp [Shape.kindOf, htype, Json.asString]
      have hclean := assoc_type_cleanMembers htype
      have hclean' := assoc_type_cleanMembers (assoc_type_of_kindOf (hread.kind.trans hkindOf))
      have hperm := respells_cleanMembers hchange
      rw [cleanAction, cleanAction]
      simp only [Shape.actionKinds, List.mem_cons, List.not_mem_nil, or_false] at hkind
      rcases hkind with rfl | rfl | rfl
      case inl =>
        rw [Action.decode_piece hclean, Action.decode_piece hclean']
        refine (agrees_ofMembers (agrees_cleanMembers harms ?_)).trans
          (Action.pieceRecord_unordered.agrees_of_perm hperm.symm)
        intro arm key v w hkey _ _ d
        rw [piece_put_arm hkey, piece_put_arm hkey]
      case inr.inl =>
        rw [Action.decode_code hclean, Action.decode_code hclean']
        refine (agrees_ofMembers (agrees_cleanMembers harms ?_)).trans
          (Action.codeRecord_unordered.agrees_of_perm hperm.symm)
        intro arm key v w hkey _ _ d
        rw [code_put_arm hkey, code_put_arm hkey]
      case inr.inr =>
        rw [Action.decode_branch hclean, Action.decode_branch hclean']
        refine (agrees_ofMembers (agrees_cleanMembers harms ?_)).trans
          (Action.branchRecord_unordered.agrees_of_perm hperm.symm)
        intro arm key v w hkey hv hlist d
        refine branch_put_arm hkey ?_ d
        rw [decodeList_eq_list, decodeList_eq_list]
        refine agrees_list hlist ?_
        rintro elements rfl a ha b hab
        have harm := armMember_of_mem_of_isApart Vocabulary.full.action_arms hmembers hkey hv
        obtain ⟨i, hi⟩ := List.mem_iff_getElem?.1 ha
        obtain ⟨hle, hchild⟩ := checkAction_child hcheck hkindOf harm hi
        have hmem : a ∈ elementsOf (Shape.armMember members arm) := by
          simpa [harm, elementsOf, asArray] using ha
        exact ih (limit - (depth + 1)) (by omega) hchild hab
          (fun object hobject => hapart object (objectsIn_child hkindOf hmem hobject)) rfl

theorem agrees_trigger {trigger others : Members} (h : Respells Trigger.allSpellings trigger others)
    (hapart : isApart Trigger.allSpellings trigger = true)
    (hkind : ∃ kind ∈ Shape.triggerKinds, assoc "type" trigger = some (.str kind)) :
    Agrees (Trigger.ofJson (cleanTrigger (.obj trigger)))
      (Trigger.ofJson (cleanTrigger (.obj others))) := by
  obtain ⟨kind, hkind, htype⟩ := hkind
  have hsame := SameFields.of_perm hapart h
  have htype' : assoc "type" others = some (.str kind) := by
    refine assoc_type_of_kindOf ((kindOf_eq hsame (by decide)).trans ?_)
    simp [Shape.kindOf, htype, Json.asString]
  have hdrop {l : Members} (hl : (l.map Prod.fst).Nodup) (ht : assoc "type" l = some (.str kind)) :
      assoc "type" (dropNulls l) = some (.str kind) :=
    assoc_of_mem (hl.sublist (keys_dropNulls_sublist l))
      (List.mem_filter.2 ⟨mem_of_assoc ht, rfl⟩)
  have hclean := hdrop (nodup_keys_of_isApart hapart) htype
  have hclean' := hdrop (nodup_keys_of_isApart hsame.right) htype'
  have hperm := (respells_dropNulls h).symm
  rw [cleanTrigger, cleanTrigger]
  simp only [Shape.triggerKinds, List.mem_cons, List.not_mem_nil, or_false] at hkind
  rcases hkind with rfl | rfl | rfl
  case inl =>
    rw [Trigger.ofJson_schedule hclean, Trigger.ofJson_schedule hclean']
    exact Trigger.scheduleRecord_unordered.agrees_of_perm hperm
  case inr.inl =>
    rw [Trigger.ofJson_pieceEvent hclean, Trigger.ofJson_pieceEvent hclean']
    exact Trigger.pieceEventRecord_unordered.agrees_of_perm hperm
  case inr.inr =>
    rw [Trigger.ofJson_webhook hclean, Trigger.ofJson_webhook hclean']
    exact Trigger.webhookRecord_unordered.agrees_of_perm hperm

/-- Each member of the root is read alike. -/
theorem agrees_part {limit : Nat} {root : Members} {m other : String × Json}
    (hapart : Vocabulary.full.isApart (.obj root) = true)
    (hshape : Shape.check limit (.obj root) = []) (hm : m ∈ root)
    (h : Change.respells.Member m other) (d : Flow.Fields) :
    Agrees (Flow.record.put d m.1 (cleanPart m.1 m.2))
      (Flow.record.put d other.1 (cleanPart other.1 other.2)) := by
  obtain ⟨key, v⟩ := m
  obtain ⟨key', w⟩ := other
  obtain ⟨hkey, h⟩ := h
  obtain rfl : key' = key := hkey
  obtain ⟨hroot, htrigger, hactions⟩ := apart_of_isApart hapart
  simp only [Shape.check, List.append_eq_nil_iff] at hshape
  have hassoc : assoc key' root = some v := assoc_of_mem (nodup_keys_of_isApart hroot) hm
  split at h
  case isTrue hkey =>
    obtain rfl : key' = "trigger" := hkey
    obtain ⟨trigger, hobj, hkind, -, -, -⟩ := rules_of_checkTrigger hshape.1.2
    obtain rfl : v = .obj trigger := Option.some.inj (hassoc.symm.trans hobj)
    have hread : Agrees (Trigger.ofJson (cleanTrigger (.obj trigger)))
        (Trigger.ofJson (cleanTrigger w)) := by
      cases h with
      | object hchange =>
        exact agrees_trigger hchange (htrigger trigger (by simp [hassoc, asObject])) hkind
      | other => rfl
    exact (hread.fill _ _).bind fun _ => .refl _
  case isFalse hother =>
    split at h
    case isTrue hkey =>
      obtain rfl : key' = "actions" := hkey
      have hread : Agrees (list (Action.decode false) (cleanList v))
          (list (Action.decode false) (cleanList w)) := by
        refine agrees_list h ?_
        rintro elements rfl a ha b hab
        have helements : elementsOf (assoc "actions" root) = elements := by
          simp [hassoc, elementsOf, asArray]
        have hlist := hshape.2
        rw [checkActionList_eq, helements, if_neg (by simp [List.ne_nil_of_mem ha])] at hlist
        obtain ⟨i, hi⟩ := List.mem_iff_getElem?.1 ha
        exact agrees_decode (checkAction_of_getElem? hlist hi) hab
          (hactions a (helements.symm ▸ ha))
      exact (hread.fill _ _).bind fun _ => .refl _
    case isFalse =>
      obtain rfl : w = v := h
      rfl

/-- A candidate that keeps the shape rules is read alike when it is respelled. -/
theorem agrees_toFlow {limit : Nat} {v w : Json} (h : Change.respells.Takes v w)
    (hapart : Vocabulary.full.isApart v = true) (hshape : Shape.check limit v = []) :
    Agrees (toFlow v) (toFlow w) := by
  cases h with
  | other => rfl
  | @object root middle others hmembers hchange =>
    have hparts := agrees_ofMembers (r := Flow.record) (cleanParts_of_members hmembers
      fun m hm other hother => agrees_part hapart hshape hm hother)
    have hpart : ∀ s ∈ Flow.spellings, cleanPart s.2 = cleanPart s.1 := by
      intro s hs
      simp only [Flow.spellings, List.mem_cons, List.not_mem_nil, or_false] at hs
      rcases hs with rfl | rfl <;> rfl
    have horder := Flow.record_unordered.agrees_of_perm
      (respells_map hpart (respells_dropNulls hchange)).symm
    exact hparts.trans horder

/-- A finding without its words: its severity, its code and its place. -/
def outline (f : Finding) : Bool × String × Option String :=
  (f.isBlocking, f.issue.code, f.issue.location)

theorem outline_reports {reports others : List Shape.Report}
    (h : others.map gist = reports.map gist) :
    (others.map fun r => Finding.blocking r.issue).map outline =
      (reports.map fun r => Finding.blocking r.issue).map outline := by
  have hgist (l : List Shape.Report) : (l.map fun r => Finding.blocking r.issue).map outline =
      (l.map gist).map fun g => (true, g.1, g.2.text?) := by
    rw [List.map_map, List.map_map]
    rfl
  rw [hgist, hgist, h]

/-- Other spellings mean the same: with any keys of the root, the trigger and the actions respelled,
a candidate in which no field is spelled twice gives the same flow, is refused alike and has the
same findings in the same places, in other words perhaps. -/
theorem check_respelled (catalog : Catalog) (limits : Limits) {v w : Json}
    (h : Change.respells.Takes v w) (hapart : Vocabulary.full.isApart v = true) :
    (check catalog limits w).flow = (check catalog limits v).flow ∧
    (check catalog limits w).refused = (check catalog limits v).refused ∧
    (check catalog limits w).findings.map outline =
      (check catalog limits v).findings.map outline := by
  have hrefusal := refusal_takes respells_faithful h hapart
  have hshape := check_takes respells_faithful limits.maxBranchDepth h hapart
  rw [check, check, hrefusal]
  cases refusal v with
  | some reason => exact ⟨rfl, rfl, rfl⟩
  | none =>
    cases hreports : Shape.check limits.maxBranchDepth v with
    | cons r rest =>
      rw [hreports] at hshape
      cases hothers : Shape.check limits.maxBranchDepth w with
      | nil => simp [hothers] at hshape
      | cons r' rest' =>
        refine ⟨rfl, rfl, ?_⟩
        rw [hothers] at hshape
        exact outline_reports hshape
    | nil =>
      have hothers : Shape.check limits.maxBranchDepth w = [] := by simpa [hreports] using hshape
      rw [hothers]
      obtain ⟨flow, hv, hw⟩ | ⟨why, why', hv, hw⟩ := (agrees_toFlow h hapart hreports).eq_or_error
      · rw [hv, hw]
        exact ⟨rfl, rfl, rfl⟩
      · rw [hv, hw]
        exact ⟨rfl, rfl, rfl⟩

/-- Steps under the names of drafts. -/
def draftedSteps : Json :=
  .arr [.obj [("displayName", .str "Urgent?"),
    ("onTrue", .arr [.obj [("displayName", .str "Note it"), ("sourceText", .str "return 1"),
      ("type", .str "CODE")]]),
    ("type", .str "BRANCH")]]

/-- The same steps under the keys of the typed form, and in their order. -/
def typedSteps : Json :=
  .arr [.obj [("displayName", .str "Urgent?"),
    ("onSuccessActions", .arr [.obj [("code", .str "return 1"), ("displayName", .str "Note it"),
      ("type", .str "CODE")]]),
    ("type", .str "BRANCH")]]

def drafted : Json :=
  .obj [("actions", draftedSteps), ("connectionsNeeded", .arr [.str "mail"]),
    ("displayName", .str "Daily report"),
    ("trigger", .obj [("displayName", .str "New mail"), ("eventId", .str "new-email"),
      ("pieceId", .str "@activepieces/piece-gmail"), ("type", .str "PIECE_TRIGGER")])]

def typed : Json :=
  .obj [("actions", typedSteps), ("connections_needed", .arr [.str "mail"]),
    ("displayName", .str "Daily report"),
    ("trigger", .obj [("displayName", .str "New mail"),
      ("pieceName", .str "@activepieces/piece-gmail"), ("triggerName", .str "new-email"),
      ("type", .str "PIECE_TRIGGER")])]

theorem altered_draftedSteps :
    AlteredList (Respells Action.allSpellings) draftedSteps typedSteps := by
  have hchild : Altered (Respells Action.allSpellings)
      (.obj [("displayName", .str "Note it"), ("sourceText", .str "return 1"),
        ("type", .str "CODE")])
      (.obj [("code", .str "return 1"), ("displayName", .str "Note it"), ("type", .str "CODE")]) :=
    .object (.other (by decide) (.other (by decide) (.other (by decide) .nil))) (.swap _ _ _)
  refine .elements (.cons (.object (.other (by decide)
    (.arm .onTrue (by decide) (.elements (.cons hchild .nil)) (.other (by decide) .nil))) ?_) .nil)
  exact .refl _

theorem takes_drafted : Change.respells.Takes drafted typed := by
  have hactions : Change.respells.Member ("actions", draftedSteps) ("actions", typedSteps) :=
    ⟨rfl, altered_draftedSteps⟩
  have htrigger : Change.respells.Member
      ("trigger", .obj [("displayName", .str "New mail"), ("eventId", .str "new-email"),
        ("pieceId", .str "@activepieces/piece-gmail"), ("type", .str "PIECE_TRIGGER")])
      ("trigger", .obj [("displayName", .str "New mail"),
        ("pieceName", .str "@activepieces/piece-gmail"), ("triggerName", .str "new-email"),
        ("type", .str "PIECE_TRIGGER")]) :=
    ⟨rfl, .object (.cons _ (.swap _ _ _))⟩
  refine .object (.cons hactions (.cons ⟨rfl, rfl⟩ (.cons ⟨rfl, rfl⟩ (.cons htrigger .nil)))) ?_
  exact .refl _

theorem check_typed :
    (Change.respells.Takes drafted typed ∧ Vocabulary.full.isApart drafted = true) ∧
    (check (.live []) {} typed).flow = (check (.live []) {} drafted).flow ∧
    (check (.live []) {} typed).refused = (check (.live []) {} drafted).refused ∧
    (check (.live []) {} typed).findings.map outline =
      (check (.live []) {} drafted).findings.map outline := by
  have hapart : Vocabulary.full.isApart drafted = true := by decide
  exact ⟨⟨takes_drafted, hapart⟩, check_respelled (.live []) {} takes_drafted hapart⟩

end Flowline.Candidate
