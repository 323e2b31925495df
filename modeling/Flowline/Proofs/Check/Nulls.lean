import Flowline.Proofs.Check.Altered

/-!
A null member is as good as none: the check of a candidate does not tell whether the root, the
trigger or an action has it.
-/
namespace Flowline.Candidate
open Json Decode

theorem dropNulls_of_losesNulls {members others : Members} (h : LosesNulls members others) :
    dropNulls others = dropNulls members := by
  obtain ⟨isLost, rfl⟩ := h
  rw [dropNulls, dropNulls, List.filter_filter]
  refine List.filter_congr fun m _ => ?_
  cases m.2.isNull <;> simp

theorem cleanTrigger_of_altered {v w : Json} (h : AlteredTrigger LosesNulls v w) :
    cleanTrigger w = cleanTrigger v := by
  cases h with
  | object hchange => rw [cleanTrigger, cleanTrigger, dropNulls_of_losesNulls hchange]
  | other => rfl

mutual

theorem cleanAction_of_altered {v w : Json} : Altered LosesNulls v w →
    cleanAction w = cleanAction v
  | .object harms hchange => by
    rw [cleanAction, cleanAction, cleanMembers_eq_map, dropNulls_of_losesNulls hchange,
      ← cleanMembers_eq_map, cleanMembers_of_altered harms]
  | .other _ => rfl

theorem cleanMembers_of_altered {members middle : Members} : AlteredArms LosesNulls members middle →
    cleanMembers middle = cleanMembers members
  | .nil => rfl
  | .arm arm hkey hlist hrest => by
    simp only [cleanMembers, isArmKey_of_mem_armKeys hkey, isNull_of_altered hlist,
      cleanList_of_altered hlist, cleanMembers_of_altered hrest, if_true]
  | .other _ hrest => by
    rw [cleanMembers, cleanMembers, cleanMembers_of_altered hrest]

theorem cleanList_of_altered {v w : Json} : AlteredList LosesNulls v w → cleanList w = cleanList v
  | .elements hall => by rw [cleanList, cleanList, cleanAll_of_altered hall]
  | .other _ => rfl

theorem cleanAll_of_altered {elements others : List Json} : AlteredAll LosesNulls elements others →
    cleanAll others = cleanAll elements
  | .nil => rfl
  | .cons hv hrest => by
    rw [cleanAll, cleanAll, cleanAction_of_altered hv, cleanAll_of_altered hrest]

end

/-- The root, the trigger and the actions lose null members. -/
def Change.losesNulls : Change := ⟨LosesNulls, LosesNulls, LosesNulls⟩

theorem cleanPart_of_member {m other : String × Json} (h : Change.losesNulls.Member m other) :
    (m.1, cleanPart m.1 m.2) = (other.1, cleanPart other.1 other.2) := by
  obtain ⟨hkey, h⟩ := h
  rw [hkey, cleanPart, cleanPart]
  split at h
  · rename_i htrigger
    rw [if_pos htrigger, if_pos htrigger, cleanTrigger_of_altered h]
  · rename_i htrigger
    rw [if_neg htrigger, if_neg htrigger]
    split at h
    · rename_i hactions
      rw [if_pos hactions, if_pos hactions, cleanList_of_altered h]
    · rw [h]

theorem clean_of_takes {v w : Json} (h : Change.losesNulls.Takes v w) : clean v = clean w := by
  cases h with
  | other => rfl
  | object hmembers hchange =>
    have hparts := cleanParts_of_members (R := Eq) hmembers fun m _ other => cleanPart_of_member
    rw [List.forall₂_eq_eq_eq] at hparts
    rw [clean_obj, clean_obj, dropNulls_of_losesNulls hchange, hparts]

/-- Only the arms of a branch have another spelling. -/
def Vocabulary.arms : Vocabulary where
  root := []
  trigger := []
  action := Action.spellings (some "BRANCH")
  root_plain := by decide
  trigger_plain := by decide
  action_plain := by decide
  action_arms := by decide

theorem checkFields_eq {spellings : Spellings} {members others : Members}
    (hplain : ∀ f ∈ Shape.optionalFields, IsPlain spellings f.1)
    (h : SameFields spellings members others) (place : Place) :
    Shape.checkFields others place = Shape.checkFields members place := by
  rw [Shape.checkFields, Shape.checkFields]
  congr 1
  refine List.filter_congr fun f hf => ?_
  rw [← fits_present, ← h.present_assoc_of_isPlain (hplain f hf), fits_present]

theorem losesNulls_faithful : Change.losesNulls.Faithful Vocabulary.arms id where
  root := SameFields.of_losesNulls
  trigger := SameFields.of_losesNulls
  action := SameFields.of_losesNulls
  trigger_fields h place := by rw [checkFields_eq (by decide) h place]
  action_fields h place := by rw [checkFields_eq (by decide) h place]

/-- A null member is as good as none: with any of those of the root, the trigger and the actions
gone, a candidate in which no arm of an action stands under both of its keys gets the same check. -/
theorem check_losesNulls (catalog : Catalog) (limits : Limits) {v w : Json}
    (hlost : Change.losesNulls.Takes v w) (hapart : Vocabulary.arms.isApart v = true) :
    check catalog limits w = check catalog limits v := by
  have hrefusal := refusal_takes losesNulls_faithful hlost hapart
  have hshape := check_takes losesNulls_faithful limits.maxBranchDepth hlost hapart
  rw [List.map_id, List.map_id] at hshape
  rw [check, check, toFlow, toFlow, hrefusal, hshape, ← clean_of_takes hlost]

/-- Steps of two levels with null members. -/
def paddedSteps : Json :=
  .arr [.obj [("displayName", .str "Any new rows?"), ("input", .null),
    ("onFalse", .arr [.obj [("code", .null), ("displayName", .str "Note it"),
      ("type", .str "CODE")]]),
    ("onTrue", .null), ("type", .str "BRANCH")]]

/-- The same steps with one of the null members left. -/
def trimmedSteps : Json :=
  .arr [.obj [("displayName", .str "Any new rows?"), ("input", .null),
    ("onFalse", .arr [.obj [("displayName", .str "Note it"), ("type", .str "CODE")]]),
    ("type", .str "BRANCH")]]

def padded : Json :=
  .obj [("actions", paddedSteps), ("displayName", .str "Daily report"), ("explanation", .null),
    ("trigger", .obj [("displayName", .str "Call"), ("input", .null), ("type", .str "WEBHOOK")])]

def trimmed : Json :=
  .obj [("actions", trimmedSteps), ("displayName", .str "Daily report"),
    ("trigger", .obj [("displayName", .str "Call"), ("type", .str "WEBHOOK")])]

theorem altered_paddedSteps : AlteredList LosesNulls paddedSteps trimmedSteps := by
  have hchild : Altered LosesNulls
      (.obj [("code", .null), ("displayName", .str "Note it"), ("type", .str "CODE")])
      (.obj [("displayName", .str "Note it"), ("type", .str "CODE")]) :=
    .object (.other (by decide) (.other (by decide) (.other (by decide) .nil)))
      ⟨fun _ => true, rfl⟩
  refine .elements (.cons (.object (.other (by decide) (.other (by decide)
    (.arm .onFalse (by decide) (.elements (.cons hchild .nil))
      (.arm .onTrue (by decide) (.other rfl) (.other (by decide) .nil))))) ?lost) .nil)
  exact ⟨fun key => key == "onTrue", rfl⟩

theorem takes_padded : Change.losesNulls.Takes padded trimmed := by
  have hactions : Change.losesNulls.Member ("actions", paddedSteps) ("actions", trimmedSteps) :=
    ⟨rfl, altered_paddedSteps⟩
  have htrigger : Change.losesNulls.Member
      ("trigger", .obj [("displayName", .str "Call"), ("input", .null), ("type", .str "WEBHOOK")])
      ("trigger", .obj [("displayName", .str "Call"), ("type", .str "WEBHOOK")]) :=
    ⟨rfl, .object ⟨fun _ => true, rfl⟩⟩
  exact .object (.cons hactions (.cons ⟨rfl, rfl⟩ (.cons ⟨rfl, rfl⟩ (.cons htrigger .nil))))
    ⟨fun _ => true, rfl⟩

theorem check_trimmed :
    (Change.losesNulls.Takes padded trimmed ∧ Vocabulary.arms.isApart padded = true) ∧
    check (.live []) {} trimmed = check (.live []) {} padded := by
  have hapart : Vocabulary.arms.isApart padded = true := by decide
  exact ⟨⟨takes_padded, hapart⟩, check_losesNulls (.live []) {} takes_padded hapart⟩

end Flowline.Candidate
