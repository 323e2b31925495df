import Flowline.Text.LowerCase
import Flowline.Text.Occurs
import Mathlib.Data.List.Basic
import Mathlib.Data.List.Infix
import Mathlib.Data.Nat.Init

/-!
Texts of which one is part of the other, letter case aside. How long a part gets in lower case does
not depend on what stands around it, and what it becomes does so through capital sigmas only.
-/
namespace Flowline.Text

namespace Case

/-- A character in lower case where it stands behind `before` (last first) and before `after`. -/
def lowerAt (before after : List Char) (c : Char) : List Char :=
  if c == 'Σ' then [sigma before after] else lowerChar c

/-- Characters in lower case where they stand behind `before` (last first) and before `after`. -/
def lowerWithin (before after : List Char) : List Char → List Char
  | [] => []
  | c :: cs => lowerAt before (cs ++ after) c ++ lowerWithin (c :: before) after cs

theorem length_lowerAt (before after before' after' : List Char) (c : Char) :
    (lowerAt before after c).length = (lowerAt before' after' c).length := by
  unfold lowerAt
  split <;> rfl

theorem lowerAt_eq_iff {before after before' after' : List Char} {c : Char} :
    lowerAt before after c = lowerAt before' after' c ↔
      (c = 'Σ' → sigma before after = sigma before' after') := by
  by_cases hc : c = 'Σ' <;> simp [lowerAt, hc]

theorem lowerChar_ne_nil (c : Char) : lowerChar c ≠ [] := by
  dsimp only [lowerChar]
  split
  · simp
  · split <;> simp

theorem lowerAt_ne_nil (before after : List Char) (c : Char) : lowerAt before after c ≠ [] := by
  unfold lowerAt
  split
  · simp
  · exact lowerChar_ne_nil c

theorem lowerFrom_append (before cs after : List Char) :
    lowerFrom before (cs ++ after) =
      lowerWithin before after cs ++ lowerFrom (cs.reverse ++ before) after := by
  induction cs generalizing before with
  | nil => rfl
  | cons c cs ih =>
    rw [List.cons_append, lowerFrom, ih, lowerWithin, List.append_assoc, List.reverse_cons,
      List.append_assoc]
    rfl

theorem lowerFrom_eq_lowerWithin (before cs : List Char) :
    lowerFrom before cs = lowerWithin before [] cs := by
  simpa [lowerFrom] using lowerFrom_append before cs []

theorem lowerFrom_eq_nil_iff {before cs : List Char} : lowerFrom before cs = [] ↔ cs = [] := by
  rw [lowerFrom_eq_lowerWithin]
  cases cs with
  | nil => simp [lowerWithin]
  | cons c cs => simp [lowerWithin, lowerAt_ne_nil]

theorem length_lowerWithin (before after before' after' cs : List Char) :
    (lowerWithin before after cs).length = (lowerWithin before' after' cs).length := by
  induction cs generalizing before before' with
  | nil => rfl
  | cons c cs ih =>
    rw [lowerWithin, lowerWithin, List.length_append, List.length_append,
      length_lowerAt before _ before' (cs ++ after'), ih (c :: before) (c :: before')]

/-- Between other neighbours a part becomes the same exactly when its capital sigmas do. -/
theorem lowerWithin_eq_iff {before after before' after' cs : List Char} :
    lowerWithin before after cs = lowerWithin before' after' cs ↔
      ∀ i < cs.length, cs[i]? = some 'Σ' →
        sigma ((cs.take i).reverse ++ before) (cs.drop (i + 1) ++ after) =
          sigma ((cs.take i).reverse ++ before') (cs.drop (i + 1) ++ after') := by
  induction cs generalizing before before' with
  | nil => simp [lowerWithin]
  | cons c cs ih =>
    have hlength := length_lowerAt before (cs ++ after) before' (cs ++ after') c
    rw [lowerWithin, lowerWithin, List.append_eq_append_iff_of_size_eq_left hlength,
      lowerAt_eq_iff, ih, List.length_cons, Nat.forall_lt_succ_left']
    simp

/-- Each capital sigma of `cs` has the form between `before` and `after` that it has where `cs`
stands alone. -/
def KeepsSigmas (before cs after : List Char) : Prop :=
  ∀ i < cs.length, cs[i]? = some 'Σ' →
    sigma ((cs.take i).reverse ++ before.reverse) (cs.drop (i + 1) ++ after) =
      sigma (cs.take i).reverse (cs.drop (i + 1))

instance (before cs after : List Char) : Decidable (KeepsSigmas before cs after) :=
  inferInstanceAs (Decidable (∀ i < cs.length, _ → _))

theorem keepsSigmas_iff {before cs after : List Char} :
    KeepsSigmas before cs after ↔ lowerWithin before.reverse after cs = lowerFrom [] cs := by
  rw [lowerFrom_eq_lowerWithin, lowerWithin_eq_iff]
  simp [KeepsSigmas]

end Case
open Case

theorem isEmpty_lowerCase (s : String) : (lowerCase s).isEmpty = s.isEmpty := by
  rw [Bool.eq_iff_iff, String.isEmpty_iff, String.isEmpty_iff, ← String.toList_eq_nil_iff,
    ← String.toList_eq_nil_iff, lowerCase, String.toList_ofList, lowerFrom_eq_nil_iff]

/-- A part of a text, in lower case, stands at its place of the text in lower case exactly when its
capital sigmas keep their forms. -/
theorem lowerCase_prefix_drop_iff (before part after : String) :
    (lowerCase part).toList <+:
        (lowerCase (before ++ part ++ after)).toList.drop (lowerCase before).length ↔
      KeepsSigmas before.toList part.toList after.toList := by
  have hfront : (lowerCase before).length =
      (lowerWithin [] (part.toList ++ after.toList) before.toList).length := by
    rw [lowerCase, String.length_ofList, lowerFrom_eq_lowerWithin]
    exact length_lowerWithin _ _ _ _ _
  have hpart : (lowerWithin before.toList.reverse after.toList part.toList).length =
      (lowerFrom [] part.toList).length := by
    rw [lowerFrom_eq_lowerWithin]
    exact length_lowerWithin _ _ _ _ _
  rw [hfront, lowerCase, lowerCase, String.toList_ofList, String.toList_ofList,
    String.toList_append, String.toList_append, List.append_assoc, lowerFrom_append,
    List.drop_left, lowerFrom_append, List.append_nil, keepsSigmas_iff,
    List.prefix_iff_eq_take, ← hpart, List.take_left, eq_comm]

/-- In lower case one of the texts is part of the other. -/
def Overlaps (s t : String) : Prop :=
  (lowerCase s).toList <:+: (lowerCase t).toList ∨ (lowerCase t).toList <:+: (lowerCase s).toList

theorem contains_iff_isInfix {hay needle : String} :
    contains hay needle = true ↔ needle.toList <:+: hay.toList := by
  rw [contains, occursIn_iff]
  exact exists_congr fun before => exists_congr fun after => eq_comm

theorem contains_or_contains_iff {s t : String} :
    (contains (lowerCase t) (lowerCase s) || contains (lowerCase s) (lowerCase t)) = true ↔
      Overlaps s t := by
  rw [Bool.or_eq_true, contains_iff_isInfix, contains_iff_isInfix, Overlaps]

theorem overlaps_comm {s t : String} : Overlaps s t ↔ Overlaps t s := or_comm

/-- A text overlaps with what it is part of where its capital sigmas keep their forms. -/
theorem overlaps_of_keepsSigmas {before part after : String}
    (h : KeepsSigmas before.toList part.toList after.toList) :
    Overlaps part (before ++ part ++ after) :=
  .inl (((lowerCase_prefix_drop_iff before part after).2 h).isInfix.trans
    (List.drop_suffix _ _).isInfix)

end Flowline.Text
