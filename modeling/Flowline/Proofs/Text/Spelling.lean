import Flowline.Text.Blank
import Flowline.Text.Digits
import Mathlib.Data.List.DropRight

/-!
Words and numbers in a text. The blanks around a text do not change its words, and a number is read
from its digits behind any number of zeros and an optional plus sign, and from nothing else.
-/
namespace Flowline.Text

theorem wordsFrom_dropWhile (cs : List Char) :
    wordsFrom [] (cs.dropWhile isBlank) = wordsFrom [] cs := by
  induction cs with
  | nil => rfl
  | cons c cs ih =>
    rw [List.dropWhile_cons]
    by_cases hc : isBlank c = true
    · simp [hc, ih, wordsFrom]
    · simp [hc]

theorem wordsFrom_blanks {blanks : List Char} (h : ∀ c ∈ blanks, isBlank c = true) :
    wordsFrom [] blanks = [] := by
  induction blanks with
  | nil => rfl
  | cons c blanks ih =>
    have hc := h c List.mem_cons_self
    simpa [wordsFrom, hc] using ih fun c hc => h c (List.mem_cons_of_mem _ hc)

theorem wordsFrom_append_blanks (word cs : List Char) {blanks : List Char}
    (h : ∀ c ∈ blanks, isBlank c = true) :
    wordsFrom word (cs ++ blanks) = wordsFrom word cs := by
  induction cs generalizing word with
  | nil =>
    cases blanks with
    | nil => rfl
    | cons c blanks =>
      have hc := h c List.mem_cons_self
      have hrest := wordsFrom_blanks fun c hc => h c (List.mem_cons_of_mem _ hc)
      simp [wordsFrom, hc, hrest]
  | cons c cs ih =>
    simp only [List.cons_append, wordsFrom, ih]

/-- Nothing is left without the blanks around it exactly when a text is blank. -/
theorem isEmpty_trim (s : String) : (trim s).isEmpty = isBlankText s := by
  have hchars : trimChars s.toList = [] ↔ ∀ c ∈ s.toList, isBlank c = true := calc
    trimChars s.toList = []
      ↔ (s.toList.dropWhile isBlank).rdropWhile isBlank = [] := Iff.rfl
    _ ↔ ∀ c ∈ s.toList.dropWhile isBlank, isBlank c = true := List.rdropWhile_eq_nil_iff
    _ ↔ ∀ c ∈ s.toList, isBlank c = true := by
        refine ⟨fun h c hc => ?_, fun h c hc => h c ((List.dropWhile_sublist isBlank).subset hc)⟩
        rw [← List.takeWhile_append_dropWhile (p := isBlank) (l := s.toList)] at hc
        rcases List.mem_append.1 hc with hc | hc
        · exact List.mem_takeWhile_imp hc
        · exact h c hc
  rw [Bool.eq_iff_iff, String.isEmpty_iff, ← String.toList_eq_nil_iff, trim, String.toList_ofList,
    hchars, isBlankText, List.all_eq_true]

/-- The words of a text do not depend on the blanks around it. -/
theorem words_trim (s : String) : words (trim s) = words s := by
  have hsplit := List.rdropWhile_append_rtakeWhile (p := isBlank) (l := s.toList.dropWhile isBlank)
  have hblanks : ∀ c ∈ (s.toList.dropWhile isBlank).rtakeWhile isBlank, isBlank c = true :=
    fun c hc => List.mem_rtakeWhile_imp hc
  have hchars : wordsFrom [] (trimChars s.toList) = wordsFrom [] s.toList := calc
    wordsFrom [] (trimChars s.toList)
      = wordsFrom [] ((s.toList.dropWhile isBlank).rdropWhile isBlank) := rfl
    _ = wordsFrom [] (s.toList.dropWhile isBlank) := by
        rw [← wordsFrom_append_blanks _ _ hblanks, hsplit]
    _ = wordsFrom [] s.toList := wordsFrom_dropWhile _
  rw [words, words, trim, String.toList_ofList, hchars]

/-- How a number is written: whether there is a plus sign, and how many zeros come before the
digits. -/
structure Numeral where
  plus : Bool
  zeros : Nat
  deriving DecidableEq, Repr

namespace Numeral

/-- The digits of a number and nothing else. -/
def plain : Numeral := ⟨false, 0⟩

def digits (s : Numeral) (n : Nat) : List Char := List.replicate s.zeros '0' ++ Nat.toDigits 10 n

def chars (s : Numeral) (n : Nat) : List Char := (if s.plus then ['+'] else []) ++ s.digits n

end Numeral

theorem digitsValue_concat (ds : List Char) (d : Char) :
    digitsValue (ds ++ [d]) = digitsValue ds * 10 + (d.toNat - 48) := by
  simp [digitsValue, List.foldl_append]

theorem digitsValue_toDigits (n : Nat) : digitsValue (Nat.toDigits 10 n) = n := by
  calc digitsValue (Nat.toDigits 10 n)
      = Nat.ofDigitChars 10 (Nat.toDigits 10 n) 0 := by
        simp only [digitsValue, Nat.ofDigitChars, Nat.mul_comm]
        rfl
    _ = n := Nat.ofDigitChars_ten_toDigits

theorem digitsValue_zeros_append (k : Nat) (ds : List Char) :
    digitsValue (List.replicate k '0' ++ ds) = digitsValue ds := by
  induction k with
  | zero => rfl
  | succ k ih =>
    rw [← ih, List.replicate_succ, List.cons_append]
    rfl

theorem digitChar_of_isDigit {d : Char} (h : d.isDigit = true) :
    d.toNat - 48 < 10 ∧ Nat.digitChar (d.toNat - 48) = d := by
  have hrange : 48 ≤ d.toNat ∧ d.toNat ≤ 57 := by
    rw [Char.isDigit, Bool.and_eq_true, decide_eq_true_eq, decide_eq_true_eq] at h
    exact h
  refine ⟨by omega, ?_⟩
  apply Char.toNat_inj.1
  rw [Nat.toNat_digitChar_of_lt_ten (by omega)]
  omega

/-- Digits are those of their value, with zeros before them. -/
theorem eq_digits_of_isDigits {ds : List Char} (h : isDigits ds = true) :
    ∃ zeros, ds = (Numeral.mk false zeros).digits (digitsValue ds) := by
  induction ds using List.reverseRecOn with
  | nil => cases h
  | append_singleton ds d ih =>
    have hall : ds.all Char.isDigit = true ∧ d.isDigit = true := by
      simpa [isDigits] using h
    obtain ⟨hlt, hd⟩ := digitChar_of_isDigit hall.2
    have hvalue := digitsValue_concat ds d
    have hdigit : Nat.toDigits 10 (d.toNat - 48) = [d] := by rw [Nat.toDigits_of_lt_base hlt, hd]
    by_cases hnil : ds = []
    · subst hnil
      refine ⟨0, ?_⟩
      have hzero : digitsValue ([] ++ [d]) = d.toNat - 48 := hvalue.trans (Nat.zero_add _)
      rw [Numeral.digits, hzero, hdigit]
      rfl
    · obtain ⟨zeros, hds⟩ := ih (by simp [isDigits, hnil, hall.1])
      by_cases hpos : 0 < digitsValue ds
      · refine ⟨zeros, ?_⟩
        have happend := Nat.toDigits_append_toDigits (b := 10) (by omega) hpos hlt
        rw [hdigit] at happend
        rw [Numeral.digits, hvalue, Nat.mul_comm, ← happend, ← List.append_assoc]
        exact congrArg (· ++ [d]) hds
      · have hzero : digitsValue ds = 0 := by omega
        refine ⟨zeros + 1, ?_⟩
        rw [hzero, Numeral.digits, Nat.toDigits_zero, ← List.replicate_succ'] at hds
        rw [Numeral.digits, hvalue, hzero, Nat.zero_mul, Nat.zero_add, hdigit]
        exact congrArg (· ++ [d]) hds

theorem isDigits_digits (s : Numeral) (n : Nat) : isDigits (s.digits n) = true := by
  have hne : s.digits n ≠ [] := List.append_ne_nil_of_right_ne_nil _ Nat.toDigits_ne_nil
  have hall : ∀ c ∈ s.digits n, c.isDigit = true := by
    intro c hc
    rcases List.mem_append.1 hc with hc | hc
    · obtain ⟨-, rfl⟩ := List.mem_replicate.1 hc
      rfl
    · exact Nat.isDigit_of_mem_toDigits (by omega) (by omega) hc
  rw [isDigits, List.all_eq_true.2 hall, Bool.and_true, Bool.not_eq_true',
    List.isEmpty_eq_false_iff]
  exact hne

theorem digitsValue_digits (s : Numeral) (n : Nat) : digitsValue (s.digits n) = n := by
  rw [Numeral.digits, digitsValue_zeros_append, digitsValue_toDigits]

theorem readDigits_eq_some_iff {bound n : Nat} {cs : List Char} :
    readDigits bound cs = some n ↔
      n < bound ∧ ∃ zeros, cs = (Numeral.mk false zeros).digits n := by
  constructor
  · intro h
    obtain ⟨⟨hdigits, hlt⟩, rfl⟩ : (isDigits cs = true ∧ digitsValue cs < bound) ∧
        digitsValue cs = n := by simpa [readDigits] using h
    exact ⟨hlt, eq_digits_of_isDigits hdigits⟩
  · rintro ⟨hlt, zeros, rfl⟩
    simp [readDigits, isDigits_digits, digitsValue_digits, hlt]

theorem Numeral.chars_eq_one_iff {s : Numeral} {n : Nat} :
    s.chars n = ['1'] ↔ s = plain ∧ n = 1 := by
  constructor
  · intro h
    obtain ⟨plus, zeros⟩ := s
    cases plus with
    | true => simp [chars] at h
    | false =>
      have hdigits : (Numeral.mk false zeros).digits n = ['1'] := h
      have hvalue : n = 1 := by rw [← digitsValue_digits ⟨false, zeros⟩ n, hdigits]; rfl
      cases zeros with
      | zero => exact ⟨rfl, hvalue⟩
      | succ zeros => simp [digits, List.replicate_succ] at hdigits
  · rintro ⟨rfl, rfl⟩
    rfl

theorem ne_plus_of_isDigits {c : Char} {cs : List Char} (h : isDigits (c :: cs) = true) :
    c ≠ '+' := by
  rintro rfl
  simp [isDigits] at h

/-- A number is read from exactly its numerals. -/
theorem readNat_eq_some_iff {bound n : Nat} {cs : List Char} :
    readNat bound cs = some n ↔ n < bound ∧ ∃ s : Numeral, cs = s.chars n := by
  constructor
  · intro h
    unfold readNat at h
    split at h
    · next rest =>
      obtain ⟨hlt, zeros, rfl⟩ := readDigits_eq_some_iff.1 h
      exact ⟨hlt, ⟨true, zeros⟩, rfl⟩
    · obtain ⟨hlt, zeros, rfl⟩ := readDigits_eq_some_iff.1 h
      exact ⟨hlt, ⟨false, zeros⟩, rfl⟩
  · rintro ⟨hlt, ⟨plus, zeros⟩, rfl⟩
    have hread := readDigits_eq_some_iff.2 ⟨hlt, zeros, rfl⟩
    cases plus with
    | true => exact hread
    | false =>
      have hdigits := isDigits_digits ⟨false, zeros⟩ n
      change readNat bound ((Numeral.mk false zeros).digits n) = some n
      unfold readNat
      split
      · next heq =>
        rw [heq] at hdigits
        exact absurd rfl (ne_plus_of_isDigits hdigits)
      · exact hread

end Flowline.Text
