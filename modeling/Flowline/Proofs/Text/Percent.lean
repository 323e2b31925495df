import Flowline.Proofs.Text.Bytes
import Flowline.Text.Digits
import Mathlib.Data.List.Infix

/-!
Percent-decoding. A text stands for its own bytes exactly when no percent sign in it stands before
two hexadecimal digits.
-/
namespace Flowline.Text

/-- The byte of two hexadecimal digits. -/
def hexByte (a b : Char) : Option UInt8 := do
  let high ← hexValue a
  let low ← hexValue b
  some (UInt8.ofNat (high * 16 + low))

/-- The bytes that characters stand for: a percent sign with two hexadecimal digits for their byte,
any other character for its UTF-8 bytes. -/
def percentDecode : List Char → List UInt8
  | [] => []
  | '%' :: a :: b :: cs =>
    match hexByte a b with
    | some byte => byte :: percentDecode cs
    | none => String.utf8EncodeChar '%' ++ percentDecode (a :: b :: cs)
  | c :: cs => String.utf8EncodeChar c ++ percentDecode cs

/-- Somewhere a percent sign stands before two hexadecimal digits. -/
def HasEscape (cs : List Char) : Prop :=
  ∃ a b, ['%', a, b] <:+: cs ∧ (hexByte a b).isSome = true

theorem not_hasEscape_of_notMem {cs : List Char} (h : '%' ∉ cs) : ¬ HasEscape cs := by
  rintro ⟨a, b, hpart, -⟩
  exact h (hpart.subset (by simp))

theorem hasEscape_cons_iff {c : Char} {cs : List Char} :
    HasEscape (c :: cs) ↔
      (∃ a b rest, c :: cs = '%' :: a :: b :: rest ∧ (hexByte a b).isSome = true) ∨
        HasEscape cs := by
  constructor
  · rintro ⟨a, b, hpart, hbyte⟩
    rcases List.infix_cons_iff.1 hpart with ⟨rest, hfront⟩ | hpart
    · exact .inl ⟨a, b, rest, hfront.symm, hbyte⟩
    · exact .inr ⟨a, b, hpart, hbyte⟩
  · rintro (⟨a, b, rest, heq, hbyte⟩ | ⟨a, b, hpart, hbyte⟩)
    · exact ⟨a, b, heq ▸ ⟨[], rest, rfl⟩, hbyte⟩
    · exact ⟨a, b, List.infix_cons hpart, hbyte⟩

theorem length_utf8EncodeChar_pos (c : Char) : 0 < (String.utf8EncodeChar c).length :=
  List.length_pos_iff.2 String.utf8EncodeChar_ne_nil

theorem length_percentDecode_le (cs : List Char) :
    (percentDecode cs).length ≤ (bytesOf cs).length := by
  fun_induction percentDecode cs with
  | case1 => simp
  | case2 a b cs byte hbyte ih =>
    have hpos := length_utf8EncodeChar_pos a
    simp only [bytesOf_cons, List.length_append, List.length_cons]
    omega
  | case3 a b cs hbyte ih | case4 c cs hother ih =>
    rw [bytesOf_cons, List.length_append, List.length_append]
    omega

theorem length_percentDecode_lt {cs : List Char} (h : HasEscape cs) :
    (percentDecode cs).length < (bytesOf cs).length := by
  fun_induction percentDecode cs with
  | case1 => simp [HasEscape] at h
  | case2 a b cs byte hbyte ih =>
    have hle := length_percentDecode_le cs
    have ha := length_utf8EncodeChar_pos a
    have hb := length_utf8EncodeChar_pos b
    simp only [bytesOf_cons, List.length_append, List.length_cons]
    omega
  | case3 a b cs hbyte ih =>
    rcases hasEscape_cons_iff.1 h with ⟨a', b', rest, heq, hsome⟩ | h
    · cases heq
      simp [hbyte] at hsome
    · have hlt := ih h
      rw [bytesOf_cons, List.length_append, List.length_append]
      omega
  | case4 c cs hother ih =>
    rcases hasEscape_cons_iff.1 h with ⟨a, b, rest, heq, -⟩ | h
    · cases heq
      exact absurd rfl (hother a b rest rfl)
    · have hlt := ih h
      rw [bytesOf_cons, List.length_append, List.length_append]
      omega

theorem percentDecode_of_not_hasEscape {cs : List Char} (h : ¬ HasEscape cs) :
    percentDecode cs = bytesOf cs := by
  fun_induction percentDecode cs with
  | case1 => rfl
  | case2 a b cs byte hbyte ih =>
    exact absurd (hasEscape_cons_iff.2 (.inl ⟨a, b, cs, rfl, by simp [hbyte]⟩)) h
  | case3 a b cs hbyte ih | case4 c cs hother ih =>
    rw [ih fun h' => h (hasEscape_cons_iff.2 (.inr h')), ← bytesOf_cons]

/-- A text with escapes stands for fewer bytes than it has. -/
theorem percentDecode_eq_iff {cs : List Char} : percentDecode cs = bytesOf cs ↔ ¬ HasEscape cs := by
  constructor
  · intro heq h
    exact absurd (congrArg List.length heq) (length_percentDecode_lt h).ne
  · exact percentDecode_of_not_hasEscape

end Flowline.Text
