import Flowline.Proofs.Text.Bytes
import Flowline.Text.Utf8

/-!
Reading the bytes of a text. Bytes are read leniently and without a byte order mark in front, so the
text comes back from its own bytes unless it begins with the mark.
-/
namespace Flowline.Text.Utf8

/-- A byte that is a character of its own. -/
theorem decodeFrom_ascii {b : Nat} (hb : b < 0x80) (rest : List UInt8) :
    decodeFrom none (UInt8.ofNat b :: rest) = Char.ofNat b :: decodeFrom none rest := by
  have hbyte : b < 256 := Nat.lt_trans hb (by decide)
  rw [decodeFrom, UInt8.toNat_ofNat_of_lt' hbyte, start, if_pos hb]
  rfl

/-- The first byte of a character. -/
theorem decodeFrom_start {b : Nat} {p : Partial} (hb : b < 256) (h : start b = ([], some p))
    (rest : List UInt8) : decodeFrom none (UInt8.ofNat b :: rest) = decodeFrom (some p) rest := by
  rw [decodeFrom, UInt8.toNat_ofNat_of_lt' hb, h]
  rfl

variable {value needed lower upper b : Nat}

/-- A byte that is not the last of its character. -/
theorem decodeFrom_more (hlow : lower ≤ b) (hhigh : b ≤ upper) (hb : b < 256) (hneeded : 1 < needed)
    (rest : List UInt8) :
    decodeFrom (some ⟨value, needed, lower, upper⟩) (UInt8.ofNat b :: rest) =
      decodeFrom (some ⟨value * 64 + (b - 0x80), needed - 1, 0x80, 0xBF⟩) rest := by
  have hnext : next ⟨value, needed, lower, upper⟩ b =
      ([], some ⟨value * 64 + (b - 0x80), needed - 1, 0x80, 0xBF⟩) := by
    simp [next, hlow, hhigh, Nat.not_le.2 hneeded]
  rw [decodeFrom, UInt8.toNat_ofNat_of_lt' hb, hnext]
  rfl

/-- The last byte of a character. -/
theorem decodeFrom_last (hlow : lower ≤ b) (hhigh : b ≤ upper) (hb : b < 256) (rest : List UInt8) :
    decodeFrom (some ⟨value, 1, lower, upper⟩) (UInt8.ofNat b :: rest) =
      Char.ofNat (value * 64 + (b - 0x80)) :: decodeFrom none rest := by
  have hnext : next ⟨value, 1, lower, upper⟩ b =
      ([Char.ofNat (value * 64 + (b - 0x80))], none) := by
    simp [next, hlow, hhigh]
  rw [decodeFrom, UInt8.toNat_ofNat_of_lt' hb, hnext]
  rfl

theorem start_two {v : Nat} (hlow : 2 ≤ v) (hhigh : v < 0x20) :
    start (v + 192) = ([], some ⟨v, 1, 0x80, 0xBF⟩) := by
  have hfirst : ¬v + 192 < 0x80 := by omega
  have hrange : 0xC2 ≤ v + 192 ∧ v + 192 ≤ 0xDF := by omega
  simp [start, hfirst, hrange]

theorem start_three {v : Nat} (hv : v < 0x10) :
    start (v + 224) = ([], some ⟨v, 2, if v = 0 then 0xA0 else 0x80,
      if v = 0xD then 0x9F else 0xBF⟩) := by
  have hfirst : ¬v + 224 < 0x80 := by omega
  have hsecond : ¬v + 224 ≤ 0xDF := by omega
  have hrange : 0xE0 ≤ v + 224 ∧ v + 224 ≤ 0xEF := by omega
  simp [start, hfirst, hsecond, hrange]

theorem start_four {v : Nat} (hv : v ≤ 4) :
    start (v + 240) = ([], some ⟨v, 3, if v = 0 then 0x90 else 0x80,
      if v = 4 then 0x8F else 0xBF⟩) := by
  have hfirst : ¬v + 240 < 0x80 := by omega
  have hsecond : ¬v + 240 ≤ 0xDF := by omega
  have hthird : ¬v + 240 ≤ 0xEF := by omega
  have hrange : 0xF0 ≤ v + 240 ∧ v + 240 ≤ 0xF4 := by omega
  simp [start, hfirst, hsecond, hthird, hrange]

theorem decodeFrom_utf8EncodeChar_append (c : Char) (rest : List UInt8) :
    decodeFrom none (String.utf8EncodeChar c ++ rest) = c :: decodeFrom none rest := by
  have hvalid : c.val.toNat < 0xD800 ∨ 0xDFFF < c.val.toNat ∧ c.val.toNat < 0x110000 := c.valid
  have hc : Char.ofNat c.val.toNat = c := c.ofNat_toNat
  generalize hn : c.val.toNat = n at hvalid hc
  simp only [String.utf8EncodeChar, hn]
  split_ifs with h1 h2 h3
  · rw [List.singleton_append, decodeFrom_ascii (by omega), hc]
  · have hmod : n / 64 % 32 = n / 64 := Nat.mod_eq_of_lt (by omega)
    have hvalue : n / 64 * 64 + (n % 64 + 128 - 0x80) = n := by omega
    rw [hmod, List.cons_append, List.singleton_append,
      decodeFrom_start (by omega) (start_two (by omega) (by omega)),
      decodeFrom_last (by omega) (by omega) (by omega), hvalue, hc]
  · have hmod : n / 4096 % 16 = n / 4096 := Nat.mod_eq_of_lt (by omega)
    have hvalue : (n / 4096 * 64 + (n / 64 % 64 + 128 - 0x80)) * 64 +
        (n % 64 + 128 - 0x80) = n := by omega
    have hlow : (if n / 4096 = 0 then 0xA0 else 0x80) ≤ n / 64 % 64 + 128 := by
      split_ifs <;> omega
    have hhigh : n / 64 % 64 + 128 ≤ if n / 4096 = 0xD then 0x9F else 0xBF := by
      split_ifs <;> omega
    rw [hmod, List.cons_append, List.cons_append, List.singleton_append,
      decodeFrom_start (by omega) (start_three (by omega)),
      decodeFrom_more hlow hhigh (by omega) (by omega),
      decodeFrom_last (by omega) (by omega) (by omega), hvalue, hc]
  · have hmod : n / 262144 % 8 = n / 262144 := Nat.mod_eq_of_lt (by omega)
    have hvalue : ((n / 262144 * 64 + (n / 4096 % 64 + 128 - 0x80)) * 64 +
        (n / 64 % 64 + 128 - 0x80)) * 64 + (n % 64 + 128 - 0x80) = n := by omega
    have hlow : (if n / 262144 = 0 then 0x90 else 0x80) ≤ n / 4096 % 64 + 128 := by
      split_ifs <;> omega
    have hhigh : n / 4096 % 64 + 128 ≤ if n / 262144 = 4 then 0x8F else 0xBF := by
      split_ifs <;> omega
    rw [hmod, List.cons_append, List.cons_append, List.cons_append, List.singleton_append,
      decodeFrom_start (by omega) (start_four (by omega)),
      decodeFrom_more hlow hhigh (by omega) (by omega),
      decodeFrom_more (by omega) (by omega) (by omega) (by omega),
      decodeFrom_last (by omega) (by omega) (by omega), hvalue, hc]

theorem decodeFrom_bytesOf (cs : List Char) : decodeFrom none (bytesOf cs) = cs := by
  induction cs with
  | nil => rfl
  | cons c cs ih => rw [bytesOf_cons, decodeFrom_utf8EncodeChar_append, ih]

/-- A text comes back from its bytes, but for a byte order mark in front. -/
theorem decode_bytes (s : String) : decode (bytes s) = String.ofList (dropMark s.toList) := by
  rw [decode, bytes, decodeFrom_bytesOf]

end Flowline.Text.Utf8
