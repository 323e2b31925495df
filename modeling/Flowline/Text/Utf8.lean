import Flowline.Text.ByteOrderMark
/-!
Text from bytes that may not be UTF-8: every longest beginning of a character that does not go on
becomes one replacement character.
-/
namespace Flowline.Text.Utf8

def replacement : Char := '\ufffd'

/-- A character of which some bytes have been read: its value so far, how many bytes are needed, and
the range of the next one. -/
structure Partial where
  value : Nat
  needed : Nat
  lower : Nat := 0x80
  upper : Nat := 0xBF
  deriving DecidableEq, Repr

/-- What the first byte of a character gives. The narrower ranges shut out spellings that are longer
than needed, surrogates and what lies beyond the last plane. -/
def start (b : Nat) : List Char × Option Partial :=
  if b < 0x80 then ([Char.ofNat b], none)
  else if 0xC2 ≤ b && b ≤ 0xDF then ([], some ⟨b - 0xC0, 1, 0x80, 0xBF⟩)
  else if 0xE0 ≤ b && b ≤ 0xEF then
    ([], some ⟨b - 0xE0, 2, if b = 0xE0 then 0xA0 else 0x80, if b = 0xED then 0x9F else 0xBF⟩)
  else if 0xF0 ≤ b && b ≤ 0xF4 then
    ([], some ⟨b - 0xF0, 3, if b = 0xF0 then 0x90 else 0x80, if b = 0xF4 then 0x8F else 0xBF⟩)
  else ([replacement], none)

/-- What a further byte gives. -/
def next (p : Partial) (b : Nat) : List Char × Option Partial :=
  if p.lower ≤ b && b ≤ p.upper then
    let value := p.value * 64 + (b - 0x80)
    if p.needed ≤ 1 then ([Char.ofNat value], none)
    else ([], some ⟨value, p.needed - 1, 0x80, 0xBF⟩)
  else
    let (cs, p) := start b
    (replacement :: cs, p)

def decodeFrom : Option Partial → List UInt8 → List Char
  | none, [] => []
  | some _, [] => [replacement]
  | none, b :: rest =>
    let (cs, p) := start b.toNat
    cs ++ decodeFrom p rest
  | some p, b :: rest =>
    let (cs, p) := next p b.toNat
    cs ++ decodeFrom p rest

/-- The text of bytes, without a byte order mark at its beginning. -/
def decode (bytes : List UInt8) : String :=
  String.ofList (dropMark (decodeFrom none bytes))

end Flowline.Text.Utf8
