import Flowline.Json.Basic
import Flowline.Json.Fault
import Flowline.Text.Digits
/-!
A strict JSON reader. Each reader takes the text from its phrase on and returns what it read with
the rest, or the place of the first fault. The fuel of the mutual readers is the length of the
text; every phrase takes at least one character, so it never runs out.
-/
namespace Flowline.Json.Parser

/-- A fault at the next byte of `cs`. -/
def atNext (fault : Fault) (cs : List Char) : Except Failure α := .error ⟨fault, cs, 1⟩

/-- A fault just before `cs`. -/
def before (fault : Fault) (cs : List Char) : Except Failure α := .error ⟨fault, cs, 0⟩

def isSpace (c : Char) : Bool := c == ' ' || c == '\n' || c == '\t' || c == '\r'

def skip (cs : List Char) : List Char := cs.dropWhile isSpace

/-- Four hexadecimal digits, taken as four bytes whatever they are. -/
def hex4 (cs : List Char) : Except Failure (Nat × List Char) :=
  match cs with
  | a :: b :: c :: d :: rest =>
    match Text.hexValue a, Text.hexValue b, Text.hexValue c, Text.hexValue d with
    | some a, some b, some c, some d => .ok (((a * 16 + b) * 16 + c) * 16 + d, rest)
    | _, _, _, _ => .error ⟨.invalidEscape, cs, 4⟩
  | _ => if byteCount cs < 4 then before .endInString [] else .error ⟨.invalidEscape, cs, 4⟩

/-- What follows a backslash and `u`: one code unit, or the two of a surrogate pair. -/
def unicodeEscape (cs : List Char) : Except Failure (Char × List Char) := do
  let (n, rest) ← hex4 cs
  if 0xDC00 ≤ n && n ≤ 0xDFFF then before .loneSurrogate rest
  else if n < 0xD800 || 0xDBFF < n then .ok (Char.ofNat n, rest)
  else match rest with
    | '\\' :: 'u' :: rest =>
      let (m, rest) ← hex4 rest
      if m < 0xDC00 || 0xDFFF < m then before .loneSurrogate rest
      else .ok (Char.ofNat (0x10000 + (n - 0xD800) * 0x400 + (m - 0xDC00)), rest)
    | [] | ['\\'] => before .endInString []
    | '\\' :: rest => atNext .unfinishedSurrogatePair rest
    | rest => atNext .unfinishedSurrogatePair rest

/-- What follows a backslash. -/
def escape : List Char → Except Failure (Char × List Char)
  | [] => before .endInString []
  | 'u' :: rest => unicodeEscape rest
  | '"' :: rest => .ok ('"', rest)
  | '\\' :: rest => .ok ('\\', rest)
  | '/' :: rest => .ok ('/', rest)
  | 'b' :: rest => .ok ('\x08', rest)
  | 'f' :: rest => .ok ('\x0c', rest)
  | 'n' :: rest => .ok ('\n', rest)
  | 'r' :: rest => .ok ('\r', rest)
  | 't' :: rest => .ok ('\t', rest)
  | cs => atNext .invalidEscape cs

/-- The characters of a string whose opening quote has been read. -/
def stringBody : Nat → List Char → Except Failure (List Char × List Char)
  | 0, _ => before .endInString []
  | _ + 1, [] => before .endInString []
  | _ + 1, '"' :: rest => .ok ([], rest)
  | fuel + 1, '\\' :: rest => do
    let (c, rest) ← escape rest
    let (cs, rest) ← stringBody fuel rest
    .ok (c :: cs, rest)
  | fuel + 1, c :: rest =>
    if c.val < 0x20 then atNext .controlCharacter (c :: rest)
    else do
      let (cs, rest) ← stringBody fuel rest
      .ok (c :: cs, rest)

def string (cs : List Char) : Except Failure (String × List Char) := do
  let (body, rest) ← stringBody (cs.length + 1) cs
  .ok (String.ofList body, rest)

def digitValue (c : Char) : Nat := c.toNat - 48

/-- Appends digits to `n` as long as it stays below `2 ^ 64`; also how many were taken. -/
def absorb (n : Nat) : List Char → Nat × Nat
  | [] => (n, 0)
  | d :: ds =>
    let m := n * 10 + digitValue d
    if Nat.pow 2 64 ≤ m then (n, 0)
    else
      let (r, taken) := absorb m ds
      (r, taken + 1)

/-- The exponent `n` followed by digits; stops behind the digit that takes it past 31 bits. -/
def exponentValue (n : Nat) : List Char → Except (List Char) Nat
  | [] => .ok n
  | d :: ds =>
    let m := n * 10 + digitValue d
    if Nat.pow 2 31 ≤ m then .error ds else exponentValue m ds

/-- The binary64 number of a significand and a decimal exponent, with the rest of the text. -/
def finish (negative : Bool) (significand : Nat) (k : Int) (rest : List Char) :
    Except Failure (Number × List Char) :=
  match Number.Binary64.ofDecimal negative significand k with
  | some x => .ok (.float x, rest)
  | none => before .numberOutOfRange rest

/-- What follows the `e` of a number. -/
def exponentPart (negative : Bool) (significand : Nat) (k : Int) (cs : List Char) :
    Except Failure (Number × List Char) :=
  let (down, cs) := match cs with
    | '+' :: rest => (false, rest)
    | '-' :: rest => (true, rest)
    | _ => (false, cs)
  match cs with
  | [] => before .endInValue []
  | c :: _ =>
    if !c.isDigit then atNext .invalidNumber cs
    else
      let rest := cs.dropWhile Char.isDigit
      match exponentValue 0 (cs.takeWhile Char.isDigit) with
      | .ok e => finish negative significand (if down then k - e else k + e) rest
      | .error unread =>
        if significand != 0 && !down then before .numberOutOfRange (unread ++ rest)
        else .ok (.float ⟨negative, 0⟩, rest)

/-- The integer `n` with its sign; what leaves the 64-bit ranges becomes a binary64 number, and so
does minus zero. -/
def integer (negative : Bool) (n : Nat) (rest : List Char) : Except Failure (Number × List Char) :=
  if !negative then .ok (.int n, rest)
  else if n = 0 || Nat.pow 2 63 < n then finish true n 0 rest
  else .ok (.int (-n), rest)

/-- A number whose sign has been read. -/
def number (negative : Bool) (cs : List Char) : Except Failure (Number × List Char) :=
  match cs with
  | [] => before .endInValue []
  | c :: tail =>
    if !c.isDigit then atNext .invalidNumber cs
    else
      let whole := if c == '0' then ['0'] else cs.takeWhile Char.isDigit
      let rest := if c == '0' then tail else cs.dropWhile Char.isDigit
      let (n, taken) := absorb 0 whole
      let dropped : Int := whole.length - taken
      match rest with
      | '.' :: rest =>
        let fraction := rest.takeWhile Char.isDigit
        let after := rest.dropWhile Char.isDigit
        if fraction.isEmpty then
          if rest.isEmpty then before .endInValue [] else atNext .invalidNumber rest
        else
          let (m, taken) := absorb n fraction
          let k := dropped - taken
          match after with
          | 'e' :: after => exponentPart negative m k after
          | 'E' :: after => exponentPart negative m k after
          | _ => finish negative m k after
      | 'e' :: rest => exponentPart negative n dropped rest
      | 'E' :: rest => exponentPart negative n dropped rest
      | d :: _ =>
        if c == '0' && d.isDigit then atNext .invalidNumber rest
        else if dropped = 0 then integer negative n rest
        else finish negative n dropped rest
      | [] => if dropped = 0 then integer negative n [] else finish negative n dropped []

/-- The letters of a literal behind its first one. -/
def literal : List Char → List Char → Except Failure (List Char)
  | [], cs => .ok cs
  | _ :: _, [] => before .endInValue []
  | e :: es, c :: cs => if c = e then literal es cs else atNext .expectedLiteral (c :: cs)

/-- The members of an object in ascending key order; of one key the last stays. -/
def arrange (members : Members) : Members := (Dict.ofList members).entries

mutual

/-- A value, blanks before it included, with at most `depth` levels of lists and objects. -/
def value : Nat → Nat → List Char → Except Failure (Json × List Char)
  | 0, _, cs => atNext .endInValue cs
  | fuel + 1, depth, cs =>
    match skip cs with
    | [] => before .endInValue []
    | '"' :: rest => do
      let (s, rest) ← string rest
      .ok (.str s, rest)
    | '[' :: rest =>
      match depth with
      | 0 => atNext .tooDeep ('[' :: rest)
      | depth + 1 =>
        match skip rest with
        | [] => before .endInList []
        | ']' :: rest => .ok (.arr [], rest)
        | rest => do
          let (elements, rest) ← elements fuel depth rest
          .ok (.arr elements, rest)
    | '{' :: rest =>
      match depth with
      | 0 => atNext .tooDeep ('{' :: rest)
      | depth + 1 =>
        match skip rest with
        | [] => before .endInObject []
        | '}' :: rest => .ok (.obj [], rest)
        | '"' :: rest => do
          let (members, rest) ← members fuel depth rest
          .ok (.obj (arrange members), rest)
        | rest => atNext .keyNotString rest
    | 'n' :: rest => do
      let rest ← literal ['u', 'l', 'l'] rest
      .ok (.null, rest)
    | 't' :: rest => do
      let rest ← literal ['r', 'u', 'e'] rest
      .ok (.bool true, rest)
    | 'f' :: rest => do
      let rest ← literal ['a', 'l', 's', 'e'] rest
      .ok (.bool false, rest)
    | '-' :: rest => do
      let (n, rest) ← number true rest
      .ok (.num n, rest)
    | c :: rest =>
      if c.isDigit then do
        let (n, rest) ← number false (c :: rest)
        .ok (.num n, rest)
      else atNext .expectedValue (c :: rest)

/-- One or more elements up to the closing bracket. -/
def elements : Nat → Nat → List Char → Except Failure (List Json × List Char)
  | 0, _, cs => atNext .endInValue cs
  | fuel + 1, depth, cs => do
    let (v, rest) ← value fuel depth cs
    match skip rest with
    | [] => before .endInList []
    | ']' :: rest => .ok ([v], rest)
    | ',' :: rest =>
      match skip rest with
      | [] => before .endInValue []
      | ']' :: rest => atNext .trailingComma (']' :: rest)
      | rest => do
        let (vs, rest) ← elements fuel depth rest
        .ok (v :: vs, rest)
    | rest => atNext .expectedListSeparator rest

/-- One or more members up to the closing brace; the opening quote of the first key has been
read. -/
def members : Nat → Nat → List Char → Except Failure (Members × List Char)
  | 0, _, cs => atNext .endInValue cs
  | fuel + 1, depth, cs => do
    let (key, rest) ← string cs
    match skip rest with
    | [] => before .endInObject []
    | ':' :: rest => do
      let (v, rest) ← value fuel depth rest
      match skip rest with
      | [] => before .endInObject []
      | '}' :: rest => .ok ([(key, v)], rest)
      | ',' :: rest =>
        match skip rest with
        | [] => before .endInValue []
        | '"' :: rest => do
          let (more, rest) ← members fuel depth rest
          .ok ((key, v) :: more, rest)
        | '}' :: rest => atNext .trailingComma ('}' :: rest)
        | rest => atNext .keyNotString rest
      | rest => atNext .expectedObjectSeparator rest
    | rest => atNext .expectedColon rest

end

/-- A whole text as one value of at most `depth` levels. -/
def document (depth : Nat) (cs : List Char) : Except Failure Json := do
  let (v, rest) ← value (cs.length + 1) depth cs
  match skip rest with
  | [] => .ok v
  | rest => atNext .trailingCharacters rest

end Parser

/-- The greatest nesting of lists and objects in a text. -/
def maxDepth : Nat := 127

/-- Reads a text with at most `depth` levels. -/
def parseDeep (depth : Nat) (text : String) : Except SyntaxError Json :=
  (Parser.document depth text.toList).mapError (·.inText text.toList)

def parse (text : String) : Except SyntaxError Json := parseDeep maxDepth text

end Flowline.Json
