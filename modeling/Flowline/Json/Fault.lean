/-!
What can be wrong with a JSON text, and where. Places count bytes of UTF-8.
-/
namespace Flowline.Json

/-- Why a text is not JSON. -/
inductive Fault where
  | endInList | endInObject | endInString | endInValue
  | expectedColon | expectedListSeparator | expectedObjectSeparator
  | expectedLiteral | expectedValue
  | invalidEscape | invalidNumber | numberOutOfRange | controlCharacter
  | keyNotString | loneSurrogate | unfinishedSurrogatePair
  | trailingComma | trailingCharacters | tooDeep
  deriving DecidableEq, Repr

def Fault.message : Fault → String
  | endInList => "EOF while parsing a list"
  | endInObject => "EOF while parsing an object"
  | endInString => "EOF while parsing a string"
  | endInValue => "EOF while parsing a value"
  | expectedColon => "expected `:`"
  | expectedListSeparator => "expected `,` or `]`"
  | expectedObjectSeparator => "expected `,` or `\x7d`"
  | expectedLiteral => "expected ident"
  | expectedValue => "expected value"
  | invalidEscape => "invalid escape"
  | invalidNumber => "invalid number"
  | numberOutOfRange => "number out of range"
  | controlCharacter => "control character (\\u0000-\\u001F) found while parsing a string"
  | keyNotString => "key must be a string"
  | loneSurrogate => "lone leading surrogate in hex escape"
  | unfinishedSurrogatePair => "unexpected end of hex escape"
  | trailingComma => "trailing comma"
  | trailingCharacters => "trailing characters"
  | tooDeep => "recursion limit exceeded"

/-- A fault `past` bytes into the unread rest of the text. -/
structure Failure where
  fault : Fault
  rest : List Char
  past : Nat
  deriving DecidableEq, Repr

/-- A fault in a text, with its line from one and the bytes of that line up to it. -/
structure SyntaxError where
  fault : Fault
  line : Nat
  column : Nat
  deriving DecidableEq, Repr

def SyntaxError.message (e : SyntaxError) : String :=
  e.fault.message ++ " at line " ++ toString e.line ++ " column " ++ toString e.column

def byteCount (cs : List Char) : Nat := cs.foldr (·.utf8Size + ·) 0

/-- Line and column after the first `bytes` bytes, reading on from `line` and `column`. -/
def locate (line column : Nat) : Nat → List Char → Nat × Nat
  | _, [] => (line, column)
  | bytes, c :: cs =>
    if bytes < c.utf8Size then (line, column + bytes)
    else if c = '\n' then locate (line + 1) 0 (bytes - c.utf8Size) cs
    else locate line (column + c.utf8Size) (bytes - c.utf8Size) cs

/-- The place of a failure in the text it arose from. -/
def Failure.inText (f : Failure) (text : List Char) : SyntaxError :=
  let (line, column) := locate 1 0 (byteCount text - byteCount f.rest + f.past) text
  ⟨f.fault, line, column⟩

end Flowline.Json
