import Flowline.Json.Basic
import Flowline.Json.Printer
/-!
Reading typed values from JSON values. Members of an object are visited in their order, so the
first fault in that order is reported; members that are missing come after it, in the order of
declaration. A record may also be written as the list of its fields.
-/
namespace Flowline.Json

/-- Why a value does not have the expected shape. -/
inductive DecodeError where
  | missingField (name : String)
  | duplicateField (name : String)
  | unknownVariant (name : String) (known : List String)
  | wrongType (found : Json) (expected : String)
  | outOfRange (found : Json) (expected : String)
  | wrongLength (length : Nat) (expected : String)
  | noShapeFits (union : String)

/-- A value as messages name it. -/
def describe : Json → String
  | .null => "null"
  | .bool b => "boolean `" ++ toString b ++ "`"
  | .num (.int n) => "integer `" ++ toString n ++ "`"
  | .num (.float x) => "floating point `" ++ Number.Style.json.write x ++ "`"
  | .str s => "string " ++ Text.quoted s
  | .arr _ => "sequence"
  | .obj _ => "map"

/-- Names between backticks, as a choice. -/
def oneOf (names : List String) : String :=
  let ticked := names.map fun n => "`" ++ n ++ "`"
  match ticked with
  | [a] => a
  | [a, b] => a ++ " or " ++ b
  | _ => "one of " ++ String.intercalate ", " ticked

def DecodeError.message : DecodeError → String
  | missingField name => "missing field `" ++ name ++ "`"
  | duplicateField name => "duplicate field `" ++ name ++ "`"
  | unknownVariant name known => "unknown variant `" ++ name ++ "`, expected " ++ oneOf known
  | wrongType found expected => "invalid type: " ++ describe found ++ ", expected " ++ expected
  | outOfRange found expected => "invalid value: " ++ describe found ++ ", expected " ++ expected
  | wrongLength length expected =>
    "invalid length " ++ toString length ++ ", expected " ++ expected
  | noShapeFits union => "data did not match any variant of untagged enum " ++ union

namespace Decode

abbrev Decoder (α : Type) := Json → Except DecodeError α

def any : Decoder Json := .ok

def text : Decoder String
  | .str s => .ok s
  | v => .error (.wrongType v "a string")

/-- Null stands for no value. -/
def option (f : Decoder α) : Decoder (Option α)
  | .null => .ok none
  | v => (f v).map some

def list (f : Decoder α) : Decoder (List α)
  | .arr elements => elements.mapM f
  | v => .error (.wrongType v "a sequence")

def object : Decoder Members
  | .obj members => .ok members
  | v => .error (.wrongType v "a map")

/-- An integer from zero up to but without `bound`. -/
def natBelow (bound : Nat) (name : String) : Decoder Nat
  | .num (.int n) =>
    if 0 ≤ n ∧ n < bound then .ok n.toNat else .error (.outOfRange (.num (.int n)) name)
  | v => .error (.wrongType v name)

def word64 : Decoder Nat := natBelow (Nat.pow 2 64) "usize"
def word32 : Decoder Nat := natBelow (Nat.pow 2 32) "u32"

/-- The values of an object, each read with `f`. -/
def dict (f : Decoder α) : Decoder (Dict α) := fun v => do
  let members ← object v
  let entries ← members.mapM fun m => do .ok (m.1, ← f m.2)
  .ok (Dict.ofList entries)

/-- A constant by its name, also written as an object with the name as only key. -/
def constant (table : List (String × α)) : Decoder α
  | .str name => named name
  | .obj [(name, v)] => do
    let a ← named name
    match v with
    | .null => .ok a
    | v => .error (.wrongType v "unit")
  | .obj members => .error (.outOfRange (.obj members) "map with a single key")
  | v => .error (.wrongType v "string or map")
where
  named (name : String) : Except DecodeError α :=
    match assoc name table with
    | some a => .ok a
    | none => .error (.unknownVariant name (table.map (·.1)))

/-- Fills the slot of a field, which must be empty. -/
def fill (name : String) (slot : Option α) (value : Except DecodeError α) :
    Except DecodeError (Option α) :=
  match slot with
  | some _ => .error (.duplicateField name)
  | none => value.map some

/-- A record type `α` that is read by way of `δ`, which holds the fields met so far. -/
structure Record (δ α : Type) where
  name : String
  fields : List String
  start : δ
  put : δ → String → Json → Except DecodeError δ
  /-- The record, or the name of a field that has no value and needs one. -/
  build : δ → Except String α

/-- `1 element`, `2 elements`. -/
def elementCount (n : Nat) : String := if n = 1 then "1 element" else toString n ++ " elements"

/-- Fields beyond the last one of a record of `count` fields. A `buffered` value has been copied
out of its document before it is read. -/
def tooLong (buffered : Bool) (length count : Nat) : DecodeError :=
  .wrongLength length
    (if buffered then elementCount count ++ " in sequence" else "fewer elements in array")

def Record.ofMembers (r : Record δ α) (members : Members) : Except DecodeError α := do
  let d ← members.foldlM (fun d m => r.put d m.1 m.2) r.start
  (r.build d).mapError .missingField

def Record.ofElements (r : Record δ α) (buffered : Bool) (elements : List Json) :
    Except DecodeError α := do
  let d ← (r.fields.zip elements).foldlM (fun d m => r.put d m.1 m.2) r.start
  let a ← (r.build d).mapError fun _ => .wrongLength elements.length
    ("struct " ++ r.name ++ " with " ++ elementCount r.fields.length)
  if r.fields.length < elements.length then
    .error (tooLong buffered elements.length r.fields.length)
  else .ok a

def Record.decode (r : Record δ α) (buffered : Bool) : Decoder α
  | .obj members => r.ofMembers members
  | .arr elements => r.ofElements buffered elements
  | v => .error (.wrongType v ("struct " ++ r.name))

/-- A field that must have a value. -/
def required (name : String) : Option α → Except String α
  | some a => .ok a
  | none => .error name

/-- The place of `name` in a list of names. -/
def indexOf (name : String) : List String → Option Nat
  | [] => none
  | n :: rest => if n = name then some 0 else (indexOf name rest).map (· + 1)

/-- Which of the variants a tag names. A buffered tag may also be the number of a variant. -/
def tag (buffered : Bool) (names : List String) : Decoder Nat
  | .str s =>
    match indexOf s names with
    | some i => .ok i
    | none => .error (.unknownVariant s names)
  | .num (.int n) =>
    if buffered && decide (0 ≤ n) then
      if n < names.length then .ok n.toNat
      else .error (.outOfRange (.num (.int n))
        ("variant index 0 <= i < " ++ toString names.length))
    else .error (.wrongType (.num (.int n)) "variant identifier")
  | v => .error (.wrongType v "variant identifier")

/-- The variant of a union that is an object with the member `type`, or a list whose first element
is the tag. -/
def tagOf (buffered : Bool) (union : String) (names : List String) : Decoder Nat
  | .obj members =>
    match assoc "type" members with
    | some t => tag buffered names t
    | none => .error (.missingField "type")
  | .arr [] => .error (.missingField "type")
  | .arr (t :: _) => tag buffered names t
  | v => .error (.wrongType v ("internally tagged enum " ++ union))

/-- What a tagged value holds beside its tag. -/
def content : Json → Json
  | .arr (_ :: rest) => .arr rest
  | v => v

/-- A list, bare or as the member `data` of an object. -/
def listing (f : Decoder α) : Decoder (List α) := fun v =>
  match list f v with
  | .ok l => .ok l
  | .error _ =>
    match (v.member? "data").map (list f) with
    | some (.ok l) => .ok l
    | _ => .error (.noShapeFits "Listing")

end Decode
end Flowline.Json
