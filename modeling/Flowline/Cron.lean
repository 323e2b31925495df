import Flowline.Text.Blank
import Flowline.Text.Digits
/-!
What the checks need to know about a cron expression: its shape, and how often it fires.
-/
namespace Flowline.Cron

/-- Five fields from minutes on, or six from seconds on. -/
def isPlausible (expr : String) : Bool :=
  let n := (Text.words expr).length
  n == 5 || n == 6

/-- The minutes field of a plausible expression. -/
def minuteField (expr : String) : Option String :=
  match Text.words expr with
  | [minute, _, _, _, _] => some minute
  | [_, minute, _, _, _, _] => some minute
  | _ => none

/-- The seconds field of an expression with six fields. -/
def secondsField (expr : String) : Option String :=
  match Text.words expr with
  | [seconds, _, _, _, _, _] => some seconds
  | _ => none

/-- What follows `*/` in a field. -/
def stepText (field : String) : Option (List Char) :=
  match field.toList with
  | '*' :: '/' :: rest => some rest
  | _ => none

/-- The `N` of a minutes field of the form `*/N`: a number below `2 ^ 32`, with an optional plus
sign. -/
def minuteStep (expr : String) : Option Nat :=
  ((minuteField expr).bind stepText).bind (Text.readNat (Nat.pow 2 32))

/-- The minutes field is `*` or `*/1`. -/
def firesEveryMinute (expr : String) : Bool :=
  match minuteField expr with
  | some field => field == "*" || field == "*/1"
  | none => false

/-- There is a seconds field, and it is `*` or has a step. -/
def firesWithinMinute (expr : String) : Bool :=
  match secondsField expr with
  | some field => field == "*" || (stepText field).isSome
  | none => false

end Flowline.Cron
