import Flowline.Draft.Commas
import Flowline.Draft.Error
import Flowline.Json.Parser
/-!
From the text of a drafter to a candidate: the span from the first opening to the last closing
brace, read strictly, or else without its trailing commas.
-/
namespace Flowline.Draft

/-- The text from its first opening to its last closing brace, if they stand in this order. -/
def objectSpan (cs : List Char) : Option (List Char) :=
  let span := ((cs.dropWhile (· != '{')).reverse.dropWhile (· != '}')).reverse
  if span.isEmpty then none else some span

/-- Reads a span as JSON. -/
def readSpan (span : List Char) : Except Json.SyntaxError Json := Json.parse (String.ofList span)

/-- The object in the text; the fault reported is that of the first reading. -/
def candidate (raw : String) : Except DraftError Json :=
  match objectSpan raw.toList with
  | none => .error (.noObject raw)
  | some span =>
    match readSpan span with
    | .ok v => .ok v
    | .error first =>
      match readSpan (Commas.strip span) with
      | .ok v => .ok v
      | .error _ => .error (.notJson first.message raw)

end Flowline.Draft
