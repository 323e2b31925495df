import Flowline.Engine.Response
/-!
Addresses that requests go to, and why a request goes nowhere.
-/
namespace Flowline.Engine

def isSchemeChar (c : Char) : Bool := c.isAlphanum || c == '+' || c == '-' || c == '.'

/-- The scheme of an address. -/
def scheme? (address : String) : Option String :=
  let cs := address.toList
  match cs, cs.dropWhile isSchemeChar with
  | c :: _, ':' :: _ => if c.isAlpha then some (String.ofList (cs.takeWhile isSchemeChar)) else none
  | _, _ => none

/-- Why a request to an address that does not answer failed. -/
def Fault.unreachable (address : String) : Fault :=
  match scheme? address with
  | none => ⟨"builder error", false⟩
  | some "http" | some "https" => ⟨"error sending request for url (" ++ address ++ ")", false⟩
  | some _ => ⟨"builder error for url (" ++ address ++ ")", false⟩

end Flowline.Engine
