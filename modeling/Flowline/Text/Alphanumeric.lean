import Flowline.Text.Alphanumeric.Table
import Flowline.Text.Ranges
/-!
Letters and numbers of every script.
-/
namespace Flowline.Text

def isAlphanumeric (c : Char) : Bool := inRanges alphanumericRanges c.val.toNat

end Flowline.Text
