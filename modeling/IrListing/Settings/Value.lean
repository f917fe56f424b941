import IrListing.Assoc
import IrListing.Text.Decimal

namespace IrListing.Settings

/-- Data as it comes from outside, before it is known to describe anything. Of a map only the
entries with text keys are kept, since no other entry can describe a field. -/
inductive Value
  | null
  | bool (b : Bool)
  | whole (n : Int)
  | fraction (x : Binary)
  | text (t : Text)
  | garbled (t : Text)
  | bytes (bs : List UInt8)
  | list (items : List Value)
  | map (entries : List (Text × Value))
  | other
  deriving Inhabited

def Value.isVoid : Value → Bool
  | .null | .bool false | .whole 0 | .text [] | .bytes [] | .list [] | .map [] => true
  | .fraction x => x.whole? = some 0
  | _ => false

end IrListing.Settings
