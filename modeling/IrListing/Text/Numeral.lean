import IrListing.Text.Blank
import IrListing.Text.Digit

namespace IrListing.Text

def maxDigits : Nat := 4300

def isPadding (c : Char) : Bool := isSpace c && !inRanges [(0x1c, 0x1f)] c.toNat

def unpad (t : Text) : Text :=
  ((t.dropWhile isPadding).reverse.dropWhile isPadding).reverse

def groupedDigits? (digit : Char → Bool) : Text → Option Text
  | [] => none
  | [c] => if digit c then some [c] else none
  | c :: '_' :: t => if digit c then (groupedDigits? digit t).map (c :: ·) else none
  | c :: t => if digit c then (groupedDigits? digit t).map (c :: ·) else none

def splitSign : Text → Bool × Text
  | '-' :: t => (true, t)
  | '+' :: t => (false, t)
  | t => (false, t)

def signed (negative : Bool) (n : Nat) : Int := if negative then -(n : Int) else n

def integer? (t : Text) : Option Int :=
  let (negative, body) := splitSign (unpad t)
  match groupedDigits? isDigit body with
  | none => none
  | some digits =>
    if digits.length ≤ maxDigits then some (signed negative (digitsValue digits)) else none

def ofNat (n : Nat) : Text := Nat.toDigits 10 n

def ofInt : Int → Text
  | .ofNat n => ofNat n
  | .negSucc n => '-' :: ofNat (n + 1)

end IrListing.Text
