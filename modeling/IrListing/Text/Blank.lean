import IrListing.Text.Basic
import IrListing.Text.Range

namespace IrListing.Text

def spaceRanges : List (Nat × Nat) :=
  [(0x9, 0xd), (0x1c, 0x20), (0x85, 0x85), (0xa0, 0xa0), (0x1680, 0x1680), (0x2000, 0x200a),
   (0x2028, 0x2029), (0x202f, 0x202f), (0x205f, 0x205f), (0x3000, 0x3000)]

def isSpace (c : Char) : Bool := inRanges spaceRanges c.toNat

def isBlank (t : Text) : Bool := t.all isSpace

def trimLeft (t : Text) : Text := t.dropWhile isSpace

def trimRight (t : Text) : Text := (t.reverse.dropWhile isSpace).reverse

def trim (t : Text) : Text := trimRight (trimLeft t)

theorem trimLeft_eq_nil_iff {t : Text} : trimLeft t = [] ↔ isBlank t = true := by
  induction t with
  | nil => simp [trimLeft, isBlank]
  | cons c t ih => by_cases h : isSpace c <;> simp_all [trimLeft, isBlank]

end IrListing.Text
