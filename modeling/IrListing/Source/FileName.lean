import IrListing.Text.Basic

namespace IrListing.Source

open Text

def endsInExample : Text → Bool
  | [] => false
  | c :: t =>
    (match after? "example.".toList (c :: t) with
      | some rest => rest ≠ [] && '/' ∉ rest
      | none => false) || endsInExample t

def isStandIn (name : Text) : Bool :=
  has "<stdin>".toList name || has "<source>".toList name || name = ['-'] || name = ['-', '\n'] ||
    endsInExample name

end IrListing.Source
