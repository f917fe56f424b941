import IrListing.Assoc
import IrListing.Source.Location

namespace IrListing.Listing

/-- A line with the scope attached to it, and the place that this scope stands for. -/
structure Line where
  text : Text
  scope : Option Text := none
  source : Option Source.Location := none
  deriving DecidableEq, Repr

structure Result where
  lines : List Line := []
  labels : Assoc Text Int := []
  language : Option Text := none
  deriving DecidableEq, Repr

def blank : Line := { text := [] }

def marker : Line := { text := "[truncated; too many lines]".toList }

def language : Text := "llvm-ir".toList

def defaultCap : Int := 5000

end IrListing.Listing
