import IrListing.Symbol.Mangled
import IrListing.Symbol.Tool

/-! Readable names in place of symbols. A symbol is replaced where it stands alone, that is with no
symbolic character on either side, and a name that has been put in is not looked at again. -/

namespace IrListing.Symbol

open Text

def standsAt (symbol t : Text) : Bool :=
  match after? symbol t with
  | some (c :: _) => !isSymbolic c
  | some [] => true
  | none => false

def longer : Option (Text × Text) → Text × Text → Option (Text × Text)
  | some best, e => if best.1.length < e.1.length then some e else some best
  | none, e => some e

def longestAt? (names : Assoc Text Text) (t : Text) : Option (Text × Text) :=
  (names.filter (standsAt ·.1 t)).foldl longer none

/-- `joined` says whether the character before is a symbolic one of the text as it was. -/
def renameFrom (names : Assoc Text Text) (joined : Bool) (t : Text) : Text :=
  match t with
  | [] => []
  | c :: rest =>
    match if joined then none else longestAt? names (c :: rest) with
    | some (symbol, name) =>
      name ++ renameFrom names (symbol.getLast?.any isSymbolic) (rest.drop (symbol.length - 1))
    | none => c :: renameFrom names (isSymbolic c) rest
termination_by t.length
decreasing_by
  · simp only [List.length_drop, List.length_cons]
    omega
  · simp

def rename (names : Assoc Text Text) (t : Text) : Text :=
  renameFrom (names.filter fun e => e.1 ≠ e.2) false t

end IrListing.Symbol
