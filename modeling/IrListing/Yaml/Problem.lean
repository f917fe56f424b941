namespace IrListing.Yaml

inductive Fault
  | undecodable
  | outOfRange
  | tooGreat
  | emptyNumber
  | unknownTruth
  | unreadableDate
  | nestedDate
  | tooDeep
  deriving DecidableEq, Repr

inductive Problem
  | malformed
  | fault (f : Fault)
  deriving DecidableEq, Repr

def orMalformed (x? : Option α) : Except Problem α := x?.elim (.error .malformed) .ok

end IrListing.Yaml
