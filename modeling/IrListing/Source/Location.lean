import IrListing.Text.Numeral

namespace IrListing.Source

structure Location where
  file : Option Text
  line : Option Int
  column : Option Int
  deriving DecidableEq, Repr

namespace Location

def isKnown (l : Location) : Bool := l.file.isSome || l.line.isSome

/-- The place as `file:line:column`, for a known one. An empty file name counts as unknown, and a
column is shown only behind a line. -/
def text? (l : Location) : Option Text :=
  if l.isKnown then
    let file := match l.file with
      | some (c :: name) => c :: name
      | _ => "<unknown>".toList
    some <| match l.line, l.column with
      | none, _ => file
      | some n, none => file ++ ':' :: Text.ofInt n
      | some n, some m => file ++ ':' :: Text.ofInt n ++ ':' :: Text.ofInt m
  else none

end Location

end IrListing.Source
