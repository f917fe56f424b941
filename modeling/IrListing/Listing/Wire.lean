import IrListing.Json
import IrListing.Listing.Basic

namespace IrListing

def Json.optionalField (key : Text) : Option Json → List (Text × Json)
  | some value => [(key, value)]
  | none => []

def Source.Location.json (l : Location) : Json :=
  .object <|
    [("file".toList, Json.ofText? l.file), ("line".toList, Json.ofInt? l.line)] ++
      Json.optionalField "column".toList (l.column.map .number)

namespace Listing

def Line.json (l : Line) : Json :=
  .object <|
    ("text".toList, .text l.text) :: Json.optionalField "scope".toList (l.scope.map .text) ++
      Json.optionalField "source".toList (l.source.map (·.json))

def Result.json (r : Result) : Json :=
  .object <|
    [("asm".toList, .array (r.lines.map (·.json))),
     ("labelDefinitions".toList, .object (r.labels.map fun (name, n) => (name, .number n)))] ++
      Json.optionalField "languageId".toList (r.language.map .text)

end Listing

end IrListing
