import IrListing.Assoc
import IrListing.Yaml.Date
import IrListing.Yaml.Number

namespace IrListing.Yaml

inductive Kind
  | null
  | bool
  | whole
  | fraction
  | binary
  | date
  | text
  | sequence
  | mapping
  | set
  | pairs
  | merge
  | value
  | unknown
  deriving DecidableEq, Repr

namespace Kind

def isCollection : Kind → Bool
  | .sequence | .mapping | .set | .pairs => true
  | _ => false

def isScalar : Kind → Bool
  | .null | .bool | .whole | .fraction | .binary | .date | .text => true
  | _ => false

def tagLead : Text := "tag:yaml.org,2002:".toList

def names : Assoc Text Kind :=
  [("null".toList, .null), ("bool".toList, .bool), ("int".toList, .whole),
   ("float".toList, .fraction), ("binary".toList, .binary), ("timestamp".toList, .date),
   ("str".toList, .text), ("seq".toList, .sequence), ("map".toList, .mapping),
   ("set".toList, .set), ("omap".toList, .pairs), ("pairs".toList, .pairs),
   ("merge".toList, .merge), ("value".toList, .value)]

def ofTag (tag : Text) : Kind := ((Text.after? tagLead tag).bind names.get?).getD .unknown

end Kind

def truths : Assoc Text Bool :=
  ["yes", "true", "on"].map (fun w : String => (w.toList, true)) ++
    ["no", "false", "off"].map (fun w : String => (w.toList, false))

def isTruthWord (t : Text) : Bool :=
  let small := t.map Char.toLower
  (truths.get? small).isSome && (t.tail = small.tail || t = small.map Char.toUpper)

def isVoidWord (t : Text) : Bool :=
  t ∈ ["~".toList, "null".toList, "Null".toList, "NULL".toList, []]

def withoutFinalBreak (t : Text) : Text := if t.getLast? = some '\n' then t.dropLast else t

def Kind.implied (t : Text) : Kind :=
  if t = ['\n'] then .text
  else
    let t := withoutFinalBreak t
    if isTruthWord t then .bool
    else if isFraction t then .fraction
    else if isWhole t then .whole
    else if t = ['<', '<'] then .merge
    else if isVoidWord t then .null
    else if isDate t then .date
    else if t = ['='] then .value
    else if t ∈ [['!'], ['&'], ['*']] then .unknown
    else .text

end IrListing.Yaml
