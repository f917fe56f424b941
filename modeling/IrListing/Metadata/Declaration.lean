import IrListing.Metadata.Node
import IrListing.Metadata.Options

namespace IrListing.Metadata

open Text

def label? : Text → Option (Text × Text)
  | '!' :: t => (run? isDigit t).map fun (s, r) => ('!' :: s, r)
  | _ => none

def optional (lead t : Text) : Text := (after? lead t).getD t

def assignment? (t : Text) : Option (Text × Text) := do
  let (id, r) ← label? t
  let r ← after? " = ".toList r
  let r ← after? ['!'] (optional "distinct ".toList r)
  return (id, r)

def beforeLast? (x : Char) : Text → Option Text
  | [] => none
  | c :: t =>
    match beforeLast? x t with
    | some s => some (c :: s)
    | none => if c = x then some [] else none

/-- A declaration at the start of the text. Its body goes to the last closing parenthesis of the
line, and a key given twice takes the later value. -/
def declaration? (t : Text) : Option Node := do
  let (id, r) ← assignment? t
  let r ← after? "DI".toList r
  let (kind, r) ← run? Char.isAlpha r
  let r ← after? ['('] r
  let body ← beforeLast? ')' (r.takeWhile (· ≠ '\n'))
  return ⟨id, kind, Assoc.ofList (options body)⟩

def attachment? : Text → Option Text
  | [] => none
  | c :: t =>
    match (after? "!dbg ".toList (c :: t)).bind label? with
    | some (id, _) => some id
    | none => attachment? t

def unquoted (t : Text) : Text :=
  match t with
  | '"' :: c :: rest => if (c :: rest).getLast? = some '"' then (c :: rest).dropLast else t
  | _ => t

end IrListing.Metadata
