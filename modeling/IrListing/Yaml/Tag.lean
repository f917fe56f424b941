import IrListing.Text.Numeral
import IrListing.Yaml.Scalar

namespace IrListing.Yaml

structure Tag where
  handle : Option Text
  rest : Text
  deriving DecidableEq, Repr

inductive Directive
  | version (major minor : Nat)
  | handle (name lead : Text)
  | unknown
  deriving DecidableEq, Repr

def isNameChar (c : Char) : Bool := c.isAlphanum || c = '-' || c = '_'

def isTagChar (c : Char) : Bool := c.isAlphanum || c ∈ "-;/?:@&=+$,_.!~*'()[]%".toList

def tagBytes? : Text → Option (List UInt8)
  | [] => some []
  | '%' :: a :: b :: t => do
    let high ← hexDigit? a
    let low ← hexDigit? b
    let more ← tagBytes? t
    return (16 * high + low).toUInt8 :: more
  | c :: t => if c = '%' then none else (tagBytes? t).map (c.toNat.toUInt8 :: ·)

def tagText? (c : Cursor) : Option (Text × Cursor) :=
  let (row, c) := c.takeWhile isTagChar
  if row = [] then none else ((tagBytes? row).bind Text.ofBytes?).map fun t => (t, c)

def handle? (c : Cursor) : Option (Text × Cursor) :=
  if c.peek ≠ '!' then none
  else if c.peekAt 1 = ' ' then some (['!'], c.next)
  else
    let (name, d) := c.next.takeWhile isNameChar
    if d.peek = '!' then some ('!' :: name ++ ['!'], d.next) else none

def tagHandle? (c : Cursor) : Option (Text × Cursor) :=
  if '!' ∈ c.next.rest.takeWhile fun x => x ≠ ' ' && !endsLine x then handle? c
  else some (['!'], c.next)

def tag? (c : Cursor) : Option (Tag × Cursor) :=
  let read? : Option (Tag × Cursor) :=
    if c.peekAt 1 = '<' then do
      let (t, c) ← tagText? (c.forward 2)
      if c.peek = '>' then some (⟨none, t⟩, c.next) else none
    else if endsWord (c.peekAt 1) then some (⟨none, ['!']⟩, c.next)
    else do
      let (handle, c) ← tagHandle? c
      let (t, c) ← tagText? c
      return (⟨some handle, t⟩, c)
  read?.filter fun (_, c) => c.peek = ' ' || endsLine c.peek

def versionNumber (c : Cursor) : Except Problem (Nat × Cursor) :=
  let (digits, c) := c.takeWhile Char.isDigit
  if digits = [] then .error (c.problem .malformed)
  else if Text.maxDigits < digits.length then .error (c.problem (.fault .outOfRange))
  else .ok (Text.digitsValue digits, c)

def version (c : Cursor) : Except Problem (Directive × Cursor) := do
  let (major, c) ← versionNumber c.skipSpaces
  if c.peek ≠ '.' then .error .malformed
  else
    let (minor, c) ← versionNumber c.next
    return (.version major minor, c)

def handleDirective? (c : Cursor) : Option (Directive × Cursor) := do
  let (name, c) ← handle? c.skipSpaces
  if c.peek ≠ ' ' then none
  else
    let (lead, c) ← tagText? c.skipSpaces
    return (.handle name lead, c)

def directive (c : Cursor) : Except Problem (Directive × Cursor) := do
  let closed (c : Cursor) : Bool := c.peek = ' ' || endsLine c.peek
  let (name, c) := c.next.takeWhile isNameChar
  if name = [] || !closed c then .error .malformed
  else
    let (d, c) ←
      if name = "YAML".toList then version c
      else if name = "TAG".toList then orMalformed (handleDirective? c)
      else .ok (.unknown, c.skipWhile (!endsLine ·))
    if !closed c then .error .malformed
    else (orMalformed (skipLineEnd? c)).map fun c => (d, c)

end IrListing.Yaml
