import IrListing.Assoc
import IrListing.Yaml.Tag

/-! The tokens of a document. Indentation becomes tokens that open and close collections, and a key
without a sign of its own is marked when its colon comes. -/

namespace IrListing.Yaml

inductive Token
  | directive (d : Directive)
  | documentStart
  | documentEnd
  | blockSequence
  | blockMapping
  | blockEnd
  | flowSequence
  | flowSequenceEnd
  | flowMapping
  | flowMappingEnd
  | entry
  | comma
  | key
  | value
  | alias (name : Text)
  | anchor (name : Text)
  | tag (t : Tag)
  | scalar (plain : Bool) (t : ScalarText)
  | broken (p : Problem)
  deriving DecidableEq, Repr

structure KeyStart where
  tokens : Nat
  required : Bool
  line : Nat
  column : Nat
  offset : Nat

structure Lexer where
  place : Cursor
  tokens : List Token := []
  flow : Nat := 0
  indent : Int := -1
  outer : List Int := []
  keyAllowed : Bool := true
  keys : Assoc Nat KeyStart := []

namespace Lexer

def emit (t : Token) (l : Lexer) : Lexer := { l with tokens := t :: l.tokens }

def goTo (c : Cursor) (l : Lexer) : Lexer := { l with place := c }

def skipBlank : Nat → Lexer → Lexer
  | 0, l => l
  | n + 1, l =>
    let c := l.place.skipSpaces
    let c := if c.peek = '#' then c.skipWhile (!endsLine ·) else c
    if isLineBreak c.peek then
      skipBlank n { l with place := c.lineBreak.2, keyAllowed := l.keyAllowed || l.flow = 0 }
    else l.goTo c

def dropStaleKeys (l : Lexer) : Except Problem Lexer :=
  let stale (k : KeyStart) : Bool := k.line ≠ l.place.line || 1024 < l.place.offset - k.offset
  if l.keys.any fun (_, k) => stale k && k.required then .error .malformed
  else .ok { l with keys := l.keys.filter fun (_, k) => !stale k }

def unwind (column : Int) (l : Lexer) : Lexer :=
  if l.flow ≠ 0 then l
  else
    let closed := (l.indent :: l.outer).takeWhile (column < ·)
    match (l.indent :: l.outer).drop closed.length with
    | indent :: outer =>
      { l with tokens := closed.map (fun _ => .blockEnd) ++ l.tokens, indent, outer }
    | [] => l

def openBlock (column : Nat) (t : Token) (l : Lexer) : Lexer :=
  if l.indent < column then
    { l with tokens := t :: l.tokens, indent := column, outer := l.indent :: l.outer }
  else l

def dropKey (l : Lexer) : Except Problem Lexer :=
  match l.keys.get? l.flow with
  | some k => if k.required then .error .malformed else .ok { l with keys := l.keys.erase l.flow }
  | none => .ok l

def saveKey (l : Lexer) : Except Problem Lexer :=
  if l.keyAllowed then do
    let l ← l.dropKey
    return { l with keys := l.keys.insert l.flow {
      tokens := l.tokens.length
      required := l.flow = 0 && l.indent = l.place.column
      line := l.place.line
      column := l.place.column
      offset := l.place.offset } }
  else .ok l

def openFlow (t : Token) (l : Lexer) : Except Problem Lexer := do
  let l ← l.saveKey
  return { l with
    tokens := t :: l.tokens, flow := l.flow + 1, keyAllowed := true, place := l.place.next }

def closeFlow (t : Token) (l : Lexer) : Except Problem Lexer := do
  let l ← l.dropKey
  return { l with
    tokens := t :: l.tokens, flow := l.flow - 1, keyAllowed := false, place := l.place.next }

def comma (l : Lexer) : Except Problem Lexer := do
  let l ← l.dropKey
  return { l with tokens := .comma :: l.tokens, keyAllowed := true, place := l.place.next }

def sign (collection t : Token) (allowed : Bool) (l : Lexer) : Except Problem Lexer := do
  let l ← if l.flow ≠ 0 then .ok l
    else if l.keyAllowed then .ok (l.openBlock l.place.column collection)
    else .error .malformed
  let l ← l.dropKey
  return { l with tokens := t :: l.tokens, keyAllowed := allowed, place := l.place.next }

def insertAt (count : Nat) (ts : List Token) (l : Lexer) : Lexer :=
  let later := l.tokens.length - count
  { l with tokens := l.tokens.take later ++ ts.reverse ++ l.tokens.drop later }

def colon (l : Lexer) : Except Problem Lexer := do
  let l ← match l.keys.get? l.flow with
    | some k =>
      let l := { l with keys := l.keys.erase l.flow, keyAllowed := false }
      if l.flow = 0 && l.indent < (k.column : Int) then
        let l := { l with indent := k.column, outer := l.indent :: l.outer }
        .ok (l.insertAt k.tokens [.blockMapping, .key])
      else .ok (l.insertAt k.tokens [.key])
    | none =>
      if l.flow ≠ 0 then ({ l with keyAllowed := false } : Lexer).dropKey
      else if l.keyAllowed then (l.openBlock l.place.column .blockMapping).dropKey
      else .error .malformed
  return (l.emit .value).goTo l.place.next

def keyable (read : Cursor → Except Problem (Token × Cursor)) (l : Lexer) :
    Except Problem Lexer := do
  let l ← l.saveKey
  let (t, c) ← read l.place
  return { l with tokens := t :: l.tokens, keyAllowed := false, place := c }

def anchorName (c : Cursor) : Except Problem (Text × Cursor) :=
  let (name, c) := c.next.takeWhile isNameChar
  if name ≠ [] && (endsWord c.peek || c.peek ∈ "?:,]\x7d%@`".toList) then .ok (name, c)
  else .error .malformed

def outermost (read : Cursor → Except Problem (Token × Cursor)) (l : Lexer) :
    Except Problem Lexer := do
  let l ← (l.unwind (-1)).dropKey
  let (t, c) ← read l.place
  return { l with tokens := t :: l.tokens, keyAllowed := false, place := c }

def blockScalarToken (n : Nat) (fold : Bool) (l : Lexer) : Except Problem Lexer := do
  let l ← l.dropKey
  let (t, c) ← orMalformed (blockScalar? fold l.indent n l.place.next)
  return { l.emit (.scalar false ⟨t, true⟩) with keyAllowed := true, place := c }

def plainToken (n : Nat) (l : Lexer) : Except Problem Lexer := do
  let l ← l.saveKey
  let (t, broken, c) := plain (l.flow ≠ 0) (l.indent + 1).toNat n [] false l.place
  return { l.emit (.scalar true ⟨t, true⟩) with keyAllowed := broken, place := c }

def quotedToken (n : Nat) (double : Bool) (l : Lexer) : Except Problem Lexer :=
  l.keyable fun c => (quotedScalar double n c.next).map fun (t, c) => (.scalar false t, c)

def startsPlain (l : Lexer) : Bool :=
  let x := l.place.peek
  !(endsWord x || x ∈ "-?:,[]\x7b\x7d#&*!|>'\"%@`".toList) ||
    (!endsWord (l.place.peekAt 1) && (x = '-' || l.flow = 0 && (x = '?' || x = ':')))

def token (n : Nat) (l : Lexer) : Except Problem Lexer :=
  let c := l.place
  let x := c.peek
  let signEnds := endsWord (c.peekAt 1)
  if x = '%' && c.column = 0 then
    l.outermost fun c => (directive c).map fun (d, c) => (.directive d, c)
  else if c.column = 0 && c.atMarks '-' then
    l.outermost fun c => .ok (.documentStart, c.forward 3)
  else if c.column = 0 && c.atMarks '.' then
    l.outermost fun c => .ok (.documentEnd, c.forward 3)
  else if x = '[' then l.openFlow .flowSequence
  else if x = '\x7b' then l.openFlow .flowMapping
  else if x = ']' then l.closeFlow .flowSequenceEnd
  else if x = '\x7d' then l.closeFlow .flowMappingEnd
  else if x = ',' then l.comma
  else if x = '-' && signEnds then l.sign .blockSequence .entry true
  else if x = '?' && (l.flow ≠ 0 || signEnds) then l.sign .blockMapping .key (l.flow = 0)
  else if x = ':' && (l.flow ≠ 0 || signEnds) then l.colon
  else if x = '*' then l.keyable fun c => (anchorName c).map fun (t, c) => (.alias t, c)
  else if x = '&' then l.keyable fun c => (anchorName c).map fun (t, c) => (.anchor t, c)
  else if x = '!' then l.keyable fun c => (orMalformed (tag? c)).map fun (t, c) => (.tag t, c)
  else if (x = '|' || x = '>') && l.flow = 0 then l.blockScalarToken n (x = '>')
  else if x = '\'' || x = '"' then l.quotedToken n (x = '"')
  else if l.startsPlain then l.plainToken n
  else .error .malformed

def step (bound : Nat) (l : Lexer) : Except Problem (Bool × Lexer) := do
  let l := (← l.dropStaleKeys).skipBlank bound
  l.place.look
  let l ← l.dropStaleKeys
  let l := l.unwind l.place.column
  if l.place.peek = '\x00' then
    let l ← (l.unwind (-1)).dropKey
    return (true, l)
  else
    let l ← l.token bound
    l.place.look
    return (false, l)

/-- The tokens that are there before anything further is looked at: those ahead of each token that
may turn out to start a key. -/
def settled (l : Lexer) : List Token :=
  let fresh := match l.dropStaleKeys with
    | .ok l => l.keys
    | .error _ => l.keys
  l.tokens.reverse.take (fresh.foldl (fun n (_, k) => min n k.tokens) l.tokens.length)

def run (bound : Nat) : Nat → Lexer → List Token
  | 0, _ => [.broken .malformed]
  | n + 1, l =>
    match l.step bound with
    | .ok (true, l) => l.tokens.reverse
    | .ok (false, l) => run bound n l
    | .error p => l.settled ++ [.broken p]

end Lexer

def Token.ofPages (pages : Pages) : List Token :=
  let start := Cursor.ofPages pages
  let start := if start.peek = '\ufeff' then start.next else start
  let bound := pages.text.length + 2
  Lexer.run bound bound { place := start }

end IrListing.Yaml
