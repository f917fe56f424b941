import IrListing.Text.Quoted
import IrListing.Yaml.Cursor

namespace IrListing.Yaml

def foldedBreaks? (spaces : Char → Bool) : Nat → Cursor → Option (Text × Cursor)
  | 0, _ => none
  | n + 1, c =>
    if c.atDocumentMarks then none
    else
      let c := c.skipWhile spaces
      if isLineBreak c.peek then
        (foldedBreaks? spaces n c.lineBreak.2).map fun (t, d) => (c.lineBreak.1 ++ t, d)
      else some ([], c)

def folded (first more : Text) : Text :=
  if first ≠ ['\n'] then first ++ more else if more = [] then [' '] else more

def plainRun (flow : Bool) : Text → Text
  | [] => []
  | x :: rest =>
    let after := rest.headD '\x00'
    if endsWord x || (x = ':' && (endsWord after || flow && after ∈ ",[]\x7b\x7d".toList)) ||
        (flow && x ∈ ",?[]\x7b\x7d".toList) then []
    else x :: plainRun flow rest

/-- The white space behind a plain run: the text it stands for, whether a line ended in it, and the
place behind it. Before document marks it stands for nothing. -/
def plainSpace (n : Nat) (c : Cursor) : Text × Bool × Cursor :=
  let (spaces, c) := c.takeWhile (· = ' ')
  if isLineBreak c.peek then
    let (first, d) := c.lineBreak
    if d.atDocumentMarks then ([], true, d)
    else
      match foldedBreaks? (· = ' ') n d with
      | some (more, d) => (folded first more, true, d)
      | none => ([], true, d.skipWhile fun x => x = ' ' || isLineBreak x)
  else (spaces, false, c)

def plain (flow : Bool) (indent : Nat) : Nat → Text → Bool → Cursor → Text × Bool × Cursor
  | 0, _, broken, c => ([], broken, c)
  | n + 1, space, broken, c =>
    let run := if c.peek = '#' then [] else plainRun flow c.rest
    if run = [] then ([], broken, c)
    else
      let (space', broken, c) := plainSpace n (c.forward run.length)
      if space' = [] || c.peek = '#' || (!flow && c.column < indent) then
        (space ++ run, broken, c)
      else
        let (t, broken, c) := plain flow indent n space' broken c
        (space ++ run ++ t, broken, c)

def simpleEscapes : List (Char × Char) :=
  [('0', '\x00'), ('a', '\x07'), ('b', '\x08'), ('t', '\t'), ('\t', '\t'), ('n', '\n'),
   ('v', '\x0b'), ('f', '\x0c'), ('r', '\r'), ('e', '\x1b'), (' ', ' '), ('"', '"'),
   ('\\', '\\'), ('/', '/'), ('N', '\x85'), ('_', '\xa0'), ('L', '\u2028'), ('P', '\u2029')]

def numberEscapes : List (Char × Nat) := [('x', 2), ('u', 4), ('U', 8)]

def hexDigit? (c : Char) : Option Nat :=
  if c.isDigit then some (c.toNat - '0'.toNat)
  else if 'a' ≤ c ∧ c ≤ 'f' then some (c.toNat - 'a'.toNat + 10)
  else if 'A' ≤ c ∧ c ≤ 'F' then some (c.toNat - 'A'.toNat + 10)
  else none

def hexValue? (t : Text) : Option Nat :=
  t.foldlM (fun n c => (hexDigit? c).map (16 * n + ·)) 0

structure ScalarText where
  chars : Text
  clean : Bool
  deriving DecidableEq, Repr

def ScalarText.append (s t : ScalarText) : ScalarText := ⟨s.chars ++ t.chars, s.clean && t.clean⟩

def ScalarText.ofCode (code : Nat) : Except Problem ScalarText :=
  if code.isValidChar then .ok ⟨[Char.ofNat code], true⟩
  else if code < 0x110000 then .ok ⟨['\ufffd'], false⟩
  else if code < 0x80000000 then .error (.fault .outOfRange)
  else .error (.fault .tooGreat)

def escaped (n : Nat) (c : Cursor) : Except Problem (ScalarText × Cursor) :=
  let y := c.peekAt 1
  match simpleEscapes.lookup y, numberEscapes.lookup y with
  | some z, _ => .ok (⟨[z], true⟩, c.forward 2)
  | none, some width =>
    let row := (c.rest.drop 2).take width
    match hexValue? row with
    | some code =>
      if row.length = width then
        (ScalarText.ofCode code).map fun t => (t, c.forward (2 + width))
      else .error .malformed
    | none => .error .malformed
  | none, none =>
    if isLineBreak y then
      (orMalformed (foldedBreaks? (fun s => s = ' ' || s = '\t') n c.next.lineBreak.2)).map
        fun (t, d) => (⟨t, true⟩, d)
    else .error .malformed

def quotedSpace? (n : Nat) (c : Cursor) : Option (Text × Cursor) :=
  let (spaces, c) := c.takeWhile fun s => s = ' ' || s = '\t'
  if isLineBreak c.peek then
    let (first, d) := c.lineBreak
    (foldedBreaks? (fun s => s = ' ' || s = '\t') n d).map
      fun (more, d) => (folded first more, d)
  else some (spaces, c)

def quotedScalar (double : Bool) : Nat → Cursor → Except Problem (ScalarText × Cursor)
  | 0, _ => .error .malformed
  | n + 1, c => do
    let x := c.peek
    if x = '\x00' then .error (c.problem .malformed)
    else if x = (if double then '"' else '\'') && (double || c.peekAt 1 ≠ '\'') then
      return (⟨[], true⟩, c.next)
    else
      let (t, c) ←
        if double && x = '\\' then escaped n c
        else if x = '\'' && !double then .ok (⟨[x], true⟩, c.forward 2)
        else if x = ' ' || x = '\t' || isLineBreak x then
          (orMalformed (quotedSpace? n c)).map fun (t, c) => (⟨t, true⟩, c)
        else .ok (⟨[x], true⟩, c.next)
      let (more, c) ← quotedScalar double n c
      return (t.append more, c)

inductive Chomp
  | strip
  | clip
  | keep
  deriving DecidableEq

def blockHeader? (c : Cursor) : Option ((Chomp × Option Nat) × Cursor) :=
  let chomp? (c : Cursor) : Option (Chomp × Cursor) :=
    if c.peek = '+' then some (.keep, c.next)
    else if c.peek = '-' then some (.strip, c.next)
    else none
  let indent? (c : Cursor) : Option (Nat × Cursor) :=
    if c.peek.isDigit then some (c.peek.toNat - '0'.toNat, c.next) else none
  let read : (Chomp × Option Nat) × Cursor :=
    match chomp? c with
    | some (chomp, d) =>
      match indent? d with
      | some (indent, d) => ((chomp, some indent), d)
      | none => ((chomp, none), d)
    | none =>
      match indent? c with
      | some (indent, d) =>
        match chomp? d with
        | some (chomp, d) => ((chomp, some indent), d)
        | none => ((.clip, some indent), d)
      | none => ((.clip, none), c)
  if read.1.2 = some 0 then none
  else if read.2.peek = ' ' || endsLine read.2.peek then some read
  else none

def skipLineEnd? (c : Cursor) : Option Cursor :=
  let c := c.skipSpaces
  let c := if c.peek = '#' then c.skipWhile (!endsLine ·) else c
  if endsLine c.peek then some c.lineBreak.2 else none

def leadingBreaks : Nat → Nat → Cursor → Text × Nat × Cursor
  | 0, widest, c => ([], widest, c)
  | n + 1, widest, c =>
    if c.peek = ' ' then leadingBreaks n (max widest c.next.column) c.next
    else if isLineBreak c.peek then
      let (t, widest, d) := leadingBreaks n widest c.lineBreak.2
      (c.lineBreak.1 ++ t, widest, d)
    else ([], widest, c)

def skipIndent (indent : Nat) (c : Cursor) : Cursor :=
  c.forward (min (indent - c.column) (c.rest.takeWhile (· = ' ')).length)

def blockBreaks (indent : Nat) : Nat → Cursor → Text × Cursor
  | 0, c => ([], c)
  | n + 1, c =>
    let c := skipIndent indent c
    if isLineBreak c.peek then
      let (t, d) := blockBreaks indent n c.lineBreak.2
      (c.lineBreak.1 ++ t, d)
    else ([], c)

def blockLines (fold : Bool) (indent : Nat) : Nat → Text → Cursor → Text × Text × Text × Cursor
  | 0, breaks, c => ([], [], breaks, c)
  | n + 1, breaks, c =>
    if c.column = indent && c.peek ≠ '\x00' then
      let indented := c.peek = ' ' || c.peek = '\t'
      let (row, c) := c.takeWhile (!endsLine ·)
      let (first, c) := c.lineBreak
      let (more, c) := blockBreaks indent n c
      if c.column = indent && c.peek ≠ '\x00' then
        let space :=
          if fold && first = ['\n'] && !indented && c.peek ≠ ' ' && c.peek ≠ '\t' then
            if more = [] then [' '] else []
          else first
        let (t, last, trail, c) := blockLines fold indent n more c
        (breaks ++ row ++ space ++ t, last, trail, c)
      else (breaks ++ row, first, more, c)
    else ([], [], breaks, c)

def blockScalar? (fold : Bool) (outer : Int) (n : Nat) (c : Cursor) : Option (Text × Cursor) := do
  let ((chomp, indent?), c) ← blockHeader? c
  let c ← skipLineEnd? c
  let least := max (outer + 1) 1
  let (breaks, indent, c) := match indent? with
    | some more =>
      let indent := (least + more - 1).toNat
      let (breaks, c) := blockBreaks indent n c
      (breaks, indent, c)
    | none =>
      let (breaks, widest, c) := leadingBreaks n 0 c
      (breaks, max least.toNat widest, c)
  let (t, last, trail, c) := blockLines fold indent n breaks c
  let tail := match chomp with
    | .strip => []
    | .clip => last
    | .keep => last ++ trail
  return (t ++ tail, c)

end IrListing.Yaml
