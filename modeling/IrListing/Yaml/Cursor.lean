import IrListing.Yaml.Pages

namespace IrListing.Yaml

structure Cursor where
  rest : Text
  line : Nat := 0
  column : Nat := 0
  offset : Nat := 0
  ending : Option Problem := none

def isLineBreak (c : Char) : Bool := c = '\n' || c = '\x85' || c = '\u2028' || c = '\u2029'

def endsLine (c : Char) : Bool := c = '\x00' || isLineBreak c

def endsWord (c : Char) : Bool := c = ' ' || c = '\t' || endsLine c

namespace Cursor

def ofPages (pages : Pages) : Cursor := { rest := pages.text, ending := pages.ending }

def problem (p : Problem) (c : Cursor) : Problem := if c.rest = [] then c.ending.getD p else p

def look (c : Cursor) : Except Problem Unit :=
  match c.rest, c.ending with
  | [], some p => .error p
  | _, _ => .ok ()

def peekAt (n : Nat) (c : Cursor) : Char := (c.rest[n]?).getD '\x00'

def peek (c : Cursor) : Char := c.peekAt 0

def next (c : Cursor) : Cursor :=
  match c.rest with
  | [] => c
  | x :: rest =>
    let c := { c with rest, offset := c.offset + 1 }
    if isLineBreak x then { c with line := c.line + 1, column := 0 }
    else if x = '\ufeff' then c
    else { c with column := c.column + 1 }

def forward : Nat → Cursor → Cursor
  | 0, c => c
  | n + 1, c => forward n c.next

def takeWhile (p : Char → Bool) (c : Cursor) : Text × Cursor :=
  let t := c.rest.takeWhile p
  (t, c.forward t.length)

def skipWhile (p : Char → Bool) (c : Cursor) : Cursor := (c.takeWhile p).2

def skipSpaces (c : Cursor) : Cursor := c.skipWhile (· = ' ')

def lineBreak (c : Cursor) : Text × Cursor :=
  if isLineBreak c.peek then ([if c.peek = '\x85' then '\n' else c.peek], c.next) else ([], c)

def atMarks (mark : Char) (c : Cursor) : Bool :=
  Text.startsWith [mark, mark, mark] c.rest && endsWord (c.peekAt 3)

def atDocumentMarks (c : Cursor) : Bool := c.atMarks '-' || c.atMarks '.'

end Cursor

end IrListing.Yaml
