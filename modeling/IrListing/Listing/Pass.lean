import IrListing.Filter.Registry
import IrListing.Listing.Basic
import IrListing.Source.Resolver
import IrListing.Text.Lines

/-! One pass over a text: which lines are kept, what they declare, where the listing is cut, and
what each attached scope stands for. -/

namespace IrListing.Listing

open Text IrListing.Filter

structure Scan where
  lines : Array Line := #[]
  nodes : Source.Graph := []
  afterBlank : Bool := false

namespace Scan

def declare (s : Scan) (line : Text) : Scan :=
  match Metadata.declaration? line with
  | some n => { s with nodes := s.nodes.store n }
  | none => s

def keep (s : Scan) (line : Text) : Scan :=
  { s with
    lines := s.lines.push { text := line, scope := Metadata.attachment? line }
    afterBlank := false }

def keepBlank (s : Scan) : Scan :=
  { s with
    lines := if s.afterBlank then s.lines else s.lines.push blank
    afterBlank := true }

/-- Reads one line. A line dropped before it is read tells nothing; one dropped afterwards may still
declare something. -/
def step (p : Pipeline) (s : Scan) (line : Text) : Scan :=
  if isBlank line then s.keepBlank
  else if p.dropsBefore line then s
  else if p.dropsAfter line then s.declare line
  else (s.declare line).keep line

def run (p : Pipeline) (texts : List Text) : Scan := texts.foldl (step p) {}

end Scan

def firstLines (cap : Int) (lines : List Line) : List Line :=
  lines.take (if 0 ≤ cap then cap else lines.length + cap).toNat

def truncate (cap : Int) (lines : List Line) : List Line :=
  if cap ≤ lines.length then firstLines cap lines ++ [marker] else lines

/-- Gives each line with a scope its place. The resolver goes from line to line, so that a scope
is looked up once. -/
def annotate (r : Source.Resolver) : List Line → List Line
  | [] => []
  | line :: rest =>
    match line.scope with
    | some scope =>
      { line with source := some (r.resolve scope).1 } :: annotate (r.resolve scope).2 rest
    | none => line :: annotate r rest

def pass (config : Config) (cap : Int) (text : Text) : List Line :=
  let scan := Scan.run (.standard config) (lines text)
  annotate (.ofGraph scan.nodes) (truncate cap scan.lines.toList)

def looksLike (text : Text) : Bool :=
  has "@llvm".toList text && has "!DI".toList text && has "!dbg".toList text

end IrListing.Listing
