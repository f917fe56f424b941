import IrListing.Text.Lines
import IrListing.Text.Range
import IrListing.Text.Utf8
import IrListing.Yaml.Problem

namespace IrListing.Yaml

open Text

structure Pages where
  text : Text
  ending : Option Problem := none

def isAllowed (c : Char) : Bool :=
  c = '\t' || c = '\n' || c = '\r' || c = '\x85' || inRanges
    [(0x20, 0x7e), (0xa0, 0xd7ff), (0xe000, 0xfffd), (0x10000, 0x10ffff)] c.toNat

def pageSize : Nat := 4096

def pieceSize : Nat := 8192

def decodePieces (d : Decoder) (bytes : List UInt8) : Text × Bool :=
  if bytes = [] then ([], d.pending.isNone)
  else
    let d := (bytes.take pieceSize).foldl Decoder.feed d
    match d.chars.mapM id with
    | some t =>
      let (more, complete) := decodePieces { d with done := [] } (bytes.drop pieceSize)
      (t ++ more, complete)
    | none => ([], false)
termination_by bytes.length
decreasing_by
  have := List.length_pos_iff.mpr ‹_›
  simp only [List.length_drop, pieceSize]
  omega

namespace Pages

def before (place : Nat) (p : Problem) (t : Text) : Pages :=
  if place < 2 * pageSize then ⟨[], some p⟩ else ⟨t.take (place - place % pageSize), some p⟩

def decoded (bytes : List UInt8) : Pages :=
  match decodePieces {} bytes with
  | (t, true) => { text := unifyBreaks t }
  | (t, false) =>
    let t := unifyBreaks (dropReturn t)
    before t.length (.fault .undecodable) t

def ofBytes (bytes : List UInt8) : Pages :=
  let pages := decoded bytes
  match pages.text.findIdx? (!isAllowed ·) with
  | some place => before place .malformed pages.text
  | none => pages

end Pages

end IrListing.Yaml
