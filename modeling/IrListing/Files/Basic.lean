import IrListing.Assoc
import IrListing.Text.Utf8

namespace IrListing

inductive Entry
  | absent
  | directory
  | file (bytes : List UInt8)
  | tooLong
  | unnameable
  deriving DecidableEq, Repr

def Entry.isFile : Entry → Bool
  | .file _ => true
  | _ => false

abbrev Files := Text → Entry

namespace Path

def split (path : Text) : List Text :=
  path.foldr (fun c parts => match parts with
    | p :: ps => if c = '/' then [] :: p :: ps else (c :: p) :: ps
    | [] => [[c]]) [[]]

def maxBytes : Nat := 4095

def maxNameBytes : Nat := 255

def steps (path : Text) : List Text := (split path).filter fun p => p ≠ [] && p ≠ ['.']

def root : Text → Text
  | '/' :: '/' :: '/' :: _ => ['/']
  | '/' :: '/' :: _ => ['/', '/']
  | '/' :: _ => ['/']
  | _ => []

def normal (path : Text) : Text :=
  match root path ++ Text.joined ['/'] (steps path) with
  | [] => ['.']
  | p => p

end Path

end IrListing
