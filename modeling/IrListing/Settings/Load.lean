import IrListing.Crash
import IrListing.Files.Basic
import IrListing.Settings.Basic
import IrListing.Yaml.Document

namespace IrListing

inductive Settings.Cause
  | notFound
  | malformed
  | notMap
  | unfit (findings : List Settings.Finding)
  deriving DecidableEq, Repr

structure Settings.Failure where
  path : Text
  cause : Settings.Cause
  deriving DecidableEq, Repr

namespace Settings

structure Environment where
  cap : Text := []
  demangler : Text := []
  deriving DecidableEq, Repr

def usualPath : Text := ".irlens/config.yaml".toList

inductive Trouble
  | failure (f : Failure)
  | crash (c : Crash)
  deriving DecidableEq, Repr

def entriesOf (path : Text) (document : Value) : Except Trouble (Assoc Text Value) :=
  if document.isVoid then .ok []
  else match document with
    | .map entries => .ok entries
    | _ => .error (.failure ⟨path, .notMap⟩)

def documentDepth : Nat := 3

def entriesAt (files : Files) (path : Text) : Except Trouble (Assoc Text Value) :=
  match files path with
  | .absent | .unnameable => .ok []
  | .directory => .error (.crash .directoryRead)
  | .tooLong => .error (.crash .pathTooLong)
  | .file bytes =>
    match Yaml.read documentDepth bytes with
    | .error .malformed => .error (.failure ⟨path, .malformed⟩)
    | .error (.fault f) => .error (.crash (.document f))
    | .ok document => entriesOf path document

def overrule (name given : Text) (es : Assoc Text Value) : Assoc Text Value :=
  if given = [] then es else es.insert name (.text given)

def settle (path : Text) (env : Environment) (es : Assoc Text Value) : Except Trouble Settings :=
  match ofValue (.map (overrule demanglerName env.demangler (overrule capName env.cap es))) with
  | .ok s => .ok s
  | .error findings => .error (.failure ⟨path, .unfit findings⟩)

def pathOf (given : Option Text) : Text := (given.map Path.normal).getD usualPath

/-- Settings from the file at the given path, which must be there, or from that at the usual one,
which need not. -/
def load (files : Files) (env : Environment) (given : Option Text) : Except Trouble Settings :=
  let path := pathOf given
  if given.isSome && !(files path).isFile && files path ≠ .tooLong then
    .error (.failure ⟨path, .notFound⟩)
  else (entriesAt files path).bind (settle path env)

end Settings

end IrListing
