import IrListing.Cli.Terminal
import IrListing.Failure
import IrListing.Files.Basic
import IrListing.Json

namespace IrListing.Cli

/-- The surroundings of a command. A tool is found by its command name. -/
structure World where
  stdin : List UInt8
  files : Files
  env : Settings.Environment
  wording : Settings.Wording
  run : Text → Text → Symbol.Exit

structure Outcome where
  code : Nat := 0
  out : Text := []
  err : Text := []
  crash : Option Crash := none
  calls : List Symbol.Call := []

inductive Level
  | debug
  | info
  | error
  deriving DecidableEq, Repr

def Level.name : Level → Text
  | .debug => "DEBUG".toList
  | .info => "INFO".toList
  | .error => "ERROR".toList

structure Note where
  level : Level
  topic : Text
  message : Text
  deriving DecidableEq, Repr

def Note.line (n : Note) : Text :=
  n.level.name ++ ' ' :: n.topic ++ ": ".toList ++ n.message ++ ['\n']

def noteLines (verbose : Bool) (notes : List Note) : Text :=
  (notes.filter fun n => verbose || n.level = .error).flatMap Note.line

def successJson (command : Text) (data : Json) : Json :=
  .object [
    ("meta".toList, .object [
      ("command".toList, .text command), ("status".toList, .text "success".toList)]),
    ("data".toList, data)]

def failureJson (wording : Settings.Wording) (command : Text) (f : Failure) : Json :=
  .object [
    ("meta".toList, .object [
      ("command".toList, .text command), ("status".toList, .text "error".toList)]),
    ("error".toList, .object [
      ("type".toList, .text f.kind), ("message".toList, .text (f.message wording))])]

def Outcome.ofFailure (wording : Settings.Wording) (command : Text) (json : Bool) (notes : Text)
    (f : Failure) : Outcome :=
  if json then { code := 1, out := (failureJson wording command f).print ++ ['\n'], err := notes }
  else
    { code := 1, err := notes ++ withoutSequences ("❌ ".toList ++ f.message wording ++ ['\n']) }

def Outcome.ofCrash (notes : Text) (c : Crash) : Outcome :=
  { code := 1, err := notes, crash := some c }

/-- The text of an input file, or of standard input for a dash. Line breaks are unified. Bytes that
are no text are replaced in a file, and not put up with on standard input. -/
def World.input (w : World) (path : Text) : Except Trouble Text :=
  if path = ['-'] then
    match Text.ofBytes? w.stdin with
    | some text => .ok (Text.unifyBreaks text)
    | none => .error (.crash .inputUndecodable)
  else match w.files (Path.normal path) with
    | .file bytes => .ok (Text.unifyBreaks (Text.ofBytesLossy bytes))
    | .tooLong => .error (.crash .pathTooLong)
    | _ => .error (.failure (.noInput path))

end IrListing.Cli
