import IrListing.Assoc
import IrListing.Text.Blank
import IrListing.Text.Decimal
import IrListing.Text.Lines

/-! The outside tool that knows the readable names. It reads one symbol a line and answers one name
a line; anything else it does is a failure. -/

namespace IrListing.Symbol

open Text

inductive Seconds
  | whole (n : Int)
  | fraction (d : Decimal)
  | endless (negative : Bool)
  | undefined
  deriving DecidableEq, Repr

def Seconds.text : Seconds → Text
  | .whole n => ofInt n
  | .fraction d => d.text
  | .endless negative => if negative then "-inf".toList else "inf".toList
  | .undefined => "nan".toList

/-- What a run comes to that is no failure of the tool's own: output that is no text, a command that
the system does not start, a limit that no clock takes. -/
inductive Breakdown
  | undecodable
  | forbidden
  | noDirectory
  | unstartable
  | unnameable
  | unwaitable
  deriving DecidableEq, Repr

inductive Exit
  | missing
  | timedOut
  | failed (code : Int) (complaint : Text)
  | done (output : Text)
  | brokeDown (b : Breakdown)
  deriving DecidableEq, Repr

structure Tool where
  command : Text
  limit : Seconds
  run : Text → Exit

def Seconds.usual : Seconds := .fraction ⟨false, 30, 0⟩

inductive Cause
  | missing
  | timedOut (limit : Seconds)
  | failed (code : Int) (complaint : Text)
  | miscounted (expected got : Nat)
  | unconfigured
  deriving DecidableEq, Repr

structure Failure where
  command : Text
  cause : Cause
  deriving DecidableEq, Repr

def Cause.text : Cause → Text
  | .missing => "executable not found".toList
  | .timedOut limit => "timed out after ".toList ++ limit.text ++ ['s']
  | .failed code complaint => "exited with ".toList ++ ofInt code ++ ": ".toList ++ trim complaint
  | .miscounted expected got =>
    "expected ".toList ++ ofNat expected ++ " output lines, got ".toList ++ ofNat got
  | .unconfigured => "demangling requested but no demangler is configured".toList

def Failure.message (f : Failure) : Text :=
  "Demangler '".toList ++ f.command ++ "': ".toList ++ f.cause.text

structure Call where
  command : Text
  input : Text
  deriving DecidableEq, Repr

/-- Why there are no names: a failure that is reported, or a breakdown that nothing catches. -/
inductive Stop
  | failure (f : Failure)
  | breakdown (b : Breakdown)
  deriving DecidableEq, Repr

structure Traced (α : Type) where
  calls : List Call
  result : Except Stop α

def Traced.map (f : α → β) (t : Traced α) : Traced β := ⟨t.calls, t.result.map f⟩

/-- The names in an answer, by the symbols that were asked. The last name of a symbol asked twice
counts, at its first place. -/
def Tool.pair (tool : Tool) (symbols : List Text) : Exit → Except Stop (Assoc Text Text)
  | .missing => .error (.failure ⟨tool.command, .missing⟩)
  | .timedOut => .error (.failure ⟨tool.command, .timedOut tool.limit⟩)
  | .failed code complaint => .error (.failure ⟨tool.command, .failed code complaint⟩)
  | .done output =>
    let names := answerLines output
    if names.length = symbols.length then .ok (Assoc.ofList (symbols.zip names))
    else .error (.failure ⟨tool.command, .miscounted symbols.length names.length⟩)
  | .brokeDown b => .error (.breakdown b)

def Tool.ask (tool : Tool) (symbols : List Text) : Traced (Assoc Text Text) :=
  if symbols = [] then ⟨[], .ok []⟩
  else ⟨[⟨tool.command, unlines symbols⟩], tool.pair symbols (tool.run (unlines symbols))⟩

end IrListing.Symbol
