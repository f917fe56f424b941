import IrListing.Settings.Load
import IrListing.Symbol.Tool

namespace IrListing

/-- How the file at a path is described by those who refuse it: the reader of its document, and the
checker of its entries. -/
structure Settings.Wording where
  malformed : Text → Text
  unfit : Text → List Settings.Finding → Text

def Settings.Wording.plain : Settings.Wording where
  malformed _ := []
  unfit _ findings :=
    Text.joined ", ".toList (findings.map fun f =>
      Text.joined ['.'] (f.way.map fun
        | .name t => t
        | .index n => Text.ofNat n) ++ " (".toList ++ f.fault.word ++ [')'])

def Settings.Failure.reason (wording : Settings.Wording) (f : Settings.Failure) : Text :=
  match f.cause with
  | .notFound => "file not found".toList
  | .malformed => "invalid YAML: ".toList ++ wording.malformed f.path
  | .notMap => "top level must be a mapping".toList
  | .unfit findings => wording.unfit f.path findings

inductive Failure
  | settings (f : Settings.Failure)
  | noInput (path : Text)
  | symbols (f : Symbol.Failure)
  deriving DecidableEq, Repr

namespace Failure

def kind : Failure → Text
  | .settings _ => "ConfigError".toList
  | .noInput _ => "InputNotFoundError".toList
  | .symbols _ => "DemanglerError".toList

def message (wording : Settings.Wording) : Failure → Text
  | .settings f => "Config ".toList ++ f.path ++ ": ".toList ++ f.reason wording
  | .noInput path => "Input file not found: ".toList ++ path
  | .symbols f => f.message

end Failure

inductive Trouble
  | failure (f : Failure)
  | crash (c : Crash)
  deriving DecidableEq, Repr

def Trouble.ofSettings : Settings.Trouble → Trouble
  | .failure f => .failure (.settings f)
  | .crash c => .crash c

def Trouble.ofSymbols : Symbol.Stop → Trouble
  | .failure f => .failure (.symbols f)
  | .breakdown b => .crash (.tool b)

end IrListing
