import IrListing.Cli.Outcome
import IrListing.Listing.Pass

namespace IrListing.Cli

structure Detect where
  file : Text
  json : Bool
  deriving DecidableEq, Repr

namespace Detect

def name : Text := "detect".toList

def report (d : Detect) (detected : Bool) : Outcome :=
  let code := if detected then 0 else 1
  let line (mark finding : String) : Text :=
    withoutSequences (mark.toList ++ d.file ++ finding.toList)
  if d.json then
    let data := Json.object [("file".toList, .text d.file), ("is_llvm_ir".toList, .bool detected)]
    { code, out := (successJson name data).print ++ ['\n'] }
  else if detected then { code, out := line "✅ " ": LLVM IR with debug info\n" }
  else { code, err := line "⚠️  " ": not LLVM IR with debug info\n" }

def run (d : Detect) (w : World) : Outcome :=
  match w.input d.file with
  | .ok text => d.report (Listing.looksLike text)
  | .error (.failure f) => .ofFailure w.wording name d.json [] f
  | .error (.crash c) => .ofCrash [] c

end Detect

end IrListing.Cli
