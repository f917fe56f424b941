import IrListing.Cli.Command

/-! The program: reads what the arguments name, runs the command and writes what it leaves. -/

open IrListing

def isADirectory : UInt32 := 21

def nameTooLong : UInt32 := 36

def readEntry (path : Text) : IO Entry := do
  if '\x00' ∈ path then return .unnameable
  try
    return .file (← IO.FS.readBinFile (String.ofList path)).toList
  catch
    | .inappropriateType _ code _ => return if code = isADirectory then .directory else .absent
    | .invalidArgument _ code _ =>
      return if code = nameTooLong || -code = nameTooLong then .tooLong else .absent
    | _ => return .absent

partial def readAll (input : IO.FS.Stream) (done : ByteArray) : IO ByteArray := do
  let more ← input.read 65536
  if more.isEmpty then return done else readAll input (done ++ more)

def crashMessage : Crash → String
  | .directoryRead => "the settings path is a directory"
  | .pathTooLong => "a path is longer than the system takes"
  | .pathUnnameable => "a path holds a NUL"
  | .inputUndecodable => "the input is not UTF-8"
  | .tool .undecodable => "the tool's output is not UTF-8"
  | .tool .forbidden => "the tool may not be run"
  | .tool .noDirectory => "the tool's path goes through a file"
  | .tool .unstartable => "the tool cannot be started"
  | .tool .unnameable => "the tool's name holds a NUL"
  | .tool .unwaitable => "the tool's time limit is none that can be waited for"
  | .document .undecodable => "the settings are not UTF-8"
  | .document .outOfRange => "the settings hold a number, a date or a character that does not exist"
  | .document .tooGreat => "the settings hold a number that is too great"
  | .document .emptyNumber => "the settings hold a number without digits"
  | .document .unknownTruth => "the settings hold a truth value that is none"
  | .document .unreadableDate | .document .nestedDate => "the settings hold a date that is none"
  | .document .tooDeep => "the settings are nested too deeply"

def main (arguments : List String) : IO UInt32 := do
  let args := arguments.map (·.toList)
  let paths := Cli.paths args
  let bytes ← if ['-'] ∈ paths then readAll (← IO.getStdin) .empty else pure .empty
  let entries ← (paths.filter (· ≠ ['-'])).mapM fun path => return (path, ← readEntry path)
  let world : Cli.World := {
    stdin := bytes.toList
    files := fun path => (Assoc.get? entries path).getD .absent
    env := {
      cap := ((← IO.getEnv "IRLENS_MAX_LINES").getD "").toList
      demangler := ((← IO.getEnv "IRLENS_DEMANGLER").getD "").toList }
    wording := .plain
    run := fun _ _ => .missing }
  let outcome := Cli.run world args
  IO.print (String.ofList outcome.out)
  IO.eprint (String.ofList outcome.err)
  if let some crash := outcome.crash then IO.eprintln (crashMessage crash)
  return outcome.code.toUInt32
