import IrListing.Cli.Args
import IrListing.Cli.Detect
import IrListing.Cli.Help
import IrListing.Cli.View

namespace IrListing.Cli

open Text

inductive Scope
  | program
  | view
  | detect
  deriving DecidableEq, Repr

def Scope.path : Scope → Text
  | .program => "main".toList
  | .view => "main view".toList
  | .detect => "main detect".toList

def Scope.operands : Scope → Text
  | .program => "COMMAND [ARGS]...".toList
  | _ => "[FILE]".toList

def Scope.usage (s : Scope) : Text :=
  "Usage: ".toList ++ s.path ++ " [OPTIONS] ".toList ++ s.operands ++ ['\n']

def Scope.help (s : Scope) : Text :=
  s.usage ++ match s with
    | .program => Help.program.toList
    | .view => Help.view.toList
    | .detect => Help.detect.toList

def Outcome.ofMisuse (s : Scope) (m : Misuse) : Outcome :=
  let usage :=
    if m.showsUsage then
      s.usage ++ "Try '".toList ++ s.path ++ " --help' for help.\n\n".toList
    else []
  { code := 2, err := withoutSequences (usage ++ "Error: ".toList ++ m.text ++ ['\n']) }

inductive Refusal
  | misuse (m : Misuse)
  | crash (c : Crash)
  deriving DecidableEq, Repr

def Outcome.ofRefusal (s : Scope) : Refusal → Outcome
  | .misuse m => .ofMisuse s m
  | .crash c => .ofCrash [] c

def programOptions : Options where
  switches := ["--version".toList, "-v".toList, "--verbose".toList, "--help".toList]
  valued := []
  anywhere := false

structure Toggle where
  on : List Text
  off : List Text

def debugCallsToggle : Toggle :=
  ⟨["-d".toList, "--debug-calls".toList], ["--no-debug-calls".toList]⟩

def metadataToggle : Toggle := ⟨["--directives".toList], ["--no-directives".toList]⟩

def commentsToggle : Toggle := ⟨["--comments".toList], ["--no-comments".toList]⟩

def demangleToggle : Toggle := ⟨["--demangle".toList], ["--no-demangle".toList]⟩

def toggles : List Toggle := [debugCallsToggle, metadataToggle, commentsToggle, demangleToggle]

def Toggle.last? (t : Toggle) (given : List Given) : Option Bool :=
  given.foldl
    (fun known g => match g with
      | .switch name =>
        if name ∈ t.on then some true else if name ∈ t.off then some false else known
      | .value _ _ => known)
    none

def capNames : List Text := ["--max-lines".toList]

def settingsNames : List Text := ["-c".toList, "--config".toList]

def viewOptions : Options where
  switches := toggles.flatMap (fun t => t.on ++ t.off) ++
    ["--no-source".toList, "--json".toList, "--help".toList]
  valued := capNames ++ settingsNames
  anywhere := true

def detectOptions : Options where
  switches := ["--json".toList, "--help".toList]
  valued := []
  anywhere := true

def has (given : List Given) (name : String) : Bool := given.any (· = .switch name.toList)

def lastValue? (names : List Text) (given : List Given) : Option Text :=
  given.foldl
    (fun known g => match g with
      | .value name value => if name ∈ names then some value else known
      | .switch _ => known)
    none

def readCap (value : Text) : Except Refusal Int :=
  match integer? value with
  | none => .error (.misuse (.notWhole "'--max-lines'".toList value))
  | some n => if 1 ≤ n then .ok n else .error (.misuse (.tooLow "'--max-lines'".toList n))

def readSettingsPath (files : Files) (path : Text) : Except Refusal Text :=
  match files path with
  | .directory => .error (.misuse (.isDirectory "'-c' / '--config'".toList path))
  | .unnameable => .error (.crash .pathUnnameable)
  | _ => .ok path

def readOptional (read : Text → Except Refusal α) : Option Text → Except Refusal (Option α)
  | none => .ok none
  | some value => (read value).map some

def readValues (files : Files) (given : List Given) : Except Refusal (Option Int × Option Text) :=
  let cap := readOptional readCap (lastValue? capNames given)
  let settings := readOptional (readSettingsPath files) (lastValue? settingsNames given)
  let capFirst := (given.find? fun g => g.name ∈ capNames ++ settingsNames).any (·.name ∈ capNames)
  if capFirst then do
    let c ← cap
    let s ← settings
    return (c, s)
  else do
    let s ← settings
    let c ← cap
    return (c, s)

def readFile (args : List Text) : Except Misuse Text :=
  match args with
  | [] => .ok ['-']
  | [file] => .ok file
  | _ :: more => .error (.leftOver more)

def View.ofParsed (files : Files) (p : Parsed) : Except Refusal View := do
  let (cap, settings) ← readValues files p.given
  let file ← (readFile p.args).mapError .misuse
  return {
    file, cap
    settings := settings.filter (· ≠ [])
    debugCalls := debugCallsToggle.last? p.given
    metadata := metadataToggle.last? p.given
    comments := commentsToggle.last? p.given
    demangle := demangleToggle.last? p.given
    places := !has p.given "--no-source"
    json := has p.given "--json" }

def Detect.ofParsed (p : Parsed) : Except Refusal Detect := do
  let file ← (readFile p.args).mapError .misuse
  return { file, json := has p.given "--json" }

def withParsed (s : Scope) (o : Options) (args : List Text)
    (run : Parsed → Except Refusal Outcome) : Outcome :=
  match o.parse args with
  | .error m => .ofMisuse s m
  | .ok p =>
    if has p.given "--help" then { out := s.help }
    else match run p with
      | .ok outcome => outcome
      | .error r => .ofRefusal s r

def runView (verbose : Bool) (w : World) (args : List Text) : Outcome :=
  withParsed .view viewOptions args fun p => (View.ofParsed w.files p).map (·.run verbose w)

def runDetect (w : World) (args : List Text) : Outcome :=
  withParsed .detect detectOptions args fun p => (Detect.ofParsed p).map (·.run w)

def version : Text := "main, version 0.1.0\n".toList

def information? (p : Parsed) : Option Outcome :=
  let asked? :=
    p.given.find? fun g => g = .switch "--version".toList || g = .switch "--help".toList
  asked?.map fun g =>
    { out := if g = .switch "--version".toList then version else Scope.program.help }

def runUnknown (name : Text) (args : List Text) : Outcome :=
  match programOptions.parse (name :: args) with
  | .error m => .ofMisuse .program m
  | .ok p =>
    let meant := similar name [View.name, Detect.name]
    (information? p).getD (.ofMisuse .program (.noSuchCommand name meant))

def runCommand (verbose : Bool) (w : World) (name : Text) (args : List Text) : Outcome :=
  if name = View.name then runView verbose w args
  else if name = Detect.name then runDetect w args
  else runUnknown name args

def paths (args : List Text) : List Text :=
  match programOptions.parse args with
  | .ok { args := name :: args, .. } =>
    match (if name = View.name then viewOptions else detectOptions).parse args with
    | .ok p =>
      let settings := lastValue? settingsNames p.given
      settings.toList ++ [Settings.usualPath, (settings.map Path.normal).getD Settings.usualPath] ++
        match readFile p.args with
        | .ok file => if file = ['-'] then [file] else [Path.normal file]
        | .error _ => []
    | .error _ => []
  | _ => []

def run (w : World) (args : List Text) : Outcome :=
  if args = [] then { code := 2, err := Scope.program.help }
  else match programOptions.parse args with
    | .error m => .ofMisuse .program m
    | .ok p =>
      match information? p, p.args with
      | some outcome, _ => outcome
      | none, [] => .ofMisuse .program .noCommand
      | none, name :: args =>
        runCommand (has p.given "-v" || has p.given "--verbose") w name args

end IrListing.Cli
