import IrListing.Cli.Outcome
import IrListing.Listing.Make
import IrListing.Listing.View
import IrListing.Listing.Wire

namespace IrListing.Cli

structure View where
  file : Text
  debugCalls : Option Bool
  metadata : Option Bool
  comments : Option Bool
  demangle : Option Bool
  cap : Option Int
  settings : Option Text
  places : Bool
  json : Bool
  deriving DecidableEq, Repr

namespace View

def name : Text := "view".toList

def overrule (v : View) (s : Settings) : Settings :=
  { s with
    cap := v.cap.getD s.cap
    filters := {
      debugCalls := v.debugCalls.getD s.filters.debugCalls
      metadata := v.metadata.getD s.filters.metadata
      comments := v.comments.getD s.filters.comments
      demangle := v.demangle.getD s.filters.demangle } }

def settled (v : View) (w : World) : Except Trouble Settings :=
  match Settings.load w.files w.env v.settings with
  | .ok s => .ok (v.overrule s)
  | .error t => .error (.ofSettings t)

def prepared (v : View) (w : World) : Except Trouble (Settings × Text) := do
  let s ← v.settled w
  let text ← w.input v.file
  return (s, text)

def tool (w : World) (s : Settings) : Symbol.Tool := ⟨s.demangler, .usual, w.run s.demangler⟩

def maker (w : World) (s : Settings) : Listing.Maker := ⟨s.cap, some (tool w s)⟩

def settingsNotes (v : View) (w : World) : List Note :=
  let path := Settings.pathOf v.settings
  match w.files path, Settings.entriesAt w.files path with
  | .file _, .ok _ =>
    [⟨.debug, "irlens.config".toList, "Loaded settings from ".toList ++ path⟩]
  | _, _ => []

def passNotes (s : Settings) (text : Text) : List Note :=
  let p := Filter.Pipeline.standard s.filters
  let lines := Text.lines text
  let seen := Listing.Scan.run p lines
  let kept := seen.lines.toList
  let scan := "irlens.parsing.llvm_ir.LlvmIrParser".toList
  let quote (rules : List Filter.Rule) : Text := Text.quotedList (rules.map (·.name))
  let scopes := (Listing.truncate s.cap kept).filterMap (·.scope)
  [⟨.debug, "irlens.parsing.filters".toList,
      "Enabled filters: ".toList ++ quote p.before ++ " (pre), ".toList ++ quote p.after ++
        " (post)".toList⟩,
    ⟨.debug, scan,
      "Scanned ".toList ++ Text.ofNat lines.length ++ " lines: ".toList ++
        Text.ofNat kept.length ++ " kept, ".toList ++ Text.ofNat seen.nodes.length ++
        " metadata nodes".toList⟩] ++
  (if s.cap ≤ kept.length then
    [⟨.info, scan,
      "Truncating IR output from ".toList ++ Text.ofNat kept.length ++ " to ".toList ++
        Text.ofInt s.cap ++ " lines".toList⟩]
    else []) ++
  scopes.eraseDups.flatMap fun scope => (seen.nodes.cycles scope).map fun id =>
    ⟨.debug, "irlens.core.resolver".toList,
      "Cyclic debug scope chain at ".toList ++ id ++ " (starting from ".toList ++ scope ++ [')']⟩

def toolNotes (symbols : Nat) (t : Symbol.Traced α) : List Note :=
  let topic := "irlens.demangler".toList
  let counted (count : Nat) : Text := Text.ofNat count
  (t.calls.map fun c =>
    ⟨.debug, topic,
      "Running: ".toList ++ c.command ++ " on ".toList ++ counted symbols ++ " symbols".toList⟩) ++
  match t.result with
  | .error (.failure ⟨command, .miscounted expected got⟩) =>
    [⟨.error, topic,
      command ++ " returned ".toList ++ counted got ++ " lines for ".toList ++ counted expected ++
        " symbols".toList⟩]
  | _ => []

def stopped (v : View) (wording : Settings.Wording) (verbose : Bool) (notes : List Note)
    (calls : List Symbol.Call) : Trouble → Outcome
  | .failure f =>
    let last :=
      ⟨.debug, "irlens.cli.commands.view".toList, "view failed: ".toList ++ f.message wording⟩
    { Outcome.ofFailure wording name v.json (noteLines verbose (notes ++ [last])) f with calls }
  | .crash c => { Outcome.ofCrash (noteLines verbose notes) c with calls }

def shown (v : View) (r : Listing.Result) : Text :=
  if v.json then (successJson name r.json).print ++ ['\n'] else r.shown v.places

def run (v : View) (verbose : Bool) (w : World) : Outcome :=
  let notes := v.settingsNotes w
  match v.prepared w with
  | .error t => v.stopped w.wording verbose notes [] t
  | .ok (s, text) =>
    let made := (maker w s).make s.filters text
    let symbols := Symbol.collect ((Listing.pass s.filters s.cap text).map (·.text))
    let notes := notes ++ passNotes s text ++ toolNotes symbols.length made
    match made.result with
    | .error stop => v.stopped w.wording verbose notes made.calls (.ofSymbols stop)
    | .ok r => { out := v.shown r, err := noteLines verbose notes, calls := made.calls }

end View

end IrListing.Cli
