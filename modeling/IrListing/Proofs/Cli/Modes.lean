import IrListing.Proofs.Cli.Emitted
import IrListing.Proofs.Listing.Wire

/-! What a command leaves behind for the eye and as JSON. Asking for JSON changes what is written
and nothing else, and neither way writes anything of a listing before it is certain that all of it
is there. -/

namespace IrListing.Cli

def isOther (g : Given) : Bool := g ≠ .switch "--json".toList

/-- Command lines that mean the same, but the second asks for JSON and the first does not. -/
structure Twins (o : Options) (args args' : List Text) (p p' : Parsed) : Prop where
  parsed : o.parse args = .ok p
  parsed' : o.parse args' = .ok p'
  operands : p'.args = p.args
  others : p'.given.filter isOther = p.given.filter isOther
  plain : has p.given "--json" = false
  json : has p'.given "--json" = true

theorem has_filter {name : String} (h : isOther (.switch name.toList) = true) (given : List Given) :
    has (given.filter isOther) name = has given name := by
  rw [has, has, List.any_filter]
  congr 1
  funext g
  by_cases named : g = .switch name.toList
  · simp [named, h]
  · simp [named]

theorem findSome?_filter {keep : α → Bool} {f : α → Option β} (h : ∀ a, keep a = false → f a = none)
    (l : List α) : (l.filter keep).findSome? f = l.findSome? f := by
  induction l with
  | nil => rfl
  | cons a l ih =>
    cases kept : keep a with
    | true => simp only [List.filter_cons_of_pos kept, List.findSome?_cons, ih]
    | false =>
      rw [List.filter_cons_of_neg (by simp [kept]), ih, List.findSome?_cons, h a kept]

theorem eq_of_isOther {g : Given} (h : isOther g = false) : g = .switch "--json".toList :=
  Decidable.of_not_not (of_decide_eq_false h)

theorem lastValue?_filter (names : List Text) (given : List Given) :
    lastValue? names (given.filter isOther) = lastValue? names given := by
  rw [lastValue?_eq, lastValue?_eq, lastMention?, lastMention?, ← List.filter_reverse,
    findSome?_filter]
  intro g hg
  rw [eq_of_isOther hg]
  rfl

theorem Toggle.last?_filter {t : Toggle} (h : t.means? (.switch "--json".toList) = none)
    (given : List Given) : t.last? (given.filter isOther) = t.last? given := by
  rw [Toggle.last?_eq, Toggle.last?_eq, ← List.filter_reverse, findSome?_filter]
  intro g hg
  rw [eq_of_isOther hg, h]

theorem find?_filter_isOther {names : List Text} (h : "--json".toList ∉ names)
    (given : List Given) :
    (given.filter isOther).find? (·.name ∈ names) = given.find? (·.name ∈ names) := by
  rw [List.find?_filter]
  congr 1
  funext g
  cases other : isOther g with
  | true => simp
  | false => simpa [eq_of_isOther other, Given.name] using h

theorem readValues_filter (files : Files) (given : List Given) :
    readValues files (given.filter isOther) = readValues files given := by
  unfold readValues
  rw [lastValue?_filter, lastValue?_filter, find?_filter_isOther (by decide)]

namespace Twins

variable {o : Options} {args args' : List Text} {p p' : Parsed}

theorem eq_of_filter (t : Twins o args args' p p') (f : List Given → α)
    (h : ∀ given, f (given.filter isOther) = f given) : f p'.given = f p.given := by
  rw [← h, t.others, h]

theorem has_eq (t : Twins o args args' p p') {name : String}
    (h : isOther (.switch name.toList) = true) : has p'.given name = has p.given name :=
  t.eq_of_filter (has · name) (has_filter h)

theorem view_eq (t : Twins o args args' p p') (files : Files) :
    View.ofParsed files p' = (View.ofParsed files p).map fun v => { v with json := true } := by
  have toggle {s : Toggle} (h : s.means? (.switch "--json".toList) = none) :
      s.last? p'.given = s.last? p.given := t.eq_of_filter s.last? (Toggle.last?_filter h)
  have values : readValues files p'.given = readValues files p.given :=
    t.eq_of_filter (readValues files) (readValues_filter files)
  have places : has p'.given "--no-source" = has p.given "--no-source" := t.has_eq (by decide)
  unfold View.ofParsed
  rw [values, t.operands, places, t.json, toggle (s := debugCallsToggle) (by decide),
    toggle (s := metadataToggle) (by decide), toggle (s := commentsToggle) (by decide),
    toggle (s := demangleToggle) (by decide)]
  cases readValues files p.given with
  | error r => rfl
  | ok both => cases readFile p.args <;> rfl

theorem detect_eq (t : Twins o args args' p p') :
    Detect.ofParsed p' = (Detect.ofParsed p).map fun d => { d with json := true } := by
  unfold Detect.ofParsed
  rw [t.operands, t.json]
  cases readFile p.args <;> rfl

end Twins

structure SameEffect (o o' : Outcome) : Prop where
  code : o'.code = o.code
  crash : o'.crash = o.crash
  calls : o'.calls = o.calls

structure IsErrorEnvelope (wording : Settings.Wording) (command : Text) (f : Failure) (e : Json) :
    Prop where
  command : e.at? ["meta", "command"] = some (.text command)
  status : e.at? ["meta", "status"] = some (.text "error".toList)
  kind : e.at? ["error", "type"] = some (.text f.kind)
  message : e.at? ["error", "message"] = some (.text (f.message wording))
  empty : e.member? "data" = none

structure Reported (wording : Settings.Wording) (command : Text) (f : Failure) (o o' : Outcome) :
    Prop where
  code : o.code = 1
  orderly : o.crash = none
  silent : o.out = []
  envelope : ∃ e, IsErrorEnvelope wording command f e ∧ Json.read? o'.out = some e

/-- What two runs of a command leave behind, the second with JSON, by what the command comes to. -/
def Leaves (wording : Settings.Wording) (command : Text) (o o' : Outcome) (finds : α → Prop) :
    Except Trouble α → Prop
  | .ok a => o.crash = none ∧ finds a
  | .error (.failure f) => Reported wording command f o o'
  | .error (.crash c) => o.code = 1 ∧ o.crash = some c ∧ o.out = [] ∧ o'.out = []

theorem Leaves.finds_of_code {wording : Settings.Wording} {command : Text} {o o' : Outcome}
    {finds : α → Prop} {done : Except Trouble α} (h : Leaves wording command o o' finds done)
    (success : o.code = 0) : ∃ a, done = .ok a ∧ finds a :=
  match done, h with
  | .ok a, h => ⟨a, rfl, h.2⟩
  | .error (.failure _), h => absurd (h.code.symm.trans success) (by decide)
  | .error (.crash _), h => absurd (h.1.symm.trans success) (by decide)

theorem reported_ofFailure (wording : Settings.Wording) (command notes notes' : Text)
    (calls calls' : List Symbol.Call) (f : Failure) :
    Reported wording command f { Outcome.ofFailure wording command false notes f with calls }
      { Outcome.ofFailure wording command true notes' f with calls := calls' } where
  code := rfl
  orderly := rfl
  silent := rfl
  envelope := ⟨failureJson wording command f, ⟨rfl, rfl, rfl, rfl, rfl⟩, Json.read?_print_newline _⟩

namespace View

def Shows (v : View) (o o' : Outcome) (r : Listing.Result) : Prop :=
  o.code = 0 ∧ o.out = r.shown v.places ∧ Succeeds o'.out r.json

theorem runs_with_json {v : View} (plain : v.json = false) (verbose : Bool) (w : World) :
    let o := v.run verbose w
    let o' := { v with json := true }.run verbose w
    SameEffect o o' ∧ Leaves w.wording name o o' (v.Shows o o') (v.work w) := by
  obtain ⟨notes, run⟩ := v.run_eq_closed verbose w
  obtain ⟨notes', run'⟩ := { v with json := true }.run_eq_closed verbose w
  -- Neither the work nor the calls depend on the way of showing.
  replace run' : { v with json := true }.run verbose w =
    { v with json := true }.closed w notes' (v.calls w) (v.work w) := run'
  rw [run, run']
  match v.work w with
  | .ok r =>
    exact ⟨⟨rfl, rfl, rfl⟩, rfl, rfl, by rw [closed, shown, plain]; rfl, succeeds_successJson ..⟩
  | .error (.crash c) => exact ⟨⟨rfl, rfl, rfl⟩, rfl, rfl, rfl, rfl⟩
  | .error (.failure f) =>
    rw [closed, closed, plain]
    exact ⟨⟨rfl, rfl, rfl⟩,
      reported_ofFailure w.wording name notes notes' (v.calls w) (v.calls w) f⟩

end View

namespace Detect

def Tells (d : Detect) (o o' : Outcome) (text : Text) : Prop :=
  let detected := Listing.looksLike text
  (o.code = 0 ↔ detected = true) ∧
    Succeeds o'.out
      (.object [("file".toList, .text d.file), ("is_llvm_ir".toList, .bool detected)])

theorem runs_with_json {d : Detect} (plain : d.json = false) (w : World) :
    let o := d.run w
    let o' := { d with json := true }.run w
    SameEffect o o' ∧ Leaves w.wording name o o' (d.Tells o o') (w.input d.file) := by
  simp only [run]
  match w.input d.file with
  | .ok text =>
    cases looks : Listing.looksLike text <;>
      simp [report, plain, Leaves, Tells, looks, SameEffect.mk, succeeds_successJson]
  | .error (.crash c) => exact ⟨⟨rfl, rfl, rfl⟩, rfl, rfl, rfl, rfl⟩
  | .error (.failure f) =>
    rw [plain]
    exact ⟨⟨rfl, rfl, rfl⟩, reported_ofFailure w.wording name [] [] [] [] f⟩

theorem code_run_eq_zero_iff {d : Detect} {w : World} :
    (d.run w).code = 0 ↔ ∃ text, w.input d.file = .ok text ∧ Listing.looksLike text = true := by
  unfold run
  match w.input d.file with
  | .ok text =>
    cases looks : Listing.looksLike text <;> cases json : d.json <;> simp [report, looks, json]
  | .error (.crash c) => simp [Outcome.ofCrash]
  | .error (.failure f) => cases d.json <;> simp [Outcome.ofFailure]

theorem ofParsed_eq_ok {p : Parsed} {d : Detect} (h : Detect.ofParsed p = .ok d) :
    readFile p.args = .ok d.file ∧ d.json = has p.given "--json" := by
  obtain ⟨file, input, ⟨⟩⟩ := bind_eq_ok_iff.1 h
  exact ⟨mapError_eq_ok_iff.1 input, rfl⟩

end Detect

variable {o : Options} {s : Scope} {args args' : List Text} {p p' : Parsed}

theorem withParsed_of_read {read : Parsed → Except Refusal γ} {run : γ → Outcome} {c : γ}
    (parsed : o.parse args = .ok p) (acts : has p.given "--help" = false) (done : read p = .ok c) :
    withParsed s o args (fun p => (read p).map run) = run c := by
  rw [withParsed_of_acts parsed acts, done]
  rfl

theorem Twins.sameEffect (t : Twins o args args' p p') {read : Parsed → Except Refusal γ}
    {withJson : γ → γ} {run : γ → Outcome} (twin : read p' = (read p).map withJson)
    (same : ∀ c, read p = .ok c → SameEffect (run c) (run (withJson c))) :
    SameEffect (withParsed s o args fun p => (read p).map run)
      (withParsed s o args' fun p => (read p).map run) := by
  have help : has p'.given "--help" = has p.given "--help" := t.has_eq (by decide)
  simp only [withParsed, t.parsed, t.parsed', help, twin]
  split
  · exact ⟨rfl, rfl, rfl⟩
  · cases done : read p with
    | error r => exact ⟨rfl, rfl, rfl⟩
    | ok c => exact same c done

theorem Twins.withParsed_eq (t : Twins o args args' p p') (s : Scope)
    {read : Parsed → Except Refusal γ} {withJson : γ → γ} (run : γ → Outcome)
    (twin : read p' = (read p).map withJson) (acts : has p.given "--help" = false) {c : γ}
    (done : read p = .ok c) :
    withParsed s o args (fun p => (read p).map run) = run c ∧
      withParsed s o args' (fun p => (read p).map run) = run (withJson c) := by
  have acts' : has p'.given "--help" = false := (t.has_eq (by decide)).trans acts
  exact ⟨withParsed_of_read t.parsed acts done,
    withParsed_of_read t.parsed' acts' (by rw [twin, done]; rfl)⟩

section View

variable (t : Twins viewOptions args args' p p') {verbose : Bool} {w : World} {v : View}
include t

theorem Twins.plain_view (read : View.ofParsed w.files p = .ok v) : v.json = false :=
  (View.ofParsed_eq_ok read).2.2.2.1.trans t.plain

theorem Twins.sameEffect_view : SameEffect (runView verbose w args) (runView verbose w args') := by
  apply t.sameEffect (t.view_eq w.files)
  intro v read
  exact (View.runs_with_json (t.plain_view read) verbose w).1

theorem Twins.leaves_view (acts : has p.given "--help" = false)
    (read : View.ofParsed w.files p = .ok v) :
    let o := runView verbose w args
    let o' := runView verbose w args'
    Leaves w.wording View.name o o' (v.Shows o o') (v.work w) := by
  obtain ⟨run, run'⟩ := t.withParsed_eq .view (·.run verbose w) (t.view_eq w.files) acts read
  rw [runView, runView, run, run']
  exact (View.runs_with_json (t.plain_view read) verbose w).2

end View

section Detect

variable (t : Twins detectOptions args args' p p') {w : World} {d : Detect}
include t

theorem Twins.plain_detect (read : Detect.ofParsed p = .ok d) : d.json = false :=
  (Detect.ofParsed_eq_ok read).2.trans t.plain

theorem Twins.sameEffect_detect : SameEffect (runDetect w args) (runDetect w args') := by
  apply t.sameEffect t.detect_eq
  intro d read
  exact (Detect.runs_with_json (t.plain_detect read) w).1

theorem Twins.leaves_detect (acts : has p.given "--help" = false)
    (read : Detect.ofParsed p = .ok d) :
    let o := runDetect w args
    let o' := runDetect w args'
    Leaves w.wording Detect.name o o' (d.Tells o o') (w.input d.file) := by
  obtain ⟨run, run'⟩ := t.withParsed_eq .detect (·.run w) t.detect_eq acts read
  rw [runDetect, runDetect, run, run']
  exact (Detect.runs_with_json (t.plain_detect read) w).2

end Detect

theorem code_runDetect_eq_zero_iff {w : World} (parsed : detectOptions.parse args = .ok p)
    (acts : has p.given "--help" = false) :
    (runDetect w args).code = 0 ↔ ∃ file text, readFile p.args = .ok file ∧
      w.input file = .ok text ∧ Listing.looksLike text = true := by
  cases file : readFile p.args with
  | error m =>
    have refused : runDetect w args = .ofRefusal .detect (.misuse m) := by
      rw [runDetect, withParsed_of_acts parsed acts, Detect.ofParsed, file]
      rfl
    simp [refused, code_ofRefusal]
  | ok name =>
    have done : Detect.ofParsed p = .ok ⟨name, has p.given "--json"⟩ := by
      simp only [Detect.ofParsed, file]
      rfl
    rw [runDetect, withParsed_of_read parsed acts done, Detect.code_run_eq_zero_iff]
    simp

/-- Whether JSON is asked for changes nothing but what is written: the code, the crash and the calls
of the tool are the same. A view that fails writes nothing of a listing, whatever it fails at; and
code zero says of an input that it was read and looks like a listing. -/
theorem json_changes_writing_only (verbose : Bool) (w : World) (args args' : List Text)
    (p p' : Parsed) :
    (Twins viewOptions args args' p p' →
      let o := runView verbose w args
      let o' := runView verbose w args'
      SameEffect o o' ∧ (has p.given "--help" = false → ∀ v, View.ofParsed w.files p = .ok v →
        Leaves w.wording View.name o o' (v.Shows o o') (v.work w))) ∧
    (Twins detectOptions args args' p p' →
      let o := runDetect w args
      let o' := runDetect w args'
      SameEffect o o' ∧ (has p.given "--help" = false →
        (o.code = 0 ↔ ∃ file text, readFile p.args = .ok file ∧ w.input file = .ok text ∧
          Listing.looksLike text = true) ∧
        ∀ d, Detect.ofParsed p = .ok d →
          Leaves w.wording Detect.name o o' (d.Tells o o') (w.input d.file))) := by
  constructor
  · intro t
    exact ⟨t.sameEffect_view, fun acts v read => t.leaves_view acts read⟩
  · intro t
    exact ⟨t.sameEffect_detect, fun acts =>
      ⟨code_runDetect_eq_zero_iff t.parsed acts, fun d read => t.leaves_detect acts read⟩⟩

def missingArgs : List Text := ["a.ll".toList]

def missingJsonArgs : List Text := ["--json".toList, "a.ll".toList]

def missingParsed : Parsed where
  args := ["a.ll".toList]

def missingJsonParsed : Parsed where
  given := [.switch "--json".toList]
  args := ["a.ll".toList]

def emptyWorld : World where
  stdin := []
  files _ := .absent
  env := {}
  wording := .plain
  run _ _ := .missing

theorem json_changes_writing_only_missing :
    let f : Failure := .noInput "a.ll".toList
    let views (args : List Text) := runView false emptyWorld args
    let detects (args : List Text) := runDetect emptyWorld args
    (SameEffect (views missingArgs) (views missingJsonArgs) ∧
      Reported .plain View.name f (views missingArgs) (views missingJsonArgs)) ∧
    SameEffect (detects missingArgs) (detects missingJsonArgs) ∧
      Reported .plain Detect.name f (detects missingArgs) (detects missingJsonArgs) := by
  intro f views detects
  obtain ⟨view, detect⟩ := json_changes_writing_only false emptyWorld missingArgs missingJsonArgs
    missingParsed missingJsonParsed
  obtain ⟨viewSame, viewLeaves⟩ := view ⟨rfl, rfl, rfl, by decide, by decide, by decide⟩
  obtain ⟨detectSame, detectLeaves⟩ := detect ⟨rfl, rfl, rfl, by decide, by decide, by decide⟩
  exact ⟨⟨viewSame, viewLeaves (by decide) _ rfl⟩, detectSame, (detectLeaves (by decide)).2 _ rfl⟩

end IrListing.Cli
