import IrListing.Cli.View
import IrListing.Proofs.Listing.Frame
import IrListing.Proofs.Settings.Load

namespace IrListing

section

variable {x : Except ε α} {f : α → Except ε β} {g : ε → ε'} {a : α} {b : β} {e : ε} {e' : ε'}

theorem bind_eq_ok_iff : x >>= f = .ok b ↔ ∃ a, x = .ok a ∧ f a = .ok b := by
  cases x <;> simp [bind, Except.bind]

theorem bind_eq_error_iff :
    x >>= f = .error e ↔ x = .error e ∨ ∃ a, x = .ok a ∧ f a = .error e := by
  cases x <;> simp [bind, Except.bind]

theorem mapError_eq_ok_iff : x.mapError g = .ok a ↔ x = .ok a := by
  cases x <;> simp [Except.mapError]

theorem mapError_eq_error_iff : x.mapError g = .error e' ↔ ∃ e, x = .error e ∧ g e = e' := by
  cases x <;> simp [Except.mapError]

end

namespace Cli

open Settings (Breaks Obstacle ReadsText Settles)

inductive InputBreaks (w : World) (path : Text) : Crash → Prop
  | undecodable (dash : path = ['-']) (broken : Text.ofBytes? w.stdin = none) :
    InputBreaks w path .inputUndecodable
  | tooLong (named : path ≠ ['-']) (found : w.files (Path.normal path) = .tooLong) :
    InputBreaks w path .pathTooLong

theorem World.input_eq_crash_iff {w : World} {path : Text} {c : Crash} :
    w.input path = .error (.crash c) ↔ InputBreaks w path c := by
  constructor
  · intro h
    unfold World.input at h
    split at h
    · rename_i dash
      split at h
      · cases h
      · cases h
        exact .undecodable dash ‹_›
    · rename_i named
      split at h
      · cases h
      · cases h
        exact .tooLong named ‹_›
      · cases h
  · rintro (⟨dash, broken⟩ | ⟨named, found⟩)
    · simp [World.input, dash, broken]
    · simp [World.input, named, found]

namespace View

variable {v : View} {verbose : Bool} {w : World}

theorem settled_eq_crash_iff {c : Crash} :
    v.settled w = .error (.crash c) ↔ Breaks w.files v.settings c := by
  constructor
  · intro h
    unfold settled at h
    split at h
    · cases h
    · rename_i t failed
      obtain ⟨cause, rfl⟩ | ⟨c', rfl, broken⟩ := Settings.load_eq_error failed
      · cases h
      · cases h
        exact broken
  · intro broken
    simp [settled, broken.load_eq, Trouble.ofSettings]

theorem settled_eq_ok_iff {s : Settings} :
    v.settled w = .ok s ↔
      ∃ loaded, Settings.load w.files w.env v.settings = .ok loaded ∧ v.overrule loaded = s := by
  unfold settled
  cases Settings.load w.files w.env v.settings <;> simp

/-- What a view comes to before anything of it is shown: a listing, unless the settings, the input
or the tool stand in the way. -/
def work (v : View) (w : World) : Except Trouble Listing.Result :=
  match v.prepared w with
  | .error t => .error t
  | .ok (s, text) => ((maker w s).make s.filters text).result.mapError .ofSymbols

def calls (v : View) (w : World) : List Symbol.Call :=
  match v.prepared w with
  | .error _ => []
  | .ok (s, text) => ((maker w s).make s.filters text).calls

def closed (v : View) (w : World) (notes : Text) (calls : List Symbol.Call) :
    Except Trouble Listing.Result → Outcome
  | .ok r => { out := v.shown r, err := notes, calls }
  | .error (.failure f) => { Outcome.ofFailure w.wording name v.json notes f with calls }
  | .error (.crash c) => { Outcome.ofCrash notes c with calls }

theorem exists_stopped_eq (v : View) (w : World) (verbose : Bool) (notes : List Note)
    (calls : List Symbol.Call) (t : Trouble) :
    ∃ text, v.stopped w.wording verbose notes calls t = v.closed w text calls (.error t) := by
  cases t <;> exact ⟨_, rfl⟩

theorem run_eq_closed (v : View) (verbose : Bool) (w : World) :
    ∃ notes, v.run verbose w = v.closed w notes (v.calls w) (v.work w) := by
  cases prepared : v.prepared w with
  | error t =>
    simp only [run, work, calls, prepared]
    exact exists_stopped_eq ..
  | ok settled =>
    obtain ⟨s, text⟩ := settled
    simp only [run, work, calls, prepared]
    cases ((maker w s).make s.filters text).result with
    | ok r => exact ⟨_, rfl⟩
    | error stop => exact exists_stopped_eq ..

/-- The end that a view is meant to have: a listing, or the report of a failure. -/
def Ends (v : View) (verbose : Bool) (w : World) : Prop :=
  (∃ r, (v.run verbose w).code = 0 ∧ (v.run verbose w).crash = none ∧
    (v.run verbose w).out = v.shown r) ∨
  ∃ notes f, v.run verbose w =
    { Outcome.ofFailure w.wording name v.json notes f with calls := (v.run verbose w).calls }

theorem crash_ofFailure (wording : Settings.Wording) (command : Text) (json : Bool) (notes : Text)
    (f : Failure) : (Outcome.ofFailure wording command json notes f).crash = none := by
  unfold Outcome.ofFailure
  split <;> rfl

theorem ends_iff : v.Ends verbose w ↔ ∀ c, v.work w ≠ .error (.crash c) := by
  obtain ⟨notes, run⟩ := v.run_eq_closed verbose w
  constructor
  · rintro ends c broken
    have crashed : (v.run verbose w).crash = some c := by rw [run, broken, closed, Outcome.ofCrash]
    obtain ⟨r, -, orderly, -⟩ | ⟨notes, f, reported⟩ := ends
    · cases orderly.symm.trans crashed
    · rw [reported] at crashed
      cases (crash_ofFailure ..).symm.trans crashed
  · intro whole
    match done : v.work w with
    | .ok r => exact .inl ⟨r, by simp [run, done, closed]⟩
    | .error (.failure f) => exact .inr ⟨notes, f, by rw [run, done, closed]⟩
    | .error (.crash c) => cases whole c done

def asked (s : Settings) (text : Text) : List Text :=
  Symbol.collect ((Listing.pass s.filters s.cap text).map (·.text))

theorem work_eq (v : View) (w : World) :
    v.work w = (do
      let s ← v.settled w
      let text ← w.input v.file
      ((maker w s).make s.filters text).result.mapError .ofSymbols) := by
  unfold work prepared
  cases v.settled w with
  | error t => rfl
  | ok s => cases w.input v.file <;> rfl

theorem ofSymbols_eq_crash_iff {stop : Symbol.Stop} {c : Crash} :
    Trouble.ofSymbols stop = .crash c ↔ ∃ b, stop = .breakdown b ∧ c = .tool b := by
  cases stop <;> simp [Trouble.ofSymbols, eq_comm]

theorem work_eq_ok_iff {r : Listing.Result} :
    v.work w = .ok r ↔ ∃ s, v.settled w = .ok s ∧ ∃ text, w.input v.file = .ok text ∧
      ((maker w s).make s.filters text).result = .ok r := by
  simp only [work_eq, bind_eq_ok_iff, mapError_eq_ok_iff]

theorem work_eq_crash_iff {c : Crash} :
    v.work w = .error (.crash c) ↔
      Breaks w.files v.settings c ∨ ∃ s, v.settled w = .ok s ∧
        (InputBreaks w v.file c ∨ ∃ text b, w.input v.file = .ok text ∧
          s.filters.demangle = true ∧ (tool w s).BreaksDown (asked s text) b ∧ c = .tool b) := by
  have stops (s : Settings) (text : Text) (stop : Symbol.Stop) :
      ((maker w s).make s.filters text).result = .error stop ↔
        s.filters.demangle = true ∧ ((tool w s).ask (asked s text)).result = .error stop :=
    Listing.Maker.result_make_eq_error_iff
  simp only [work_eq, bind_eq_error_iff, mapError_eq_error_iff, settled_eq_crash_iff,
    World.input_eq_crash_iff, ofSymbols_eq_crash_iff, stops,
    ← Symbol.Tool.result_ask_eq_breakdown_iff]
  grind

/-- Settings are loaded or their failure is reported exactly as long as no directory lies at the
usual path, no path is too long, and the settings file is UTF-8 up to where its grammar ends the
reading. A view ends with a listing or a report exactly as long as, besides, its input can be named
and decoded and the tool does not break down. -/
theorem settles_and_ends_iff (v : View) (verbose : Bool) (w : World)
    (reads : ReadsText w.files (Settings.pathOf v.settings)) :
    (Settles w.files w.env v.settings ↔ ¬ Obstacle w.files v.settings) ∧
    (∀ bytes, w.files (Settings.pathOf v.settings) = .file bytes →
      bytes.length ≤ Yaml.pieceSize → Text.ofBytes? bytes = none →
      Obstacle w.files v.settings) ∧
    (v.Ends verbose w ↔ ¬ Obstacle w.files v.settings ∧ ∀ s, v.settled w = .ok s →
      (v.file ≠ ['-'] → w.files (Path.normal v.file) ≠ .tooLong) ∧
      (v.file = ['-'] → Text.ofBytes? w.stdin ≠ none) ∧
      ∀ text, w.input v.file = .ok text → s.filters.demangle = true →
        ∀ b, ¬ (tool w s).BreaksDown (asked s text) b) := by
  refine ⟨Settings.settles_iff_of_readsText reads, fun _ => Obstacle.of_small, ?_⟩
  rw [ends_iff, Settings.obstacle_iff reads, not_exists]
  constructor
  · intro whole
    refine ⟨fun c broken => whole c (work_eq_crash_iff.2 (.inl broken)), ?_⟩
    intro s settled
    have clear {c : Crash} (broken : InputBreaks w v.file c) : False :=
      whole c (work_eq_crash_iff.2 (.inr ⟨s, settled, .inl broken⟩))
    refine ⟨fun named long => clear (.tooLong named long),
      fun dash broken => clear (.undecodable dash broken), ?_⟩
    intro text input demangle b broken
    exact whole _ (work_eq_crash_iff.2
      (.inr ⟨s, settled, .inr ⟨text, b, input, demangle, broken, rfl⟩⟩))
  · rintro ⟨whole, goes⟩ c broken
    obtain broken | ⟨s, settled, input | ⟨text, b, input, demangle, broken, -⟩⟩ :=
      work_eq_crash_iff.1 broken
    · exact whole c broken
    · obtain ⟨short, decoded, -⟩ := goes s settled
      cases input with
      | undecodable dash no_text => exact decoded dash no_text
      | tooLong named long => exact short named long
    · exact (goes s settled).2.2 text input demangle b broken

def onlySettings (bytes : List UInt8) : World where
  stdin := "ret void".toUTF8.toList
  files path := if path = Settings.usualPath then .file bytes else .absent
  env := {}
  wording := .plain
  run _ _ := .missing

def plainView : View :=
  ⟨['-'], none, none, none, none, none, none, true, false⟩

theorem settles_and_ends_capped :
    let w := onlySettings "max_lines_of_asm: 7".toUTF8.toList
    ReadsText w.files Settings.usualPath ∧ Settles w.files w.env none ∧ plainView.Ends false w := by
  intro w
  have read : (Yaml.read Settings.documentDepth "max_lines_of_asm: 7".toUTF8.toList).isOk := by
    decide +kernel
  have utf8 : (Text.ofBytes? "max_lines_of_asm: 7".toUTF8.toList).isSome := by decide +kernel
  have decoded : Text.ofBytes? w.stdin ≠ none := by decide +kernel
  have reads : ReadsText w.files Settings.usualPath := by
    intro bytes t found _ f fault
    cases found
    rw [fault] at read
    cases read
  have clear : ¬ Obstacle w.files none := by
    rintro (⟨-, found⟩ | found | ⟨found, broken, -⟩)
    · cases found
    · cases found
    · cases found
      rw [broken] at utf8
      cases utf8
  obtain ⟨settles, -, ends⟩ := settles_and_ends_iff plainView false w reads
  refine ⟨reads, settles.2 clear, ends.2 ⟨clear, ?_⟩⟩
  intro s _
  refine ⟨fun named => absurd rfl named, fun _ => decoded, ?_⟩
  rintro text - - b ⟨-, ⟨⟩⟩

/-- One byte that starts no character breaks a view off, and so does a directory in the place of the
usual settings file. -/
theorem broken_off :
    let bad := onlySettings [0xff]
    let occupied : World := { bad with
      files := fun path => if path = Settings.usualPath then .directory else .absent }
    (ReadsText bad.files Settings.usualPath ∧
      ¬ Settles bad.files bad.env none ∧ ¬ plainView.Ends false bad) ∧
    ReadsText occupied.files Settings.usualPath ∧
      ¬ Settles occupied.files occupied.env none ∧ ¬ plainView.Ends false occupied := by
  intro bad occupied
  have no_text : Text.ofBytes? [0xff] = none := by decide +kernel
  have undecodable : Breaks bad.files none (.document .undecodable) :=
    .document rfl (Yaml.read_of_ofBytes? (by decide) no_text _)
  have directory : Breaks occupied.files none .directoryRead := .directory rfl rfl
  refine ⟨⟨?_, fun settles => ?_, fun ends => ?_⟩, ?_, fun settles => ?_, fun ends => ?_⟩
  · rintro bytes t found text
    cases found
    cases no_text.symm.trans text
  · exact Settings.settles_iff.1 settles _ undecodable
  · exact ends_iff.1 ends _ (work_eq_crash_iff.2 (.inl undecodable))
  · rintro bytes t found
    cases found
  · exact Settings.settles_iff.1 settles _ directory
  · exact ends_iff.1 ends _ (work_eq_crash_iff.2 (.inl directory))

end View

end Cli

end IrListing
