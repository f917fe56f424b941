import IrListing.Cli.Command
import IrListing.Proofs.Cli.Ending
import IrListing.Proofs.Json
import IrListing.Proofs.Listing.Frame
import IrListing.Proofs.Listing.Wire
import IrListing.Proofs.Settings.Layers
import IrListing.Proofs.Settings.Whole

namespace IrListing.Cli

open Settings (Choices Counts FromLayers HasEntries Layered Writes)

def Given.value? (names : List Text) : Given → Option Text
  | .value name text => if name ∈ names then some text else none
  | .switch _ => none

def lastMention? (names : List Text) (given : List Given) : Option Text :=
  given.reverse.findSome? (Given.value? names)

def Toggle.means? (t : Toggle) : Given → Option Bool
  | .switch name => if name ∈ t.on then some true else if name ∈ t.off then some false else none
  | .value _ _ => none

theorem foldl_eq_findSome? {tells? : Given → Option α} {step : Option α → Given → Option α}
    (h : ∀ known g, step known g = (tells? g).or known) (given : List Given) (known : Option α) :
    given.foldl step known = (given.reverse.findSome? tells?).or known := by
  induction given generalizing known with
  | nil => rfl
  | cons g given ih =>
    rw [List.foldl_cons, ih, h, List.reverse_cons, List.findSome?_append, Option.or_assoc]
    cases told : tells? g <;> simp [told]

theorem lastValue?_eq (names : List Text) (given : List Given) :
    lastValue? names given = lastMention? names given := by
  rw [lastValue?, lastMention?, foldl_eq_findSome?, Option.or_none]
  intro known g
  cases g with
  | switch name => rfl
  | value name value =>
    dsimp only [Given.value?]
    split <;> rfl

theorem Toggle.last?_eq (t : Toggle) (given : List Given) :
    t.last? given = given.reverse.findSome? t.means? := by
  rw [last?, foldl_eq_findSome?, Option.or_none]
  intro known g
  cases g with
  | switch name =>
    dsimp only [means?]
    split
    · rfl
    · split <;> rfl
  | value name value => rfl

def choices (given : List Given) : Choices where
  cap := (lastMention? capNames given).bind Text.integer?
  debugCalls := given.reverse.findSome? debugCallsToggle.means?
  metadata := given.reverse.findSome? metadataToggle.means?
  comments := given.reverse.findSome? commentsToggle.means?
  demangle := given.reverse.findSome? demangleToggle.means?

def settingsPath (given : List Given) : Option Text :=
  (lastMention? settingsNames given).filter (· ≠ [])

theorem readOptional_eq_ok {read : Text → Except Refusal α} {value : Option Text} {a : Option α}
    (h : readOptional read value = .ok a) :
    (value = none ∧ a = none) ∨ ∃ t b, value = some t ∧ a = some b ∧ read t = .ok b := by
  cases value with
  | none =>
    cases h
    exact .inl ⟨rfl, rfl⟩
  | some t =>
    cases done : read t with
    | error r => simp [readOptional, done, Except.map] at h
    | ok b =>
      simp only [readOptional, done, Except.map] at h
      cases h
      exact .inr ⟨t, b, rfl, rfl, done⟩

theorem readCap_eq_ok_iff {value : Text} {n : Int} :
    readCap value = .ok n ↔ Text.integer? value = some n ∧ 1 ≤ n := by
  unfold readCap
  cases Text.integer? value with
  | none => simp
  | some m =>
    dsimp only
    split
    · rename_i least
      constructor
      · rintro ⟨⟩
        exact ⟨rfl, least⟩
      · rintro ⟨⟨⟩, -⟩
        rfl
    · rename_i low
      constructor
      · rintro ⟨⟩
      · rintro ⟨⟨⟩, least⟩
        exact absurd least low

theorem cap_of_readOptional {value : Option Text} {cap : Option Int}
    (h : readOptional readCap value = .ok cap) :
    cap = value.bind Text.integer? ∧ (∀ t, value = some t → ∃ n, Text.integer? t = some n) ∧
      ∀ n, cap = some n → 1 ≤ n := by
  obtain ⟨rfl, rfl⟩ | ⟨t, n, rfl, rfl, read⟩ := readOptional_eq_ok h
  · simp
  · obtain ⟨whole, least⟩ := readCap_eq_ok_iff.1 read
    refine ⟨whole.symm, ?_, ?_⟩
    · rintro _ ⟨⟩
      exact ⟨n, whole⟩
    · rintro _ ⟨⟩
      exact least

theorem eq_of_readSettingsPath {files : Files} {path read : Text}
    (h : readSettingsPath files path = .ok read) : read = path := by
  unfold readSettingsPath at h
  split at h <;> cases h
  rfl

theorem settings_of_readOptional {files : Files} {value settings : Option Text}
    (h : readOptional (readSettingsPath files) value = .ok settings) : settings = value := by
  obtain ⟨rfl, rfl⟩ | ⟨t, read, rfl, rfl, done⟩ := readOptional_eq_ok h
  · rfl
  · rw [eq_of_readSettingsPath done]

theorem readValues_eq_ok {files : Files} {given : List Given} {cap : Option Int}
    {settings : Option Text} (h : readValues files given = .ok (cap, settings)) :
    readOptional readCap (lastValue? capNames given) = .ok cap ∧
      readOptional (readSettingsPath files) (lastValue? settingsNames given) = .ok settings := by
  unfold readValues at h
  dsimp only at h
  -- Which of the two is read first decides on what is refused, not on what is read.
  split at h
  · obtain ⟨_, cap_read, h⟩ := bind_eq_ok_iff.1 h
    obtain ⟨_, settings_read, ⟨⟩⟩ := bind_eq_ok_iff.1 h
    exact ⟨cap_read, settings_read⟩
  · obtain ⟨_, settings_read, h⟩ := bind_eq_ok_iff.1 h
    obtain ⟨_, cap_read, ⟨⟩⟩ := bind_eq_ok_iff.1 h
    exact ⟨cap_read, settings_read⟩

namespace View

def choices (v : View) : Choices := ⟨v.cap, v.debugCalls, v.metadata, v.comments, v.demangle⟩

theorem exists_of_ofParsed {files : Files} {p : Parsed} {v : View}
    (h : View.ofParsed files p = .ok v) :
    ∃ cap settings file, readValues files p.given = .ok (cap, settings) ∧
      readFile p.args = .ok file ∧
      v = {
        file, cap
        settings := settings.filter (· ≠ [])
        debugCalls := debugCallsToggle.last? p.given
        metadata := metadataToggle.last? p.given
        comments := commentsToggle.last? p.given
        demangle := demangleToggle.last? p.given
        places := !has p.given "--no-source"
        json := has p.given "--json" } := by
  obtain ⟨⟨cap, settings⟩, values, h⟩ := bind_eq_ok_iff.1 h
  obtain ⟨file, input, ⟨⟩⟩ := bind_eq_ok_iff.1 h
  exact ⟨cap, settings, file, values, mapError_eq_ok_iff.1 input, rfl⟩

theorem ofParsed_eq_ok {files : Files} {p : Parsed} {v : View}
    (h : View.ofParsed files p = .ok v) :
    v.choices = Cli.choices p.given ∧ v.settings = settingsPath p.given ∧
      readFile p.args = .ok v.file ∧ v.json = has p.given "--json" ∧
      (∀ t, lastMention? capNames p.given = some t → ∃ n, Text.integer? t = some n) ∧
      ∀ n, v.cap = some n → 1 ≤ n := by
  obtain ⟨cap, settings, file, values, input, rfl⟩ := exists_of_ofParsed h
  obtain ⟨cap_read, settings_read⟩ := readValues_eq_ok values
  obtain ⟨cap_given, whole, least⟩ := cap_of_readOptional cap_read
  have settings_given := settings_of_readOptional settings_read
  rw [lastValue?_eq] at cap_given whole settings_given
  refine ⟨?_, congrArg (Option.filter _) settings_given, input, rfl, whole, least⟩
  simp only [View.choices, Cli.choices, Toggle.last?_eq, cap_given]

theorem fromLayers_overrule {v : View} {env : Settings.Environment}
    {es : Assoc Text Settings.Value} {s : Settings} (h : FromLayers {} env es s) :
    FromLayers v.choices env es (v.overrule s) where
  cap := h.cap.choose v.cap
  demangler := h.demangler
  debugCalls := h.debugCalls.choose v.debugCalls
  metadata := h.metadata.choose v.metadata
  comments := h.comments.choose v.comments
  demangle := h.demangle.choose v.demangle

theorem shown_of_code {v : View} {verbose : Bool} {w : World}
    (success : (v.run verbose w).code = 0) :
    ∃ s text r, v.settled w = .ok s ∧ w.input v.file = .ok text ∧
      ((maker w s).make s.filters text).result = .ok r ∧ (v.run verbose w).out = v.shown r := by
  obtain ⟨notes, run⟩ := v.run_eq_closed verbose w
  rw [run] at success ⊢
  match done : v.work w with
  | .error (.crash c) =>
    rw [done] at success
    cases success
  | .error (.failure f) =>
    rw [done, closed, Outcome.ofFailure] at success
    split at success <;> cases success
  | .ok r =>
    obtain ⟨s, settled, text, input, made⟩ := work_eq_ok_iff.1 done
    exact ⟨s, text, r, settled, input, made, rfl⟩

end View

theorem code_ofRefusal (s : Scope) (r : Refusal) :
    (Outcome.ofRefusal s r).code = match r with | .misuse _ => 2 | .crash _ => 1 := by
  cases r <;> rfl

theorem withParsed_of_acts {o : Options} {s : Scope} {args : List Text} {p : Parsed}
    {run : Parsed → Except Refusal Outcome} (parsed : o.parse args = .ok p)
    (acts : has p.given "--help" = false) :
    withParsed s o args run = match run p with
      | .ok outcome => outcome
      | .error r => .ofRefusal s r := by
  cases ran : run p <;> simp only [withParsed, parsed, acts, ran, Bool.false_eq_true, if_false]

theorem ofParsed_of_code {verbose : Bool} {w : World} {args : List Text} {p : Parsed}
    (parsed : viewOptions.parse args = .ok p) (acts : has p.given "--help" = false)
    (success : (runView verbose w args).code = 0) :
    ∃ v, View.ofParsed w.files p = .ok v ∧ runView verbose w args = v.run verbose w := by
  cases read : View.ofParsed w.files p with
  | error r =>
    have refused : runView verbose w args = .ofRefusal .view r := by
      rw [runView, withParsed_of_acts parsed acts, read]
      rfl
    rw [refused, code_ofRefusal] at success
    split at success <;> cases success
  | ok v =>
    refine ⟨v, rfl, ?_⟩
    rw [runView, withParsed_of_acts parsed acts, read]
    rfl

/-- The cap is the number that is written in its first layer: behind the option, in a variable, or
in a file. -/
structure CapWritten (given : List Given) (env : Settings.Environment)
    (es : Assoc Text Settings.Value) (cap : Int) : Prop where
  onLine : ∀ t, lastMention? capNames given = some t →
    ∃ m : Text.Numeral, m.text = t ∧ m.Means cap
  inVariable : lastMention? capNames given = none → env.cap ≠ [] →
    ∃ n : Nat, Writes env.cap n ∧ cap = n
  inFile : lastMention? capNames given = none → env.cap = [] →
    ∀ v, es.get? Settings.capName = some v → ∃ n : Nat, Counts v n ∧ cap = n

theorem capWritten_of_fromLayers {given : List Given} {env : Settings.Environment}
    {es : Assoc Text Settings.Value} {s : Settings}
    (whole : ∀ t, lastMention? capNames given = some t → ∃ n, Text.integer? t = some n)
    (h : FromLayers (choices given) env es s) : CapWritten given env es s.cap := by
  have cap := h.cap
  refine ⟨?_, ?_, ?_⟩
  · intro t mentioned
    obtain ⟨n, read⟩ := whole t mentioned
    simp only [Layered, choices, mentioned, Option.bind_some, read] at cap
    obtain ⟨m, text, -, means⟩ := Text.integer?_eq_some_iff.1 read
    exact ⟨m, text, cap ▸ means⟩
  · intro silent set
    simp only [Layered, choices, silent, Option.bind_none, Settings.layerOf, if_neg set,
      List.findSome?_cons] at cap
    obtain ⟨n, counts, count⟩ := Settings.counts_of_wholeFrom cap
    cases counts with
    | text written => exact ⟨n, written, count⟩
  · intro silent unset v entry
    simp only [Layered, choices, silent, Option.bind_none, Settings.layerOf, if_pos unset,
      List.findSome?_cons, entry] at cap
    exact Settings.counts_of_wholeFrom cap

/-- What is written is one success envelope with this data. -/
def Succeeds (out : Text) (data : Json) : Prop :=
  ∃ j, Json.read? out = some j ∧ j.at? ["meta", "status"] = some (.text "success".toList) ∧
    j.member? "data" = some data

theorem succeeds_successJson (command : Text) (data : Json) :
    Succeeds ((successJson command data).print ++ ['\n']) data :=
  ⟨_, Json.read?_print_newline _, rfl, rfl⟩

/-- A view that succeeds emits the listing of its input, made with settings that come from their
layers. The cap is at least one, so the listing has at most one line more than that, and exactly so
many, with the marker last, when it is cut. -/
theorem emitted_of_success {verbose : Bool} {w : World} {args : List Text} {p : Parsed}
    (parsed : viewOptions.parse args = .ok p) (acts : has p.given "--help" = false)
    (json : has p.given "--json" = true) (success : (runView verbose w args).code = 0) :
    ∃ file text es s r, readFile p.args = .ok file ∧ w.input file = .ok text ∧
      HasEntries w.files (Settings.pathOf (settingsPath p.given)) es ∧
      FromLayers (choices p.given) w.env es s ∧ CapWritten p.given w.env es s.cap ∧
      ((⟨s.cap, some ⟨s.demangler, .usual, w.run s.demangler⟩⟩ : Listing.Maker).make
        s.filters text).result = .ok r ∧
      Succeeds (runView verbose w args).out r.json ∧ 1 ≤ s.cap ∧ r.lines.length ≤ s.cap + 1 ∧
      let kept := Listing.collapse (Listing.wanted s.filters (Text.lines text))
      if s.cap ≤ kept.length then
        r.lines.length = s.cap + 1 ∧ r.lines.getLast? = some Listing.marker
      else r.lines.length = kept.length := by
  obtain ⟨v, read, ran⟩ := ofParsed_of_code parsed acts success
  obtain ⟨chosen, path, file, as_json, whole, given⟩ := View.ofParsed_eq_ok read
  rw [ran] at success
  obtain ⟨s, text, r, settled, input, made, shown⟩ := View.shown_of_code success
  obtain ⟨loaded, load, rfl⟩ := View.settled_eq_ok_iff.1 settled
  obtain ⟨es, entries, layers⟩ := Settings.fromLayers_of_load load
  have positive : 1 ≤ (v.overrule loaded).cap := by
    cases cap : v.cap with
    | none => simpa [View.overrule, cap] using Settings.one_le_cap_of_fromLayers layers
    | some n => simpa [View.overrule, cap] using given n cap
  have least : 0 ≤ (View.maker w (v.overrule loaded)).cap := Int.le_trans (by decide) positive
  have all_layers : FromLayers (choices p.given) w.env es (v.overrule loaded) :=
    chosen ▸ View.fromLayers_overrule layers
  refine ⟨v.file, text, es, v.overrule loaded, r, file, input,
    Settings.entriesAt_eq_ok_iff.1 (path ▸ entries), all_layers,
    capWritten_of_fromLayers whole all_layers, made, ?_, positive,
    Listing.Maker.length_le made least, Listing.Maker.extent made least⟩
  rw [ran, shown, View.shown, as_json, json, if_pos rfl]
  exact succeeds_successJson ..

def givenArgs : List Text :=
  ["-d", "--no-directives", "--max-lines", "2", "--json"].map (·.toList)

def givenParsed : Parsed where
  given := [.switch "-d".toList, .switch "--no-directives".toList,
    .value "--max-lines".toList ['2'], .switch "--json".toList]

def contraryWorld : World where
  stdin := "!llvm.ident = !0\nret void\ncall void @llvm.dbg.value()\n; end".toUTF8.toList
  files path :=
    if path = Settings.usualPath then
      .file ("max_lines_of_asm: 7\ndefault_filters:\n  filterIRMetadata: true\n" ++
        "  comments: true").toUTF8.toList
    else .absent
  env := ⟨['9'], "names".toList⟩
  wording := .plain
  run _ _ := .missing

def isTrue : Option Settings.Value → Bool
  | some (.bool b) => b
  | _ => false

theorem eq_true_of_isTrue {layers : List (Option Settings.Value)} {usual b : Bool}
    (set : isTrue (layers.findSome? id) = true)
    (h : Layered none Settings.Check.bool usual layers b) : b = true := by
  unfold Layered at h
  cases first : layers.findSome? id with
  | none =>
    rw [first] at set
    cases set
  | some v =>
    rw [first] at set h
    cases v with
    | bool c => exact (Except.ok.inj h).symm.trans set
    | _ => cases set

theorem emitted_as_given :
    (viewOptions.parse givenArgs = .ok givenParsed ∧ has givenParsed.given "--help" = false ∧
      has givenParsed.given "--json" = true ∧
      (runView false contraryWorld givenArgs).code = 0) ∧
    ∃ (s : Settings) (r : Listing.Result), s.cap = 2 ∧ s.demangler = "names".toList ∧
      s.filters.debugCalls = true ∧ s.filters.metadata = false ∧ s.filters.comments = true ∧
      r.lines.length ≤ 3 ∧ Succeeds (runView false contraryWorld givenArgs).out r.json := by
  have parsed : viewOptions.parse givenArgs = .ok givenParsed := by rfl
  have acts : has givenParsed.given "--help" = false := by decide
  have json : has givenParsed.given "--json" = true := by decide
  have success : (runView false contraryWorld givenArgs).code = 0 := by decide +kernel
  obtain ⟨_, _, es, s, r, -, -, entries, layers, -, -, out, -, short, -⟩ :=
    emitted_of_success parsed acts json success
  have chosen : choices givenParsed.given =
      { cap := some 2, debugCalls := some true, metadata := some false } := by decide +kernel
  rw [chosen] at layers
  have cap : s.cap = 2 := layers.cap
  have demangler : s.demangler = "names".toList := (Except.ok.inj layers.demangler).symm
  have read : Settings.entriesAt contraryWorld.files Settings.usualPath = .ok es :=
    Settings.entriesAt_eq_ok_iff.2 entries
  have set : (Settings.entriesAt contraryWorld.files Settings.usualPath).toOption.any (fun es =>
      isTrue ((Settings.filterNames.comments.map (Settings.filterEntries es).get?).findSome? id))
        = true := by decide +kernel
  rw [read] at set
  exact ⟨⟨parsed, acts, json, success⟩, s, r, cap, demangler, layers.debugCalls,
    layers.metadata, eq_true_of_isTrue set layers.comments, by omega, out⟩

end IrListing.Cli
