import IrListing.Proofs.Cli.Modes
import IrListing.Proofs.Listing.OneLine
import IrListing.Proofs.Listing.Recover

namespace IrListing

namespace Listing

theorem Line.OnOneLine.named {l : Line} (h : l.OnOneLine) :
    ∀ p, l.source = some p → p.file ≠ some [] :=
  fun p source nameless => (h.file p source [] nameless).1 rfl

theorem Line.OnOneLine.newline_not_mem_entryLine {l : Line} (h : l.OnOneLine) (places : Bool) :
    '\n' ∉ entryLine places l.json := by
  rw [entryLine_json h.named]
  intro hc
  rcases List.mem_append.1 hc with hc | hc
  · exact h.text hc
  · split at hc
    · rcases mem_note hc with ⟨p, name, source, named, hc⟩ | plain
      · exact (h.file p source name named).2 hc
      · revert plain
        decide
    · cases hc

theorem Result.shown_eq_entryLines {r : Result} (whole : ∀ l ∈ r.lines, l.OnOneLine)
    (settled : ∀ e ∈ r.lines.map (·.json), EntrySettled e) (places : Bool) :
    r.shown places = (r.lines.map (·.json)).flatMap fun e => entryLine places e ++ ['\n'] := by
  rw [Result.shown, List.flatMap_map]
  apply List.flatMap_congr
  intro l hl
  rw [shown_eq_entryLine (whole l hl).named (settled l.json (List.mem_map_of_mem hl))]

end Listing

namespace Cli

open Listing (EntrySettled entryLine)

theorem View.places_of_ofParsed {files : Files} {p : Parsed} {v : View}
    (h : View.ofParsed files p = .ok v) : v.places = !has p.given "--no-source" := by
  obtain ⟨cap, settings, file, -, -, rfl⟩ := View.exists_of_ofParsed h
  rfl

theorem View.onOneLine_of_work {v : View} {w : World} {r : Listing.Result} (h : v.work w = .ok r) :
    ∀ l ∈ r.lines, l.OnOneLine := by
  obtain ⟨s, -, text, -, made⟩ := work_eq_ok_iff.1 h
  exact Listing.Maker.onOneLine made

/-- What a view shows for the eye are the lines of its JSON entries, in their order and each with a
newline of its own, as long as no text and no file name of an entry moves the cursor. No line of an
entry has a newline in it. -/
theorem view_shows_entryLines {verbose : Bool} {w : World} {args args' : List Text} {p p' : Parsed}
    (twins : Twins viewOptions args args' p p') (acts : has p.given "--help" = false)
    (success : (runView verbose w args).code = 0) :
    let places := !has p.given "--no-source"
    ∃ j entries, (runView verbose w args').code = 0 ∧
      Json.read? (runView verbose w args').out = some j ∧
      j.at? ["data", "asm"] = some (.array entries) ∧
      (∀ e ∈ entries, '\n' ∉ entryLine places e) ∧
      ((∀ e ∈ entries, EntrySettled e) →
        (runView verbose w args).out = entries.flatMap fun e => entryLine places e ++ ['\n']) := by
  intro places
  obtain ⟨v, read, -⟩ := ofParsed_of_code twins.parsed acts success
  have code : (runView verbose w args').code = 0 := twins.sameEffect_view.code.trans success
  obtain ⟨r, work, -, out, j, out', -, data⟩ :=
    (twins.leaves_view acts read).finds_of_code success
  have whole : ∀ l ∈ r.lines, l.OnOneLine := View.onOneLine_of_work work
  have asm : j.at? ["data", "asm"] = some (.array (r.lines.map (·.json))) := by
    rw [Json.at?, data]
    rfl
  refine ⟨j, r.lines.map (·.json), code, out', asm, ?_, ?_⟩
  · intro e he
    obtain ⟨l, hl, rfl⟩ := List.mem_map.1 he
    exact (whole l hl).newline_not_mem_entryLine places
  · intro settled
    rw [out, Listing.Result.shown_eq_entryLines whole settled, View.places_of_ofParsed read]

def placedArgs : List Text := ["--directives".toList]

def placedJsonArgs : List Text := ["--json".toList, "--directives".toList]

def placedParsed : Parsed where
  given := [.switch "--directives".toList]

def placedJsonParsed : Parsed where
  given := [.switch "--json".toList, .switch "--directives".toList]

def placedWorld : World where
  stdin :=
    ["  %a = add i32 1, 2, !dbg !2\n", "\n", "  unreachable, !dbg !3\n",
      "!0 = !DIFile(filename: \"a.c\")\n", "!1 = !DISubprogram(file: !0)\n",
      "!2 = !DILocation(line: 3, column: 5, scope: !1)\n", "!3 = !DILocation(line: 7)"].flatMap
        fun line => line.toUTF8.toList
  files _ := .absent
  env := {}
  wording := .plain
  run _ _ := .missing

theorem view_shows_entryLines_placed :
    (Twins viewOptions placedArgs placedJsonArgs placedParsed placedJsonParsed ∧
      has placedParsed.given "--help" = false ∧
      (runView false placedWorld placedArgs).code = 0) ∧
    ∃ j entries, Json.read? (runView false placedWorld placedJsonArgs).out = some j ∧
      j.at? ["data", "asm"] = some (.array entries) ∧ (∀ e ∈ entries, EntrySettled e) ∧
      (runView false placedWorld placedArgs).out =
        entries.flatMap fun e => entryLine true e ++ ['\n'] := by
  have twins : Twins viewOptions placedArgs placedJsonArgs placedParsed placedJsonParsed :=
    ⟨rfl, rfl, rfl, by decide, by decide, by decide⟩
  have acts : has placedParsed.given "--help" = false := by decide
  have success : (runView false placedWorld placedArgs).code = 0 := by decide +kernel
  have plain : (((Json.read? (runView false placedWorld placedJsonArgs).out).bind
      (Json.at? ["data", "asm"])).bind (Json.items? some)).any (·.all (EntrySettled ·)) = true := by
    decide +kernel
  obtain ⟨j, entries, -, read, asm, -, out⟩ := view_shows_entryLines twins acts success
  have settled : ∀ e ∈ entries, EntrySettled e := by
    have items : (Json.array entries).items? some = some entries := by
      simpa [Json.items?] using Json.mapM_map_eq_some (fun e => congrArg some (id_eq e)) entries
    rw [read, Option.bind_some, asm, Option.bind_some, items] at plain
    simpa only [Option.any_some, List.all_eq_true, decide_eq_true_eq] using plain
  exact ⟨⟨twins, acts, success⟩, j, entries, read, asm, settled, out settled⟩

end Cli

end IrListing
