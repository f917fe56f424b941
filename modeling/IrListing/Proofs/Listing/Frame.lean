import IrListing.Proofs.Listing.Layout
import IrListing.Proofs.Symbol.Collect
import IrListing.Proofs.Symbol.Rename
import IrListing.Proofs.Symbol.Tool
import Mathlib.Data.List.Forall2

/-! What readable names leave alone, whatever the tool does that gives them. -/

namespace IrListing

open Text

namespace Symbol

theorem standsAt_of_unmarked {s t : Text} (mangled : isMangled s = true)
    (z : has "_Z".toList t = false) (r : has "_R".toList t = false) : standsAt s t = false := by
  rw [Bool.eq_false_iff]
  intro stands
  obtain ⟨rest, rfl, -⟩ := standsAt_iff.1 stands
  obtain ⟨c, u, rfl, rfl | rfl⟩ := eq_cons_of_isMangled mangled
  · simp [has, startsWith, after?] at z
  · simp [has, startsWith, after?] at r

theorem renameFrom_of_unmarked {names : Assoc Text Text}
    (mangled : ∀ e ∈ names, isMangled e.1 = true) {t : Text} (z : has "_Z".toList t = false)
    (r : has "_R".toList t = false) (joined : Bool) : renameFrom names joined t = t := by
  induction t generalizing joined with
  | nil => exact renameFrom_nil names joined
  | cons c t ih =>
    have nothing_here : longestAt? names (c :: t) = none :=
      longestAt?_eq_none_iff.2 fun e he => standsAt_of_unmarked (mangled e he) z r
    rw [has, Bool.or_eq_false_iff] at z r
    rw [renameFrom_cons (Or.inr nothing_here), ih z.2 r.2]

end Symbol

namespace Listing

open IrListing.Symbol IrListing.Filter

/-- The same line but for its text, and for that as well unless a mangled name begins in it. -/
structure Line.SameFrame (plain named : Line) : Prop where
  scope : named.scope = plain.scope
  source : named.source = plain.source
  text : has "_Z".toList plain.text = false → has "_R".toList plain.text = false →
    named.text = plain.text

structure Result.SameFrame (plain named : Result) : Prop where
  lines : List.Forall₂ Line.SameFrame plain.lines named.lines
  labels : named.labels = plain.labels
  language : named.language = plain.language

theorem Line.SameFrame.eq {plain named : Line} (h : plain.SameFrame named)
    (z : has "_Z".toList plain.text = false) (r : has "_R".toList plain.text = false) :
    named = plain := by
  obtain ⟨scope, source, text⟩ := h
  cases plain
  cases named
  simp_all

theorem has_of_isBlank {t : Text} (h : isBlank t = true) {c : Char} (hc : isSpace c = false)
    (part : Text) : has (c :: part) t = false := by
  rw [Bool.eq_false_iff]
  intro found
  obtain ⟨before, behind, rfl⟩ := has_iff.1 found
  have := List.all_eq_true.1 h c (by simp)
  rw [hc] at this
  cases this

theorem forall₂_sameFrame {tool : Tool} {lines out : List Line}
    (h : (readable tool lines).result = .ok out) : List.Forall₂ Line.SameFrame lines out := by
  obtain ⟨names, asked, rfl⟩ := Traced.result_map_eq_ok_iff.1 h
  have mangled : ∀ e ∈ names.filter (fun e => e.1 ≠ e.2), isMangled e.1 = true := by
    intro e he
    have collected := Tool.mem_of_mem_names asked (List.mem_filter.1 he).1
    exact (shape_of_mem_collect collected).1
  rw [List.forall₂_map_right_iff, List.forall₂_same]
  intro line _
  exact ⟨rfl, rfl, fun z r => renameFrom_of_unmarked mangled z r false⟩

theorem exists_sameFrame {lines out : List Line} (h : List.Forall₂ Line.SameFrame lines out)
    {i : Nat} {plain : Line} (here : lines[i]? = some plain) :
    ∃ named, out[i]? = some named ∧ plain.SameFrame named := by
  induction h generalizing i with
  | nil => simp at here
  | cons same _ ih =>
    cases i with
    | zero =>
      obtain rfl := Option.some.inj here
      exact ⟨_, rfl, same⟩
    | succ i => exact ih here

theorem Line.SameFrame.eq_of_isBlank {plain named : Line} (h : plain.SameFrame named)
    (blank : isBlank plain.text = true) : named = plain := by
  have lower : isSpace '_' = false := by decide
  exact h.eq (has_of_isBlank blank lower ['Z']) (has_of_isBlank blank lower ['R'])

theorem Line.SameFrame.eq_of_eq_marker {plain named : Line} (h : plain.SameFrame named)
    (cut : plain = marker) : named = plain := by
  subst cut
  exact h.eq (by decide) (by decide)

theorem pass_demangle (config : Config) (cap : Int) (text : Text) (wanted : Bool) :
    pass { config with demangle := wanted } cap text =
      pass { config with demangle := false } cap text := by
  rw [pass_eq, pass_eq]
  rfl

theorem collect_eq_nil_iff {texts : List Text} :
    collect texts = [] ↔ ∀ t ∈ texts, references t = [] := by
  simp only [List.eq_nil_iff_forall_not_mem, mem_collect_iff]
  grind

theorem calls_readable (tool : Tool) (lines : List Line) :
    (readable tool lines).calls =
      if ∃ l ∈ lines, references l.text ≠ [] then
        [⟨tool.command, unlines (collect (lines.map (·.text)))⟩] else [] := by
  have none_collected : collect (lines.map (·.text)) = [] ↔
      ¬ ∃ l ∈ lines, references l.text ≠ [] := by
    simp [collect_eq_nil_iff]
  rw [readable, Traced.map, Tool.calls_ask]
  by_cases referred : ∃ l ∈ lines, references l.text ≠ []
  · rw [if_pos referred, if_neg (fun none => none_collected.1 none referred)]
  · rw [if_neg referred, if_pos (none_collected.2 referred)]

theorem Maker.result_make_eq_error_iff {cap : Int} {tool : Tool} {config : Config} {text : Text}
    {stop : Stop} :
    ((⟨cap, some tool⟩ : Maker).make config text).result = .error stop ↔
      config.demangle = true ∧
        (tool.ask (collect ((pass config cap text).map (·.text)))).result = .error stop := by
  rw [make, Traced.result_map_eq_error_iff, Maker.lines]
  cases config.demangle with
  | false => simp
  | true => simp [readable, Traced.result_map_eq_error_iff]

/-- Unless the tool breaks down, either it is to blame for a failure, or the listing is the plain
one with other texts where mangled names begin. It is run only if the lines of the plain listing
have symbols, and then once, on these, each in a line and in the order of their first references.
-/
theorem Maker.make_frame (cap : Int) (tool : Tool) (config : Config) (text : Text) :
    ∃ plain : Result, (⟨cap, some tool⟩ : Maker).make { config with demangle := false } text =
        ⟨[], .ok plain⟩ ∧
      let symbols := collect (plain.lines.map (·.text))
      let made := (⟨cap, some tool⟩ : Maker).make { config with demangle := true } text
      FirstSeen ((plain.lines.map (·.text)).flatMap references) symbols ∧
        made.calls = (if ∃ l ∈ plain.lines, references l.text ≠ [] then
          [⟨tool.command, unlines symbols⟩] else []) ∧
        (∀ f, made.result = .error (.failure f) →
          f.command = tool.command ∧ ¬ tool.Serves symbols) ∧
        (((∃ f, made.result = .error (.failure f)) ∨ ∃ named, made.result = .ok named) ↔
          ∀ b, ¬ tool.BreaksDown symbols b) ∧
        ∀ named, made.result = .ok named → plain.SameFrame named ∧ tool.Serves symbols ∧
          ∀ (i : Nat) (l : Line), plain.lines[i]? = some l → isBlank l.text = true ∨ l = marker →
            named.lines[i]? = some l := by
  refine ⟨_, Maker.make_plain _ rfl text, ?_⟩
  intro symbols made
  have asked : made = (readable tool (pass { config with demangle := false } cap text)).map
      fun lines => { lines, language := some language } := by
    simp only [made, make, Maker.lines, if_true, pass_demangle]
  have stops (stop : Stop) :
      made.result = .error stop ↔ (tool.ask symbols).result = .error stop := by
    simp only [made, symbols, Maker.result_make_eq_error_iff, pass_demangle, true_and]
  refine ⟨firstSeen_collect _, asked ▸ calls_readable tool _, ?_, ?_, ?_⟩
  · intro f failed
    rw [stops] at failed
    refine ⟨Tool.command_of_ask_failure failed, ?_⟩
    rw [Tool.serves_iff_exists_names, failed]
    rintro ⟨names, ⟨⟩⟩
  · simp only [← Tool.result_ask_eq_breakdown_iff, ← stops]
    cases made.result with
    | ok named => simp
    | error stop => cases stop <;> simp
  · intro named done
    rw [asked, Traced.result_map_eq_ok_iff] at done
    obtain ⟨lines, done, rfl⟩ := done
    obtain ⟨names, answered, -⟩ := Traced.result_map_eq_ok_iff.1 done
    have frame := forall₂_sameFrame done
    refine ⟨⟨frame, rfl, rfl⟩, Tool.serves_iff_exists_names.2 ⟨names, answered⟩, ?_⟩
    intro i l here untouched
    obtain ⟨named, there, same⟩ := exists_sameFrame frame here
    rcases untouched with blank | cut
    · rw [there, same.eq_of_isBlank blank]
    · rw [there, same.eq_of_eq_marker cut]

def cutOff : Text := "call void @_Z3foov(), !dbg !1\n\ncall void @_Z3barv()".toList

def shout (symbol : Text) : Text := symbol.map Char.toUpper

def shouted : Result where
  lines := [
    { text := "call void @_Z3FOOV(), !dbg !1".toList
      scope := some "!1".toList
      source := some ⟨none, none, none⟩ },
    blank, marker]
  language := some language

theorem Maker.make_cut_off :
    (⟨2, some (.naming shout)⟩ : Maker).make { demangle := true } cutOff =
        ⟨[⟨"names".toList, "_Z3foov\n".toList⟩], .ok shouted⟩ ∧
      ∃ plain, (⟨2, some (.naming shout)⟩ : Maker).make { demangle := false } cutOff =
          ⟨[], .ok plain⟩ ∧
        plain.SameFrame shouted ∧ (Tool.naming shout).Serves ["_Z3foov".toList] := by
  have calls : ((⟨2, some (.naming shout)⟩ : Maker).make { demangle := true } cutOff).calls =
      [⟨"names".toList, "_Z3foov\n".toList⟩] := by decide +kernel
  have result : ((⟨2, some (.naming shout)⟩ : Maker).make { demangle := true } cutOff).result =
      .ok shouted := by decide +kernel
  obtain ⟨plain, made, -, -, -, -, done⟩ := Maker.make_frame 2 (.naming shout) {} cutOff
  refine ⟨?_, plain, made, (done shouted result).1, ?_⟩
  · rw [← calls, ← result]
  · exact Or.inr ⟨"_Z3FOOV\n".toList, by decide +kernel, by decide +kernel⟩

theorem Maker.garbled_unaccounted :
    let made := (⟨defaultCap, some .garbled⟩ : Maker).make { demangle := true }
      "call void @_Z3foov()".toList
    ¬ ((∃ f, made.result = .error (.failure f)) ∨ ∃ named, made.result = .ok named) := by
  intro made
  have broken : (match made.result with
      | .error (.breakdown _) => true
      | _ => false) = true := by decide +kernel
  rintro (⟨f, failed⟩ | ⟨named, done⟩)
  · rw [failed] at broken
    cases broken
  · rw [done] at broken
    cases broken

theorem length_upTo_of_le {cap : Int} {texts : List Text} (least : 0 ≤ cap)
    (reached : cap ≤ texts.length) : ((upTo cap texts).length : Int) = cap := by
  cases cap with
  | ofNat n =>
    have : n ≤ texts.length := by simpa using reached
    simp [upTo, this]
  | negSucc n => omega

theorem getLast?_pass_of_le {config : Config} {cap : Int} {text : Text}
    (reached : cap ≤ (collapse (wanted config (Text.lines text))).length) :
    (pass config cap text).getLast? = some marker := by
  rw [pass_eq, layout, capped, if_neg (by omega), List.map_append, List.map_singleton,
    List.getLast?_concat]
  rfl

theorem forall₂_pass {m : Maker} {config : Config} {text : Text} {r : Result}
    (done : (m.make config text).result = .ok r) :
    List.Forall₂ Line.SameFrame (pass config m.cap text) r.lines := by
  obtain ⟨lines, made, rfl⟩ := Traced.result_map_eq_ok_iff.1 done
  unfold Maker.lines at made
  dsimp only at made
  split at made
  · split at made
    · exact forall₂_sameFrame made
    · cases made
  · cases made
    exact List.forall₂_same.2 fun _ _ => ⟨rfl, rfl, fun _ _ => rfl⟩

theorem Maker.extent {m : Maker} {config : Config} {text : Text} {r : Result}
    (done : (m.make config text).result = .ok r) (least : 0 ≤ m.cap) :
    let kept := collapse (wanted config (Text.lines text))
    if m.cap ≤ kept.length then r.lines.length = m.cap + 1 ∧ r.lines.getLast? = some marker
    else r.lines.length = kept.length := by
  intro kept
  have same := forall₂_pass done
  have length := same.length_eq
  rw [pass_eq, List.length_map, layout] at length
  split
  · rename_i reached
    have whole : capped m.cap kept = upTo m.cap kept ++ [marker.text] := if_neg (by omega)
    have cut := length_upTo_of_le least reached
    rw [whole, List.length_append, List.length_singleton] at length
    have last := getLast?_pass_of_le reached
    rw [List.getLast?_eq_getElem?, same.length_eq] at last
    obtain ⟨named, there, frame⟩ := exists_sameFrame same last
    refine ⟨by omega, ?_⟩
    rw [List.getLast?_eq_getElem?, there, frame.eq_of_eq_marker rfl]
  · rename_i short
    have whole : capped m.cap kept = kept := if_pos (by omega)
    rw [whole] at length
    exact length.symm

theorem Maker.length_le {m : Maker} {config : Config} {text : Text} {r : Result}
    (done : (m.make config text).result = .ok r) (least : 0 ≤ m.cap) :
    r.lines.length ≤ m.cap + 1 := by
  have extent := Maker.extent done least
  dsimp only at extent
  split at extent <;> omega

end Listing

end IrListing
