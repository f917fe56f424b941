import IrListing.Listing.Make
import IrListing.Proofs.Filter.Kind
import IrListing.Proofs.Metadata.Attachment
import IrListing.Proofs.Source.Resolver
import Mathlib.Data.List.TakeWhile

/-! The texts of a listing in three stages, each over all lines at once: leave out the lines that
are not wanted, collapse what is blank, cut at the cap. A scan reaches them line by line. -/

namespace IrListing.Listing

open Text IrListing.Filter

def isUnwanted (config : Config) (line : Text) : Bool :=
  !isBlank line && (config.comments && isComment line || config.debugCalls && isDebugCall line ||
    config.metadata && isDirective line)

def wanted (config : Config) (texts : List Text) : List Text :=
  texts.filter (!isUnwanted config ·)

def collapse : List Text → List Text
  | [] => []
  | line :: rest =>
    if isBlank line then [] :: collapse (rest.dropWhile isBlank) else line :: collapse rest
termination_by texts => texts.length
decreasing_by
  · exact Nat.lt_succ_of_le (List.dropWhile_sublist _).length_le
  · simp

def upTo : (cap : Int) → List Text → List Text
  | .ofNat n, texts => texts.take n
  | .negSucc n, texts => texts.take (texts.length - (n + 1))

def capped (cap : Int) (texts : List Text) : List Text :=
  if texts.length < cap then texts else upTo cap texts ++ [marker.text]

def layout (config : Config) (cap : Int) (text : Text) : List Text :=
  capped cap (collapse (wanted config (lines text)))

def endsBlank (texts : List Text) : Bool := texts.getLast?.any isBlank

theorem endsBlank_cons_of_not_blank {line : Text} (h : isBlank line = false) (rest : List Text) :
    endsBlank (line :: rest) = endsBlank rest := by
  cases rest with
  | nil => simp [endsBlank, h]
  | cons next rest => rfl

theorem endsBlank_cons_of_blank {line : Text} (h : isBlank line = true) (rest : List Text) :
    endsBlank (line :: rest) =
      (decide (rest.dropWhile isBlank = []) || endsBlank (rest.dropWhile isBlank)) := by
  induction rest with
  | nil => simp [endsBlank, h]
  | cons next rest ih =>
    have same : endsBlank (line :: next :: rest) = endsBlank (next :: rest) := rfl
    cases hn : isBlank next with
    | true =>
      have : endsBlank (next :: rest) = endsBlank (line :: rest) := by
        cases rest with
        | nil => simp [endsBlank, h, hn]
        | cons => rfl
      rw [same, this, ih, List.dropWhile_cons_of_pos hn]
    | false =>
      rw [same, List.dropWhile_cons_of_neg (by simp [hn])]
      simp

theorem collapse_append_of_not_blank {line : Text} (h : isBlank line = false)
    (texts : List Text) : collapse (texts ++ [line]) = collapse texts ++ [line] := by
  fun_induction collapse texts with
  | case1 => simp [collapse, h]
  | case2 first rest hf ih =>
    rw [List.cons_append, collapse, if_pos hf, List.dropWhile_append]
    split
    · rename_i e
      rw [List.isEmpty_iff.1 e]
      simp [collapse, h]
    · rw [ih, List.cons_append]
  | case3 first rest hf ih => rw [List.cons_append, collapse, if_neg hf, ih, List.cons_append]

theorem collapse_append_of_blank {line : Text} (h : isBlank line = true) (texts : List Text) :
    collapse (texts ++ [line]) = collapse texts ++ if endsBlank texts then [] else [[]] := by
  fun_induction collapse texts with
  | case1 => simp [collapse, h, endsBlank]
  | case2 first rest hf ih =>
    rw [List.cons_append, collapse, if_pos hf, List.dropWhile_append, endsBlank_cons_of_blank hf]
    by_cases e : rest.dropWhile isBlank = []
    · simp [e, collapse, h]
    · rw [if_neg (by simpa using e), ih]
      simp [e]
  | case3 first rest hf ih =>
    rw [List.cons_append, collapse, if_neg hf, ih, List.cons_append,
      endsBlank_cons_of_not_blank (by simpa using hf)]

def Line.ofText (text : Text) : Line := { text, scope := Metadata.attachment? text }

def declarations (texts : List Text) : Source.Graph :=
  (texts.filterMap Metadata.declaration?).foldl Source.Graph.store []

theorem declarations_append (texts : List Text) (line : Text) :
    declarations (texts ++ [line]) =
      match Metadata.declaration? line with
      | some n => (declarations texts).store n
      | none => declarations texts := by
  cases h : Metadata.declaration? line <;> simp [declarations, h]

def Scan.after (config : Config) (texts : List Text) : Scan where
  lines := ((collapse (wanted config texts)).map Line.ofText).toArray
  nodes := declarations texts
  afterBlank := endsBlank (wanted config texts)

theorem isUnwanted_eq (config : Config) {line : Text} (h : isBlank line = false) :
    isUnwanted config line =
      ((Pipeline.standard config).dropsBefore line ||
        (Pipeline.standard config).dropsAfter line) := by
  simp [isUnwanted, h, Pipeline.dropsBefore_standard, Pipeline.dropsAfter_standard]

theorem wanted_append (config : Config) (texts : List Text) (line : Text) :
    wanted config (texts ++ [line]) =
      wanted config texts ++ if isUnwanted config line then [] else [line] := by
  cases h : isUnwanted config line <;> simp [wanted, h]

namespace Scan

variable (config : Config) (texts : List Text) {line : Text}

theorem keepBlank_after (h : isBlank line = true) :
    (after config texts).keepBlank = after config (texts ++ [line]) := by
  have stays : isUnwanted config line = false := by simp [isUnwanted, h]
  have silent : Metadata.declaration? line = none := by
    cases hd : Metadata.declaration? line with
    | none => rfl
    | some n => simp [isBlank_of_declaration? hd] at h
  simp only [after, keepBlank, wanted_append, stays, Bool.false_eq_true, if_false,
    collapse_append_of_blank h, declarations_append, silent]
  have ends : endsBlank (wanted config texts ++ [line]) = true := by simp [endsBlank, h]
  by_cases e : endsBlank (wanted config texts) = true
  · simp [e, ends]
  · simp [e, ends, Line.ofText, blank, Metadata.attachment?]

theorem declare_after (h : isUnwanted config line = true) :
    (after config texts).declare line = after config (texts ++ [line]) := by
  simp only [after, declare, wanted_append, h, if_true, List.append_nil, declarations_append]
  cases Metadata.declaration? line <;> rfl

theorem keep_declare_after (h : isUnwanted config line = false) (hb : isBlank line = false) :
    ((after config texts).declare line).keep line = after config (texts ++ [line]) := by
  have ends : endsBlank (wanted config texts ++ [line]) = false := by simp [endsBlank, hb]
  simp only [after, declare, keep, wanted_append, h, Bool.false_eq_true, if_false,
    collapse_append_of_not_blank hb, declarations_append, ends]
  cases Metadata.declaration? line <;> simp [Line.ofText]

theorem declare_of_dropsBefore (s : Scan) (h : (Pipeline.standard config).dropsBefore line = true) :
    s.declare line = s := by
  unfold declare
  split
  · rename_i n hd
    simp [Pipeline.dropsBefore_of_declaration? hd] at h
  · rfl

theorem step_after (line : Text) :
    (after config texts).step (.standard config) line = after config (texts ++ [line]) := by
  unfold step
  split
  · rename_i hb
    exact keepBlank_after config texts hb
  · rename_i hb
    have unwanted := isUnwanted_eq config (by simpa using hb)
    split
    · rename_i hd
      rw [hd, Bool.true_or] at unwanted
      rw [← declare_after config texts unwanted, declare_of_dropsBefore config _ hd]
    · rename_i hd
      rw [Bool.not_eq_true] at hd
      split
      · rename_i ha
        rw [ha, Bool.or_true] at unwanted
        exact declare_after config texts unwanted
      · rename_i ha
        rw [Bool.not_eq_true] at ha
        rw [hd, ha, Bool.or_false] at unwanted
        exact keep_declare_after config texts unwanted (by simpa using hb)

theorem run_eq_after : run (.standard config) texts = after config texts := by
  have ahead : ∀ done, texts.foldl (step (.standard config)) (after config done) =
      after config (done ++ texts) := by
    induction texts with
    | nil => simp
    | cons line texts ih =>
      intro done
      rw [List.foldl_cons, step_after, ih, List.append_assoc, List.singleton_append]
  have start : ({} : Scan) = after config [] := by
    simp [after, wanted, collapse, declarations, endsBlank]
  rw [run, start, ahead, List.nil_append]

end Scan

def Line.located (g : Source.Graph) (text : Text) : Line :=
  { Line.ofText text with source := (Metadata.attachment? text).map g.locate }

theorem truncate_map_ofText (cap : Int) (texts : List Text) :
    truncate cap (texts.map Line.ofText) = (capped cap texts).map Line.ofText := by
  have firsts : firstLines cap (texts.map Line.ofText) = (upTo cap texts).map Line.ofText := by
    cases cap with
    | ofNat n => simp [firstLines, upTo, List.map_take]
    | negSucc n =>
      have negative : ¬ (0 : Int) ≤ Int.negSucc n := by omega
      have count : ((texts.length : Int) + Int.negSucc n).toNat = texts.length - (n + 1) := by omega
      simp only [firstLines, upTo, negative, if_false, List.length_map, count, List.map_take]
  have last : marker = Line.ofText marker.text := rfl
  simp only [truncate, capped, List.length_map, firsts]
  by_cases h : (texts.length : Int) < cap
  · rw [if_neg (by omega), if_pos h]
  · rw [if_pos (by omega), if_neg h, List.map_append, List.map_singleton, ← last]

theorem annotate_map_ofText {r : Source.Resolver} (h : r.Faithful) (texts : List Text) :
    annotate r (texts.map Line.ofText) = texts.map (Line.located r.graph) := by
  induction texts generalizing r with
  | nil => rfl
  | cons text texts ih =>
    cases scope : Metadata.attachment? text with
    | none => simp [annotate, Line.ofText, Line.located, scope, ih h]
    | some id =>
      have := ih (h.snd_resolve id)
      simp [annotate, Line.ofText, Line.located, scope, h.fst_resolve, this]

theorem pass_eq (config : Config) (cap : Int) (text : Text) :
    pass config cap text =
      (layout config cap text).map (Line.located (declarations (lines text))) := by
  rw [pass, Scan.run_eq_after, Scan.after, List.toList_toArray, truncate_map_ofText,
    annotate_map_ofText (Source.Resolver.faithful_ofGraph _)]
  rfl

theorem map_text_pass (config : Config) (cap : Int) (text : Text) :
    (pass config cap text).map (·.text) = layout config cap text := by
  rw [pass_eq, List.map_map]
  exact List.map_id'' (fun _ => rfl) _

theorem Maker.make_plain (m : Maker) {config : Config} (off : config.demangle = false)
    (text : Text) :
    m.make config text =
      ⟨[], .ok { lines := pass config m.cap text, language := some language }⟩ := by
  simp [make, Maker.lines, off, Symbol.Traced.map, Except.map]

theorem attachment?_of_isBlank {text : Text} (h : isBlank text = true) :
    Metadata.attachment? text = none := by
  rw [Option.eq_none_iff_forall_ne_some]
  intro id attached
  obtain ⟨before, digits, ⟨-, -, rest, rfl, -⟩, -⟩ := Metadata.attachment?_eq_some_iff.1 attached
  have mark : isSpace '!' = true := List.all_eq_true.1 h '!' (by simp)
  exact absurd mark (by decide)

/-- The texts of a listing are those of the three stages, and the scope of a line is the label of
the first attachment in its text. -/
theorem Maker.make_layout (m : Maker) {config : Config} (off : config.demangle = false)
    (text : Text) :
    ∃ r, m.make config text = ⟨[], .ok r⟩ ∧ r.lines.map (·.text) = layout config m.cap text ∧
      ∀ l ∈ r.lines, (∀ id, l.scope = some id ↔ Metadata.FirstAttachment l.text id) ∧
        (isBlank l.text = true ∨ l.text = marker.text → l.scope = none) := by
  refine ⟨_, m.make_plain off text, ?_, ?_⟩
  · rw [pass_eq, List.map_map]
    exact List.map_id'' (fun _ => rfl) _
  · intro l hl
    rw [pass_eq] at hl
    obtain ⟨t, -, rfl⟩ := List.mem_map.1 hl
    refine ⟨fun id => Metadata.attachment?_eq_some_iff, ?_⟩
    rintro (hb | hm)
    · exact attachment?_of_isBlank hb
    · obtain rfl : t = marker.text := hm
      rfl

def sample : Text :=
  "a\n \n; x\r\n\n\tcall void @llvm.dbg.value()\n\t\nret void, !dbg !12 !dbg !3\nz".toList

theorem Maker.make_layout_sample :
    ({ comments := true, debugCalls := true } : Config).demangle = false ∧
      ∃ r, ({ cap := 3 } : Maker).make { comments := true, debugCalls := true } sample =
          ⟨[], .ok r⟩ ∧
        r.lines.map (·.text) =
          ["a".toList, [], "ret void, !dbg !12 !dbg !3".toList, marker.text] := by
  have off : ({ comments := true, debugCalls := true } : Config).demangle = false := rfl
  obtain ⟨r, made, texts, -⟩ := Maker.make_layout { cap := 3 } off sample
  refine ⟨off, r, made, texts.trans ?_⟩
  decide +kernel

end IrListing.Listing
