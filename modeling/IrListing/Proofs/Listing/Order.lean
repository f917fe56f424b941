import IrListing.Proofs.Listing.Places
import Mathlib.Data.List.Basic

namespace IrListing.Listing

open Text IrListing.Filter

def isPlain (line : Text) : Bool := (Metadata.declaration? line).isNone

def declares (id line : Text) : Bool := (Metadata.declaration? line).any (·.id = id)

/-- The same lines, with all that declare nothing in the same order, and the declarations of each id
in the same order. -/
structure Rearranged (texts texts' : List Text) : Prop where
  plain : texts.filter isPlain = texts'.filter isPlain
  declared : ∀ id, texts.filter (declares id) = texts'.filter (declares id)

theorem lastDeclaration?_filter_declares (id : Text) (texts : List Text) :
    lastDeclaration? id (texts.filter (declares id)) = lastDeclaration? id texts := by
  induction texts with
  | nil => rfl
  | cons line rest ih =>
    cases h : declares id line with
    | true => rw [List.filter_cons_of_pos h, lastDeclaration?, lastDeclaration?, ih]
    | false =>
      have other : (Metadata.declaration? line).filter (·.id = id) = none := by
        rw [Option.filter_eq_none_iff]
        intro n hn
        simpa [declares, hn] using h
      rw [List.filter_cons_of_neg (by simp [h]), lastDeclaration?, other, Option.or_none, ih]

theorem isUnwanted_of_declaration? {config : Config} {line : Text} {n : Metadata.Node}
    (drops : config.metadata = true) (h : Metadata.declaration? line = some n) :
    isUnwanted config line = true := by
  simp [isUnwanted, drops, isBlank_of_declaration? h, isDirective_of_declaration? h]

theorem wanted_filter_isPlain {config : Config} (drops : config.metadata = true)
    (texts : List Text) : wanted config (texts.filter isPlain) = wanted config texts := by
  rw [wanted, wanted, List.filter_filter]
  apply List.filter_congr
  intro line _
  cases h : Metadata.declaration? line with
  | none => simp [isPlain, h]
  | some n => simp [isUnwanted_of_declaration? drops h]

theorem length_collapse_le (texts : List Text) : (collapse texts).length ≤ texts.length := by
  fun_induction collapse texts with
  | case1 => simp
  | case2 line rest _ ih =>
    have := (List.dropWhile_sublist isBlank (l := rest)).length_le
    simp only [List.length_cons]
    omega
  | case3 line rest _ ih => simpa using ih

theorem filter_collapse (texts : List Text) :
    (collapse texts).filter (!isBlank ·) = texts.filter (!isBlank ·) := by
  fun_induction collapse texts with
  | case1 => rfl
  | case2 line rest h ih =>
    have run : (rest.takeWhile isBlank).filter (!isBlank ·) = [] := by
      rw [List.filter_eq_nil_iff]
      intro l hl
      simp [List.all_eq_true.1 List.all_takeWhile l hl]
    have skipped : (rest.dropWhile isBlank).filter (!isBlank ·) = rest.filter (!isBlank ·) := by
      conv => rhs; rw [← List.takeWhile_append_dropWhile (p := isBlank) (l := rest)]
      rw [List.filter_append, run, List.nil_append]
    rw [List.filter_cons_of_neg (by simp [isBlank]), ih, skipped,
      List.filter_cons_of_neg (by simp [h])]
  | case3 line rest h ih =>
    rw [List.filter_cons_of_pos (by simpa using h), List.filter_cons_of_pos (by simpa using h), ih]

namespace Rearranged

theorem swap {line next : Text} (silent : isPlain line = false ∨ isPlain next = false)
    (apart : ∀ id, declares id line = true → declares id next = false) (before behind : List Text) :
    Rearranged (before ++ line :: next :: behind) (before ++ next :: line :: behind) where
  plain := by
    rcases silent with h | h
    · simp [List.filter_cons, h]
    · simp [List.filter_cons, h]
  declared id := by
    cases h : declares id line with
    | true => simp [h, apart id h]
    | false => simp [List.filter_cons, h]

section

variable {texts texts' : List Text} (h : Rearranged texts texts')
include h

theorem perm : texts.Perm texts' := by
  rw [List.perm_iff_count]
  intro line
  cases hd : Metadata.declaration? line with
  | none =>
    have hp : isPlain line = true := by simp [isPlain, hd]
    rw [← List.count_filter hp, h.plain, List.count_filter hp]
  | some n =>
    have hn : declares n.id line = true := by simp [declares, hd]
    rw [← List.count_filter hn, h.declared, List.count_filter hn]

theorem located_eq : Line.located (declarations texts) = Line.located (declarations texts') := by
  have same : (declarations texts).Agree (declarations texts') := by
    intro id
    rw [get?_declarations, get?_declarations, ← lastDeclaration?_filter_declares, h.declared,
      lastDeclaration?_filter_declares]
  funext text
  rw [Line.located, Line.located, funext same.locate]

theorem wanted_eq {config : Config} (drops : config.metadata = true) :
    wanted config texts = wanted config texts' := by
  rw [← wanted_filter_isPlain drops, h.plain, wanted_filter_isPlain drops]

theorem filter_wanted_eq (config : Config) :
    (wanted config texts).filter isPlain = (wanted config texts').filter isPlain := by
  rw [wanted, wanted, List.filter_comm, h.plain, List.filter_comm]

end

end Rearranged

def Line.isOrdinary (l : Line) : Bool := !isBlank l.text && isPlain l.text

theorem filter_isOrdinary_pass {config : Config} {cap : Int} {text : Text}
    (roomy : ((lines text).length : Int) < cap) :
    (pass config cap text).filter Line.isOrdinary =
      (((wanted config (lines text)).filter isPlain).filter (!isBlank ·)).map
        (Line.located (declarations (lines text))) := by
  have short : ((collapse (wanted config (lines text))).length : Int) < cap := by
    have := length_collapse_le (wanted config (lines text))
    have : (wanted config (lines text)).length ≤ (lines text).length :=
      List.length_filter_le _ _
    omega
  have ordinary : Line.isOrdinary ∘ Line.located (declarations (lines text)) =
      fun t => isPlain t && !isBlank t := by
    funext t
    exact Bool.and_comm _ _
  rw [pass_eq, layout, capped, if_pos short, List.filter_map, ordinary, ← List.filter_filter,
    filter_collapse, List.filter_comm]

/-- Texts whose lines are rearranged in this way have the same listing when declarations are left
out, and otherwise the same ordinary lines, as long as nothing is cut off. -/
theorem make_eq_of_rearranged {text text' : Text} (h : Rearranged (lines text) (lines text'))
    (m : Maker) {config : Config} (off : config.demangle = false) :
    (config.metadata = true → m.make config text = m.make config text') ∧
      (((lines text).length : Int) < m.cap →
        ∃ r r', m.make config text = ⟨[], .ok r⟩ ∧ m.make config text' = ⟨[], .ok r'⟩ ∧
          r.lines.filter Line.isOrdinary = r'.lines.filter Line.isOrdinary) := by
  constructor
  · intro drops
    have same : pass config m.cap text = pass config m.cap text' := by
      rw [pass_eq, pass_eq, layout, layout, h.wanted_eq drops, h.located_eq]
    rw [m.make_plain off, m.make_plain off, same]
  · intro roomy
    refine ⟨_, _, m.make_plain off text, m.make_plain off text', ?_⟩
    have roomy' : ((lines text').length : Int) < m.cap := h.perm.length_eq ▸ roomy
    rw [filter_isOrdinary_pass roomy, filter_isOrdinary_pass roomy', h.filter_wanted_eq,
      h.located_eq]

def forward : Text := "ret void, !dbg !5\n!5 = !DILocation(line: 7, scope: !6)".toList

def backward : Text := "!5 = !DILocation(line: 7, scope: !6)\nret void, !dbg !5".toList

theorem make_forward_backward :
    Rearranged (lines forward) (lines backward) ∧
      ({ metadata := true } : Config).demangle = false ∧
      ({} : Maker).make { metadata := true } forward =
        ({} : Maker).make { metadata := true } backward ∧
      ((lines forward).length : Int) < defaultCap ∧
      ∃ r r', ({} : Maker).make { metadata := true } forward = ⟨[], .ok r⟩ ∧
        ({} : Maker).make { metadata := true } backward = ⟨[], .ok r'⟩ ∧
        r.lines.filter Line.isOrdinary = r'.lines.filter Line.isOrdinary := by
  have first : lines forward =
      ["ret void, !dbg !5".toList, "!5 = !DILocation(line: 7, scope: !6)".toList] := by
    decide +kernel
  have second : lines backward =
      ["!5 = !DILocation(line: 7, scope: !6)".toList, "ret void, !dbg !5".toList] := by
    decide +kernel
  have code : Metadata.declaration? "ret void, !dbg !5".toList = none := by decide +kernel
  have moved : Rearranged (lines forward) (lines backward) := by
    rw [first, second]
    apply Rearranged.swap (Or.inr (by decide +kernel)) _ [] []
    intro id h
    rw [declares, code] at h
    cases h
  have roomy : ((lines forward).length : Int) < defaultCap := by rw [first]; decide
  have off : ({ metadata := true } : Config).demangle = false := rfl
  have both := make_eq_of_rearranged moved {} off
  exact ⟨moved, off, both.1 rfl, roomy, both.2 roomy⟩

end IrListing.Listing
