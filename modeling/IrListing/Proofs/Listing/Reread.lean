import IrListing.Proofs.Listing.OneLine
import IrListing.Proofs.Listing.Order
import Mathlib.Data.List.Chain

namespace IrListing

namespace Text

theorem lines_unlines {ts : List Text} (h : ∀ t ∈ ts, '\n' ∉ t ∧ t.getLast? ≠ some '\r') :
    lines (unlines ts) = ts := by
  induction ts with
  | nil => simp [unlines, lines]
  | cons t ts ih =>
    obtain ⟨oneLine, return_not_last⟩ := h t List.mem_cons_self
    let first : EndedLine := ⟨t, .feed, oneLine, fun _ => return_not_last⟩
    have start : unlines (t :: ts) = first.text ++ unlines ts := by
      rw [unlines_cons, first.text_append]
      rfl
    rw [start, first.lines_text_append, ih fun u hu => h u (List.mem_cons_of_mem _ hu)]

end Text

namespace Listing

open Text IrListing.Filter

structure Settled (texts : List Text) : Prop where
  empty : ∀ t ∈ texts, isBlank t = true → t = []
  apart : texts.IsChain fun t u => isBlank t = true → isBlank u = false

namespace Settled

theorem collapse_eq {texts : List Text} (h : Settled texts) : collapse texts = texts := by
  induction texts with
  | nil => rw [collapse]
  | cons line rest ih =>
    obtain ⟨head, tail⟩ := List.isChain_cons.1 h.apart
    have own : collapse rest = rest := by
      apply ih
      exact ⟨fun t ht => h.empty t (List.mem_cons_of_mem _ ht), tail⟩
    rw [collapse]
    split
    · rename_i hb
      have alone : rest.dropWhile isBlank = rest := by
        cases rest with
        | nil => rfl
        | cons next rest => exact List.dropWhile_cons_of_neg (by simp [head next rfl hb])
      rw [alone, own, h.empty line List.mem_cons_self hb]
    · rw [own]

theorem upTo {texts : List Text} (h : Settled texts) (cap : Int) :
    Settled (Listing.upTo cap texts) where
  empty t ht := h.empty t (mem_upTo ht)
  apart := List.IsChain.prefix h.apart (upTo_isPrefix cap texts)

theorem concat {texts : List Text} (h : Settled texts) {line : Text} (hb : isBlank line = false) :
    Settled (texts ++ [line]) where
  empty := by
    intro t ht
    rcases List.mem_append.1 ht with ht | ht
    · exact h.empty t ht
    · obtain rfl := List.mem_singleton.1 ht
      simp [hb]
  apart := by
    refine List.isChain_append.2 ⟨h.apart, List.isChain_singleton _, ?_⟩
    rintro t - u hu -
    obtain rfl := Option.some.inj hu
    exact hb

theorem capped {texts : List Text} (h : Settled texts) (cap : Int) :
    Settled (Listing.capped cap texts) := by
  unfold Listing.capped
  split
  · exact h
  · exact (h.upTo cap).concat (by decide)

end Settled

theorem isBlank_head?_collapse (texts : List Text) :
    (collapse texts).head?.map isBlank = texts.head?.map isBlank := by
  cases texts with
  | nil => rw [collapse]
  | cons line rest =>
    rw [collapse]
    split
    · rename_i hb
      exact congrArg some hb.symm
    · rfl

theorem settled_collapse (texts : List Text) : Settled (collapse texts) := by
  fun_induction collapse texts with
  | case1 => exact ⟨by simp, List.isChain_nil⟩
  | case2 line rest hb ih =>
    constructor
    · intro t ht blank
      rcases List.mem_cons.1 ht with rfl | ht
      · rfl
      · exact ih.empty t ht blank
    · refine List.isChain_cons.2 ⟨?_, ih.apart⟩
      intro next hnext _
      have same := isBlank_head?_collapse (rest.dropWhile isBlank)
      rw [Option.mem_def.1 hnext, Option.map_some] at same
      obtain ⟨first, there, blank⟩ := Option.map_eq_some_iff.1 same.symm
      rw [← blank]
      have := List.head?_dropWhile_not isBlank rest
      rw [there] at this
      simpa using this
  | case3 line rest hb ih =>
    constructor
    · intro t ht blank
      rcases List.mem_cons.1 ht with rfl | ht
      · exact absurd blank hb
      · exact ih.empty t ht blank
    · exact List.isChain_cons.2 ⟨fun _ _ blank => absurd blank hb, ih.apart⟩

theorem isUnwanted_of_mem_layout {config : Config} {cap : Int} {text t : Text}
    (h : t ∈ layout config cap text) : isUnwanted config t = false := by
  rcases mem_capped h with rfl | kept
  · have comment : isComment marker.text = false := by decide
    have call : isDebugCall marker.text = false := by decide
    have directive : isDirective marker.text = false := by decide
    simp [isUnwanted, comment, call, directive]
  · rcases mem_collapse kept with rfl | kept
    · simp [isUnwanted, isBlank]
    · simpa using (List.mem_filter.1 kept).2

theorem wanted_layout (config : Config) (cap : Int) (text : Text) :
    wanted config (layout config cap text) = layout config cap text := by
  apply List.filter_eq_self.2
  intro t ht
  simp [isUnwanted_of_mem_layout ht]

theorem capped_capped {cap : Int} (least : 0 ≤ cap) (texts : List Text) :
    capped cap (capped cap texts) = capped cap texts := by
  by_cases short : (texts.length : Int) < cap
  · rw [capped, capped, if_pos short, if_pos short]
  · obtain ⟨n, rfl⟩ := Int.eq_ofNat_of_zero_le least
    have whole : capped n texts = texts.take n ++ [marker.text] := if_neg short
    have length : (texts.take n).length = n := List.length_take_of_le (by omega)
    have long : ¬ ((texts.take n ++ [marker.text]).length : Int) < n := by
      rw [List.length_append, length]
      omega
    rw [whole, capped, if_neg long]
    exact congrArg (· ++ [marker.text]) (List.take_left' length)

section Reread

variable {config : Config} {cap : Int} {text : Text}

theorem lines_unlines_layout (clean : ∀ t ∈ layout config cap text, t.getLast? ≠ some '\r') :
    lines (unlines (layout config cap text)) = layout config cap text :=
  lines_unlines fun t ht => ⟨newline_not_mem_layout ht, clean t ht⟩

theorem layout_unlines_layout (least : 0 ≤ cap)
    (clean : ∀ t ∈ layout config cap text, t.getLast? ≠ some '\r') :
    layout config cap (unlines (layout config cap text)) = layout config cap text := by
  have settled : Settled (layout config cap text) := (settled_collapse _).capped cap
  have again : capped cap (layout config cap text) = layout config cap text :=
    capped_capped least _
  rw [layout, lines_unlines_layout clean, wanted_layout, settled.collapse_eq, again]

end Reread

theorem filterMap_declaration?_filter {p : Text → Bool}
    (keeps : ∀ t n, Metadata.declaration? t = some n → p t = true) (texts : List Text) :
    (texts.filter p).filterMap Metadata.declaration? = texts.filterMap Metadata.declaration? := by
  rw [List.filterMap_filter]
  apply List.filterMap_congr
  intro t _
  cases h : Metadata.declaration? t with
  | none => simp
  | some n => simp [keeps t n h]

theorem declarations_collapse (texts : List Text) :
    declarations (collapse texts) = declarations texts := by
  have keeps (t : Text) (n : Metadata.Node) (h : Metadata.declaration? t = some n) :
      (!isBlank t) = true := by
    simp [isBlank_of_declaration? h]
  rw [declarations, ← filterMap_declaration?_filter keeps, filter_collapse,
    filterMap_declaration?_filter keeps, declarations]

theorem declarations_wanted {config : Config} (keeps : config.metadata = false)
    (texts : List Text) : declarations (wanted config texts) = declarations texts := by
  rw [declarations, wanted, filterMap_declaration?_filter, declarations]
  intro t n h
  simp [isUnwanted, keeps, isComment_of_declaration? h, isDebugCall_of_declaration? h]

theorem length_lt_of_length_capped_le {cap : Int} (least : 0 ≤ cap) {texts : List Text}
    (within : ((capped cap texts).length : Int) ≤ cap) : (texts.length : Int) < cap := by
  by_contra long
  have length := length_upTo_of_le least (Int.not_lt.1 long)
  rw [capped, if_neg long, List.length_append, List.length_singleton] at within
  omega

theorem declarations_layout {config : Config} {cap : Int} {text : Text} (least : 0 ≤ cap)
    (keeps : config.metadata = false) (within : ((layout config cap text).length : Int) ≤ cap) :
    declarations (layout config cap text) = declarations (lines text) := by
  have short := length_lt_of_length_capped_le least within
  rw [layout, capped, if_pos short, declarations_collapse, declarations_wanted keeps]

/-- A listing, each of its lines in a line, has itself as its listing: the same texts and scopes,
and the same places as well when its declarations are there and it has not been cut. -/
theorem Maker.make_reread (m : Maker) {config : Config} (off : config.demangle = false)
    (least : 0 ≤ m.cap) (text : Text) :
    ∃ r, m.make config text = ⟨[], .ok r⟩ ∧
      ((∀ l ∈ r.lines, l.text.getLast? ≠ some '\r') →
        ∃ again, m.make config (unlines (r.lines.map (·.text))) = ⟨[], .ok again⟩ ∧
          again.lines.map (fun l => (l.text, l.scope)) =
            r.lines.map (fun l => (l.text, l.scope)) ∧
          (config.metadata = false → (r.lines.length : Int) ≤ m.cap → again = r)) := by
  have texts := map_text_pass config m.cap text
  refine ⟨_, m.make_plain off text, ?_⟩
  intro clean
  refine ⟨_, m.make_plain off _, ?_⟩
  dsimp only at clean ⊢
  replace clean : ∀ t ∈ layout config m.cap text, t.getLast? ≠ some '\r' := by
    intro t ht
    obtain ⟨l, hl, rfl⟩ := List.mem_map.1 (texts ▸ ht)
    exact clean l hl
  rw [texts, pass_eq, pass_eq, layout_unlines_layout least clean, lines_unlines_layout clean]
  constructor
  · rw [List.map_map, List.map_map]
    rfl
  · intro keeps within
    rw [List.length_map] at within
    rw [declarations_layout least keeps within]

def spaced : Text := "a\r\n; b\n \n\nret void, !dbg !2\n!2 = !DILocation(line: 7)".toList

def spacedListing : Result where
  lines := [
    { text := ['a'] }, blank,
    { text := "ret void, !dbg !2".toList
      scope := some "!2".toList
      source := some ⟨none, some 7, none⟩ },
    { text := "!2 = !DILocation(line: 7)".toList }]
  language := some language

def spacedCut : Result where
  lines := [{ text := ['a'] }, blank, marker]
  language := some language

theorem Maker.make_reread_spaced :
    ({ comments := true } : Config).demangle = false ∧
      ((0 : Int) ≤ 9 ∧ (∀ l ∈ spacedListing.lines, l.text.getLast? ≠ some '\r') ∧
        (spacedListing.lines.length : Int) ≤ 9 ∧
        ({ cap := 9 } : Maker).make { comments := true } spaced = ⟨[], .ok spacedListing⟩ ∧
        ({ cap := 9 } : Maker).make { comments := true }
          (unlines (spacedListing.lines.map (·.text))) = ⟨[], .ok spacedListing⟩) ∧
      (0 : Int) ≤ 2 ∧ (∀ l ∈ spacedCut.lines, l.text.getLast? ≠ some '\r') ∧
        ∃ again, ({ cap := 2 } : Maker).make { comments := true }
            (unlines (spacedCut.lines.map (·.text))) = ⟨[], .ok again⟩ ∧
          again.lines.map (fun l => (l.text, l.scope)) =
            spacedCut.lines.map (fun l => (l.text, l.scope)) := by
  have off : ({ comments := true } : Config).demangle = false := rfl
  have clean : ∀ l ∈ spacedListing.lines, l.text.getLast? ≠ some '\r' := by decide
  have cleanCut : ∀ l ∈ spacedCut.lines, l.text.getLast? ≠ some '\r' := by decide
  have listed : (({ cap := 9 } : Maker).make { comments := true } spaced).result =
      .ok spacedListing := by decide +kernel
  have cut : (({ cap := 2 } : Maker).make { comments := true } spaced).result =
      .ok spacedCut := by decide +kernel
  obtain ⟨r, made, reread⟩ := Maker.make_reread { cap := 9 } off (by decide) spaced
  obtain ⟨rCut, madeCut, rereadCut⟩ := Maker.make_reread { cap := 2 } off (by decide) spaced
  obtain rfl : spacedListing = r := Except.ok.inj (listed.symm.trans (congrArg (·.result) made))
  obtain rfl : spacedCut = rCut := Except.ok.inj (cut.symm.trans (congrArg (·.result) madeCut))
  obtain ⟨again, madeAgain, -, same⟩ := reread clean
  obtain ⟨againCut, madeAgainCut, sameCut, -⟩ := rereadCut cleanCut
  refine ⟨off, ⟨by decide, clean, by decide, made, ?_⟩, by decide, cleanCut, againCut,
    madeAgainCut, sameCut⟩
  exact same rfl (by decide) ▸ madeAgain

end Listing

end IrListing
