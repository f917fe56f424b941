import IrListing.Proofs.Listing.Reread

namespace IrListing

open Text

namespace Filter

def callLead : Text := "call void @llvm.dbg.".toList

def callMarkers : List Text := ["tail ".toList, "musttail ".toList, "notail ".toList]

def isPlainCall (line : Text) : Bool := startsWith callLead (trimLeft line)

def isMarkedCall (line : Text) : Bool :=
  callMarkers.any fun marker => startsWith (marker ++ callLead) (trimLeft line)

def isCall (line : Text) : Bool := isPlainCall line || isMarkedCall line

theorem isMarkedCall_iff {line : Text} :
    isMarkedCall line = true ↔ ∃ marker ∈ callMarkers, marker ++ callLead <+: trimLeft line := by
  simp only [isMarkedCall, List.any_eq_true, startsWith_iff]

theorem isBlank_of_isMarkedCall {line : Text} (h : isMarkedCall line = true) :
    isBlank line = false := by
  obtain ⟨marker, -, starts⟩ := isMarkedCall_iff.1 h
  exact isBlank_of_isPrefix starts (List.append_ne_nil_of_right_ne_nil marker (by decide))

theorem isDebugCall_eq (line : Text) :
    isDebugCall line = (isPlainCall line && isOneLine (trimLeft line)) := rfl

theorem isDebugCall_of_isPlainCall {line : Text} (h : isPlainCall line = true)
    (oneLine : '\n' ∉ line) : isDebugCall line = true := by
  have trimmed : isOneLine (trimLeft line) = true := by
    have part : trimLeft line ⊆ line := (List.dropWhile_sublist isSpace).subset
    simp only [isOneLine, decide_eq_true_eq]
    intro inside
    exact oneLine (part (List.dropLast_subset _ inside))
  rw [isDebugCall_eq, h, trimmed, Bool.and_true]

def dropLeads : List Text := [';'] :: callLead :: ['!'] :: directiveLeads

theorem callMarkers_apart : ∀ marker ∈ callMarkers, ∀ lead ∈ dropLeads,
    ¬ (marker ++ callLead <+: lead ∨ lead <+: marker ++ callLead) := by
  decide

theorem not_prefix_of_isMarkedCall {line lead : Text} (h : isMarkedCall line = true)
    (listed : lead ∈ dropLeads) : ¬ lead <+: trimLeft line := by
  obtain ⟨marker, hm, starts⟩ := isMarkedCall_iff.1 h
  intro also
  exact callMarkers_apart marker hm lead listed (List.prefix_or_prefix_of_prefix starts also)

section Marked

variable {line : Text} (h : isMarkedCall line = true)
include h

theorem isComment_of_isMarkedCall : isComment line = false := by
  have other : startsWith [';'] (trimLeft line) = false := by
    rw [Bool.eq_false_iff, ne_eq, startsWith_iff]
    exact not_prefix_of_isMarkedCall h (by decide)
  rw [isComment, other, Bool.false_and]

theorem isPlainCall_of_isMarkedCall : isPlainCall line = false := by
  rw [isPlainCall, Bool.eq_false_iff, ne_eq, startsWith_iff]
  exact not_prefix_of_isMarkedCall h (by decide)

theorem isDebugCall_of_isMarkedCall : isDebugCall line = false := by
  rw [isDebugCall_eq, isPlainCall_of_isMarkedCall h, Bool.false_and]

theorem isDirective_of_isMarkedCall : isDirective line = false := by
  rw [Bool.eq_false_iff]
  intro directive
  obtain ⟨lead, listed, starts⟩ := exists_lead_of_isDirective directive
  have settled : ∀ lead ∈ ['!'] :: directiveLeads, lead ≠ [] ∧ trimLeft lead = lead := by
    decide
  have whole := trimLeft_of_isPrefix starts (settled lead listed).1 (settled lead listed).2
  have dropped : lead ∈ dropLeads := List.mem_cons_of_mem _ (List.mem_cons_of_mem _ listed)
  exact not_prefix_of_isMarkedCall h dropped (whole.symm ▸ starts)

end Marked

end Filter

namespace Listing

open IrListing.Filter

variable {config : Config} {cap : Int} {text : Text}

theorem isPlainCall_of_mem_layout (on : config.debugCalls = true) {t : Text}
    (h : t ∈ layout config cap text) : isPlainCall t = false := by
  cases plain : isPlainCall t with
  | false => rfl
  | true =>
    have call := isDebugCall_of_isPlainCall plain (newline_not_mem_layout h)
    have filled := isBlank_of_isPrefix (startsWith_iff.1 plain) (by decide)
    have kept := isUnwanted_of_mem_layout h
    simp [isUnwanted, on, call, filled] at kept

theorem isUnwanted_of_isMarkedCall (config : Config) {t : Text} (h : isMarkedCall t = true) :
    isUnwanted config t = false := by
  simp [isUnwanted, isComment_of_isMarkedCall h, isDebugCall_of_isMarkedCall h,
    isDirective_of_isMarkedCall h]

theorem filter_isMarkedCall_filter {keeps : Text → Bool}
    (kept : ∀ t, isMarkedCall t = true → keeps t = true) (texts : List Text) :
    (texts.filter keeps).filter isMarkedCall = texts.filter isMarkedCall := by
  rw [List.filter_filter]
  apply List.filter_congr
  intro t _
  cases marked : isMarkedCall t with
  | false => rfl
  | true => exact kept t marked

theorem filter_isMarkedCall_collapse (texts : List Text) :
    (collapse texts).filter isMarkedCall = texts.filter isMarkedCall := by
  have kept (t : Text) (marked : isMarkedCall t = true) : (!isBlank t) = true := by
    rw [isBlank_of_isMarkedCall marked, Bool.not_false]
  rw [← filter_isMarkedCall_filter kept, filter_collapse, filter_isMarkedCall_filter kept]

theorem filter_isMarkedCall_wanted (config : Config) (texts : List Text) :
    (wanted config texts).filter isMarkedCall = texts.filter isMarkedCall := by
  apply filter_isMarkedCall_filter
  intro t marked
  rw [isUnwanted_of_isMarkedCall config marked, Bool.not_false]

theorem upTo_of_lt {texts : List Text} (short : (texts.length : Int) < cap) :
    upTo cap texts = texts := by
  cases cap with
  | ofNat n =>
    have : texts.length ≤ n := by simpa using Int.le_of_lt short
    exact List.take_of_length_le this
  | negSucc n => omega

theorem filter_isMarkedCall_capped (texts : List Text) :
    (capped cap texts).filter isMarkedCall = (upTo cap texts).filter isMarkedCall := by
  have marker_kept : isMarkedCall marker.text = false := by decide
  unfold capped
  split
  · rename_i short
    rw [upTo_of_lt short]
  · simp [marker_kept]

def beforeCut (config : Config) (cap : Int) (text : Text) : List Text :=
  upTo cap (collapse (wanted config (lines text)))

theorem filter_isCall_layout (on : config.debugCalls = true) :
    (layout config cap text).filter isCall = (beforeCut config cap text).filter isMarkedCall := by
  have marked : (layout config cap text).filter isCall =
      (layout config cap text).filter isMarkedCall := by
    apply List.filter_congr
    intro t ht
    rw [isCall, isPlainCall_of_mem_layout on ht, Bool.false_or]
  rw [marked, layout, filter_isMarkedCall_capped, beforeCut]

theorem filter_isMarkedCall_beforeCut_isPrefix :
    (beforeCut config cap text).filter isMarkedCall <+: (lines text).filter isMarkedCall := by
  have all := filter_isMarkedCall_collapse (wanted config (lines text))
  rw [filter_isMarkedCall_wanted] at all
  rw [← all]
  exact (upTo_isPrefix cap _).filter isMarkedCall

theorem filter_isMarkedCall_beforeCut_of_le
    (whole : ((layout config cap text).length : Int) ≤ cap) :
    (beforeCut config cap text).filter isMarkedCall = (lines text).filter isMarkedCall := by
  have least : 0 ≤ cap := Int.le_trans (Int.natCast_nonneg _) whole
  rw [beforeCut, upTo_of_lt (length_lt_of_length_capped_le least whole),
    filter_isMarkedCall_collapse, filter_isMarkedCall_wanted]

theorem isCall_layout_iff (on : config.debugCalls = true) :
    (∀ t ∈ layout config cap text, isCall t = false) ↔
      ∀ t ∈ beforeCut config cap text, isMarkedCall t = false := by
  have none_left : (layout config cap text).filter isCall = [] ↔
      (beforeCut config cap text).filter isMarkedCall = [] := by
    rw [filter_isCall_layout on]
  simpa only [List.filter_eq_nil_iff, Bool.not_eq_true] using none_left

/-- A listing that leaves out the calls of debug intrinsics holds none exactly when none with a
marker comes before the cut. Those are the calls that it holds, in their order, and all of the
text unless it is cut. -/
theorem debugCalls_left_iff (m : Maker) (off : config.demangle = false)
    (on : config.debugCalls = true) (text : Text) :
    ∃ r, m.make config text = ⟨[], .ok r⟩ ∧
      (∀ l ∈ r.lines, isPlainCall l.text = false) ∧
      ((∀ l ∈ r.lines, isCall l.text = false) ↔
        ∀ t ∈ beforeCut config m.cap text, isMarkedCall t = false) ∧
      (r.lines.map (·.text)).filter isCall <+: (lines text).filter isMarkedCall ∧
      ((r.lines.length : Int) ≤ m.cap →
        (r.lines.map (·.text)).filter isCall = (lines text).filter isMarkedCall) := by
  have texts := map_text_pass config m.cap text
  have length : (pass config m.cap text).length = (layout config m.cap text).length := by
    rw [← texts, List.length_map]
  have calls : (layout config m.cap text).filter isCall =
      (beforeCut config m.cap text).filter isMarkedCall := filter_isCall_layout on
  refine ⟨_, m.make_plain off text, ?_, ?_, ?_, ?_⟩
  · intro l hl
    apply isPlainCall_of_mem_layout on
    exact texts ▸ List.mem_map_of_mem hl
  · rw [← isCall_layout_iff on, ← texts, List.forall_mem_map]
  · rw [texts, calls]
    exact filter_isMarkedCall_beforeCut_isPrefix
  · intro whole
    rw [texts, calls]
    exact filter_isMarkedCall_beforeCut_of_le (length ▸ whole)

def calling : Text :=
  "call void @llvm.dbg.declare()\nret void\n\ttail call void @llvm.dbg.value()".toList

theorem debugCalls_left_calling :
    ({ debugCalls := true } : Config).demangle = false ∧
      ({ debugCalls := true } : Config).debugCalls = true ∧
      (∃ r, ({ cap := 3 } : Maker).make { debugCalls := true } calling = ⟨[], .ok r⟩ ∧
        (r.lines.length : Int) ≤ 3 ∧
        (r.lines.map (·.text)).filter isCall = ["\ttail call void @llvm.dbg.value()".toList]) ∧
      ∃ r, ({ cap := 1 } : Maker).make { debugCalls := true } calling = ⟨[], .ok r⟩ ∧
        ∀ l ∈ r.lines, isCall l.text = false := by
  have off : ({ debugCalls := true } : Config).demangle = false := rfl
  have on : ({ debugCalls := true } : Config).debugCalls = true := rfl
  obtain ⟨r, made, -, -, -, left⟩ := debugCalls_left_iff { cap := 3 } off on calling
  obtain ⟨cut, madeCut, -, none_left, -⟩ := debugCalls_left_iff { cap := 1 } off on calling
  have two : (({ cap := 3 } : Maker).make { debugCalls := true } calling).result.map
      (·.lines.length) = .ok 2 := by decide +kernel
  have short : (r.lines.length : Int) ≤ 3 := by
    rw [made] at two
    have length : r.lines.length = 2 := Except.ok.inj two
    omega
  have marked : (lines calling).filter isMarkedCall =
      ["\ttail call void @llvm.dbg.value()".toList] := by decide +kernel
  have before : ∀ t ∈ beforeCut { debugCalls := true } 1 calling, isMarkedCall t = false := by
    decide +kernel
  exact ⟨off, on, ⟨r, made, short, (left short).trans marked⟩, cut, madeCut, none_left.2 before⟩

theorem tail_call_left :
    let call := "  tail call void @llvm.dbg.value(metadata i32 0)".toList
    isCall call = true ∧
      (({} : Maker).make { debugCalls := true } (call ++ "\n  ret void\n".toList)).result =
        .ok { lines := [{ text := call }, { text := "  ret void".toList }]
              language := some language } := by
  decide +kernel

end Listing

end IrListing
