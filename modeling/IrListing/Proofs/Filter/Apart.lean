import IrListing.Listing.Basic
import IrListing.Proofs.Filter.Kind
import Mathlib.Data.List.Induction

namespace IrListing.Filter

open Text

/-- The lead stands behind nothing but white space, and no line feed comes behind it, except as the
last character. -/
def Led (lead line : Text) : Prop :=
  ∃ space body ending, line = space ++ lead ++ body ++ ending ∧ (∀ c ∈ space, isSpace c = true) ∧
    '\n' ∉ body ∧ (ending = [] ∨ ending = ['\n'])

theorem isOneLine_iff {t : Text} :
    isOneLine t = true ↔
      ∃ body ending, t = body ++ ending ∧ '\n' ∉ body ∧ (ending = [] ∨ ending = ['\n']) := by
  simp only [isOneLine, decide_eq_true_eq]
  constructor
  · intro oneLine
    cases t using List.reverseRecOn with
    | nil => exact ⟨[], [], rfl, List.not_mem_nil, Or.inl rfl⟩
    | append_singleton body c =>
      rw [List.dropLast_concat] at oneLine
      by_cases last : c = '\n'
      · exact ⟨body, ['\n'], by rw [last], oneLine, Or.inr rfl⟩
      · refine ⟨body ++ [c], [], (List.append_nil _).symm, ?_, Or.inl rfl⟩
        exact List.not_mem_append oneLine (by simpa using Ne.symm last)
  · rintro ⟨body, ending, rfl, oneLine, rfl | rfl⟩
    · rw [List.append_nil]
      exact fun inside => oneLine (List.dropLast_subset _ inside)
    · rwa [List.dropLast_concat]

theorem isOneLine_append {lead : Text} (oneLine : '\n' ∉ lead) (t : Text) :
    isOneLine (lead ++ t) = isOneLine t := by
  cases t with
  | nil =>
    have alone : '\n' ∉ lead.dropLast := fun inside => oneLine (List.dropLast_subset _ inside)
    simp [isOneLine, alone]
  | cons c t =>
    rw [isOneLine, isOneLine, List.dropLast_append_of_ne_nil (List.cons_ne_nil c t)]
    simp [oneLine]

theorem led_iff {c : Char} {lead line : Text} (solid : isSpace c = false)
    (oneLine : '\n' ∉ c :: lead) :
    (startsWith (c :: lead) (trimLeft line) && isOneLine (trimLeft line)) = true ↔
      Led (c :: lead) line := by
  rw [Bool.and_eq_true, startsWith_iff]
  constructor
  · rintro ⟨⟨t, starts⟩, ends⟩
    rw [← starts, isOneLine_append oneLine] at ends
    obtain ⟨body, ending, rfl, clean, last⟩ := isOneLine_iff.1 ends
    refine ⟨line.takeWhile isSpace, body, ending, ?_, fun _ => of_mem_takeWhile, clean, last⟩
    rw [List.append_assoc, List.append_assoc, starts]
    exact List.takeWhile_append_dropWhile.symm
  · rintro ⟨space, body, ending, rfl, blank, clean, last⟩
    have trimmed : trimLeft (space ++ (c :: lead) ++ body ++ ending) =
        (c :: lead) ++ (body ++ ending) := by
      rw [List.append_assoc, List.append_assoc]
      exact dropWhile_span blank (by simpa using solid)
    rw [trimmed, isOneLine_append oneLine]
    exact ⟨List.prefix_append _ _, isOneLine_iff.2 ⟨body, ending, rfl, clean, last⟩⟩

theorem head?_of_startsWith {c : Char} {lead t : Text} (h : startsWith (c :: lead) t = true) :
    t.head? = some c := by
  obtain ⟨rest, rfl⟩ := startsWith_iff.1 h
  rfl

section First

variable {line : Text}

theorem head?_of_isComment (h : isComment line = true) : (trimLeft line).head? = some ';' :=
  head?_of_startsWith (Bool.and_eq_true_iff.1 h).1

theorem head?_of_isDebugCall (h : isDebugCall line = true) : (trimLeft line).head? = some 'c' :=
  head?_of_startsWith (Bool.and_eq_true_iff.1 h).1

theorem head?_of_isDirective (h : isDirective line = true) :
    (trimLeft line).head? ∈ [some '!', some 's', some 't'] := by
  obtain ⟨lead, listed, starts⟩ := exists_lead_of_isDirective h
  have settled : ∀ lead ∈ ['!'] :: directiveLeads, lead ≠ [] ∧ trimLeft lead = lead ∧
      lead.head? ∈ [some '!', some 's', some 't'] := by decide
  obtain ⟨some_lead, solid, first⟩ := settled lead listed
  rw [trimLeft_of_isPrefix starts some_lead solid]
  obtain ⟨rest, rfl⟩ := starts
  rw [List.head?_eq_some_head some_lead] at first
  rwa [List.head?_append, List.head?_eq_some_head some_lead, Option.some_or]

theorem head?_of_isBlank (h : isBlank line = true) : (trimLeft line).head? = none := by
  rw [trimLeft_eq_nil_iff.2 h, List.head?_nil]

end First

def standardRules : List Rule := Registry.standard.before ++ Registry.standard.after

theorem standardRules_eq : standardRules = [commentRule, debugCallRule, directiveRule] := rfl

theorem head?_of_drops {r : Rule} (listed : r ∈ standardRules) {line : Text}
    (h : r.drops line = true) :
    (trimLeft line).head? ∈ [some ';', some 'c', some '!', some 's', some 't'] := by
  simp only [standardRules_eq, List.mem_cons, List.not_mem_nil, or_false] at listed
  rcases listed with rfl | rfl | rfl
  · rw [head?_of_isComment h]
    decide
  · rw [head?_of_isDebugCall h]
    decide
  · exact List.mem_cons_of_mem _ (List.mem_cons_of_mem _ (head?_of_isDirective h))

theorem drops_eq_false {r : Rule} (listed : r ∈ standardRules) {line : Text}
    (h : isBlank line = true ∨ line = Listing.marker.text) : r.drops line = false := by
  rw [Bool.eq_false_iff]
  intro drops
  have first := head?_of_drops listed drops
  rcases h with blank | rfl
  · rw [head?_of_isBlank blank] at first
    exact absurd first (by decide)
  · exact absurd first (by decide)

theorem pairwise_standardRules (line : Text) :
    standardRules.Pairwise fun r r' => ¬ (r.drops line = true ∧ r'.drops line = true) := by
  have comment_call : ¬ (commentRule.drops line = true ∧ debugCallRule.drops line = true) := by
    rintro ⟨comment, call⟩
    exact absurd ((head?_of_isComment comment).symm.trans (head?_of_isDebugCall call)) (by decide)
  have comment_directive : ¬ (commentRule.drops line = true ∧ directiveRule.drops line = true) := by
    rintro ⟨comment, directive⟩
    exact absurd (head?_of_isComment comment ▸ head?_of_isDirective directive) (by decide)
  have call_directive : ¬ (debugCallRule.drops line = true ∧ directiveRule.drops line = true) := by
    rintro ⟨call, directive⟩
    exact absurd (head?_of_isDebugCall call ▸ head?_of_isDirective directive) (by decide)
  rw [standardRules_eq]
  refine .cons ?_ (.cons ?_ (List.pairwise_singleton _ _))
  · exact List.forall_mem_cons.2 ⟨comment_call, List.forall_mem_singleton.2 comment_directive⟩
  · exact List.forall_mem_singleton.2 call_directive

/-- A declaration is dropped by the rule for directives and by no other, and is not blank. No line
is dropped by two rules, and neither a blank one nor the marker by any. Each rule, and the
recogniser of declarations, takes the lines of its pattern and no others. -/
theorem rules_apart (line : Text) :
    (∀ n, Metadata.declaration? line = some n →
        directiveRule.drops line = true ∧ commentRule.drops line = false ∧
          debugCallRule.drops line = false ∧ isBlank line = false) ∧
      standardRules.Pairwise (fun r r' => ¬ (r.drops line = true ∧ r'.drops line = true)) ∧
      (isBlank line = true ∨ line = Listing.marker.text →
        ∀ r ∈ standardRules, r.drops line = false) ∧
      (commentRule.drops line = true ↔ Led [';'] line) ∧
      (debugCallRule.drops line = true ↔ Led "call void @llvm.dbg.".toList line) ∧
      (directiveRule.drops line = true ↔
        (∃ id rest, Metadata.Assigned line id rest ∧
            ("DI".toList <+: rest ∨ ['\x7b'] <+: rest)) ∨
          ∃ lead ∈ directiveLeads, lead <+: line) ∧
      ((Metadata.declaration? line).isSome = true ↔
        ∃ id rest, Metadata.Assigned line id ("DI".toList ++ rest) ∧ Metadata.Argued rest) := by
  refine ⟨?_, pairwise_standardRules line, fun h r listed => drops_eq_false listed h, ?_, ?_,
    isDirective_iff, Metadata.declaration?_isSome_iff⟩
  · intro n declared
    exact ⟨isDirective_of_declaration? declared, isComment_of_declaration? declared,
      isDebugCall_of_declaration? declared, isBlank_of_declaration? declared⟩
  · exact led_iff (by decide) (by decide)
  · exact led_iff (by decide) (by decide)

def declaring : Text := "!0 = distinct !DIFile(line: 1)\n; x\ncall void @llvm.dbg.value()".toList

def spaces : Text := "\u2003\t\n\x1c".toList

theorem rules_apart_declaring :
    (∃ n, Metadata.declaration? declaring = some n) ∧ directiveRule.drops declaring = true ∧
      commentRule.drops declaring = false ∧
      isBlank spaces = true ∧ directiveRule.drops spaces = false ∧
      commentRule.drops Listing.marker.text = false := by
  have declared : (Metadata.declaration? declaring).isSome = true := by decide +kernel
  obtain ⟨n, declared⟩ := Option.isSome_iff_exists.1 declared
  obtain ⟨directive, comment, -⟩ := (rules_apart declaring).1 n declared
  have blank : isBlank spaces = true := by decide
  refine ⟨⟨n, declared⟩, directive, comment, blank, ?_, ?_⟩
  · exact (rules_apart spaces).2.2.1 (Or.inl blank) directiveRule (by simp [standardRules_eq])
  · exact (rules_apart Listing.marker.text).2.2.1 (Or.inr rfl) commentRule
      (by simp [standardRules_eq])

end IrListing.Filter
