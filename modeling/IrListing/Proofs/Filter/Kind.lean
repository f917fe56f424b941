import IrListing.Filter.Registry
import IrListing.Proofs.Metadata.Declared

namespace IrListing

open Text

namespace Filter

theorem isBlank_of_isPrefix {lead line : Text} (h : lead <+: trimLeft line)
    (some_lead : lead ≠ []) : isBlank line = false := by
  cases blank : isBlank line with
  | false => rfl
  | true =>
    rw [trimLeft_eq_nil_iff.2 blank, List.prefix_nil] at h
    exact absurd h some_lead

theorem trimLeft_of_isPrefix {lead line : Text} (h : lead <+: line) (some_lead : lead ≠ [])
    (settled : trimLeft lead = lead) : trimLeft line = line := by
  obtain ⟨rest, rfl⟩ := h
  rw [trimLeft, List.dropWhile_append, ← trimLeft, settled, if_neg]
  simpa using some_lead

theorem isDirective_iff {line : Text} :
    isDirective line = true ↔
      (∃ id rest, Metadata.Assigned line id rest ∧ ("DI".toList <+: rest ∨ ['\x7b'] <+: rest)) ∨
        ∃ lead ∈ directiveLeads, lead <+: line := by
  rw [isDirective, Bool.or_eq_true]
  apply or_congr
  · simp only [← Metadata.assignment?_eq_some_iff, ← startsWith_iff]
    cases Metadata.assignment? line with
    | none => simp
    | some found =>
      obtain ⟨id, rest⟩ := found
      constructor
      · intro starts
        exact ⟨id, rest, rfl, (Bool.or_eq_true _ _).mp starts⟩
      · rintro ⟨_, _, ⟨⟩, starts⟩
        exact (Bool.or_eq_true _ _).mpr starts
  · simp only [List.any_eq_true, startsWith_iff]

theorem exists_lead_of_isDirective {line : Text} (h : isDirective line = true) :
    ∃ lead ∈ ['!'] :: directiveLeads, lead <+: line := by
  rcases isDirective_iff.1 h with ⟨id, rest, assigned, -⟩ | ⟨lead, listed, starts⟩
  · obtain ⟨r, rfl⟩ := assigned.eq_cons
    exact ⟨['!'], List.mem_cons_self, r, rfl⟩
  · exact ⟨lead, List.mem_cons_of_mem _ listed, starts⟩

theorem Registry.standard_before : Registry.standard.before = [commentRule, debugCallRule] := rfl

theorem Registry.standard_after : Registry.standard.after = [directiveRule] := rfl

theorem Pipeline.dropsBefore_standard (config : Config) (line : Text) :
    (standard config).dropsBefore line =
      (config.comments && isComment line || config.debugCalls && isDebugCall line) := by
  rw [dropsBefore, standard, ofRegistry, List.any_filter, Registry.standard_before]
  change (config.comments && isComment line || (config.debugCalls && isDebugCall line || false)) = _
  rw [Bool.or_false]

theorem Pipeline.dropsAfter_standard (config : Config) (line : Text) :
    (standard config).dropsAfter line = (config.metadata && isDirective line) := by
  rw [dropsAfter, standard, ofRegistry, List.any_filter, Registry.standard_after]
  change (config.metadata && isDirective line || false) = _
  rw [Bool.or_false]

section Declaration

variable {line : Text} {n : Metadata.Node} (h : Metadata.declaration? line = some n)
include h

theorem isBlank_of_declaration? : isBlank line = false := by
  obtain ⟨rest, rfl⟩ := Metadata.eq_cons_of_declaration? h
  have : isSpace '!' = false := by decide
  simp [isBlank, this]

theorem trimLeft_of_declaration? : trimLeft line = line := by
  obtain ⟨rest, rfl⟩ := Metadata.eq_cons_of_declaration? h
  have : isSpace '!' = false := by decide
  simp [trimLeft, this]

theorem isComment_of_declaration? : isComment line = false := by
  rw [isComment, trimLeft_of_declaration? h]
  obtain ⟨rest, rfl⟩ := Metadata.eq_cons_of_declaration? h
  rfl

theorem isDebugCall_of_declaration? : isDebugCall line = false := by
  rw [isDebugCall, trimLeft_of_declaration? h]
  obtain ⟨rest, rfl⟩ := Metadata.eq_cons_of_declaration? h
  rfl

theorem isDirective_of_declaration? : isDirective line = true := by
  obtain ⟨id, rest, assigned⟩ := Metadata.exists_assigned_of_declaration? h
  exact isDirective_iff.2 (Or.inl ⟨id, _, assigned, Or.inl (List.prefix_append _ rest)⟩)

theorem Pipeline.dropsBefore_of_declaration? (config : Config) :
    (standard config).dropsBefore line = false := by
  simp [dropsBefore_standard, isComment_of_declaration? h, isDebugCall_of_declaration? h]

end Declaration

end Filter

end IrListing
