import IrListing.Proofs.Source.Chain
import Mathlib.Data.List.DropRight

namespace IrListing.Source

open Metadata Text

def AtEnd (behind : Text) : Prop := behind = [] ∨ behind = ['\n']

inductive Mark : Text → Text → Text → Prop
  | input {before lead behind : Text} :
      '\n' ∉ lead → Mark before (lead ++ "<stdin>".toList) behind
  | dash {behind : Text} : AtEnd behind → Mark [] ['-'] behind
  | sample {before rest behind : Text} :
      rest ≠ [] → '/' ∉ rest → AtEnd behind → Mark before ("example.".toList ++ rest) behind
  | scratch {before behind : Text} : Mark before "<source>".toList behind

def Marked (name : Text) : Prop :=
  ∃ before mark behind, name = before ++ mark ++ behind ∧ Mark before mark behind

def lastPart (path : Text) : Text := path.rtakeWhile (· ≠ '/')

/-- The names of standard input, of a scratch buffer and of examples. -/
def Placeholder (name : Text) : Prop :=
  "<stdin>".toList <:+: name ∨ "<source>".toList <:+: name ∨ (name = ['-'] ∨ name = ['-', '\n']) ∨
    ∃ c, "example.".toList ++ [c] <:+: lastPart name

theorem slash_not_mem_lastPart (path : Text) : '/' ∉ lastPart path := by
  intro inside
  have := List.mem_rtakeWhile_imp inside
  simp at this

theorem lastPart_append {rest : Text} (h : '/' ∉ rest) (dir : Text) :
    lastPart (dir ++ rest) = lastPart dir ++ rest := by
  induction rest using List.reverseRecOn with
  | nil => simp
  | append_singleton rest c ih =>
    rw [List.mem_append, not_or, List.mem_singleton] at h
    have other : c ≠ '/' := Ne.symm h.2
    rw [← List.append_assoc, ← List.append_assoc, ← ih h.1]
    exact List.rtakeWhile_concat_pos _ _ _ (decide_eq_true other)

variable {name : Text}

theorem endsInExample_iff : endsInExample name = true ↔
    ∃ before rest, name = before ++ "example.".toList ++ rest ∧ rest ≠ [] ∧ '/' ∉ rest := by
  induction name with
  | nil => simp [endsInExample]
  | cons c t ih =>
    rw [endsInExample, Bool.or_eq_true, ih]
    constructor
    · rintro (here | ⟨before, rest, rfl, ends⟩)
      · split at here
        · rename_i rest starts
          rw [Bool.and_eq_true, decide_eq_true_eq, decide_eq_true_eq] at here
          exact ⟨[], rest, after?_eq_some_iff.1 starts, here⟩
        · cases here
      · exact ⟨c :: before, rest, rfl, ends⟩
    · rintro ⟨before, rest, split, ends⟩
      cases before with
      | nil =>
        left
        rw [split, List.nil_append, after?_append]
        simpa using ends
      | cons _ before =>
        obtain ⟨rfl, rfl⟩ := List.cons.inj split
        exact Or.inr ⟨before, rest, rfl, ends⟩

theorem endsInExample_iff_lastPart : endsInExample name = true ↔
    ∃ c, "example.".toList ++ [c] <:+: lastPart name := by
  rw [endsInExample_iff]
  constructor
  · rintro ⟨before, rest, rfl, some_rest, flat⟩
    obtain ⟨c, rest, rfl⟩ := List.exists_cons_of_ne_nil some_rest
    have plain : '/' ∉ "example.".toList := by decide
    rw [List.append_assoc, lastPart_append (List.not_mem_append plain flat)]
    exact ⟨c, lastPart before, rest, by simp⟩
  · rintro ⟨c, front, back, split⟩
    obtain ⟨dir, path⟩ : lastPart name <:+ name := List.rtakeWhile_suffix _ _
    have flat : '/' ∉ c :: back := by
      intro inside
      apply slash_not_mem_lastPart name
      rw [← split, List.append_assoc, List.append_assoc]
      exact List.mem_append_right _ (List.mem_append_right _ inside)
    refine ⟨dir ++ front, c :: back, ?_, List.cons_ne_nil c back, flat⟩
    rw [← path, ← split]
    simp

theorem isStandIn_iff : isStandIn name = true ↔ Placeholder name := by
  simp only [isStandIn, Bool.or_eq_true, decide_eq_true_eq, has_iff, endsInExample_iff_lastPart,
    Placeholder, or_assoc]

theorem marked_iff : Marked name ↔ Placeholder name := by
  rw [Placeholder, ← endsInExample_iff_lastPart, endsInExample_iff]
  constructor
  · rintro ⟨before, mark, behind, rfl, marks⟩
    cases marks with
    | @input _ lead _ oneLine => exact Or.inl ⟨before ++ lead, behind, by simp⟩
    | dash ends =>
      right; right; left
      rcases ends with rfl | rfl
      · exact Or.inl rfl
      · exact Or.inr rfl
    | @sample _ rest _ some_rest flat ends =>
      right; right; right
      have noSlash : '/' ∉ behind := by rcases ends with rfl | rfl <;> decide
      exact ⟨before, rest ++ behind, by simp, by simp [some_rest], List.not_mem_append flat noSlash⟩
    | scratch => exact Or.inr (Or.inl ⟨before, behind, rfl⟩)
  · rintro (⟨before, behind, rfl⟩ | ⟨before, behind, rfl⟩ | dash |
      ⟨before, rest, rfl, some_rest, flat⟩)
    · exact ⟨before, _, behind, rfl, .input List.not_mem_nil⟩
    · exact ⟨before, _, behind, rfl, .scratch⟩
    · rcases dash with rfl | rfl
      · exact ⟨[], ['-'], [], rfl, .dash (Or.inl rfl)⟩
      · exact ⟨[], ['-'], ['\n'], rfl, .dash (Or.inr rfl)⟩
    · exact ⟨before, _, [], by simp, .sample some_rest flat (Or.inl rfl)⟩

theorem value?_fileStep_iff {g : Graph} {scope : Text} :
    (g.walk fileStep scope).value? = some name ↔
      name ≠ [] ∧ ∃ id n, g.Leads fileStep scope id ∧ g.get? id = some n ∧
        n.attributes.get? "filename".toList = some name := by
  rw [(g.tracedFrom_start fileStep scope).1.value?_eq_some_iff]
  simp only [Graph.Finds, Graph.at?, Option.map_eq_some_iff, fileStep_eq_found_iff]
  constructor
  · rintro ⟨id, leads, n, present, named, some_name⟩
    exact ⟨some_name, id, n, leads, present, named⟩
  · rintro ⟨some_name, id, n, leads, present, named⟩
    exact ⟨id, leads, n, present, named, some_name⟩

/-- A name stands for no file exactly when one of the marks is in it, which is when it holds
`<stdin>` or `<source>`, is a dash, or ends its path in `example.` and more. No such name is given
as that of a file, and no empty one; every other name that a walk finds is given as it is. -/
theorem file?_eq_some_iff (name : Text) :
    (isStandIn name = true ↔ Placeholder name) ∧ (Marked name ↔ Placeholder name) ∧
      ∀ (g : Graph) scope,
        (g.file? scope = some name ↔
          (g.walk fileStep scope).value? = some name ∧ ¬ Placeholder name) ∧
        ((g.walk fileStep scope).value? = some name ↔
          name ≠ [] ∧ ∃ id n, g.Leads fileStep scope id ∧ g.get? id = some n ∧
            n.attributes.get? "filename".toList = some name) := by
  refine ⟨isStandIn_iff, marked_iff, fun g scope => ⟨?_, value?_fileStep_iff⟩⟩
  rw [Graph.file?, Option.filter_eq_some_iff, Bool.not_eq_true', ← Bool.not_eq_true, isStandIn_iff]

end IrListing.Source
