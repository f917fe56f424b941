import IrListing.Proofs.Symbol.Collect
import IrListing.Proofs.Symbol.Cut

namespace IrListing.Symbol

open Text

def rows : Text → List Text
  | [] => []
  | c :: t => if c = '@' then t.takeWhile isSymbolic :: rows t else rows t

def RowBehind (line name : Text) : Prop :=
  ∃ before rest, line = before ++ '@' :: (name ++ rest) ∧ (∀ c ∈ name, isSymbolic c = true) ∧
    ∀ c ∈ rest.head?, isSymbolic c = false

theorem rowBehind_cons_iff {c : Char} {t name : Text} :
    RowBehind (c :: t) name ↔ c = '@' ∧ name = t.takeWhile isSymbolic ∨ RowBehind t name := by
  constructor
  · rintro ⟨before, rest, e, row, ends⟩
    cases before with
    | nil =>
      obtain ⟨rfl, rfl⟩ := List.cons.inj e
      exact Or.inl ⟨rfl, (takeWhile_span row ends).symm⟩
    | cons b before =>
      obtain ⟨-, rfl⟩ := List.cons.inj e
      exact Or.inr ⟨before, rest, rfl, row, ends⟩
  · rintro (⟨rfl, rfl⟩ | ⟨before, rest, rfl, row, ends⟩)
    · refine ⟨[], t.dropWhile isSymbolic, ?_, fun c => of_mem_takeWhile, fun c => head?_dropWhile⟩
      rw [List.takeWhile_append_dropWhile, List.nil_append]
    · exact ⟨c :: before, rest, rfl, row, ends⟩

theorem mem_rows_iff {line name : Text} : name ∈ rows line ↔ RowBehind line name := by
  induction line with
  | nil => simp [rows, RowBehind]
  | cons c t ih =>
    rw [rowBehind_cons_iff, ← ih, rows]
    by_cases h : c = '@'
    · simp [h]
    · simp [h]

theorem rows_append_of_row {s : Text} (row : ∀ c ∈ s, isSymbolic c = true) (t : Text) :
    rows (s ++ t) = rows t := by
  induction s with
  | nil => rfl
  | cons c s ih =>
    have other : c ≠ '@' := by
      rintro rfl
      exact absurd (row '@' List.mem_cons_self) (by decide)
    rw [List.cons_append, rows, if_neg other, ih fun b hb => row b (List.mem_cons_of_mem _ hb)]

theorem isMangled_takeWhile_of_plain {t : Text} (plain : ∀ name r, ¬ Reference t name r) :
    isMangled (t.takeWhile isSymbolic) = false := by
  rw [Bool.eq_false_iff]
  intro mangled
  apply plain (t.takeWhile isSymbolic) (t.dropWhile isSymbolic)
  have whole := List.takeWhile_append_dropWhile (p := isSymbolic) (l := t)
  conv => arg 1; rw [← whole]
  exact .bare mangled (fun c => of_mem_takeWhile) (fun c => head?_dropWhile)

theorem references_eq_filter_rows {line : Text} (unquoted : '"' ∉ line) :
    references line = (rows line).filter isMangled := by
  induction line using cut_induction with
  | nil => simp [references, rows]
  | plain c rest h ih =>
    have unquoted_rest : '"' ∉ rest := fun inside => unquoted (List.mem_cons_of_mem _ inside)
    rw [references_cons_of_plain h, ih unquoted_rest, rows]
    split
    · rename_i hc
      rw [List.filter_cons_of_neg (by simp [isMangled_takeWhile_of_plain (h hc)])]
    · rfl
  | quoted name rest _ _ _ => simp at unquoted
  | bare name rest mangled row ends ih =>
    have unquoted_rest : '"' ∉ rest := fun inside => unquoted (by simp [inside])
    rw [references_cons_of_reference (.bare mangled row ends), ih unquoted_rest, rows, if_pos rfl,
      takeWhile_span row ends, rows_append_of_row row, List.filter_cons_of_pos mangled]

theorem isMangled_iff {s : Text} :
    isMangled s = true ↔ ("_Z".toList <+: s ∨ "_R".toList <+: s) ∧ 2 < s.length := by
  simp only [isMangled, Bool.and_eq_true, Bool.or_eq_true, startsWith_iff, decide_eq_true_eq]

/-- The symbols collected from some texts are different mangled names without quotes, in the order
in which the texts first refer to them. More texts add what is new in them. A text without quotes
has the mangled ones of the rows behind its `@`. -/
theorem collect_rows :
    (∀ texts, (collect texts).Nodup ∧ FirstSeen (texts.flatMap references) (collect texts) ∧
        ∀ s ∈ collect texts,
          ("_Z".toList <+: s ∨ "_R".toList <+: s) ∧ 2 < s.length ∧ '"' ∉ s) ∧
      (∀ line, (cut line).fill id = line ∧ (cut line).parts.map (·.1) = references line) ∧
      (∀ texts texts', collect (texts ++ texts') =
        collect texts ++ (collect texts').filter (· ∉ collect texts)) ∧
      ∀ line, '"' ∉ line → ∀ s, s ∈ collect [line] ↔
        RowBehind line s ∧ ("_Z".toList <+: s ∨ "_R".toList <+: s) ∧ 2 < s.length := by
  refine ⟨?_, fun line => ⟨fill_id_cut line, symbols_cut line⟩, collect_append, ?_⟩
  · intro texts
    refine ⟨(firstSeen_collect texts).nodup, firstSeen_collect texts, ?_⟩
    intro s hs
    obtain ⟨mangled, unquoted⟩ := shape_of_mem_collect hs
    obtain ⟨marked, long⟩ := isMangled_iff.1 mangled
    exact ⟨marked, long, unquoted⟩
  · intro line unquoted s
    have one : s ∈ collect [line] ↔ s ∈ references line := by
      rw [mem_collect_iff]
      simp
    rw [one, references_eq_filter_rows unquoted, List.mem_filter, mem_rows_iff, isMangled_iff]

def crowded : Text := "@ @@_Z @_Z1fv@_R2g.x$ x@_Z1f()@_Z1fv".toList

theorem collect_rows_crowded :
    '"' ∉ crowded ∧ collect [crowded] = ["_Z1fv", "_R2g.x$", "_Z1f"].map (·.toList) ∧
      RowBehind crowded "_R2g.x$".toList ∧ ¬ RowBehind crowded "_Z1".toList := by
  have unquoted : '"' ∉ crowded := by decide
  have collected : collect [crowded] = ["_Z1fv", "_R2g.x$", "_Z1f"].map (·.toList) := by
    decide +kernel
  have iff := collect_rows.2.2.2 crowded unquoted
  refine ⟨unquoted, collected, ((iff _).1 ?_).1, ?_⟩
  · rw [collected]
    decide
  · intro behind
    have listed := (iff "_Z1".toList).2 ⟨behind, Or.inl (by decide), by decide⟩
    rw [collected] at listed
    exact absurd listed (by decide)

end IrListing.Symbol
