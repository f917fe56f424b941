import IrListing.Symbol.Mangled
import IrListing.Proofs.Text.Span

namespace IrListing.Symbol

open Text

theorem eq_cons_of_isMangled {name : Text} (h : isMangled name = true) :
    ∃ c rest, name = '_' :: c :: rest ∧ (c = 'Z' ∨ c = 'R') := by
  simp only [isMangled, Bool.and_eq_true, Bool.or_eq_true, startsWith_iff] at h
  obtain ⟨⟨rest, rfl⟩ | ⟨rest, rfl⟩, -⟩ := h
  · exact ⟨'Z', rest, rfl, Or.inl rfl⟩
  · exact ⟨'R', rest, rfl, Or.inr rfl⟩

/-- A mangled name right behind an `@`, and what follows it: a name between quotes, or a whole row
of symbolic characters. -/
inductive Reference : Text → Text → Text → Prop
  | quoted {name rest : Text} : isMangled name = true → '"' ∉ name →
      Reference ('"' :: (name ++ '"' :: rest)) name rest
  | bare {name rest : Text} : isMangled name = true → (∀ c ∈ name, isSymbolic c = true) →
      (∀ c ∈ rest.head?, isSymbolic c = false) → Reference (name ++ rest) name rest

theorem reference?_quoted {name rest : Text} (mangled : isMangled name = true)
    (unquoted : '"' ∉ name) : reference? ('"' :: (name ++ '"' :: rest)) = some (name, rest) := by
  have inside := all_ne_of_not_mem unquoted
  have closing : ∀ c ∈ ('"' :: rest).head?, decide (c ≠ '"') = false := by simp
  simp only [reference?, takeWhile_span inside closing, dropWhile_span inside closing, mangled,
    if_true]

theorem reference?_bare {name rest : Text} (mangled : isMangled name = true)
    (row : ∀ c ∈ name, isSymbolic c = true) (ends : ∀ c ∈ rest.head?, isSymbolic c = false) :
    reference? (name ++ rest) = some (name, rest) := by
  unfold reference?
  split
  · rename_i t e
    obtain ⟨c, u, rfl, -⟩ := eq_cons_of_isMangled mangled
    simp at e
  · rw [takeWhile_span row ends, dropWhile_span row ends, if_pos mangled]

theorem reference?_eq_some_iff {t name rest : Text} :
    reference? t = some (name, rest) ↔ Reference t name rest := by
  constructor
  · intro h
    unfold reference? at h
    split at h
    · rename_i t
      split at h
      · rename_i r hr
        split at h
        · rename_i mangled
          simp only [Option.some.injEq, Prod.mk.injEq] at h
          obtain ⟨rfl, rfl⟩ := h
          have parts := List.takeWhile_append_dropWhile (p := (· ≠ '"')) (l := t)
          rw [hr] at parts
          conv => arg 1; rw [← parts]
          apply Reference.quoted mangled
          intro hq
          simpa using of_mem_takeWhile hq
        · cases h
      · cases h
    · split at h
      · rename_i mangled
        simp only [Option.some.injEq, Prod.mk.injEq] at h
        obtain ⟨rfl, rfl⟩ := h
        conv => arg 1; rw [← List.takeWhile_append_dropWhile (p := isSymbolic) (l := t)]
        apply Reference.bare mangled
        · intro c hc
          exact of_mem_takeWhile hc
        · intro c hc
          exact head?_dropWhile hc
      · cases h
  · rintro (⟨mangled, unquoted⟩ | ⟨mangled, row, ends⟩)
    · exact reference?_quoted mangled unquoted
    · exact reference?_bare mangled row ends

theorem references_cons_of_reference {t name rest : Text} (h : Reference t name rest) :
    references ('@' :: t) = name :: references rest := by
  have found := reference?_eq_some_iff.2 h
  rw [references, if_pos rfl]
  split
  · rename_i s r e
    rw [found] at e
    cases e
    rfl
  · rename_i e
    rw [found] at e
    cases e

theorem references_cons_of_plain {c : Char} {rest : Text}
    (h : c = '@' → ∀ name r, ¬ Reference rest name r) :
    references (c :: rest) = references rest := by
  rw [references]
  split
  · rename_i hc
    split
    · rename_i name r found
      exact absurd (reference?_eq_some_iff.1 found) (h hc name r)
    · rfl
  · rfl

structure Cut where
  lead : Text
  parts : List (Text × Text)

namespace Cut

def behind (t : Text) (k : Cut) : Cut := { k with lead := t ++ k.lead }

def symbol (name : Text) (k : Cut) : Cut := ⟨[], (name, k.lead) :: k.parts⟩

def fill (g : Text → Text) (k : Cut) : Text := k.lead ++ k.parts.flatMap fun p => g p.1 ++ p.2

@[simp] theorem fill_behind (g : Text → Text) (t : Text) (k : Cut) :
    (k.behind t).fill g = t ++ k.fill g := by
  simp [fill, behind]

@[simp] theorem fill_symbol (g : Text → Text) (name : Text) (k : Cut) :
    (k.symbol name).fill g = g name ++ k.fill g := by
  simp [fill, symbol]

def Unmarked (k : Cut) : Prop :=
  ∀ t ∈ k.lead :: k.parts.map (·.2), has "_Z".toList t = false ∧ has "_R".toList t = false

instance (k : Cut) : Decidable k.Unmarked := inferInstanceAs (Decidable (∀ t ∈ _, _))

theorem Unmarked.of_behind {k : Cut} {t : Text} (h : (k.behind t).Unmarked) : k.Unmarked := by
  intro u hu
  have absent {mark : Text} (hm : has mark (t ++ k.lead) = false) : has mark k.lead = false := by
    rw [Bool.eq_false_iff] at hm ⊢
    exact fun found => hm (has_of_isInfix (List.suffix_append t k.lead).isInfix found)
  rcases List.mem_cons.1 hu with rfl | hu
  · have := h _ List.mem_cons_self
    exact ⟨absent this.1, absent this.2⟩
  · exact h u (List.mem_cons_of_mem _ hu)

theorem Unmarked.of_symbol {k : Cut} {name : Text} (h : (k.symbol name).Unmarked) : k.Unmarked :=
  fun u hu => h u (List.mem_cons_of_mem _ hu)

end Cut

def cut (t : Text) : Cut :=
  match t with
  | [] => ⟨[], []⟩
  | c :: rest =>
    if c = '@' then
      match _ : reference? rest with
      | some (name, r) =>
        if rest.head? = some '"' then .behind ['@', '"'] (.symbol name (.behind ['"'] (cut r)))
        else .behind ['@'] (.symbol name (cut r))
      | none => .behind [c] (cut rest)
    else .behind [c] (cut rest)
termination_by t.length
decreasing_by
  · have := length_reference? ‹_›
    simp only [List.length_cons]
    omega
  · have := length_reference? ‹_›
    simp only [List.length_cons]
    omega
  · simp
  · simp

section Equations

variable {name rest : Text}

@[simp] theorem cut_nil : cut [] = ⟨[], []⟩ := by rw [cut]

theorem cut_quoted (mangled : isMangled name = true) (unquoted : '"' ∉ name) :
    cut ('@' :: '"' :: (name ++ '"' :: rest)) =
      .behind ['@', '"'] (.symbol name (.behind ['"'] (cut rest))) := by
  rw [cut, if_pos rfl]
  split
  · rename_i s r h
    rw [reference?_quoted mangled unquoted] at h
    cases h
    rfl
  · rename_i h
    rw [reference?_quoted mangled unquoted] at h
    cases h

theorem cut_bare (mangled : isMangled name = true) (row : ∀ c ∈ name, isSymbolic c = true)
    (ends : ∀ c ∈ rest.head?, isSymbolic c = false) :
    cut ('@' :: (name ++ rest)) = .behind ['@'] (.symbol name (cut rest)) := by
  rw [cut, if_pos rfl]
  split
  · rename_i s r h
    rw [reference?_bare mangled row ends] at h
    cases h
    obtain ⟨c, u, rfl, -⟩ := eq_cons_of_isMangled mangled
    rw [if_neg (by simp)]
  · rename_i h
    rw [reference?_bare mangled row ends] at h
    cases h

theorem cut_plain {c : Char} (h : c = '@' → ∀ name r, ¬ Reference rest name r) :
    cut (c :: rest) = .behind [c] (cut rest) := by
  rw [cut]
  split
  · rename_i hc
    split
    · rename_i name r found
      exact absurd (reference?_eq_some_iff.1 found) (h hc name r)
    · rfl
  · rfl

end Equations

@[elab_as_elim]
theorem cut_induction {P : Text → Prop} (nil : P [])
    (plain : ∀ c rest, (c = '@' → ∀ name r, ¬ Reference rest name r) → P rest → P (c :: rest))
    (quoted : ∀ name rest, isMangled name = true → '"' ∉ name → P rest →
      P ('@' :: '"' :: (name ++ '"' :: rest)))
    (bare : ∀ name rest, isMangled name = true → (∀ c ∈ name, isSymbolic c = true) →
      (∀ c ∈ rest.head?, isSymbolic c = false) → P rest → P ('@' :: (name ++ rest)))
    (t : Text) : P t := by
  induction h : t.length using Nat.strongRecOn generalizing t with
  | ind n ih =>
    subst h
    cases t with
    | nil => exact nil
    | cons c rest =>
      have next (r : Text) (shorter : r.length ≤ rest.length) : P r :=
        ih r.length (Nat.lt_succ_of_le shorter) r rfl
      by_cases found : c = '@' ∧ ∃ name r, Reference rest name r
      · obtain ⟨rfl, name, r, ref⟩ := found
        have shorter := length_reference? (reference?_eq_some_iff.2 ref)
        cases ref with
        | quoted mangled unquoted => exact quoted name r mangled unquoted (next r shorter)
        | bare mangled row ends => exact bare name r mangled row ends (next r shorter)
      · exact plain c rest (fun hc name r ref => found ⟨hc, name, r, ref⟩)
          (next rest (Nat.le_refl _))

theorem head?_lead_cut (t : Text) : (cut t).lead.head? = t.head? := by
  induction t using cut_induction with
  | nil => simp
  | plain c rest h ih => simp [cut_plain h, Cut.behind]
  | quoted name rest mangled unquoted ih => simp [cut_quoted mangled unquoted, Cut.behind]
  | bare name rest mangled row ends ih => simp [cut_bare mangled row ends, Cut.behind]

theorem symbols_cut (t : Text) : (cut t).parts.map (·.1) = references t := by
  induction t using cut_induction with
  | nil => rw [cut_nil, references]; rfl
  | plain c rest h ih =>
    rw [cut_plain h, references_cons_of_plain h, ← ih]
    rfl
  | quoted name rest mangled unquoted ih =>
    rw [cut_quoted mangled unquoted, references_cons_of_reference (.quoted mangled unquoted), ← ih]
    rfl
  | bare name rest mangled row ends ih =>
    rw [cut_bare mangled row ends, references_cons_of_reference (.bare mangled row ends), ← ih]
    rfl

theorem of_mem_references {s t : Text} (h : s ∈ references t) :
    isMangled s = true ∧ '"' ∉ s := by
  induction t using cut_induction with
  | nil => simp [references] at h
  | plain c rest plain ih => exact ih (references_cons_of_plain plain ▸ h)
  | quoted name rest mangled unquoted ih =>
    rw [references_cons_of_reference (.quoted mangled unquoted), List.mem_cons] at h
    rcases h with rfl | h
    · exact ⟨mangled, unquoted⟩
    · exact ih h
  | bare name rest mangled row ends ih =>
    rw [references_cons_of_reference (.bare mangled row ends), List.mem_cons] at h
    rcases h with rfl | h
    · refine ⟨mangled, fun hq => ?_⟩
      have : isSymbolic '"' = false := by decide
      simp [row _ hq] at this
    · exact ih h

theorem mem_collect_iff {s : Text} {texts : List Text} :
    s ∈ collect texts ↔ ∃ t ∈ texts, s ∈ references t := by
  rw [collect, List.mem_eraseDups, List.mem_flatMap]

theorem shape_of_mem_collect {s : Text} {texts : List Text} (h : s ∈ collect texts) :
    isMangled s = true ∧ '"' ∉ s := by
  obtain ⟨t, -, ht⟩ := mem_collect_iff.1 h
  exact of_mem_references ht

theorem fill_id_cut (t : Text) : (cut t).fill id = t := by
  induction t using cut_induction with
  | nil => simp [Cut.fill]
  | plain c rest h ih => simp [cut_plain h, ih]
  | quoted name rest mangled unquoted ih => simp [cut_quoted mangled unquoted, ih]
  | bare name rest mangled row ends ih => simp [cut_bare mangled row ends, ih]

end IrListing.Symbol
