import IrListing.Proofs.Metadata.Attachment

namespace IrListing.Metadata

open Text

def Assigned (t id rest : Text) : Prop :=
  ∃ digits lead, id = '!' :: digits ∧ t = '!' :: digits ++ " = ".toList ++ lead ++ '!' :: rest ∧
    digits ≠ [] ∧ (∀ c ∈ digits, isDigit c = true) ∧ (lead = [] ∨ lead = "distinct ".toList)

theorem Assigned.eq_cons {t id rest : Text} (h : Assigned t id rest) : ∃ r, t = '!' :: r := by
  obtain ⟨digits, lead, -, rfl, -⟩ := h
  exact ⟨_, rfl⟩

def Argued (t : Text) : Prop :=
  ∃ kind body rest, t = kind ++ '(' :: body ++ ')' :: rest ∧ kind ≠ [] ∧
    (∀ c ∈ kind, c.isAlpha = true) ∧ '\n' ∉ body

theorem optional_distinct_iff {t r : Text} :
    optional "distinct ".toList t = '!' :: r ↔
      ∃ lead, (lead = [] ∨ lead = "distinct ".toList) ∧ t = lead ++ '!' :: r := by
  rw [optional]
  cases found : after? "distinct ".toList t with
  | some u =>
    obtain rfl := after?_eq_some_iff.1 found
    rw [Option.getD_some]
    constructor
    · rintro rfl
      exact ⟨_, Or.inr rfl, rfl⟩
    · rintro ⟨lead, rfl | rfl, e⟩
      · cases e
      · exact List.append_cancel_left e
  | none =>
    rw [Option.getD_none]
    constructor
    · rintro rfl
      exact ⟨[], Or.inl rfl, rfl⟩
    · rintro ⟨lead, rfl | rfl, rfl⟩
      · rfl
      · rw [after?_append] at found
        cases found

theorem assignment?_eq_some_iff {t id r : Text} :
    assignment? t = some (id, r) ↔ Assigned t id r := by
  simp only [assignment?, Option.bind_eq_bind, Option.bind_eq_some_iff, Prod.exists,
    Option.pure_def, Option.some.injEq, Prod.mk.injEq, after?_eq_some_iff, List.singleton_append,
    optional_distinct_iff, label?_eq_some_iff]
  constructor
  · rintro ⟨_, _, ⟨digits, rfl, rfl, some_digit, row, -⟩, _, rfl, r', ⟨lead, which, rfl⟩, rfl, rfl⟩
    exact ⟨digits, lead, rfl, by simp, some_digit, row, which⟩
  · rintro ⟨digits, lead, rfl, rfl, some_digit, row, which⟩
    refine ⟨_, " = ".toList ++ (lead ++ '!' :: r), ⟨digits, rfl, by simp, some_digit, row, ?_⟩, _,
      rfl, r, ⟨lead, which, rfl⟩, rfl, rfl⟩
    intro c hc
    obtain rfl := Option.some.inj hc
    decide

theorem beforeLast?_isSome_iff {x : Char} {t : Text} : (beforeLast? x t).isSome = true ↔ x ∈ t := by
  induction t with
  | nil => simp [beforeLast?]
  | cons c t ih =>
    rw [beforeLast?, List.mem_cons, ← ih]
    cases beforeLast? x t with
    | some s => simp
    | none =>
      by_cases h : x = c
      · simp [h]
      · simp [h, Ne.symm h]

theorem mem_takeWhile_iff {x y : Char} (other : x ≠ y) {t : Text} :
    x ∈ t.takeWhile (· ≠ y) ↔ ∃ body rest, t = body ++ x :: rest ∧ y ∉ body := by
  constructor
  · intro inside
    obtain ⟨body, rest, split⟩ := List.append_of_mem inside
    refine ⟨body, rest ++ t.dropWhile (· ≠ y), ?_, ?_⟩
    · rw [← List.cons_append, ← List.append_assoc, ← split, List.takeWhile_append_dropWhile]
    · intro hy
      have kept : y ∈ t.takeWhile (· ≠ y) := by rw [split]; exact List.mem_append_left _ hy
      simpa using of_mem_takeWhile kept
  · rintro ⟨body, rest, rfl, line⟩
    rw [List.takeWhile_append_of_pos (all_ne_of_not_mem line),
      List.takeWhile_cons_of_pos (by simpa)]
    simp

theorem declaration?_isSome_iff {t : Text} :
    (declaration? t).isSome = true ↔
      ∃ id rest, Assigned t id ("DI".toList ++ rest) ∧ Argued rest := by
  simp only [Option.isSome_iff_exists, declaration?, Option.bind_eq_bind, Option.bind_eq_some_iff,
    Prod.exists, Option.pure_def, Option.some.injEq, after?_eq_some_iff, assignment?_eq_some_iff,
    run?_eq_some_iff, List.singleton_append]
  constructor
  · rintro ⟨_, id, _, assigned, rest, rfl, kind, _, ⟨rfl, some_letter, letters, -⟩, r, rfl, _,
      closed, -⟩
    have closes := beforeLast?_isSome_iff.1 (Option.isSome_iff_exists.2 ⟨_, closed⟩)
    obtain ⟨body, rest, rfl, line⟩ := (mem_takeWhile_iff (by decide)).1 closes
    exact ⟨id, _, assigned, kind, body, rest, by simp, some_letter, letters, line⟩
  · rintro ⟨id, _, assigned, kind, body, rest, rfl, some_letter, letters, line⟩
    have closed : ')' ∈ (body ++ ')' :: rest).takeWhile (· ≠ '\n') :=
      (mem_takeWhile_iff (by decide)).2 ⟨body, rest, rfl, line⟩
    obtain ⟨inner, read⟩ := Option.isSome_iff_exists.1 (beforeLast?_isSome_iff.2 closed)
    refine ⟨_, id, _, assigned, _, rfl, kind, '(' :: (body ++ ')' :: rest),
      ⟨by simp, some_letter, letters, ?_⟩, _, rfl, inner, read, rfl⟩
    intro c hc
    obtain rfl := Option.some.inj hc
    decide

theorem exists_assigned_of_declaration? {t : Text} {n : Node} (h : declaration? t = some n) :
    ∃ id rest, Assigned t id ("DI".toList ++ rest) := by
  obtain ⟨id, rest, assigned, -⟩ := declaration?_isSome_iff.1 (Option.isSome_iff_exists.2 ⟨n, h⟩)
  exact ⟨id, rest, assigned⟩

theorem eq_cons_of_declaration? {t : Text} {n : Node} (h : declaration? t = some n) :
    ∃ r, t = '!' :: r := by
  obtain ⟨id, rest, assigned⟩ := exists_assigned_of_declaration? h
  exact assigned.eq_cons

end IrListing.Metadata
