import IrListing.Metadata.Declaration
import IrListing.Proofs.Text.Span

namespace IrListing.Metadata

open Text

theorem run?_eq_some_iff {p : Char → Bool} {t s r : Text} :
    run? p t = some (s, r) ↔
      t = s ++ r ∧ s ≠ [] ∧ (∀ c ∈ s, p c = true) ∧ ∀ c ∈ r.head?, p c = false := by
  constructor
  · intro h
    unfold run? at h
    split at h
    · simp at h
    · rename_i hne
      simp only [Option.some.injEq, Prod.mk.injEq] at h
      obtain ⟨rfl, rfl⟩ := h
      exact ⟨List.takeWhile_append_dropWhile.symm, hne, fun c => of_mem_takeWhile,
        fun c => head?_dropWhile⟩
  · rintro ⟨rfl, hne, hs, hr⟩
    simp [run?, takeWhile_span hs hr, dropWhile_span hs hr, hne]

theorem label?_eq_some_iff {t id r : Text} :
    label? t = some (id, r) ↔ ∃ digits, id = '!' :: digits ∧ t = '!' :: digits ++ r ∧
      digits ≠ [] ∧ (∀ c ∈ digits, isDigit c = true) ∧ ∀ c ∈ r.head?, isDigit c = false := by
  cases t with
  | nil => simp [label?]
  | cons c t =>
    by_cases h : c = '!'
    · subst h
      simp only [label?, Option.map_eq_some_iff, Prod.exists, Prod.mk.injEq, run?_eq_some_iff]
      constructor
      · rintro ⟨s, r', ⟨rfl, hne, hs, hr⟩, rfl, rfl⟩
        exact ⟨s, rfl, rfl, hne, hs, hr⟩
      · rintro ⟨s, rfl, ht, hne, hs, hr⟩
        exact ⟨s, r, ⟨List.cons.inj ht |>.2, hne, hs, hr⟩, rfl, rfl⟩
    · simp [label?, h]

/-- The digits are the whole row behind a `!dbg !` that has `before` in front of it. -/
structure AttachedAt (line before digits : Text) : Prop where
  nonempty : digits ≠ []
  row : ∀ c ∈ digits, isDigit c = true
  stands : ∃ rest, line = before ++ "!dbg !".toList ++ digits ++ rest ∧
    ∀ c ∈ rest.head?, isDigit c = false

def FirstAttachment (line id : Text) : Prop :=
  ∃ before digits, AttachedAt line before digits ∧ id = '!' :: digits ∧
    ∀ other digits', AttachedAt line other digits' → before.length ≤ other.length

theorem attachedAt_nil_iff {t digits : Text} :
    AttachedAt t [] digits ↔
      ∃ r, (after? "!dbg ".toList t).bind label? = some ('!' :: digits, r) := by
  simp only [Option.bind_eq_some_iff, after?_eq_some_iff, label?_eq_some_iff]
  constructor
  · rintro ⟨hne, hs, r, rfl, hr⟩
    exact ⟨r, '!' :: digits ++ r, by simp, digits, rfl, rfl, hne, hs, hr⟩
  · rintro ⟨r, _, rfl, _, e, rfl, hne, hs, hr⟩
    obtain rfl := (List.cons.inj e).2
    exact ⟨hne, hs, r, by simp, hr⟩

theorem attachedAt_cons_iff {c : Char} {t before digits : Text} :
    AttachedAt (c :: t) (c :: before) digits ↔ AttachedAt t before digits :=
  ⟨fun ⟨hne, hs, r, e, hr⟩ => ⟨hne, hs, r, by simpa using e, hr⟩,
    fun ⟨hne, hs, r, e, hr⟩ => ⟨hne, hs, r, by simpa using e, hr⟩⟩

theorem AttachedAt.eq_cons {c : Char} {t before digits : Text}
    (h : AttachedAt (c :: t) before digits) (hne : before ≠ []) :
    ∃ before', before = c :: before' ∧ AttachedAt t before' digits := by
  cases before with
  | nil => exact absurd rfl hne
  | cons b before' =>
    obtain ⟨r, e, -⟩ := h.stands
    simp only [List.cons_append, List.cons.injEq] at e
    obtain ⟨rfl, -⟩ := e
    exact ⟨before', rfl, attachedAt_cons_iff.1 h⟩

theorem firstAttachment_of_here {t digits id : Text} (here : AttachedAt t [] digits) :
    FirstAttachment t id ↔ id = '!' :: digits := by
  constructor
  · rintro ⟨before, digits', h, rfl, first⟩
    obtain rfl : before = [] := List.length_eq_zero_iff.1 (Nat.le_zero.1 (first [] digits here))
    obtain ⟨r, e⟩ := attachedAt_nil_iff.1 here
    obtain ⟨r', e'⟩ := attachedAt_nil_iff.1 h
    simp only [e, Option.some.injEq, Prod.mk.injEq] at e'
    exact e'.1.symm
  · rintro rfl
    exact ⟨[], digits, here, rfl, fun _ _ _ => Nat.zero_le _⟩

theorem firstAttachment_cons {c : Char} {t id : Text}
    (here : ∀ digits, ¬ AttachedAt (c :: t) [] digits) :
    FirstAttachment (c :: t) id ↔ FirstAttachment t id := by
  constructor
  · rintro ⟨before, digits, h, rfl, first⟩
    obtain ⟨before', rfl, h'⟩ := h.eq_cons fun e => here digits (e ▸ h)
    refine ⟨before', digits, h', rfl, fun other digits' ho => ?_⟩
    have := first (c :: other) digits' (attachedAt_cons_iff.2 ho)
    simpa using this
  · rintro ⟨before, digits, h, rfl, first⟩
    refine ⟨c :: before, digits, attachedAt_cons_iff.2 h, rfl, fun other digits' ho => ?_⟩
    obtain ⟨other', rfl, ho'⟩ := ho.eq_cons fun e => here digits' (e ▸ ho)
    have := first other' digits' ho'
    simpa using this

theorem attachment?_eq_some_iff {line id : Text} :
    attachment? line = some id ↔ FirstAttachment line id := by
  induction line with
  | nil =>
    constructor
    · intro h
      simp [attachment?] at h
    · rintro ⟨before, digits, ⟨-, -, r, e, -⟩, -⟩
      simp at e
  | cons c t ih =>
    unfold attachment?
    split
    · rename_i id' r here
      obtain ⟨_, rfl, -⟩ := label?_eq_some_iff.1 (Option.bind_eq_some_iff.1 here).choose_spec.2
      rw [firstAttachment_of_here (attachedAt_nil_iff.2 ⟨r, here⟩), Option.some.injEq, eq_comm]
    · rename_i here
      rw [ih, firstAttachment_cons fun digits h => ?_]
      obtain ⟨r, e⟩ := attachedAt_nil_iff.1 h
      rw [here] at e
      simp at e

end IrListing.Metadata
