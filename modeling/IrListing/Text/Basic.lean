namespace IrListing

abbrev Text := List Char

namespace Text

instance : LawfulBEq Text := inferInstance

def after? : (lead : Text) → Text → Option Text
  | [], t => some t
  | _ :: _, [] => none
  | a :: lead, c :: t => if a = c then after? lead t else none

theorem after?_eq_some_iff {lead t rest : Text} :
    after? lead t = some rest ↔ t = lead ++ rest := by
  induction lead generalizing t with
  | nil => simp [after?, eq_comm]
  | cons a lead ih =>
    cases t with
    | nil => simp [after?]
    | cons c t =>
      by_cases h : a = c
      · simp [after?, h, ih]
      · simp [after?, h, Ne.symm h]

@[simp] theorem after?_append (lead rest : Text) : after? lead (lead ++ rest) = some rest :=
  after?_eq_some_iff.2 rfl

def startsWith (lead t : Text) : Bool := (after? lead t).isSome

theorem startsWith_iff {lead t : Text} : startsWith lead t = true ↔ lead <+: t := by
  simp only [startsWith, Option.isSome_iff_exists, after?_eq_some_iff]
  exact ⟨fun ⟨r, h⟩ => ⟨r, h.symm⟩, fun ⟨r, h⟩ => ⟨r, h.symm⟩⟩

def has (part : Text) : Text → Bool
  | [] => startsWith part []
  | c :: t => startsWith part (c :: t) || has part t

theorem has_iff {part t : Text} : has part t = true ↔ part <:+: t := by
  induction t with
  | nil => simp [has, startsWith_iff]
  | cons c t ih => simp [has, startsWith_iff, ih, List.infix_cons_iff]

theorem has_of_isInfix {part t u : Text} (inside : t <:+: u) (h : has part t = true) :
    has part u = true :=
  has_iff.2 ((has_iff.1 h).trans inside)

def joined (joint : Text) : List Text → Text
  | [] => []
  | [t] => t
  | t :: u :: ts => t ++ joint ++ joined joint (u :: ts)

theorem mem_joined {joint : Text} {ts : List Text} {c : Char} (h : c ∈ joined joint ts) :
    c ∈ joint ∨ ∃ t ∈ ts, c ∈ t := by
  induction ts with
  | nil => cases h
  | cons t ts ih =>
    cases ts with
    | nil => exact Or.inr ⟨t, List.mem_cons_self, h⟩
    | cons u ts =>
      rw [joined, List.mem_append, List.mem_append] at h
      rcases h with (h | h) | h
      · exact Or.inr ⟨t, List.mem_cons_self, h⟩
      · exact Or.inl h
      · rcases ih h with h | ⟨v, hv, h⟩
        · exact Or.inl h
        · exact Or.inr ⟨v, List.mem_cons_of_mem _ hv, h⟩

end Text

end IrListing
