import IrListing.Text.Lines

namespace IrListing.Text

variable {p : Char → Bool} {s r : Text}

theorem takeWhile_span (hs : ∀ c ∈ s, p c = true) (hr : ∀ c ∈ r.head?, p c = false) :
    (s ++ r).takeWhile p = s := by
  rw [List.takeWhile_append_of_pos hs]
  cases r with
  | nil => simp
  | cons c r => simp [hr c rfl]

theorem dropWhile_span (hs : ∀ c ∈ s, p c = true) (hr : ∀ c ∈ r.head?, p c = false) :
    (s ++ r).dropWhile p = r := by
  rw [List.dropWhile_append_of_pos hs]
  cases r with
  | nil => rfl
  | cons c r => simp [hr c rfl]

theorem all_ne_of_not_mem {x : Char} {t : Text} (h : x ∉ t) : ∀ c ∈ t, decide (c ≠ x) = true := by
  intro c hc
  have other : c ≠ x := fun same => h (same ▸ hc)
  simpa using other

theorem of_mem_takeWhile {t : Text} {c : Char} (h : c ∈ t.takeWhile p) : p c = true :=
  List.all_eq_true.1 List.all_takeWhile c h

theorem head?_dropWhile {t : Text} {c : Char} (h : c ∈ (t.dropWhile p).head?) : p c = false := by
  have := List.head?_dropWhile_not p t
  rw [Option.mem_def.1 h] at this
  simpa using this

end IrListing.Text
