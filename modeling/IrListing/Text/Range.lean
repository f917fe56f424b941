namespace IrListing.Text

def inRanges : List (Nat × Nat) → Nat → Bool
  | [], _ => false
  | (lo, hi) :: table, n => if n < lo then false else n ≤ hi || inRanges table n

def offsetInTen? : List Nat → Nat → Option Nat
  | [], _ => none
  | start :: table, n =>
    if n < start then none else if n < start + 10 then some (n - start) else offsetInTen? table n

theorem offsetInTen?_eq_some_iff {table : List Nat}
    (apart : table.Pairwise fun start next => start + 10 ≤ next) {n k : Nat} :
    offsetInTen? table n = some k ↔ k < 10 ∧ ∃ start ∈ table, n = start + k := by
  induction table with
  | nil => simp [offsetInTen?]
  | cons start table ih =>
    obtain ⟨below, apart⟩ := List.pairwise_cons.1 apart
    rw [offsetInTen?]
    constructor
    · intro found
      split at found
      · cases found
      · split at found
        · obtain rfl := Option.some.inj found
          exact ⟨by omega, start, List.mem_cons_self, by omega⟩
        · obtain ⟨small, next, listed, here⟩ := (ih apart).1 found
          exact ⟨small, next, List.mem_cons_of_mem _ listed, here⟩
    · rintro ⟨small, next, listed, rfl⟩
      rcases List.mem_cons.1 listed with rfl | later
      · rw [if_neg (by omega), if_pos (by omega), Nat.add_sub_cancel_left]
      · have := below next later
        rw [if_neg (by omega), if_neg (by omega)]
        exact (ih apart).2 ⟨small, next, later, rfl⟩

end IrListing.Text
