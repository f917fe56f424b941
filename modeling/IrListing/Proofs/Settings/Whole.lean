import IrListing.Proofs.Text.Numeral
import IrListing.Settings.Check

namespace IrListing.Settings

open Text Check

def wholeDigits (t : Text) : Text := (t.takeWhile (· ≠ '.')).filter Char.isDigit

def Writes (t : Text) (n : Nat) : Prop := Denotes (wholeDigits t) n

theorem isDigitOf_of_isDigit {c : Char} (h : c.isDigit = true) : IsDigitOf c (c.toNat - 48) := by
  simp only [Char.isDigit, Bool.and_eq_true, decide_eq_true_eq, ge_iff_le, UInt32.le_iff_toNat_le]
    at h
  change 48 ≤ c.toNat ∧ c.toNat ≤ 57 at h
  exact ⟨by omega, 0x30, by decide, by omega⟩

theorem isDigit_of_isDigit {c : Char} (h : c.isDigit = true) : isDigit c = true := by
  rw [isDigit, digitValue?_eq_some_iff.2 (isDigitOf_of_isDigit h)]
  rfl

theorem writes_iff {t : Text} {n : Nat} : Writes t n ↔ n = digitsValue (wholeDigits t) :=
  denotes_iff fun _ hc => isDigit_of_isDigit (List.mem_filter.1 hc).2

theorem wholeDigits_cons (c : Char) (t : Text) :
    wholeDigits (c :: t) =
      if c = '.' then [] else if c.isDigit then c :: wholeDigits t else wholeDigits t := by
  by_cases point : c = '.'
  · simp [wholeDigits, point]
  · cases digit : c.isDigit <;> simp [wholeDigits, point, digit]

theorem wholeDigits_minus (t : Text) : wholeDigits ('-' :: t) = wholeDigits t := rfl

theorem wholeDigits_plus (t : Text) : wholeDigits ('+' :: t) = wholeDigits t := rfl

theorem wholeDigits_of_isDigit {t : Text} (h : ∀ c ∈ t, c.isDigit = true) : wholeDigits t = t := by
  have before_point : t.takeWhile (· ≠ '.') = t := by
    rw [List.takeWhile_eq_self_iff]
    intro c hc
    have digit := h c hc
    rw [decide_eq_true_eq]
    rintro rfl
    cases digit
  rw [wholeDigits, before_point, List.filter_eq_self.2 h]

theorem wholeDigits_append_left {s : Text} (h : ∀ c ∈ s, c.isDigit = false ∧ c ≠ '.') (t : Text) :
    wholeDigits (s ++ t) = wholeDigits t := by
  induction s with
  | nil => rfl
  | cons c s ih =>
    obtain ⟨⟨digit, point⟩, rest⟩ := List.forall_mem_cons.1 h
    simp [wholeDigits_cons, digit, point, ih rest]

theorem wholeDigits_append_right {s : Text} (h : ∀ c ∈ s, c.isDigit = false) (t : Text) :
    wholeDigits (t ++ s) = wholeDigits t := by
  induction t with
  | nil =>
    refine List.filter_eq_nil_iff.2 ?_
    intro c hc
    simp [h c ((List.takeWhile_prefix _).subset hc)]
  | cons c t ih => rw [List.cons_append, wholeDigits_cons, wholeDigits_cons, ih]

theorem wholeDigits_unpad (t : Text) : wholeDigits (unpad t) = wholeDigits t := by
  obtain ⟨before, behind, split, padded⟩ := exists_padding t
  have unread {c : Char} (padding : isPadding c = true) : c.isDigit = false := by
    rw [Bool.eq_false_iff]
    intro digit
    cases padding.symm.trans (isPadding_of_isDigit (isDigit_of_isDigit digit))
  obtain ⟨front, back⟩ := List.forall_mem_append.1 padded
  conv_rhs => rw [split]
  rw [wholeDigits_append_right fun c hc => unread (back c hc), wholeDigits_append_left]
  intro c hc
  refine ⟨unread (front c hc), ?_⟩
  rintro rfl
  cases front '.' hc

theorem wholeDigits_filter (t : Text) : wholeDigits (t.filter (· ≠ '_')) = wholeDigits t := by
  induction t with
  | nil => rfl
  | cons c t ih =>
    by_cases low : c = '_'
    · subst low
      rw [List.filter_cons_of_neg (by simp), ih]
      rfl
    · rw [List.filter_cons_of_pos (by simpa using low), wholeDigits_cons, wholeDigits_cons, ih]

theorem wholeDigits_withoutInnerLows (t : Text) :
    wholeDigits (withoutInnerLows t) = wholeDigits t := by
  unfold withoutInnerLows
  split
  · rfl
  · exact wholeDigits_filter t

theorem wholeDigits_withoutZeroFraction (t : Text) :
    wholeDigits (withoutZeroFraction t) = wholeDigits t := by
  unfold withoutZeroFraction
  dsimp only
  split
  · simp [wholeDigits, List.takeWhile_takeWhile]
  · rfl

theorem digitsValue_of_afterZeros? {last : Char} (least : last = '0' ∨ last = '_') {t u : Text}
    (h : afterZeros? last t = some u) :
    digitsValue (wholeDigits u) = digitsValue (wholeDigits t) := by
  fun_induction afterZeros? last t with
  | case1 =>
    cases h
    rcases least with rfl | rfl <;> rfl
  | case2 last c t more ih =>
    have zero : c = '0' ∨ c = '_' := by simpa using more
    rw [ih zero h]
    rcases zero with rfl | rfl <;> rfl
  | case3 =>
    cases h
    rcases least with rfl | rfl <;> rfl
  | case4 =>
    cases h
    rfl
  | case5 => cases h

theorem digitsValue_of_fromNumeral? {t u : Text} (h : fromNumeral? t = some u) :
    digitsValue (wholeDigits u) = digitsValue (wholeDigits t) := by
  unfold fromNumeral? at h
  split at h
  · exact digitsValue_of_afterZeros? (.inl rfl) h
  · split at h <;> cases h
    rfl
  · cases h

theorem digitsValue_of_tidied? {t u : Text} (h : tidied? t = some u) :
    digitsValue (wholeDigits u) = digitsValue (wholeDigits t) := by
  obtain ⟨v, numeral, rfl⟩ := Option.map_eq_some_iff.1 h
  rw [wholeDigits_withoutInnerLows, wholeDigits_withoutZeroFraction, ← wholeDigits_unpad t]
  split at numeral
  · obtain ⟨w, read, rfl⟩ := Option.map_eq_some_iff.1 numeral
    rename_i rest unpadded
    rw [unpadded, wholeDigits_minus, wholeDigits_minus, digitsValue_of_fromNumeral? read]
  · cases numeral
  · rename_i unpadded
    rw [unpadded, wholeDigits_plus, digitsValue_of_fromNumeral? numeral]
  · exact digitsValue_of_fromNumeral? numeral

theorem natAbs_of_plainNumber {negative : Bool} {t : Text} {n : Int}
    (h : plainNumber negative t = .ok n) : n.natAbs = digitsValue (wholeDigits t) := by
  unfold plainNumber at h
  dsimp only at h
  split at h
  · cases h
  · split at h
    · cases h
    · split at h
      · rename_i whole
        cases h
        have digits : ∀ c ∈ t, c.isDigit = true := by
          rw [← whole]
          exact fun _ => of_mem_takeWhile
        rw [whole, wholeDigits_of_isDigit digits]
        cases negative <;> simp [signed]
      · cases h

theorem natAbs_of_plainWhole {t : Text} {n : Int} (h : plainWhole t = .ok n) :
    n.natAbs = digitsValue (wholeDigits t) := by
  unfold plainWhole at h
  split at h
  · rw [wholeDigits_minus]
    exact natAbs_of_plainNumber h
  · exact natAbs_of_plainNumber h

/-- The positive number that a value counts as. -/
inductive Counts : Value → Nat → Prop
  | whole (n : Nat) : Counts (.whole n) n
  | truth : Counts (.bool true) 1
  | fraction {x : Binary} {n : Nat} (even : x.whole? = some (n : Int)) : Counts (.fraction x) n
  | text {t : Text} {n : Nat} (written : Writes t n) : Counts (.text t) n
  | bytes {bs : List UInt8} {t : Text} {n : Nat} (decoded : ofBytes? bs = some t)
    (written : Writes t n) : Counts (.bytes bs) n

theorem writes_of_wholeOfText {t : Text} {n : Int} (h : wholeOfText t = .ok n) :
    Writes t n.natAbs := by
  rw [writes_iff]
  unfold wholeOfText at h
  split at h
  · cases h
    exact natAbs_of_plainWhole ‹_›
  · cases h
  · rename_i tidied
    cases h
    obtain ⟨u, tidy, plain⟩ := Option.map_eq_some_iff.1 tidied
    rw [natAbs_of_plainWhole plain, digitsValue_of_tidied? tidy]
  · cases h

theorem whole?_of_wholeOfFraction {x : Binary} {n : Int} (h : wholeOfFraction x = .ok n) :
    x.whole? = some n := by
  unfold wholeOfFraction at h
  split at h
  · rename_i m even
    split at h <;> cases h
    exact even
  · cases h
  · cases h

theorem counts_of_wholeFrom {v : Value} {n : Int} (h : wholeFrom 1 v = .ok n) :
    ∃ m : Nat, Counts v m ∧ n = m := by
  unfold wholeFrom at h
  split at h
  · rename_i n' read
    split at h <;> cases h
    rename_i least
    obtain ⟨m, rfl⟩ := Int.eq_ofNat_of_zero_le (Int.le_trans (by decide) least)
    refine ⟨m, ?_, rfl⟩
    cases v with
    | whole k =>
      cases read
      exact .whole m
    | bool b =>
      cases b with
      | true =>
        obtain rfl : 1 = m := Int.ofNat.inj (Except.ok.inj read)
        exact .truth
      | false =>
        cases read
        cases least
    | fraction x => exact .fraction (whole?_of_wholeOfFraction read)
    | text t => exact .text (writes_of_wholeOfText read)
    | bytes bs =>
      simp only [whole] at read
      cases decoded : ofBytes? bs with
      | none =>
        rw [decoded] at read
        cases read
      | some t =>
        rw [decoded] at read
        exact .bytes decoded (writes_of_wholeOfText read)
    | _ => cases read
  · cases h

end IrListing.Settings
