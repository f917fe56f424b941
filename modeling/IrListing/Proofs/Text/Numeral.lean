import IrListing.Proofs.Text.Span
import IrListing.Text.Numeral
import Mathlib.Data.List.DropRight
import Mathlib.Data.List.Forall2
import Mathlib.Data.Nat.Digits.Defs
import Mathlib.Tactic.Ring

namespace IrListing.Text

def IsDigitOf (c : Char) (k : Nat) : Prop := k < 10 ∧ ∃ first ∈ zeros, c.toNat = first + k

def Denotes (digits : Text) (n : Nat) : Prop :=
  ∃ ks, List.Forall₂ IsDigitOf digits ks ∧ n = Nat.ofDigits 10 ks.reverse

theorem digitValue?_eq_some_iff {c : Char} {k : Nat} :
    digitValue? c = some k ↔ IsDigitOf c k := by
  have apart : zeros.Pairwise fun first next => first + 10 ≤ next := by decide +kernel
  exact offsetInTen?_eq_some_iff apart

theorem exists_isDigitOf {digits : Text} (h : ∀ c ∈ digits, isDigit c = true) :
    ∃ ks, List.Forall₂ IsDigitOf digits ks := by
  induction digits with
  | nil => exact ⟨[], .nil⟩
  | cons c digits ih =>
    obtain ⟨k, first⟩ := Option.isSome_iff_exists.1 (h c List.mem_cons_self)
    obtain ⟨ks, rest⟩ := ih fun c' hc' => h c' (List.mem_cons_of_mem c hc')
    exact ⟨k :: ks, .cons (digitValue?_eq_some_iff.1 first) rest⟩

theorem digitsValue_eq_ofDigits {digits : Text} {ks : List Nat}
    (h : List.Forall₂ IsDigitOf digits ks) : digitsValue digits = Nat.ofDigits 10 ks.reverse := by
  have onto (start : Nat) : digits.foldl (fun n c => 10 * n + (digitValue? c).getD 0) start =
      Nat.ofDigits 10 ks.reverse + 10 ^ ks.length * start := by
    induction h generalizing start with
    | nil => simp
    | @cons c k digits ks first _ ih =>
      rw [List.foldl_cons, ih, digitValue?_eq_some_iff.2 first, Option.getD_some,
        Nat.ofDigits_reverse_cons, List.length_cons]
      ring
  rw [digitsValue, onto 0, Nat.mul_zero, Nat.add_zero]

theorem denotes_iff {digits : Text} (h : ∀ c ∈ digits, isDigit c = true) {n : Nat} :
    Denotes digits n ↔ n = digitsValue digits := by
  constructor
  · rintro ⟨ks, rows, rfl⟩
    exact (digitsValue_eq_ofDigits rows).symm
  · rintro rfl
    obtain ⟨ks, rows⟩ := exists_isDigitOf h
    exact ⟨ks, rows, digitsValue_eq_ofDigits rows⟩

theorem isPadding_of_isDigit {c : Char} (h : isDigit c = true) : isPadding c = false := by
  obtain ⟨k, value⟩ := Option.isSome_iff_exists.1 h
  obtain ⟨small, first, listed, place⟩ := digitValue?_eq_some_iff.1 value
  have solid : ∀ first ∈ zeros, ∀ k < 10, inRanges spaceRanges (first + k) = false := by
    decide +kernel
  simp [isPadding, isSpace, place, solid first listed k small]

structure IsRow (row : Text) : Prop where
  nonempty : row ≠ []
  digits : ∀ c ∈ row, isDigit c = true

theorem ne_underscore {c : Char} (h : isDigit c = true) : c ≠ '_' := by
  rintro rfl
  revert h
  decide

theorem groupedDigits?_singleton {c : Char} (digit : isDigit c = true) :
    groupedDigits? isDigit [c] = some [c] := by
  rw [groupedDigits?, if_pos digit]

theorem groupedDigits?_underscore {c : Char} (digit : isDigit c = true) (t : Text) :
    groupedDigits? isDigit (c :: '_' :: t) = (groupedDigits? isDigit t).map (c :: ·) := by
  rw [groupedDigits?, if_pos digit]

theorem groupedDigits?_cons {c d : Char} (digit : isDigit c = true) (next : isDigit d = true)
    (t : Text) :
    groupedDigits? isDigit (c :: d :: t) = (groupedDigits? isDigit (d :: t)).map (c :: ·) := by
  rw [groupedDigits?, if_pos digit]
  · nofun
  · intro t' same
    exact ne_underscore next (List.cons.inj same).1

namespace IsRow

theorem cons {c : Char} {row : Text} (digit : isDigit c = true) (h : ∀ c ∈ row, isDigit c = true) :
    IsRow (c :: row) :=
  ⟨List.cons_ne_nil c row, List.forall_mem_cons.2 ⟨digit, h⟩⟩

variable {row : Text} (h : IsRow row)

include h

theorem groupedDigits? : groupedDigits? isDigit row = some row := by
  obtain ⟨nonempty, digits⟩ := h
  induction row with
  | nil => exact absurd rfl nonempty
  | cons c row ih =>
    obtain ⟨first, rest⟩ := List.forall_mem_cons.1 digits
    cases row with
    | nil => exact groupedDigits?_singleton first
    | cons d row =>
      rw [groupedDigits?_cons first (rest d List.mem_cons_self), ih (List.cons_ne_nil d row) rest]
      rfl

theorem groupedDigits?_append (t : Text) :
    Text.groupedDigits? isDigit (row ++ '_' :: t) =
      (Text.groupedDigits? isDigit t).map (row ++ ·) := by
  obtain ⟨nonempty, digits⟩ := h
  induction row with
  | nil => exact absurd rfl nonempty
  | cons c row ih =>
    obtain ⟨first, rest⟩ := List.forall_mem_cons.1 digits
    cases row with
    | nil => exact groupedDigits?_underscore first t
    | cons d row =>
      rw [List.cons_append, List.cons_append,
        groupedDigits?_cons first (rest d List.mem_cons_self), ← List.cons_append,
        ih (List.cons_ne_nil d row) rest, Option.map_map]
      rfl

end IsRow

theorem groupedDigits?_joined {rows : List Text} (nonempty : rows ≠ [])
    (each : ∀ row ∈ rows, IsRow row) :
    groupedDigits? isDigit (joined ['_'] rows) = some rows.flatten := by
  induction rows with
  | nil => exact absurd rfl nonempty
  | cons row rows ih =>
    obtain ⟨first, later⟩ := List.forall_mem_cons.1 each
    cases rows with
    | nil => simpa [joined] using first.groupedDigits?
    | cons next rows =>
      rw [joined, List.append_assoc, List.singleton_append, first.groupedDigits?_append,
        ih (List.cons_ne_nil next rows) later]
      rfl

theorem joined_cons_cons (joint : Text) (c : Char) (t : Text) (ts : List Text) :
    joined joint ((c :: t) :: ts) = c :: joined joint (t :: ts) := by
  cases ts <;> simp [joined]

theorem exists_rows {t digits : Text} (h : groupedDigits? isDigit t = some digits) :
    ∃ rows, rows ≠ [] ∧ (∀ row ∈ rows, IsRow row) ∧ t = joined ['_'] rows := by
  fun_induction groupedDigits? isDigit t generalizing digits with
  | case1 => cases h
  | case2 c digit =>
    obtain rfl := Option.some.inj h
    exact ⟨[[c]], by simp, by simpa using IsRow.cons digit (by simp), rfl⟩
  | case3 => cases h
  | case4 c t digit ih =>
    obtain ⟨rest, read, rfl⟩ := Option.map_eq_some_iff.1 h
    obtain ⟨rows, some_row, each, rfl⟩ := ih read
    obtain ⟨row, rows, rfl⟩ := List.exists_cons_of_ne_nil some_row
    refine ⟨[c] :: row :: rows, List.cons_ne_nil _ _, ?_, rfl⟩
    exact List.forall_mem_cons.2 ⟨.cons digit (by simp), each⟩
  | case5 => cases h
  | case6 c t _ _ digit ih =>
    obtain ⟨rest, read, rfl⟩ := Option.map_eq_some_iff.1 h
    obtain ⟨rows, some_row, each, rfl⟩ := ih read
    obtain ⟨row, rows, rfl⟩ := List.exists_cons_of_ne_nil some_row
    obtain ⟨first, later⟩ := List.forall_mem_cons.1 each
    refine ⟨(c :: row) :: rows, List.cons_ne_nil _ _, ?_, (joined_cons_cons ..).symm⟩
    exact List.forall_mem_cons.2 ⟨.cons digit first.digits, later⟩
  | case7 => cases h

inductive Sign
  | absent
  | plus
  | minus

def Sign.text : Sign → Text
  | .absent => []
  | .plus => ['+']
  | .minus => ['-']

def Sign.isMinus : Sign → Bool
  | .minus => true
  | _ => false

/-- A whole number with padding around it. -/
structure Numeral where
  before : Text
  sign : Sign
  rows : List Text
  behind : Text
  padded : ∀ c ∈ before ++ behind, isPadding c = true
  nonempty : rows ≠ []
  each : ∀ row ∈ rows, IsRow row

namespace Numeral

def body (m : Numeral) : Text := m.sign.text ++ joined ['_'] m.rows

def text (m : Numeral) : Text := m.before ++ m.body ++ m.behind

def digits (m : Numeral) : Text := m.rows.flatten

def Means (m : Numeral) (i : Int) : Prop :=
  ∃ n, Denotes m.digits n ∧ i = signed m.sign.isMinus n

end Numeral

theorem unpad_append {before body behind : Text} (nonempty : body ≠ [])
    (padded : ∀ c ∈ before ++ behind, isPadding c = true)
    (solid : ∀ c ∈ body, isPadding c = false) : unpad (before ++ body ++ behind) = body := by
  obtain ⟨front, back⟩ := List.forall_mem_append.1 padded
  have first : ∀ c ∈ (body ++ behind).head?, isPadding c = false := by
    rw [List.head?_append_of_ne_nil _ nonempty]
    exact fun c hc => solid c (List.mem_of_mem_head? hc)
  have last : ∀ c ∈ body.reverse.head?, isPadding c = false :=
    fun c hc => solid c (List.mem_reverse.1 (List.mem_of_mem_head? hc))
  have reversed : ∀ c ∈ behind.reverse, isPadding c = true := by simpa using back
  rw [unpad, List.append_assoc, dropWhile_span front first, List.reverse_append,
    dropWhile_span reversed last, List.reverse_reverse]

theorem exists_padding (t : Text) : ∃ before behind, t = before ++ unpad t ++ behind ∧
    ∀ c ∈ before ++ behind, isPadding c = true := by
  let rest := t.dropWhile isPadding
  refine ⟨t.takeWhile isPadding, rest.rtakeWhile isPadding, ?_, ?_⟩
  · have cut : unpad t ++ rest.rtakeWhile isPadding = rest := List.rdropWhile_append_rtakeWhile
    rw [List.append_assoc, cut, List.takeWhile_append_dropWhile]
  · exact List.forall_mem_append.2
      ⟨fun _ => of_mem_takeWhile, fun _ => List.mem_rtakeWhile_imp⟩

theorem splitSign_append (sign : Sign) {t : Text} (h : ∀ c ∈ t.head?, isDigit c = true) :
    splitSign (sign.text ++ t) = (sign.isMinus, t) := by
  cases sign with
  | plus => rfl
  | minus => rfl
  | absent =>
    rw [Sign.text, List.nil_append]
    unfold splitSign
    split
    · cases h '-' rfl
    · cases h '+' rfl
    · rfl

theorem exists_sign (t : Text) : ∃ sign : Sign, t = sign.text ++ (splitSign t).2 := by
  unfold splitSign
  split
  · exact ⟨.minus, rfl⟩
  · exact ⟨.plus, rfl⟩
  · exact ⟨.absent, rfl⟩

theorem integer?_eq (t : Text) :
    integer? t = (groupedDigits? isDigit (splitSign (unpad t)).2).bind fun digits =>
      if digits.length ≤ maxDigits then some (signed (splitSign (unpad t)).1 (digitsValue digits))
      else none := by
  unfold integer?
  obtain ⟨negative, body⟩ := splitSign (unpad t)
  dsimp only
  cases groupedDigits? isDigit body <;> rfl

namespace Numeral

variable (m : Numeral)

theorem isDigit_of_mem_digits : ∀ c ∈ m.digits, isDigit c = true := by
  intro c hc
  obtain ⟨row, listed, inside⟩ := List.mem_flatten.1 hc
  exact (m.each row listed).digits c inside

theorem isDigit_of_mem_head? : ∀ c ∈ (joined ['_'] m.rows).head?, isDigit c = true := by
  obtain ⟨row, rows, split⟩ := List.exists_cons_of_ne_nil m.nonempty
  have first : IsRow row := m.each row (by simp [split])
  obtain ⟨c, row, rfl⟩ := List.exists_cons_of_ne_nil first.nonempty
  rw [split, joined_cons_cons]
  simpa using first.digits c List.mem_cons_self

theorem isPadding_of_mem_body : ∀ c ∈ m.body, isPadding c = false := by
  intro c hc
  rcases List.mem_append.1 hc with hc | hc
  · have solid : m.sign.text.all (!isPadding ·) = true := by cases m.sign <;> decide
    simpa using List.all_eq_true.1 solid c hc
  · rcases mem_joined hc with hc | ⟨row, listed, inside⟩
    · rw [List.mem_singleton.1 hc]
      decide
    · exact isPadding_of_isDigit ((m.each row listed).digits c inside)

theorem groupedDigits?_rows : groupedDigits? isDigit (joined ['_'] m.rows) = some m.digits :=
  groupedDigits?_joined m.nonempty m.each

theorem body_ne_nil : m.body ≠ [] := by
  intro nothing
  have read := m.groupedDigits?_rows
  rw [(List.append_eq_nil_iff.1 nothing).2] at read
  cases read

theorem integer?_text : integer? m.text =
    if m.digits.length ≤ maxDigits then some (signed m.sign.isMinus (digitsValue m.digits))
    else none := by
  rw [integer?_eq, text, unpad_append m.body_ne_nil m.padded m.isPadding_of_mem_body, body,
    splitSign_append m.sign m.isDigit_of_mem_head?, m.groupedDigits?_rows]
  rfl

end Numeral

theorem IsRow.integer? {row : Text} (h : IsRow row) : Text.integer? row =
    if row.length ≤ maxDigits then some (digitsValue row : Int) else none := by
  let m : Numeral := ⟨[], .absent, [row], [], by simp, by simp, by simpa using h⟩
  have text : m.text = row := by simp [m, Numeral.text, Numeral.body, Sign.text, joined]
  have digits : m.digits = row := by simp [m, Numeral.digits]
  rw [← text, m.integer?_text, text, digits]
  rfl

theorem exists_numeral {t : Text} {i : Int} (h : integer? t = some i) :
    ∃ m : Numeral, m.text = t := by
  rw [integer?_eq, Option.bind_eq_some_iff] at h
  obtain ⟨digits, read, -⟩ := h
  obtain ⟨rows, nonempty, each, body⟩ := exists_rows read
  obtain ⟨sign, signed⟩ := exists_sign (unpad t)
  obtain ⟨before, behind, padded, all⟩ := exists_padding t
  refine ⟨⟨before, sign, rows, behind, all, nonempty, each⟩, ?_⟩
  rw [Numeral.text, Numeral.body, ← body, ← signed, ← padded]

theorem integer?_eq_some_iff {t : Text} {i : Int} :
    integer? t = some i ↔
      ∃ m : Numeral, m.text = t ∧ m.digits.length ≤ maxDigits ∧ m.Means i := by
  constructor
  · intro read
    obtain ⟨m, rfl⟩ := exists_numeral read
    rw [m.integer?_text] at read
    split at read
    · rename_i short
      obtain rfl := Option.some.inj read
      exact ⟨m, rfl, short, _, (denotes_iff m.isDigit_of_mem_digits).2 rfl, rfl⟩
    · cases read
  · rintro ⟨m, rfl, short, n, denotes, rfl⟩
    rw [m.integer?_text, if_pos short, (denotes_iff m.isDigit_of_mem_digits).1 denotes]

end IrListing.Text
