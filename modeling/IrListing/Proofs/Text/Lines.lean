import IrListing.Proofs.Text.Span
import Mathlib.Data.List.Infix
import Mathlib.Data.List.TakeWhile

/-! Lines and what ends them. Every text is, in exactly one way, a row of ended lines with one line
behind them that is not ended and may be empty, and cutting it gives the contents of these lines. -/

namespace IrListing.Text

inductive Ending
  | feed
  | returnFeed
  deriving DecidableEq, Repr

def Ending.text : Ending → Text
  | .feed => ['\n']
  | .returnFeed => ['\r', '\n']

/-- A carriage return right before a line feed belongs to the ending. -/
@[ext] structure EndedLine where
  content : Text
  ending : Ending
  oneLine : '\n' ∉ content
  clean : ending = .feed → content.getLast? ≠ some '\r'

def EndedLine.text (l : EndedLine) : Text := l.content ++ l.ending.text

@[ext] structure Lined where
  ended : List EndedLine
  last : Text
  oneLine : '\n' ∉ last

namespace Lined

def text (l : Lined) : Text := l.ended.flatMap EndedLine.text ++ l.last

def lines (l : Lined) : List Text :=
  l.ended.map (·.content) ++ if l.last = [] then [] else [l.last]

def cons (first : EndedLine) (l : Lined) : Lined := ⟨first :: l.ended, l.last, l.oneLine⟩

@[induction_eliminator]
theorem cons_induction {motive : Lined → Prop} (single : ∀ last oneLine, motive ⟨[], last, oneLine⟩)
    (cons : ∀ first l, motive l → motive (cons first l)) (l : Lined) : motive l := by
  obtain ⟨ended, last, oneLine⟩ := l
  induction ended with
  | nil => exact single last oneLine
  | cons first ended ih => exact cons first _ ih

@[simp] theorem text_single (last : Text) (oneLine : '\n' ∉ last) :
    text ⟨[], last, oneLine⟩ = last := rfl

@[simp] theorem text_cons (first : EndedLine) (l : Lined) :
    (cons first l).text = first.text ++ l.text := by
  simp [text, cons]

@[simp] theorem lines_cons (first : EndedLine) (l : Lined) :
    (cons first l).lines = first.content :: l.lines := rfl

end Lined

namespace EndedLine

def piece (l : EndedLine) : Text :=
  match l.ending with
  | .feed => l.content
  | .returnFeed => l.content ++ ['\r']

theorem text_append (l : EndedLine) (t : Text) : l.text ++ t = l.piece ++ '\n' :: t := by
  unfold text piece
  cases l.ending with
  | feed => simp [Ending.text]
  | returnFeed => simp [Ending.text]

theorem newline_not_mem_piece (l : EndedLine) : '\n' ∉ l.piece := by
  unfold piece
  cases l.ending with
  | feed => exact l.oneLine
  | returnFeed => exact List.not_mem_append l.oneLine (by decide)

theorem dropReturn_piece (l : EndedLine) : dropReturn l.piece = l.content := by
  unfold piece
  cases ending : l.ending with
  | feed => exact if_neg (l.clean ending)
  | returnFeed => simp [dropReturn]

def ofPiece (piece : Text) (oneLine : '\n' ∉ piece) : EndedLine :=
  if h : piece.getLast? = some '\r' then
    { content := piece.dropLast
      ending := .returnFeed
      oneLine := fun inside => oneLine (List.dropLast_subset _ inside)
      clean := nofun }
  else ⟨piece, .feed, oneLine, fun _ => h⟩

theorem piece_ofPiece {piece : Text} (oneLine : '\n' ∉ piece) :
    (ofPiece piece oneLine).piece = piece := by
  unfold ofPiece
  split
  · rename_i h
    exact List.dropLast_append_getLast? _ h
  · rfl

theorem eq_of_piece_eq {l l' : EndedLine} (h : l.piece = l'.piece) : l = l' := by
  have content : l.content = l'.content := by rw [← l.dropReturn_piece, h, l'.dropReturn_piece]
  have ending : l.ending = l'.ending := by
    unfold piece at h
    cases e : l.ending with
    | feed =>
      cases e' : l'.ending with
      | feed => rfl
      | returnFeed => simp [e, e', content] at h
    | returnFeed =>
      cases e' : l'.ending with
      | feed => simp [e, e', content] at h
      | returnFeed => rfl
  exact EndedLine.ext content ending

section

variable (l : EndedLine) (t : Text)

theorem takeWhile_text_append : (l.text ++ t).takeWhile (· ≠ '\n') = l.piece := by
  rw [text_append]
  exact takeWhile_span (all_ne_of_not_mem l.newline_not_mem_piece) (by simp)

theorem dropWhile_text_append : (l.text ++ t).dropWhile (· ≠ '\n') = '\n' :: t := by
  rw [text_append]
  exact dropWhile_span (all_ne_of_not_mem l.newline_not_mem_piece) (by simp)

theorem text_append_ne_nil : l.text ++ t ≠ [] := by
  rw [text_append]
  simp

theorem lines_text_append : lines (l.text ++ t) = l.content :: lines t := by
  have rest := l.dropWhile_text_append t
  rw [lines, if_neg (l.text_append_ne_nil t)]
  split
  · rename_i whole
    cases rest.symm.trans whole
  · rename_i found
    obtain ⟨-, rfl⟩ := List.cons.inj (rest.symm.trans found)
    rw [takeWhile_text_append, dropReturn_piece]

theorem getLast?_text : l.text.getLast? = some '\n' := by
  rw [← List.append_nil l.text, text_append, List.getLast?_concat]

theorem newline_mem_text_append : '\n' ∈ l.text ++ t := by
  rw [text_append]
  simp

theorem count_text_append : (l.text ++ t).count '\n' = t.count '\n' + 1 := by
  rw [text_append, List.count_append, List.count_eq_zero.2 l.newline_not_mem_piece,
    List.count_cons_self, Nat.zero_add]

end

theorem append_inj {l l' : EndedLine} {t t' : Text} (h : l.text ++ t = l'.text ++ t') :
    l = l' ∧ t = t' := by
  constructor
  · apply eq_of_piece_eq
    rw [← l.takeWhile_text_append t, h, takeWhile_text_append]
  · have rest : '\n' :: t = '\n' :: t' := by
      rw [← l.dropWhile_text_append t, h, dropWhile_text_append]
    exact (List.cons.inj rest).2

end EndedLine

theorem lines_of_not_mem {t : Text} (oneLine : '\n' ∉ t) :
    lines t = if t = [] then [] else [t] := by
  have whole : t.dropWhile (· ≠ '\n') = [] :=
    List.dropWhile_eq_nil_iff.2 (all_ne_of_not_mem oneLine)
  rw [lines]
  split
  · rfl
  · split
    · rfl
    · rename_i found
      cases whole.symm.trans found

theorem exists_endedLine {t : Text} (h : '\n' ∈ t) : ∃ (l : EndedLine) (t' : Text),
    t = l.text ++ t' := by
  have line : '\n' ∉ t.takeWhile (· ≠ '\n') := by
    intro inside
    have := of_mem_takeWhile inside
    simp at this
  cases rest : t.dropWhile (· ≠ '\n') with
  | nil =>
    have := List.dropWhile_eq_nil_iff.1 rest '\n' h
    simp at this
  | cons c t' =>
    have first : c ∈ (t.dropWhile (· ≠ '\n')).head? := by rw [rest, List.head?_cons]; rfl
    obtain rfl : c = '\n' := by simpa using head?_dropWhile first
    refine ⟨.ofPiece _ line, t', ?_⟩
    rw [EndedLine.text_append, EndedLine.piece_ofPiece, ← rest, List.takeWhile_append_dropWhile]

namespace Lined

theorem lines_text (l : Lined) : Text.lines l.text = l.lines := by
  induction l with
  | single last oneLine => exact lines_of_not_mem oneLine
  | cons first l ih => rw [text_cons, first.lines_text_append, ih, lines_cons]

theorem exists_text_eq (t : Text) : ∃ l : Lined, l.text = t := by
  induction length : t.length using Nat.strong_induction_on generalizing t with
  | _ n ih =>
    by_cases h : '\n' ∈ t
    · obtain ⟨first, t', rfl⟩ := exists_endedLine h
      have shorter : t'.length < n := by
        rw [← length, EndedLine.text_append, List.length_append, List.length_cons]
        omega
      obtain ⟨l, rfl⟩ := ih _ shorter t' rfl
      exact ⟨cons first l, text_cons first l⟩
    · exact ⟨⟨[], t, h⟩, rfl⟩

theorem eq_of_text_eq {l l' : Lined} (h : l.text = l'.text) : l = l' := by
  induction l generalizing l' with
  | single last oneLine =>
    induction l' with
    | single last' oneLine' => exact Lined.ext rfl h
    | cons first' l' _ =>
      rw [text_cons, text_single] at h
      exact absurd (h ▸ first'.newline_mem_text_append l'.text) oneLine
  | cons first l ih =>
    induction l' with
    | single last' oneLine' =>
      rw [text_cons, text_single] at h
      exact absurd (h ▸ first.newline_mem_text_append l.text) oneLine'
    | cons first' l' _ =>
      rw [text_cons, text_cons] at h
      obtain ⟨rfl, rest⟩ := EndedLine.append_inj h
      rw [ih rest]

theorem newline_not_mem {l : Lined} {line : Text} (h : line ∈ l.lines) : '\n' ∉ line := by
  rcases List.mem_append.1 h with h | h
  · obtain ⟨first, -, rfl⟩ := List.mem_map.1 h
    exact first.oneLine
  · split at h
    · cases h
    · obtain rfl := List.mem_singleton.1 h
      exact l.oneLine

theorem infix_text_of_mem {l : Lined} {line : Text} (h : line ∈ l.lines) : line <:+: l.text := by
  rcases List.mem_append.1 h with h | h
  · obtain ⟨first, listed, rfl⟩ := List.mem_map.1 h
    have ended : first.content <+: first.text := List.prefix_append _ _
    have among : first.text <:+: l.ended.flatMap EndedLine.text :=
      List.infix_of_mem_flatten (List.mem_map_of_mem listed)
    exact (ended.isInfix.trans among).trans (List.prefix_append _ _).isInfix
  · split at h
    · cases h
    · obtain rfl := List.mem_singleton.1 h
      exact (List.suffix_append _ _).isInfix

theorem length_lines (l : Lined) :
    l.lines.length = l.text.count '\n' + if l.text.getLast?.all (· = '\n') then 0 else 1 := by
  induction l with
  | single last oneLine =>
    rw [text_single, List.count_eq_zero.2 oneLine, Nat.zero_add, lines, List.map_nil,
      List.nil_append]
    cases ends : last.getLast? with
    | none => simp [List.getLast?_eq_none_iff.1 ends]
    | some c =>
      have inside : c ∈ last := List.mem_of_getLast? ends
      have other : c ≠ '\n' := fun same => oneLine (same ▸ inside)
      simp [List.ne_nil_of_mem inside, other]
  | cons first l ih =>
    have ends :
        (first.text ++ l.text).getLast?.all (· = '\n') = l.text.getLast?.all (· = '\n') := by
      rw [List.getLast?_append, first.getLast?_text]
      cases l.text.getLast? <;> simp
    rw [lines_cons, List.length_cons, ih, text_cons, first.count_text_append, ends,
      Nat.add_right_comm]

/-- Cutting a text gives the contents of its lines, in the only way in which the text can be a row
of ended lines and one that is not. So no line holds a line feed, and there are as many lines as
line feeds, and one more for what stands behind the last of them. -/
theorem lines_text_existsUnique :
    (∀ l : Lined, Text.lines l.text = l.lines) ∧
      ∀ t, (∃! l : Lined, l.text = t) ∧ (∀ line ∈ Text.lines t, '\n' ∉ line) ∧
        (Text.lines t).length =
          t.count '\n' + if t.getLast?.all (· = '\n') then 0 else 1 := by
  refine ⟨lines_text, ?_⟩
  intro t
  obtain ⟨l, rfl⟩ := exists_text_eq t
  rw [l.lines_text]
  exact ⟨⟨l, rfl, fun _ => eq_of_text_eq⟩, fun _ => newline_not_mem, l.length_lines⟩

example : Text.lines "a\r\r\n\n\u2028\n\r".toList =
    ["a\r", "", "\u2028", "\r"].map (·.toList) := by
  decide +kernel

end Lined

theorem infix_of_mem_lines {t l : Text} (h : l ∈ lines t) : l <:+: t := by
  obtain ⟨lined, rfl⟩ := Lined.exists_text_eq t
  rw [lined.lines_text] at h
  exact Lined.infix_text_of_mem h

theorem newline_not_mem_of_mem_lines {t l : Text} (h : l ∈ lines t) : '\n' ∉ l := by
  obtain ⟨lined, rfl⟩ := Lined.exists_text_eq t
  rw [lined.lines_text] at h
  exact Lined.newline_not_mem h

end IrListing.Text
