import IrListing.Text.Basic

namespace IrListing.Text

theorem length_tail_of_dropWhile {p : Char → Bool} {t rest : Text} {c : Char}
    (h : t.dropWhile p = c :: rest) : rest.length < t.length := by
  have := (List.dropWhile_sublist p (l := t)).length_le
  simp only [h, List.length_cons] at this
  omega

def dropReturn (t : Text) : Text := if t.getLast? = some '\r' then t.dropLast else t

/-- Cut at every line feed, which takes a carriage return right before it along. Inner blank lines
are kept, and nothing after the last line feed is no line. -/
def lines (t : Text) : List Text :=
  if t = [] then []
  else match _ : t.dropWhile (· ≠ '\n') with
    | [] => [t]
    | _ :: rest => dropReturn (t.takeWhile (· ≠ '\n')) :: lines rest
termination_by t.length
decreasing_by exact length_tail_of_dropWhile ‹_›

def isBreak (c : Char) : Bool :=
  c = '\n' || c = '\r' || c = '\x0b' || c = '\x0c' || c = '\x1c' || c = '\x1d' || c = '\x1e' ||
    c = '\x85' || c = '\u2028' || c = '\u2029'

/-- Cut at every break character, with CR LF as one break. -/
def answerLines (t : Text) : List Text :=
  if t = [] then []
  else match _ : t.dropWhile (!isBreak ·) with
    | [] => [t]
    | '\r' :: '\n' :: rest => t.takeWhile (!isBreak ·) :: answerLines rest
    | _ :: rest => t.takeWhile (!isBreak ·) :: answerLines rest
termination_by t.length
decreasing_by
  · have := length_tail_of_dropWhile ‹_›
    simp only [List.length_cons] at this
    omega
  · exact length_tail_of_dropWhile ‹_›

def unifyBreaks (t : Text) : Text := go t []
where
  go : Text → Text → Text
    | [], done => done.reverse
    | '\r' :: '\n' :: t, done => go t ('\n' :: done)
    | '\r' :: t, done => go t ('\n' :: done)
    | c :: t, done => go t (c :: done)

def unlines (ts : List Text) : Text := ts.flatMap (· ++ ['\n'])

end IrListing.Text
