import IrListing.Text.Lines
import IrListing.Text.Word

namespace IrListing.Symbol

open Text

def isMangled (name : Text) : Bool :=
  (startsWith "_Z".toList name || startsWith "_R".toList name) && 2 < name.length

def reference? : Text → Option (Text × Text)
  | '"' :: t =>
    match t.dropWhile (· ≠ '"') with
    | '"' :: rest =>
      if isMangled (t.takeWhile (· ≠ '"')) then some (t.takeWhile (· ≠ '"'), rest) else none
    | _ => none
  | t =>
    if isMangled (t.takeWhile isSymbolic) then
      some (t.takeWhile isSymbolic, t.dropWhile isSymbolic)
    else none

theorem length_reference? {t name rest : Text} (h : reference? t = some (name, rest)) :
    rest.length ≤ t.length := by
  unfold reference? at h
  split at h
  · split at h
    · rename_i r hr
      split at h
      · simp only [Option.some.injEq, Prod.mk.injEq] at h
        have := length_tail_of_dropWhile hr
        simp only [List.length_cons, ← h.2]
        omega
      · simp at h
    · simp at h
  · split at h
    · simp only [Option.some.injEq, Prod.mk.injEq] at h
      rw [← h.2]
      exact (List.dropWhile_sublist _).length_le
    · simp at h

def references (t : Text) : List Text :=
  match t with
  | [] => []
  | c :: rest =>
    if c = '@' then
      match _ : reference? rest with
      | some (name, r) => name :: references r
      | none => references rest
    else references rest
termination_by t.length
decreasing_by
  · have := length_reference? ‹_›
    simp only [List.length_cons]
    omega
  · simp
  · simp

def collect (texts : List Text) : List Text := (texts.flatMap references).eraseDups

end IrListing.Symbol
