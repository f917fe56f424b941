import IrListing.Text.Basic

namespace IrListing.Cli

def commonStart : Text → Text → Nat
  | a :: s, b :: t => if a = b then commonStart s t + 1 else 0
  | _, _ => 0

def longestCommon (s t : Text) : Nat × Nat × Nat :=
  (List.range s.length).foldl (fun best i =>
    (List.range t.length).foldl (fun best j =>
      let n := commonStart (s.drop i) (t.drop j)
      if best.2.2 < n then (i, j, n) else best) best) (0, 0, 0)

def agreement (n : Nat) (s t : Text) : Nat :=
  match n with
  | 0 => 0
  | n + 1 =>
    let (i, j, k) := longestCommon s t
    if k = 0 then 0
    else k + agreement n (s.take i) (t.take j) + agreement n (s.drop (i + k)) (t.drop (j + k))

def similar (word : Text) (words : List Text) : List Text :=
  let score (w : Text) : Nat × Nat := (agreement w.length w word, w.length + word.length)
  let better (a b : Text) : Bool :=
    let (m, l) := score a
    let (n, k) := score b
    n * l < m * k || (m * k = n * l && String.ofList b ≤ String.ofList a)
  ((words.filter fun w => 3 * (score w).2 ≤ 10 * (score w).1).mergeSort better).take 3

end IrListing.Cli
