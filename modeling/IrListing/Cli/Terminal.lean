import IrListing.Text.Basic

namespace IrListing.Cli

def sequenceLength? : Text → Option Nat
  | '\x1b' :: '[' :: t =>
    let parameters := t.takeWhile fun c => '0' ≤ c && c ≤ '?'
    let t := t.drop parameters.length
    let between := t.takeWhile fun c => ' ' ≤ c && c ≤ '/'
    match t.drop between.length with
    | c :: _ =>
      if '@' ≤ c && c ≤ '~' then some (parameters.length + between.length + 3) else none
    | [] => none
  | _ => none

def withoutSequencesFrom : (skip : Nat) → Text → Text
  | _, [] => []
  | skip + 1, _ :: t => withoutSequencesFrom skip t
  | 0, c :: t =>
    match sequenceLength? (c :: t) with
    | some n => withoutSequencesFrom (n - 1) t
    | none => c :: withoutSequencesFrom 0 t

def withoutSequences (t : Text) : Text := withoutSequencesFrom 0 t

end IrListing.Cli
