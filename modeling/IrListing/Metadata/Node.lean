import IrListing.Assoc
import IrListing.Text.Basic

namespace IrListing.Metadata

structure Node where
  id : Text
  kind : Text
  attributes : Assoc Text Text
  deriving DecidableEq, Repr

def Node.filled? (n : Node) (key : Text) : Option Text :=
  match n.attributes.get? key with
  | some (c :: value) => some (c :: value)
  | _ => none

theorem Node.filled?_eq_filter (n : Node) (key : Text) :
    n.filled? key = (n.attributes.get? key).filter (· ≠ []) := by
  unfold filled?
  split
  · rename_i c value found
    rw [found]
    rfl
  · rename_i nothing
    cases found : n.attributes.get? key with
    | none => rfl
    | some value =>
      cases value with
      | nil => rfl
      | cons c value => cases nothing c value found

end IrListing.Metadata
