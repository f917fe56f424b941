import IrListing.Metadata.Node

/-! Walks through the declarations of a listing: from a scope along its links to the first node
that has the wanted attribute. A walk that comes back to a node it has seen ends there. -/

namespace IrListing.Source

open Metadata

abbrev Graph := Assoc Text Node

def Graph.store (g : Graph) (n : Node) : Graph := g.insert n.id n

inductive Step
  | found (value : Text)
  | follow (id : Text)
  | stop
  deriving DecidableEq, Repr

def upward (n : Node) : Step :=
  match n.attributes.get? "scope".toList with
  | some id => .follow id
  | none => .stop

/-- The node's own file name, else that of its file, else that of its scope. -/
def fileStep (n : Node) : Step :=
  match n.filled? "filename".toList, n.filled? "file".toList with
  | some name, _ => .found name
  | none, some id => .follow id
  | none, none => upward n

def fieldStep (key : Text) (n : Node) : Step :=
  match n.filled? key with
  | some value => .found value
  | none => upward n

def lineStep : Node → Step := fieldStep "line".toList

def columnStep : Node → Step := fieldStep "column".toList

inductive Ending
  | found (value : Text)
  | lost
  | cycle (id : Text)
  deriving DecidableEq, Repr

def Ending.value? : Ending → Option Text
  | .found value => some value
  | _ => none

def Graph.unseen (g : Graph) (seen : List Text) : List Text := (g.map (·.1)).filter (· ∉ seen)

theorem Graph.unseen_cons_lt {g : Graph} {seen : List Text} {id : Text} {n : Node}
    (found : g.get? id = some n) (new : id ∉ seen) :
    (g.unseen (id :: seen)).length < (g.unseen seen).length := by
  have step : g.unseen (id :: seen) = (g.unseen seen).filter (· ≠ id) := by
    simp only [unseen, List.filter_filter]
    congr 1
    funext k
    simp [not_or]
  rw [step]
  have mem : id ∈ g.unseen seen := by
    simpa [unseen, new] using Assoc.mem_keys_of_get? found
  exact List.length_filter_lt_length_iff_exists.2 ⟨id, mem, by simp⟩

def Graph.walkFrom (g : Graph) (step : Node → Step) (seen : List Text) (id : Text) : Ending :=
  if _ : id ∈ seen then .cycle id
  else match _ : g.get? id with
    | none => .lost
    | some n =>
      match step n with
      | .found value => .found value
      | .stop => .lost
      | .follow next => g.walkFrom step (id :: seen) next
termination_by (g.unseen seen).length
decreasing_by exact Graph.unseen_cons_lt ‹_› ‹_›

def Graph.walk (g : Graph) (step : Node → Step) (scope : Text) : Ending := g.walkFrom step [] scope

end IrListing.Source
