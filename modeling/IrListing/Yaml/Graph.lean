import IrListing.Yaml.Kind

namespace IrListing.Yaml

abbrev NodeId := Nat

inductive Content
  | scalar (t : ScalarText)
  | sequence (items : List NodeId)
  | mapping (entries : List (NodeId × NodeId))
  deriving DecidableEq, Repr

structure Node where
  kind : Kind
  content : Content
  deriving DecidableEq, Repr

abbrev Graph := Array Node

namespace Graph

def kind? (g : Graph) (id : NodeId) : Option Kind := (g[id]?).map (·.kind)

def entries? (g : Graph) (id : NodeId) : Option (List (NodeId × NodeId)) :=
  match g[id]? with
  | some ⟨_, .mapping entries⟩ => some entries
  | _ => none

def entries (g : Graph) (id : NodeId) : List (NodeId × NodeId) := (g.entries? id).getD []

def setContent (g : Graph) (id : NodeId) (content : Content) : Graph :=
  g.modify id fun node => { node with content }

def readKey (g : Graph) (id : NodeId) : Graph :=
  g.modify id fun node => if node.kind = .value then { node with kind := .text } else node

def settle (g : Graph) (id : NodeId) (merged : List (NodeId × NodeId)) : Graph :=
  let entries := merged ++ g.entries id
  entries.foldl (fun g (key, _) => g.readKey key) (g.setContent id (.mapping entries))

/-- Takes in what the merge keys of a mapping name, which are mappings or sequences of them. Of the
mappings in a sequence the first one counts most, so it comes last. Each merge key is taken out for
good, so `n` is to be more than the number of all. -/
def mergeFrom (n : Nat) (merged : List (NodeId × NodeId)) (id : NodeId) (g : Graph) :
    Except Problem Graph :=
  match n with
  | 0 => .error .malformed
  | n + 1 =>
    match (g.entries id).find? fun (key, _) => g.kind? key = some .merge with
    | none => .ok (g.settle id merged)
    | some (key, source) => do
      let g := g.setContent id (.mapping ((g.entries id).erase (key, source)))
      let takeIn (g : Graph) (id : NodeId) : Except Problem (Graph × List (NodeId × NodeId)) :=
        match g.entries? id with
        | some _ => (mergeFrom n [] id g).map fun g => (g, g.entries id)
        | none => .error .malformed
      let (g, more) ← match g[source]? with
        | some ⟨_, .sequence ids⟩ =>
          ids.foldlM
            (fun (g, more) id => (takeIn g id).map fun (g, entries) => (g, entries ++ more))
            (g, [])
        | _ => takeIn g source
      mergeFrom n (merged ++ more) id g

def entryCount (g : Graph) : Nat :=
  g.foldl (fun n node => match node.content with
    | .mapping entries => n + entries.length
    | _ => n) 0

def merge (id : NodeId) (g : Graph) : Except Problem Graph := g.mergeFrom (g.entryCount + 1) [] id

def scalarTextFrom (g : Graph) : (n : Nat) → NodeId → Except Problem ScalarText
  | 0, _ => .error (.fault .tooDeep)
  | n + 1, id =>
    match g[id]? with
    | some ⟨_, .scalar t⟩ => .ok t
    | _ =>
      match (g.entries id).find? fun (key, _) => g.kind? key = some .value with
      | some (_, id) => scalarTextFrom g n id
      | none => .error .malformed

def scalarText (g : Graph) (id : NodeId) : Except Problem ScalarText :=
  g.scalarTextFrom (g.size + 1) id

def isMapping (g : Graph) (id : NodeId) : Bool := (g.entries? id).isSome

end Graph

end IrListing.Yaml
