import IrListing.Settings.Value
import IrListing.Text.Base64
import IrListing.Yaml.Source

/-! The value of a document. Scalars are read as they are reached; a collection is made empty first,
and what is in it is read when the collections reached before are done. -/

namespace IrListing.Yaml

open Settings

def ScalarText.value (t : ScalarText) : Kind → Except Problem Value
  | .text => .ok (if t.clean then .text t.chars else .garbled t.chars)
  | .null => .ok .null
  | .bool =>
    ((truths.get? (t.chars.map Char.toLower)).map (.ok ∘ .bool)).getD
      (.error (.fault .unknownTruth))
  | .whole => (wholeNumber t.chars).map .whole
  | .fraction => (fraction t.chars).map .fraction
  | .binary =>
    if t.chars.all (·.toNat < 0x80) then (orMalformed (Text.base64? t.chars)).map .bytes
    else .error .malformed
  | .date =>
    match date? (withoutFinalBreak t.chars) with
    | some exists? => if exists? then .ok .other else .error (.fault .outOfRange)
    | none => .error (.fault .unreadableDate)
  | _ => .error .malformed

inductive Made
  | value (v : Value)
  | items (ids : List NodeId)
  | entries (entries : List (NodeId × NodeId))

structure Making where
  graph : Graph
  made : Array (Option Made)
  waiting : List NodeId := []

namespace Making

def get? (m : Making) (id : NodeId) : Option Made := (m.made[id]?).join

def set (m : Making) (id : NodeId) (made : Made) : Making :=
  { m with made := m.made.setIfInBounds id (some made) }

def isCollection (m : Making) (id : NodeId) : Bool := (m.graph.kind? id).any Kind.isCollection

def make (m : Making) (id : NodeId) : Except Problem Making :=
  match m.get? id, m.graph.kind? id with
  | some _, _ => .ok m
  | none, none => .error .malformed
  | none, some kind =>
    if kind.isCollection then .ok { m.set id (.items []) with waiting := m.waiting ++ [id] }
    else if kind.isScalar then do
      let t ← m.graph.scalarText id
      if kind = .date && m.graph.isMapping id then .error (.fault .nestedDate)
      else (t.value kind).map fun v => m.set id (.value v)
    else .error .malformed

def makeEntry (m : Making) (entry : NodeId × NodeId) : Except Problem Making := do
  let m ← m.make entry.1
  if m.isCollection entry.1 then .error .malformed else m.make entry.2

def makePair (m : Making) (id : NodeId) : Except Problem Making :=
  match m.graph.entries? id with
  | some [(key, value)] => do (← m.make key).make value
  | _ => .error .malformed

def fill (m : Making) (id : NodeId) : Except Problem Making := do
  match m.graph[id]? with
  | some ⟨.sequence, .sequence ids⟩ => return (← ids.foldlM make m).set id (.items ids)
  | some ⟨.pairs, .sequence ids⟩ => return (← ids.foldlM makePair m).set id (.items ids)
  | some ⟨kind, .mapping _⟩ =>
    if kind = .mapping || kind = .set then
      let graph ← m.graph.merge id
      let entries := graph.entries id
      let m ← entries.foldlM makeEntry { m with graph }
      return m.set id (if kind = .set then .items (entries.map (·.1)) else .entries entries)
    else .error .malformed
  | _ => .error .malformed

def finish : (n : Nat) → Making → Except Problem Making
  | 0, m => .ok m
  | n + 1, m =>
    match m.waiting with
    | [] => .ok m
    | id :: waiting => do finish n (← ({ m with waiting } : Making).fill id)

def value (m : Making) : (depth : Nat) → NodeId → Value
  | 0, _ => .other
  | depth + 1, id =>
    match m.get? id with
    | some (.value v) => v
    | some (.items ids) => .list (ids.map (value m depth))
    | some (.entries entries) =>
      .map (Assoc.ofList (entries.filterMap fun (key, id) =>
        match m.get? key with
        | some (.value (.text t)) => some (t, value m depth id)
        | _ => none))
    | none => .other

end Making

def Graph.value (g : Graph) (root : NodeId) (depth : Nat) : Except Problem Value := do
  let m ← ({ graph := g, made := Array.replicate g.size none } : Making).make root
  let m ← m.finish (g.size + 1)
  return m.value depth root

/-- The value of the only document of a file down to a depth, null when there is none. -/
def read (depth : Nat) (bytes : List UInt8) : Except Problem Value := do
  match ← Graph.ofTokens? (Token.ofPages (.ofBytes bytes)) with
  | some (graph, root) => graph.value root depth
  | none => return .null

end IrListing.Yaml
