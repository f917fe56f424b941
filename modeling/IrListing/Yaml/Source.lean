import IrListing.Yaml.Graph
import IrListing.Yaml.Token

namespace IrListing.Yaml

def standardHandles : Assoc Text Text := [(['!'], ['!']), (['!', '!'], Kind.tagLead)]

structure Source where
  tokens : List Token
  handles : Assoc Text Text := standardHandles
  graph : Graph := #[]
  names : Assoc Text NodeId := []

namespace Source

def peek? (s : Source) : Except Problem (Option Token) :=
  match s.tokens with
  | .broken p :: _ => .error p
  | tokens => .ok tokens.head?

def skip (s : Source) : Source := { s with tokens := s.tokens.tail }

def at? (s : Source) (ts : List Token) : Except Problem Bool := s.peek?.map (·.any (· ∈ ts))

def expect (s : Source) (t : Token) : Except Problem Source := do
  if ← s.at? [t] then return s.skip else .error .malformed

def properties (s : Source) : Except Problem (Option Text × Option Tag × Source) := do
  let rest := s.skip
  match ← s.peek? with
  | some (.anchor name) =>
    match ← rest.peek? with
    | some (.tag t) => return (some name, some t, rest.skip)
    | _ => return (some name, none, rest)
  | some (.tag t) =>
    match ← rest.peek? with
    | some (.anchor name) => return (some name, some t, rest.skip)
    | _ => return (none, some t, rest)
  | _ => return (none, none, s)

def fullTag (s : Source) (t : Tag) : Except Problem Text :=
  match t.handle with
  | none => .ok t.rest
  | some handle => (orMalformed (s.handles.get? handle)).map (· ++ t.rest)

def scalarKind (tag? : Option Text) (plain : Bool) (t : ScalarText) : Kind :=
  match tag? with
  | none => if plain then .implied t.chars else .text
  | some tag => if tag = ['!'] then .implied t.chars else .ofTag tag

def collectionKind (tag? : Option Text) (default : Kind) : Kind :=
  match tag? with
  | none => default
  | some tag => if tag = ['!'] then default else .ofTag tag

def add (s : Source) (name? : Option Text) (node : Node) : Except Problem (NodeId × Source) :=
  let id := s.graph.size
  let s := { s with graph := s.graph.push node }
  match name? with
  | none => .ok (id, s)
  | some name =>
    if (s.names.get? name).isSome then .error .malformed
    else .ok (id, { s with names := s.names.insert name id })

def addScalar (s : Source) (name? tag? : Option Text) (plain : Bool) (t : ScalarText) :
    Except Problem (NodeId × Source) :=
  s.add name? ⟨scalarKind tag? plain t, .scalar t⟩

def addEmpty (s : Source) : Except Problem (NodeId × Source) :=
  s.addScalar none none true ⟨[], true⟩

def addWith (s : Source) (name? : Option Text) (node : Node)
    (read : Source → Except Problem (Content × Source)) : Except Problem (NodeId × Source) := do
  let (id, s) ← s.add name? node
  let (content, s) ← read s
  return (id, { s with graph := s.graph.setContent id content })

def addSequence (s : Source) (name? tag? : Option Text)
    (read : Source → Except Problem (List NodeId × Source)) : Except Problem (NodeId × Source) :=
  s.addWith name? ⟨collectionKind tag? .sequence, .sequence []⟩ fun s =>
    (read s).map fun (ids, s) => (.sequence ids, s)

def addMapping (s : Source) (name? tag? : Option Text)
    (read : Source → Except Problem (List (NodeId × NodeId) × Source)) :
    Except Problem (NodeId × Source) :=
  s.addWith name? ⟨collectionKind tag? .mapping, .mapping []⟩ fun s =>
    (read s).map fun (entries, s) => (.mapping entries, s)

inductive Site
  | flow
  | block
  | keyed
  deriving DecidableEq

def maxDepth : Nat := 488

mutual

def node (n depth : Nat) (site : Site) (s : Source) : Except Problem (NodeId × Source) :=
  match n with
  | 0 => .error .malformed
  | n + 1 => do
    if maxDepth < depth then .error (.fault .tooDeep)
    else
      match ← s.peek? with
      | some (.alias name) => (orMalformed (s.names.get? name)).map fun id => (id, s.skip)
      | _ =>
        let (name?, tag?, s) ← s.properties
        let tag? ← tag?.mapM s.fullTag
        content n depth site name? tag? s

def content (n depth : Nat) (site : Site) (name? tag? : Option Text) (s : Source) :
    Except Problem (NodeId × Source) :=
  match n with
  | 0 => .error .malformed
  | n + 1 => do
    match ← s.peek?, site with
    | some .entry, .keyed => s.addSequence name? tag? fun s => looseItems n (depth + 1) s
    | some (.scalar plain t), _ => s.skip.addScalar name? tag? plain t
    | some .flowSequence, _ =>
      s.skip.addSequence name? tag? fun s => flowItems n (depth + 1) true s
    | some .flowMapping, _ =>
      s.skip.addMapping name? tag? fun s => flowEntries n (depth + 1) true s
    | some .blockSequence, .block | some .blockSequence, .keyed =>
      s.skip.addSequence name? tag? fun s => items n (depth + 1) s
    | some .blockMapping, .block | some .blockMapping, .keyed =>
      s.skip.addMapping name? tag? fun s => entries n (depth + 1) s
    | _, _ =>
      if name?.isSome || tag?.isSome then s.addScalar name? tag? true ⟨[], true⟩
      else .error .malformed

def nodeUnless (n depth : Nat) (site : Site) (ends : List Token) (s : Source) :
    Except Problem (NodeId × Source) :=
  match n with
  | 0 => .error .malformed
  | n + 1 => do if ← s.at? ends then s.addEmpty else node n depth site s

def items (n depth : Nat) (s : Source) : Except Problem (List NodeId × Source) :=
  match n with
  | 0 => .error .malformed
  | n + 1 => do
    if ← s.at? [.entry] then
      let (id, s) ← nodeUnless n depth .block [.entry, .blockEnd] s.skip
      let (ids, s) ← items n depth s
      return (id :: ids, s)
    else (s.expect .blockEnd).map fun s => ([], s)

def looseItems (n depth : Nat) (s : Source) : Except Problem (List NodeId × Source) :=
  match n with
  | 0 => .error .malformed
  | n + 1 => do
    if ← s.at? [.entry] then
      let (id, s) ← nodeUnless n depth .block [.entry, .key, .value, .blockEnd] s.skip
      let (ids, s) ← looseItems n depth s
      return (id :: ids, s)
    else return ([], s)

def entries (n depth : Nat) (s : Source) : Except Problem (List (NodeId × NodeId) × Source) :=
  match n with
  | 0 => .error .malformed
  | n + 1 => do
    if ← s.at? [.key] then
      let (key, s) ← nodeUnless n depth .keyed [.key, .value, .blockEnd] s.skip
      let (value, s) ←
        if ← s.at? [.value] then nodeUnless n depth .keyed [.key, .value, .blockEnd] s.skip
        else s.addEmpty
      let (more, s) ← entries n depth s
      return ((key, value) :: more, s)
    else (s.expect .blockEnd).map fun s => ([], s)

def flowItems (n depth : Nat) (first : Bool) (s : Source) :
    Except Problem (List NodeId × Source) :=
  match n with
  | 0 => .error .malformed
  | n + 1 => do
    if ← s.at? [.flowSequenceEnd] then return ([], s.skip)
    else
      let s ← if first then .ok s else s.expect .comma
      if ← s.at? [.flowSequenceEnd] then return ([], s.skip)
      else
        let (id, s) ←
          if ← s.at? [.key] then
            s.skip.addMapping none none fun s =>
              (flowPair n (depth + 1) .flowSequenceEnd s).map fun (e, s) => ([e], s)
          else node n depth .flow s
        let (ids, s) ← flowItems n depth false s
        return (id :: ids, s)

def flowPair (n depth : Nat) (closing : Token) (s : Source) :
    Except Problem ((NodeId × NodeId) × Source) :=
  match n with
  | 0 => .error .malformed
  | n + 1 => do
    let (key, s) ← nodeUnless n depth .flow [.value, .comma, closing] s
    let (value, s) ←
      if ← s.at? [.value] then nodeUnless n depth .flow [.comma, closing] s.skip else s.addEmpty
    return ((key, value), s)

def flowEntries (n depth : Nat) (first : Bool) (s : Source) :
    Except Problem (List (NodeId × NodeId) × Source) :=
  match n with
  | 0 => .error .malformed
  | n + 1 => do
    if ← s.at? [.flowMappingEnd] then return ([], s.skip)
    else
      let s ← if first then .ok s else s.expect .comma
      if ← s.at? [.flowMappingEnd] then return ([], s.skip)
      else
        let (e, s) ←
          if ← s.at? [.key] then flowPair n depth .flowMappingEnd s.skip
          else
            (node n depth .flow s).bind fun (key, s) =>
              s.addEmpty.map fun (value, s) => ((key, value), s)
        let (more, s) ← flowEntries n depth false s
        return (e :: more, s)

end

def directives (versions : Nat) (handles : Assoc Text Text) :
    List Token → Except Problem (Assoc Text Text × List Token)
  | .directive .unknown :: ts => directives versions handles ts
  | .directive (.version major _) :: ts =>
    if versions = 0 && major = 1 then directives 1 handles ts else .error .malformed
  | .directive (.handle name lead) :: ts =>
    if (handles.get? name).isSome then .error .malformed
    else directives versions (handles.insert name lead) ts
  | ts => .ok (handles, ts)

def markedDocument (n : Nat) (s : Source) : Except Problem (NodeId × Source) := do
  let (handles, tokens) ← directives 0 [] s.tokens
  let s ← ({ s with tokens, handles := handles ++ standardHandles } : Source).expect .documentStart
  match ← s.peek? with
  | none | some (.directive _) | some .documentStart | some .documentEnd => s.addEmpty
  | _ => node n 0 .block s

def close (s : Source) : Except Problem Unit := do
  match s.tokens.dropWhile (· = .documentEnd) with
  | [] => return ()
  | ts =>
    let (_, tokens) ← directives 0 [] ts
    let _ ← ({ s with tokens } : Source).peek?
    .error .malformed

end Source

def Graph.ofTokens? (tokens : List Token) : Except Problem (Option (Graph × NodeId)) := do
  let n := 4 * tokens.length + 4
  let s : Source := { tokens }
  match ← s.peek? with
  | none => return none
  | first =>
    let (root, s) ← match first with
      | some (.directive _) | some .documentStart => s.markedDocument n
      | _ => s.node n 0 .block
    s.close
    return some (s.graph, root)

end IrListing.Yaml
