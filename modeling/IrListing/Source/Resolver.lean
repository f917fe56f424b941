import IrListing.Source.FileName
import IrListing.Source.Location
import IrListing.Source.Walk

/-! The location of a scope, from three walks, and a memory of the locations given before. -/

namespace IrListing.Source

namespace Graph

def file? (g : Graph) (scope : Text) : Option Text :=
  (g.walk fileStep scope).value?.filter (!isStandIn ·)

def line? (g : Graph) (scope : Text) : Option Int :=
  (g.walk lineStep scope).value?.bind Text.integer?

def column? (g : Graph) (scope : Text) : Option Int :=
  (g.walk columnStep scope).value?.bind Text.integer?

def locate (g : Graph) (scope : Text) : Location :=
  ⟨g.file? scope, g.line? scope, g.column? scope⟩

def cycles (g : Graph) (scope : Text) : List Text :=
  [fileStep, lineStep, columnStep].filterMap fun step =>
    match g.walk step scope with
    | .cycle id => some id
    | _ => none

end Graph

/-- A graph with the locations that have been asked for, each as it was when first asked. -/
structure Resolver where
  graph : Graph
  known : Assoc Text Location

namespace Resolver

def ofGraph (g : Graph) : Resolver := ⟨g, []⟩

def resolve (r : Resolver) (scope : Text) : Location × Resolver :=
  match r.known.get? scope with
  | some l => (l, r)
  | none => (r.graph.locate scope, { r with known := r.known.insert scope (r.graph.locate scope) })

inductive Action
  | store (n : Metadata.Node)
  | remove (id : Text)
  | walk (scope : Text)
  | resolve (scope : Text)
  | forget

inductive Answer
  | stored
  | removed (n : Option Metadata.Node)
  | located (l : Location)
  | size (n : Nat)
  deriving DecidableEq

def run (r : Resolver) : Action → Answer × Resolver
  | .store n => (.stored, { r with graph := r.graph.store n })
  | .remove id => (.removed (r.graph.get? id), { r with graph := r.graph.erase id })
  | .walk scope => (.located (r.graph.locate scope), r)
  | .resolve scope => (.located (r.resolve scope).1, (r.resolve scope).2)
  | .forget => (.size r.graph.length, ofGraph r.graph)

end Resolver

end IrListing.Source
