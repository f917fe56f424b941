import IrListing.Proofs.Listing.Layout
import IrListing.Proofs.Source.Walk

namespace IrListing.Listing

open Text IrListing.Filter

def lastDeclaration? (id : Text) : List Text → Option Metadata.Node
  | [] => none
  | line :: rest =>
    (lastDeclaration? id rest).or ((Metadata.declaration? line).filter (·.id = id))

theorem lastDeclaration?_append (id : Text) (texts texts' : List Text) :
    lastDeclaration? id (texts ++ texts') =
      (lastDeclaration? id texts').or (lastDeclaration? id texts) := by
  induction texts with
  | nil => simp [lastDeclaration?]
  | cons line rest ih =>
    rw [List.cons_append, lastDeclaration?, ih, lastDeclaration?, Option.or_assoc]

theorem get?_foldl_store (texts : List Text) (g : Source.Graph) (id : Text) :
    ((texts.filterMap Metadata.declaration?).foldl Source.Graph.store g).get? id =
      (lastDeclaration? id texts).or (g.get? id) := by
  induction texts generalizing g with
  | nil => rfl
  | cons line rest ih =>
    cases h : Metadata.declaration? line with
    | none => simp [h, lastDeclaration?, ih]
    | some n =>
      rw [List.filterMap_cons_some h, List.foldl_cons, ih, Source.Graph.get?_store,
        lastDeclaration?, h, Option.or_assoc]
      by_cases e : n.id = id <;> simp [e, Option.filter]

theorem get?_declarations (texts : List Text) (id : Text) :
    (declarations texts).get? id = lastDeclaration? id texts := by
  simp [declarations, get?_foldl_store]

/-- One graph, that of the last declarations, places the lines of every listing of a text, whatever
is left out and wherever the listing is cut. -/
theorem sources_of_last_declarations (text : Text) :
    ∃ g : Source.Graph, (∀ id, g.get? id = lastDeclaration? id (lines text)) ∧
      ∀ (m : Maker) (config : Config), config.demangle = false →
        ∃ r, m.make config text = ⟨[], .ok r⟩ ∧
          ∀ l ∈ r.lines, (l.source = none ↔ l.scope = none) ∧
            ∀ scope, l.scope = some scope →
              l.source = some ⟨g.file? scope, g.line? scope, g.column? scope⟩ := by
  refine ⟨declarations (lines text), get?_declarations (lines text), ?_⟩
  intro m config off
  refine ⟨_, m.make_plain off text, ?_⟩
  intro l hl
  rw [pass_eq] at hl
  obtain ⟨t, -, rfl⟩ := List.mem_map.1 hl
  constructor
  · simp [Line.located, Line.ofText]
  · intro scope hs
    have attached : Metadata.attachment? t = some scope := hs
    simp [Line.located, attached, Source.Graph.locate]

def redeclared : Text :=
  "ret void, !dbg !2\n!2 = !DILocation(line: 1)\n!2 = !DILocation(line: 7, scope: !3)".toList

theorem sources_redeclared :
    ({ metadata := true } : Config).demangle = false ∧
      ∃ g : Source.Graph,
        g.get? "!2".toList = some ⟨"!2".toList, "Location".toList,
          [("line".toList, "7".toList), ("scope".toList, "!3".toList)]⟩ ∧
        ∃ r, ({ cap := 1 } : Maker).make { metadata := true } redeclared = ⟨[], .ok r⟩ ∧
          ∃ l ∈ r.lines, l.scope = some "!2".toList ∧
            l.source = some ⟨g.file? "!2".toList, g.line? "!2".toList, g.column? "!2".toList⟩ := by
  obtain ⟨g, last, placed⟩ := sources_of_last_declarations redeclared
  obtain ⟨r, made, sources⟩ := placed { cap := 1 } { metadata := true } rfl
  have attached : (({ cap := 1 } : Maker).make { metadata := true } redeclared).result.toOption.any
      (fun r => r.lines.any fun l => l.scope = some "!2".toList) = true := by decide +kernel
  rw [made] at attached
  obtain ⟨l, hl, scope⟩ := List.any_eq_true.1 attached
  have scope : l.scope = some "!2".toList := of_decide_eq_true scope
  refine ⟨rfl, g, ?_, r, made, l, hl, scope, (sources l hl).2 _ scope⟩
  rw [last]
  decide +kernel

end IrListing.Listing
