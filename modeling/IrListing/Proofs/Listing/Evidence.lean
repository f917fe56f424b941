import IrListing.Proofs.Listing.OneLine

namespace IrListing

open Text

namespace Metadata

theorem has_of_declaration? {t : Text} {n : Node} (h : declaration? t = some n) :
    has "!DI".toList t = true := by
  obtain ⟨_, rest, digits, lead, -, rfl, -⟩ := exists_assigned_of_declaration? h
  exact has_iff.2 ⟨'!' :: digits ++ " = ".toList ++ lead, rest, by simp⟩

theorem has_of_attachment? {t id : Text} (h : attachment? t = some id) :
    has "!dbg".toList t = true := by
  obtain ⟨before, digits, attached, -⟩ := attachment?_eq_some_iff.1 h
  obtain ⟨rest, rfl, -⟩ := attached.stands
  exact has_iff.2 ⟨before, " !".toList ++ digits ++ rest, by simp⟩

end Metadata

namespace Source

def Location.unknown : Location := ⟨none, none, none⟩

theorem Graph.locate_of_missing {g : Graph} {scope : Text} (h : g.get? scope = none) :
    g.locate scope = .unknown := by
  have lost (step : Metadata.Node → Step) : g.walk step scope = .lost :=
    walkFrom_of_missing List.not_mem_nil h
  rw [locate, file?, line?, column?, lost, lost, lost]
  rfl

end Source

namespace Listing

open Metadata Source

/-- One line of a text is attached to the scope, and one declares it. -/
structure Backed (text scope : Text) : Prop where
  used : ∃ line ∈ lines text, attachment? line = some scope
  declared : ∃ line ∈ lines text, ∃ n, declaration? line = some n ∧ n.id = scope

theorem Backed.has {text scope : Text} (h : Backed text scope) :
    has "!dbg".toList text = true ∧ has "!DI".toList text = true := by
  obtain ⟨line, listed, attached⟩ := h.used
  obtain ⟨line', listed', n, declared, -⟩ := h.declared
  exact ⟨has_of_isInfix (infix_of_mem_lines listed) (has_of_attachment? attached),
    has_of_isInfix (infix_of_mem_lines listed') (has_of_declaration? declared)⟩

theorem mem_lines_of_attachment? {config : Filter.Config} {cap : Int} {text t scope : Text}
    (h : t ∈ layout config cap text) (attached : attachment? t = some scope) : t ∈ lines text := by
  rcases mem_layout h with rfl | rfl | listed
  · cases attached
  · cases attached
  · exact listed

theorem backed_of_locate {config : Filter.Config} {cap : Int} {text t scope : Text}
    (h : t ∈ layout config cap text) (attached : attachment? t = some scope)
    (known : (declarations (lines text)).locate scope ≠ .unknown) : Backed text scope := by
  refine ⟨⟨t, mem_lines_of_attachment? h attached, attached⟩, ?_⟩
  cases present : (declarations (lines text)).get? scope with
  | none => exact absurd (Graph.locate_of_missing present) known
  | some n =>
    rw [get?_declarations] at present
    obtain ⟨named, line, listed, declared⟩ := exists_of_lastDeclaration? present
    exact ⟨line, listed, n, declared, named⟩

variable (m : Maker) (config : Filter.Config) (text : Text)

theorem backed_of_make {r : Result} (done : (m.make config text).result = .ok r) {l : Line}
    (hl : l ∈ r.lines) {place : Location} (placed : l.source = some place)
    (known : place ≠ .unknown) : ∃ scope, l.scope = some scope ∧ Backed text scope := by
  obtain ⟨names, -, named⟩ := exists_names_of_make done
  rw [named, pass_eq] at hl
  obtain ⟨plain, hplain, rfl⟩ := List.mem_map.1 hl
  obtain ⟨t, ht, rfl⟩ := List.mem_map.1 hplain
  obtain ⟨scope, attached, rfl⟩ := Option.map_eq_some_iff.1 placed
  exact ⟨scope, attached, backed_of_locate ht attached known⟩

/-- A text that names `@llvm` and does not look like a listing with debug information has no place
to show. Whatever names are put in, a place is known only where the text uses its scope and declares
it, and so only in a text that has `!dbg` and `!DI`. -/
theorem places_backed :
    (config.demangle = false → has "@llvm".toList text = true → looksLike text = false →
        ∃ r, m.make config text = ⟨[], .ok r⟩ ∧
          ∀ l ∈ r.lines, l.source = l.scope.map fun _ => .unknown) ∧
      ∀ r, (m.make config text).result = .ok r →
        ∀ l ∈ r.lines, ∀ place, l.source = some place → place ≠ .unknown →
          (∃ scope, l.scope = some scope ∧ Backed text scope) ∧
            has "!dbg".toList text = true ∧ has "!DI".toList text = true := by
  refine ⟨?_, ?_⟩
  · intro off named other
    refine ⟨_, m.make_plain off text, ?_⟩
    intro l hl
    rw [pass_eq] at hl
    obtain ⟨t, ht, rfl⟩ := List.mem_map.1 hl
    cases attached : attachment? t with
    | none => simp [Line.located, Line.ofText, attached]
    | some scope =>
      have unknown : (declarations (lines text)).locate scope = .unknown := by
        by_contra known
        obtain ⟨used, declared⟩ := (backed_of_locate ht attached known).has
        rw [looksLike, named, used, declared] at other
        cases other
      simp [Line.located, Line.ofText, attached, unknown]
  · intro r done l hl place placed known
    obtain ⟨scope, attached, backed⟩ := backed_of_make m config text done hl placed known
    exact ⟨⟨scope, attached, backed⟩, backed.has⟩

def placeless : Text := "call void @llvm.trap(), !dbg !1\n!1 = distinct !\x7b\x7d".toList

def resolvable : Text := "!2 = !DILocation(line: 7)\r\n\n ret void, !dbg !2 ".toList

def toolless : Maker := { tool := some ⟨"names".toList, .usual, fun _ => .missing⟩ }

def resolvedLine : Line :=
  { text := " ret void, !dbg !2 ".toList
    scope := "!2".toList
    source := some ⟨none, some 7, none⟩ }

theorem places_backed_resolvable :
    ({} : Filter.Config).demangle = false ∧ has "@llvm".toList placeless = true ∧
      looksLike placeless = false ∧
      (∃ r, ({ cap := 1 } : Maker).make {} placeless = ⟨[], .ok r⟩ ∧
        ∃ l ∈ r.lines, l.scope = some "!1".toList ∧ l.source = some .unknown) ∧
      ∃ r, (toolless.make { demangle := true } resolvable).result = .ok r ∧ resolvedLine ∈ r.lines ∧
        resolvedLine.source ≠ some .unknown ∧ Backed resolvable "!2".toList ∧
          has "!dbg".toList resolvable = true ∧ has "!DI".toList resolvable = true := by
  have named : has "@llvm".toList placeless = true := by decide
  have other : looksLike placeless = false := by decide
  obtain ⟨r, made, unknown⟩ := (places_backed { cap := 1 } {} placeless).1 rfl named other
  have scopes : (({ cap := 1 } : Maker).make {} placeless).result.map (·.lines.map (·.scope)) =
      .ok [some "!1".toList, none] := by decide +kernel
  rw [made] at scopes
  have attached : r.lines.map (·.scope) = [some "!1".toList, none] := Except.ok.inj scopes
  obtain ⟨l, hl, scope⟩ := List.mem_map.1 (attached ▸ List.mem_cons_self)
  have shown : (toolless.make { demangle := true } resolvable).result =
      .ok { lines := [{ text := "!2 = !DILocation(line: 7)".toList }, blank, resolvedLine]
            language := some language } := by decide +kernel
  have listed :
      resolvedLine ∈ [{ text := "!2 = !DILocation(line: 7)".toList }, blank, resolvedLine] := by
    decide
  have known : (⟨none, some 7, none⟩ : Location) ≠ .unknown := by decide
  obtain ⟨⟨_, same, backed⟩, evidence⟩ :=
    (places_backed toolless { demangle := true } resolvable).2 _ shown resolvedLine listed _ rfl
      known
  refine ⟨rfl, named, other, ⟨r, made, l, hl, scope, ?_⟩, _, shown, listed, by decide, ?_, evidence⟩
  · rw [unknown l hl, scope]
    rfl
  · rw [Option.some.inj same]
    exact backed

end Listing

end IrListing
