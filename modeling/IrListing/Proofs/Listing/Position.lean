import IrListing.Proofs.Listing.OneLine
import IrListing.Proofs.Metadata.Written
import IrListing.Proofs.Source.Locality
import IrListing.Proofs.Text.Numeral

namespace IrListing

open Text

theorem Metadata.Written.get?_of_lastSetting (d : Written) {front back : List Setting} {s : Setting}
    {more : List (Text × Text)} (given : d.settings = front ++ s :: back)
    (last : ∀ o ∈ back.map Setting.entry ++ more, o.1 ≠ s.key.text) :
    (Assoc.ofList (d.entries ++ more)).get? s.key.text = some s.value.meant := by
  have split : d.entries ++ more =
      front.map Setting.entry ++ s.entry :: (back.map Setting.entry ++ more) := by
    simp [entries, given]
  rw [split]
  exact Assoc.get?_ofList_append_cons _ last

namespace Source

open Metadata

namespace Graph

variable {g : Graph} {step : Node → Step} {id next value : Text}

theorem asked_of_finds (h : g.Finds step id value) : g.asked step id = [id] := by
  obtain ⟨n, present, found⟩ := Option.map_eq_some_iff.1 h
  rw [asked, traced, tracedFrom_of_get? List.not_mem_nil present, found]

theorem value?_walk_of_finds (h : g.Finds step id value) :
    (g.walk step id).value? = some value :=
  (g.tracedFrom_start step id).1.value?_eq_some_iff.2 ⟨id, .refl, h⟩

theorem value?_walk_of_lacks (h : g.Lacks step id) : (g.walk step id).value? = none :=
  (g.tracedFrom_start step id).1.value?_eq_none_iff.2 (Or.inl ⟨id, .refl, h⟩)

theorem value?_walk_of_follows (h : g.Follows step id next) :
    (g.walk step id).value? = (g.walk step next).value? := by
  ext value
  rw [(g.tracedFrom_start step id).1.value?_eq_some_iff,
    (g.tracedFrom_start step next).1.value?_eq_some_iff]
  constructor
  · rintro ⟨last, leads, finds⟩
    rcases leads.cases_head with rfl | ⟨k, follows, onward⟩
    · cases finds.not_follows h
    · obtain rfl := follows_unique h follows
      exact ⟨last, onward, finds⟩
  · rintro ⟨last, leads, finds⟩
    exact ⟨last, leads.head h, finds⟩

end Graph

inductive Field
  | line
  | column

namespace Field

def key : Field → Text
  | .line => "line".toList
  | .column => "column".toList

theorem key_ne_nil (f : Field) : f.key ≠ [] := by
  cases f <;> decide

theorem all_isWord (f : Field) : f.key.all isWord = true := by
  cases f <;> decide

def row (f : Field) : Row isWord := ⟨f.key, f.key_ne_nil, f.all_isWord⟩

def step (f : Field) : Node → Step := fieldStep f.key

def number? : Field → Graph → Text → Option Int
  | .line => Graph.line?
  | .column => Graph.column?

theorem number?_eq (f : Field) (g : Graph) (id : Text) :
    f.number? g id = (g.walk f.step id).value?.bind integer? := by
  cases f <;> rfl

variable {f : Field} {g : Graph} {id : Text} {n : Node} (present : g.get? id = some n)

include present

theorem finds_of_value {value : Text} (given : n.attributes.get? f.key = some value)
    (some_value : value ≠ []) : g.Finds f.step id value := by
  have filled : n.filled? f.key = some value := by
    rw [n.filled?_eq_filter, given]
    simpa using some_value
  rw [Graph.Finds, Graph.at?, present, Option.map_some, step, fieldStep, filled]

theorem number?_of_empty (given : n.attributes.get? f.key = some []) :
    f.number? g id = (n.attributes.get? "scope".toList).bind (f.number? g) := by
  have onward : g.at? f.step id = some (upward n) := by
    have filled : n.filled? f.key = none := by
      rw [n.filled?_eq_filter, given]
      rfl
    rw [Graph.at?, present, Option.map_some, step, fieldStep, filled]
  rw [number?_eq]
  cases scope : n.attributes.get? "scope".toList with
  | none =>
    have lacks : g.Lacks f.step id := Or.inr (by rw [onward, upward, scope])
    rw [Graph.value?_walk_of_lacks lacks]
    rfl
  | some next =>
    have follows : g.Follows f.step id next := by rw [Graph.Follows, onward, upward, scope]
    rw [Graph.value?_walk_of_follows follows, Option.bind_some, number?_eq]

theorem settled_of_value {value : Text} (given : n.attributes.get? f.key = some value)
    (some_value : value ≠ []) :
    g.asked f.step id = [id] ∧ f.number? g id = integer? value := by
  have finds := finds_of_value present given some_value
  refine ⟨Graph.asked_of_finds finds, ?_⟩
  rw [number?_eq, Graph.value?_walk_of_finds finds, Option.bind_some]

end Field

end Source

namespace Listing

open Metadata Source

theorem lastDeclaration?_eq_none {id : Text} {texts : List Text}
    (h : ∀ line ∈ texts, (declaration? line).map (·.id) ≠ some id) :
    lastDeclaration? id texts = none := by
  cases present : lastDeclaration? id texts with
  | none => rfl
  | some n =>
    obtain ⟨named, line, listed, declared⟩ := exists_of_lastDeclaration? present
    cases h line listed (by rw [declared, Option.map_some, named])

theorem get?_declarations_of_last {before behind : List Text} {line : Text} {n : Node}
    (declared : declaration? line = some n)
    (last : ∀ line ∈ behind, (declaration? line).map (·.id) ≠ some n.id) :
    (declarations (before ++ line :: behind)).get? n.id = some n := by
  rw [get?_declarations, lastDeclaration?_append, lastDeclaration?, lastDeclaration?_eq_none last,
    declared]
  simp

/-- The number of a declared id by the last setting of the field in its last declaration. A row of
digits gives the number that it denotes, or none if it is too long, and so does a numeral in quotes;
no other value gives a number. In none of these cases is the enclosing scope looked at, but if the
value is empty the number is that of the scope. -/
theorem number_of_lastSetting (f : Field) (before behind : List Text) (d : Written)
    (trailing : Text) (lastOfId : ∀ line ∈ behind, (declaration? line).map (·.id) ≠ some d.id)
    {front back : List Setting} {s : Setting} (given : d.settings = front ++ s :: back)
    (named : s.key.text = f.key)
    (lastOfKey : ∀ o ∈ back.map Setting.entry ++ told (trailing.takeWhile (· ≠ '\n')),
      o.1 ≠ f.key) :
    let g := declarations (before ++ (d.text ++ trailing) :: behind)
    let entries := d.entries ++ told (trailing.takeWhile (· ≠ '\n'))
    (∀ digits, s.value = .number digits →
        g.asked f.step d.id = [d.id] ∧ ∃ n : Nat, Denotes digits.text n ∧
          f.number? g d.id = if digits.text.length ≤ 4300 then some (n : Int) else none) ∧
      (s.value.meant ≠ [] →
        g.asked f.step d.id = [d.id] ∧ ∀ i, f.number? g d.id = some i ↔
          ∃ m : Numeral, m.text = s.value.meant ∧ m.digits.length ≤ 4300 ∧ m.Means i) ∧
      (s.value.meant = [] → f.number? g d.id =
        (entries.reverse.lookup "scope".toList).bind (f.number? g)) := by
  intro g entries
  have present : g.get? d.id = some ⟨d.id, d.kind.text, Assoc.ofList entries⟩ :=
    get?_declarations_of_last (d.declaration?_append trailing) lastOfId
  have value : (Assoc.ofList entries).get? f.key = some s.value.meant := by
    rw [← named] at lastOfKey ⊢
    exact d.get?_of_lastSetting given lastOfKey
  have settled (some_value : s.value.meant ≠ []) :
      g.asked f.step d.id = [d.id] ∧ f.number? g d.id = integer? s.value.meant :=
    f.settled_of_value present value some_value
  refine ⟨?_, ?_, ?_⟩
  · intro digits number
    have meant : s.value.meant = digits.text := by rw [number]; rfl
    obtain ⟨alone, read⟩ := settled (meant ▸ digits.nonempty)
    have row : IsRow digits.text := ⟨digits.nonempty, fun _ => digits.of_mem⟩
    refine ⟨alone, _, (denotes_iff row.digits).2 rfl, ?_⟩
    rw [read, meant, row.integer?]
    rfl
  · intro some_value
    obtain ⟨alone, read⟩ := settled some_value
    refine ⟨alone, fun i => ?_⟩
    rw [read]
    exact integer?_eq_some_iff
  · intro empty
    rw [empty] at value
    rw [f.number?_of_empty present value, Assoc.get?_ofList]

def scriptDigits : Row isDigit := ⟨"0٣७".toList, by decide, by decide⟩

def scriptLine : Setting := ⟨Field.line.row, .number scriptDigits⟩

def emptyColumn : Setting := ⟨Field.column.row, .quoted [] .nil⟩

def scripted : Written :=
  { imitating with settings := imitating.settings ++ [emptyColumn, scriptLine] }

def scriptedTrailing : Text := " ; discriminator: 2)".toList

def scriptedBefore : List Text :=
  ["!4 = !DIFile(column: 0)".toList, "!12 = !DIFile(line: 5)".toList]

def scriptedBehind : List Text := ["!13 = !DIFile(line: 6)".toList]

theorem number_of_scripted :
    let g := declarations (scriptedBefore ++ (scripted.text ++ scriptedTrailing) :: scriptedBehind)
    g.asked Field.line.step "!12".toList = ["!12".toList] ∧ g.line? "!12".toList = some 37 ∧
      g.column? "!12".toList = some 0 := by
  have lastOfId : ∀ line ∈ scriptedBehind, (declaration? line).map (·.id) ≠ some scripted.id := by
    decide +kernel
  have lineGiven : scripted.settings = scripted.settings.take 5 ++ scriptLine :: [] := rfl
  have lastLine : ∀ o ∈ [].map Setting.entry ++ told (scriptedTrailing.takeWhile (· ≠ '\n')),
      o.1 ≠ Field.line.key := by decide +kernel
  have columnGiven : scripted.settings =
      scripted.settings.take 4 ++ emptyColumn :: scripted.settings.drop 5 := rfl
  have lastColumn : ∀ o ∈ (scripted.settings.drop 5).map Setting.entry ++
      told (scriptedTrailing.takeWhile (· ≠ '\n')), o.1 ≠ Field.column.key := by decide +kernel
  obtain ⟨number, -, -⟩ := number_of_lastSetting .line scriptedBefore scriptedBehind scripted
    scriptedTrailing lastOfId lineGiven rfl lastLine
  obtain ⟨-, -, bubbles⟩ := number_of_lastSetting .column scriptedBefore scriptedBehind scripted
    scriptedTrailing lastOfId columnGiven rfl lastColumn
  obtain ⟨alone, n, denotes, line⟩ := number _ rfl
  refine ⟨alone, ?_, ?_⟩
  · have value : n = 37 := by
      rw [(denotes_iff fun _ => scriptDigits.of_mem).1 denotes]
      decide
    rw [value] at line
    exact line
  · have scope : (scripted.entries ++ told (scriptedTrailing.takeWhile (· ≠ '\n'))).reverse.lookup
        "scope".toList = some "!4".toList := by decide +kernel
    rw [scope] at bubbles
    exact (bubbles rfl).trans (by decide +kernel)

end Listing

end IrListing
