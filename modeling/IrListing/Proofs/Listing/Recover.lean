import IrListing.Proofs.Assoc
import IrListing.Proofs.Listing.Wire

namespace IrListing

namespace Json

/-- The same value, up to the order of the members of its objects. -/
inductive Alike : Json → Json → Prop
  | null : Alike .null .null
  | bool (b : Bool) : Alike (.bool b) (.bool b)
  | number (n : Int) : Alike (.number n) (.number n)
  | text (t : Text) : Alike (.text t) (.text t)
  | array {items items' : List Json} :
      List.Forall₂ Alike items items' → Alike (.array items) (.array items')
  | object {fields fields' : Assoc Text Json} :
      (∀ key, Option.Rel Alike (fields.get? key) (fields'.get? key)) →
        Alike (.object fields) (.object fields')

theorem rel_get?_cons {fields fields' : Assoc Text Json} {name : Text} {value value' : Json}
    (first : Alike value value')
    (rest : ∀ key, Option.Rel Alike (fields.get? key) (fields'.get? key)) (key : Text) :
    Option.Rel Alike (Assoc.get? ((name, value) :: fields) key)
      (Assoc.get? ((name, value') :: fields') key) := by
  rw [Assoc.get?, Assoc.get?]
  split
  · exact .some first
  · exact rest key

mutual

theorem Alike.refl : (j : Json) → Alike j j
  | .null => .null
  | .bool b => .bool b
  | .number n => .number n
  | .text t => .text t
  | .array items => .array (forall₂_alike items)
  | .object fields => .object (rel_get? fields)

theorem forall₂_alike : (items : List Json) → List.Forall₂ Alike items items
  | [] => .nil
  | item :: items => .cons (Alike.refl item) (forall₂_alike items)

theorem rel_get? : (fields : List (Text × Json)) →
    ∀ key, Option.Rel Alike (Assoc.get? fields key) (Assoc.get? fields key)
  | [] => fun _ => .none
  | (_, value) :: fields => rel_get?_cons (Alike.refl value) (rel_get? fields)

end

theorem Alike.member? {j j' : Json} (alike : Alike j j') (key : String) :
    Option.Rel Alike (j.member? key) (j'.member? key) := by
  cases alike with
  | object same => exact same key.toList
  | _ => exact .none

variable {α β : Type}

def nullable? (read : Json → Option α) : Json → Option (Option α)
  | .null => some none
  | j => (read j).map some

def items? (read : Json → Option α) : Json → Option (List α)
  | .array items => items.mapM read
  | _ => none

def table? (read : Json → Option α) : Json → Option (Assoc Text α)
  | .object fields => fields.mapM fun (key, value) => (read value).map fun a => (key, a)
  | _ => none

theorem mapM_map_eq_some {read : β → Option α} {write : α → β}
    (inverse : ∀ a, read (write a) = some a) (as : List α) :
    (as.map write).mapM read = some as := by
  induction as with
  | nil => rfl
  | cons a as ih => simp [inverse a, ih]

def Fair (read : Json → Option α) : Prop := ∀ ⦃j j' : Json⦄, Alike j j' → read j = read j'

theorem fair_text? : Fair text? := by
  intro j j' alike
  cases alike <;> rfl

theorem fair_number? : Fair number? := by
  intro j j' alike
  cases alike <;> rfl

namespace Fair

variable {read : Json → Option α} (fair : Fair read)

include fair

theorem nullable? : Fair (nullable? read) := by
  intro j j' alike
  have same : read j = read j' := fair alike
  cases alike <;> simp [Json.nullable?, same]

theorem items? : Fair (items? read) := by
  intro j j' alike
  cases alike with
  | array same =>
    rw [Json.items?, Json.items?]
    induction same with
    | nil => rfl
    | cons first _ ih => rw [List.mapM_cons, List.mapM_cons, fair first, ih]
  | _ => rfl

variable {j? j?' : Option Json} (same : Option.Rel Alike j? j?')

include same

theorem bind : j?.bind read = j?'.bind read := by
  cases same with
  | none => rfl
  | some alike => exact fair alike

theorem mapM : j?.mapM read = j?'.mapM read := by
  cases same with
  | none => rfl
  | some alike => rw [Option.mapM_some, Option.mapM_some, fair alike]

end Fair

end Json

open Json

def Source.Location.ofJson? (j : Json) : Option Location := do
  let file ← (j.member? "file").bind (nullable? Json.text?)
  let line ← (j.member? "line").bind (nullable? number?)
  let column ← (j.member? "column").mapM number?
  return ⟨file, line, column⟩

namespace Listing

open Source

def Line.ofJson? (j : Json) : Option Line := do
  let text ← (j.member? "text").bind text?
  let scope ← (j.member? "scope").mapM text?
  let source ← (j.member? "source").mapM Location.ofJson?
  return ⟨text, scope, source⟩

theorem location_ofJson?_json (place : Location) : Location.ofJson? place.json = some place := by
  obtain ⟨file, line, column⟩ := place
  cases file <;> cases line <;> cases column <;> rfl

theorem line_ofJson?_json (l : Line) : Line.ofJson? l.json = some l := by
  obtain ⟨text, scope, source⟩ := l
  cases source with
  | none => cases scope <;> rfl
  | some place =>
    have read := location_ofJson?_json place
    cases scope <;>
      simp [Line.ofJson?, Line.json, member?, Assoc.get?, optionalField, text?, read]

theorem fair_location : Fair Location.ofJson? := by
  intro j j' alike
  rw [Location.ofJson?, Location.ofJson?, fair_text?.nullable?.bind (alike.member? "file"),
    fair_number?.nullable?.bind (alike.member? "line"), fair_number?.mapM (alike.member? "column")]

theorem fair_line : Fair Line.ofJson? := by
  intro j j' alike
  rw [Line.ofJson?, Line.ofJson?, fair_text?.bind (alike.member? "text"),
    fair_text?.mapM (alike.member? "scope"), fair_location.mapM (alike.member? "source")]

theorem eq_of_alike_line {l l' : Line} (alike : Alike l.json l'.json) : l = l' := by
  have read := fair_line alike
  rw [line_ofJson?_json, line_ofJson?_json] at read
  exact Option.some.inj read

def Result.ofJson? (j : Json) : Option Result := do
  let lines ← (j.member? "asm").bind (items? Line.ofJson?)
  let labels ← (j.member? "labelDefinitions").bind (table? number?)
  let language ← (j.member? "languageId").mapM text?
  return ⟨lines, labels, language⟩

def labelsJson (labels : Assoc Text Int) : Json :=
  .object (labels.map fun (name, n) => (name, .number n))

theorem member?_asm (r : Result) :
    r.json.member? "asm" = some (.array (r.lines.map (·.json))) := rfl

theorem member?_labels (r : Result) :
    r.json.member? "labelDefinitions" = some (labelsJson r.labels) := rfl

theorem mapM_member?_language (r : Result) :
    (r.json.member? "languageId").mapM text? = some r.language := by
  obtain ⟨lines, labels, language⟩ := r
  cases language <;> rfl

theorem items?_lines (lines : List Line) :
    (Json.array (lines.map (·.json))).items? Line.ofJson? = some lines :=
  mapM_map_eq_some line_ofJson?_json lines

theorem table?_labelsJson (labels : Assoc Text Int) :
    (labelsJson labels).table? number? = some labels := by
  apply mapM_map_eq_some
  intro e
  rfl

theorem alike_labelsJson_iff {labels labels' : Assoc Text Int} :
    Alike (labelsJson labels) (labelsJson labels') ↔
      ∀ name, labels.get? name = labels'.get? name := by
  constructor
  · rintro ⟨⟩ name
    rename_i same
    have read := fair_number?.bind (same name)
    rw [Assoc.get?_map, Assoc.get?_map, Option.bind_map, Option.bind_map] at read
    simpa [Function.comp_def, number?] using read
  · intro same
    refine .object fun name => ?_
    rw [Assoc.get?_map, Assoc.get?_map, same name]
    cases labels'.get? name with
    | none => exact .none
    | some n => exact .some (.number n)

theorem alike_iff {r r' : Result} : Alike r.json r'.json ↔
    r.lines = r'.lines ∧ (∀ name, r.labels.get? name = r'.labels.get? name) ∧
      r.language = r'.language := by
  constructor
  · intro alike
    have lines := fair_line.items?.bind (alike.member? "asm")
    have labels := alike.member? "labelDefinitions"
    have language := fair_text?.mapM (alike.member? "languageId")
    rw [member?_asm, member?_asm, Option.bind_some, Option.bind_some, items?_lines,
      items?_lines] at lines
    rw [member?_labels, member?_labels, Option.rel_some_some, alike_labelsJson_iff] at labels
    rw [mapM_member?_language, mapM_member?_language] at language
    exact ⟨Option.some.inj lines, labels, Option.some.inj language⟩
  · rintro ⟨lines, labels, language⟩
    rw [Result.json, Result.json, lines, language]
    have tables := alike_labelsJson_iff.2 labels
    exact .object (rel_get?_cons (.refl _) (rel_get?_cons tables (rel_get? _)))

def bareSources : List (Option Location) :=
  [none, some ⟨none, none, none⟩, some ⟨none, none, some 0⟩]

/-- A listing is read back from its JSON value. Two values are the same, up to the order of members,
exactly when the listings are, up to the order of labels; so lines with different sources have
different values, also where nothing but a column is known. -/
theorem json_recoverable (r r' : Result) :
    Result.ofJson? r.json = some r ∧
      (Alike r.json r'.json ↔
        r.lines = r'.lines ∧ (∀ name, r.labels.get? name = r'.labels.get? name) ∧
          r.language = r'.language) ∧
      ∀ text scope, bareSources.Pairwise fun source source' =>
        ¬ Alike (Line.mk text scope source).json (Line.mk text scope source').json := by
  refine ⟨?_, alike_iff, ?_⟩
  · rw [Result.ofJson?, member?_asm, member?_labels, mapM_member?_language, Option.bind_some,
      Option.bind_some, items?_lines, table?_labelsJson]
    rfl
  · intro text scope
    have different : bareSources.Nodup := by decide
    refine different.imp ?_
    intro source source' other alike
    exact other (Line.mk.inj (eq_of_alike_line alike)).2.2

end Listing

end IrListing
