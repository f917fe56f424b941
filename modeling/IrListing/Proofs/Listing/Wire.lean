import IrListing.Listing.View
import IrListing.Listing.Wire
import Mathlib.Data.List.Basic

namespace IrListing

open Text

namespace Json

def member? (key : String) : Json → Option Json
  | .object fields => Assoc.get? fields key.toList
  | _ => none

def at? : List String → Json → Option Json
  | [], j => some j
  | key :: way, j => (j.member? key).bind (at? way)

def text? : Json → Option Text
  | .text t => some t
  | _ => none

def number? : Json → Option Int
  | .number n => some n
  | _ => none

@[simp] theorem bind_text?_ofText? (t : Option Text) : (some (ofText? t)).bind text? = t := by
  cases t <;> rfl

@[simp] theorem bind_number?_ofInt? (n : Option Int) : (some (ofInt? n)).bind number? = n := by
  cases n <;> rfl

end Json

namespace Listing

/-- The place of an entry, if its file or its line is known: the file, then the line, and the column
behind a line. -/
def entryPlace? (source : Json) : Option Text :=
  let file := (source.member? "file").bind Json.text?
  let line := (source.member? "line").bind Json.number?
  let column := (source.member? "column").bind Json.number?
  let after (n : Option Int) (more : Text) : Text :=
    match n with
    | some n => ':' :: ofInt n ++ more
    | none => []
  if file.isSome || line.isSome then
    some (file.getD "<unknown>".toList ++ after line (after column []))
  else none

def entryText (entry : Json) : Text := ((entry.member? "text").bind Json.text?).getD []

def entryFile? (entry : Json) : Option Text := (entry.at? ["source", "file"]).bind Json.text?

def entryLine (places : Bool) (entry : Json) : Text :=
  entryText entry ++
    match (if places then entry.member? "source" else none).bind entryPlace? with
    | some place => "  ; ".toList ++ place
    | none => []

def isSettled (c : Char) : Bool := c ≠ '\t' && !isSteering c

/-- The text of the entry and the name of its file leave the cursor alone. -/
def EntrySettled (entry : Json) : Prop :=
  (∀ c ∈ entryText entry, isSettled c = true) ∧
    ∀ name, entryFile? entry = some name → ∀ c ∈ name, isSettled c = true

instance : DecidablePred EntrySettled := fun entry =>
  decidable_of_iff
    ((entryText entry).all isSettled = true ∧ ((entryFile? entry).getD []).all isSettled = true)
    (and_congr List.all_eq_true (by cases entryFile? entry <;> simp))

theorem member?_source (l : Line) : l.json.member? "source" = l.source.map (·.json) := by
  obtain ⟨text, scope, source⟩ := l
  cases scope <;> cases source <;> rfl

theorem member?_file (p : Source.Location) :
    p.json.member? "file" = some (Json.ofText? p.file) := rfl

theorem member?_line (p : Source.Location) :
    p.json.member? "line" = some (Json.ofInt? p.line) := rfl

theorem member?_column (p : Source.Location) :
    (p.json.member? "column").bind Json.number? = p.column := by
  obtain ⟨file, line, column⟩ := p
  cases column <;> rfl

theorem entryText_json (l : Line) : entryText l.json = l.text := rfl

theorem entryFile?_json (l : Line) : entryFile? l.json = l.source.bind (·.file) := by
  obtain ⟨text, scope, source⟩ := l
  cases source with
  | none => cases scope <;> rfl
  | some p =>
    obtain ⟨file, line, column⟩ := p
    cases scope <;> cases file <;> rfl

theorem entryPlace?_json {p : Source.Location} (h : p.file ≠ some []) :
    entryPlace? p.json = p.text? := by
  simp only [entryPlace?, member?_file, member?_line, member?_column, Json.bind_text?_ofText?,
    Json.bind_number?_ofInt?]
  obtain ⟨file, line, column⟩ := p
  rcases file with _ | _ | ⟨c, name⟩
  · cases line <;> cases column <;> simp [Source.Location.text?, Source.Location.isKnown]
  · cases h rfl
  · cases line <;> cases column <;> simp [Source.Location.text?, Source.Location.isKnown]

theorem entryLine_json {l : Line} (h : ∀ p, l.source = some p → p.file ≠ some []) (places : Bool) :
    entryLine places l.json = l.text ++ if places then l.note else [] := by
  rw [entryLine, entryText_json, member?_source]
  cases places with
  | false => rfl
  | true =>
    cases source : l.source with
    | none => simp [Line.note, source]
    | some p =>
      have place : entryPlace? p.json = p.text? := entryPlace?_json (h p source)
      cases text : p.text? <;> simp [Line.note, source, place, text]

theorem untabbed_eq_self {t : Text} (h : '\t' ∉ t) (column : Nat) : untabbed column t = t := by
  induction t generalizing column with
  | nil => rfl
  | cons c t ih =>
    rw [List.mem_cons, not_or] at h
    rw [untabbed, if_neg (Ne.symm h.1), ih h.2]

theorem steady_eq_self {t : Text} (h : ∀ c ∈ t, isSettled c = true) : steady t = t := by
  rw [steady, List.filter_eq_self]
  intro c hc
  have := h c hc
  rw [isSettled, Bool.and_eq_true] at this
  exact this.2

theorem isSettled_of_le {c : Char} (h : 0x20 ≤ c.toNat) : isSettled c = true := by
  have tab : c ≠ '\t' := by
    rintro rfl
    revert h
    decide
  have steers : isSteering c = false := by
    simp only [isSteering, decide_eq_false_iff_not, List.mem_cons, List.not_mem_nil, or_false]
    omega
  simp [isSettled, tab, steers]

theorem le_of_mem_ofNat {n : Nat} {c : Char} (h : c ∈ ofNat n) : 0x20 ≤ c.toNat := by
  have digit := Nat.isDigit_of_mem_toDigits (by decide) (by decide) h
  simp only [Char.isDigit, Bool.and_eq_true, decide_eq_true_eq, ge_iff_le,
    UInt32.le_iff_toNat_le] at digit
  exact Nat.le_trans (by decide) digit.1

theorem le_of_mem_ofInt {n : Int} {c : Char} (h : c ∈ ofInt n) : 0x20 ≤ c.toNat := by
  cases n with
  | ofNat n => exact le_of_mem_ofNat h
  | negSucc n =>
    rcases List.mem_cons.1 h with rfl | h
    · decide
    · exact le_of_mem_ofNat h

theorem mem_behind {line column : Option Int} {file : Text} {c : Char}
    (h : c ∈ match line, column with
      | none, _ => file
      | some n, none => file ++ ':' :: ofInt n
      | some n, some m => file ++ ':' :: ofInt n ++ ':' :: ofInt m) :
    c ∈ file ∨ 0x20 ≤ c.toNat := by
  have number (n : Int) (hc : c ∈ ':' :: ofInt n) : 0x20 ≤ c.toNat := by
    rcases List.mem_cons.1 hc with rfl | hc
    · decide
    · exact le_of_mem_ofInt hc
  split at h
  · exact Or.inl h
  · exact (List.mem_append.1 h).imp_right (number _)
  · rcases List.mem_append.1 h with h | h
    · exact (List.mem_append.1 h).imp_right (number _)
    · exact Or.inr (number _ h)

theorem mem_place {p : Source.Location} {place : Text} (h : p.text? = some place) {c : Char}
    (hc : c ∈ place) : (∃ name, p.file = some name ∧ c ∈ name) ∨ 0x20 ≤ c.toNat := by
  have unknown : ∀ c ∈ "<unknown>".toList, 0x20 ≤ c.toNat := by simp
  obtain ⟨file, line, column⟩ := p
  unfold Source.Location.text? at h
  split at h
  · obtain rfl := Option.some.inj h
    rcases mem_behind hc with front | plain
    · split at front
      · rename_i first name named
        exact Or.inl ⟨_, named, front⟩
      · exact Or.inr (unknown c front)
    · exact Or.inr plain
  · cases h

theorem mem_note {l : Line} {c : Char} (h : c ∈ l.note) :
    (∃ p name, l.source = some p ∧ p.file = some name ∧ c ∈ name) ∨ 0x20 ≤ c.toNat := by
  unfold Line.note at h
  split at h
  · rename_i place found
    obtain ⟨p, source, text⟩ := Option.bind_eq_some_iff.1 found
    have lead : ∀ c ∈ "  ; ".toList, 0x20 ≤ c.toNat := by simp
    rcases List.mem_append.1 h with h | h
    · exact Or.inr (lead c h)
    · apply (mem_place text h).imp_left
      rintro ⟨name, file, hc⟩
      exact ⟨p, name, source, file, hc⟩
  · cases h

theorem shown_eq_entryLine {l : Line} (named : ∀ p, l.source = some p → p.file ≠ some [])
    (settled : EntrySettled l.json) (places : Bool) :
    untabbed 0 (l.shown places) = entryLine places l.json := by
  obtain ⟨text, file⟩ := settled
  rw [entryText_json] at text
  rw [entryFile?_json] at file
  have note : ∀ c ∈ l.note, isSettled c = true := by
    intro c hc
    rcases mem_note hc with ⟨p, name, source, named, hc⟩ | plain
    · exact file name (by rw [source, Option.bind_some, named]) c hc
    · exact isSettled_of_le plain
  have all : ∀ c ∈ l.text ++ (if places then l.note else []), isSettled c = true := by
    intro c hc
    rcases List.mem_append.1 hc with hc | hc
    · exact text c hc
    · split at hc
      · exact note c hc
      · cases hc
  have noTab : '\t' ∉ l.text ++ (if places then l.note else []) := by
    intro hc
    cases all '\t' hc
  rw [entryLine_json named, Line.shown, steady_eq_self text, steady_eq_self note,
    untabbed_eq_self noTab]

end Listing

end IrListing
