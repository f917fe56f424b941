import IrListing.Settings.Load

namespace IrListing.Settings

open Check

namespace Check

variable {es : Assoc Text Value} {v : Value}

@[simp] theorem under_eq_ok_iff {key : Key} {c : Check α} {a : α} :
    under key c = .ok a ↔ c = .ok a := by
  cases c <;> simp [under]

@[simp] theorem both_eq_ok_iff {x : Check α} {y : Check β} {p : α × β} :
    both x y = .ok p ↔ x = .ok p.1 ∧ y = .ok p.2 := by
  cases x <;> cases y <;> simp [both, Prod.ext_iff]

theorem map_eq_ok_iff {f : α → β} {c : Check α} {b : β} :
    c.map f = .ok b ↔ ∃ a, c = .ok a ∧ f a = b := by
  cases c <;> simp [Except.map]

theorem record_eq_ok_iff {read : Assoc Text Value → Check α} {a : α} :
    record read v = .ok a ↔ ∃ es, v = .map es ∧ read es = .ok a := by
  cases v <;> simp [record, fail]

theorem le_of_wholeFrom {least n : Int} (h : wholeFrom least v = .ok n) : least ≤ n := by
  unfold wholeFrom at h
  split at h
  · split at h
    · cases h
      assumption
    · cases h
  · cases h

end Check

def IsMapping (files : Files) (path : Text) (es : Assoc Text Value) : Prop :=
  ∃ bytes, files path = .file bytes ∧ Yaml.read documentDepth bytes = .ok (.map es)

/-- What lies at a path says this of the settings, which is nothing without a document. -/
inductive HasEntries (files : Files) (path : Text) : Assoc Text Value → Prop
  | absent (nothing : files path = .absent ∨ files path = .unnameable) : HasEntries files path []
  | void {bytes : List UInt8} {document : Value} (found : files path = .file bytes)
    (read : Yaml.read documentDepth bytes = .ok document) (void : document.isVoid = true) :
    HasEntries files path []
  | mapping {es : Assoc Text Value} (found : IsMapping files path es) : HasEntries files path es

section

variable {files : Files} {path : Text} {es : Assoc Text Value}

theorem entriesAt_of_isMapping (h : IsMapping files path es) : entriesAt files path = .ok es := by
  obtain ⟨bytes, found, read⟩ := h
  simp only [entriesAt, found, read, entriesOf]
  cases es with
  | nil => rfl
  | cons e es => rfl

theorem entriesAt_eq_ok_iff : entriesAt files path = .ok es ↔ HasEntries files path es := by
  constructor
  · intro h
    unfold entriesAt at h
    split at h
    · cases h
      exact .absent (.inl ‹_›)
    · cases h
      exact .absent (.inr ‹_›)
    · cases h
    · cases h
    · rename_i bytes found
      split at h
      · cases h
      · cases h
      · rename_i document read
        unfold entriesOf at h
        split at h
        · cases h
          exact .void found read ‹_›
        · split at h <;> cases h
          exact .mapping ⟨bytes, found, read⟩
  · rintro (⟨absent | unnameable⟩ | ⟨found, read, void⟩ | found)
    · simp [entriesAt, absent]
    · simp [entriesAt, unnameable]
    · simp [entriesAt, found, read, entriesOf, void]
    · exact entriesAt_of_isMapping found

end

/-- What a setting comes to: what is chosen beforehand, else what the first layer that has it is
read as, else what is usual. -/
def Layered (chosen : Option α) (read : Value → Check α) (usual : α) (layers : List (Option Value))
    (a : α) : Prop :=
  match chosen, layers.findSome? id with
  | some b, _ => a = b
  | none, some v => read v = .ok a
  | none, none => a = usual

section Layered

variable {read : Value → Check α} {usual a : α} {layers : List (Option Value)}

theorem Layered.choose (h : Layered none read usual layers a) (chosen : Option α) :
    Layered chosen read usual layers (chosen.getD a) := by
  cases chosen with
  | none => exact h
  | some b => rfl

theorem field_eq_ok_iff {es : Assoc Text Value} {names : List Text} :
    field es names read (.ok usual) = .ok a ↔ Layered none read usual (names.map es.get?) a := by
  induction names with
  | nil => simp [field, Layered, eq_comm]
  | cons name names ih =>
    cases found : es.get? name with
    | some v => simp [field, Layered, found]
    | none => simpa [field, Layered, found] using ih

end Layered

def layerOf (given : Text) : Option Value := if given = [] then none else some (.text given)

theorem get?_overrule_self (name given : Text) (es : Assoc Text Value) :
    (overrule name given es).get? name = (layerOf given).or (es.get? name) := by
  unfold overrule layerOf
  split <;> simp

theorem get?_overrule_of_ne {name other : Text} (h : name ≠ other) (given : Text)
    (es : Assoc Text Value) : (overrule name given es).get? other = es.get? other := by
  unfold overrule
  split
  · rfl
  · exact Assoc.get?_insert_of_ne es _ h

theorem layered_or {read : Value → Check α} {usual a : α} {x y : Option Value} :
    Layered none read usual [x.or y] a ↔ Layered none read usual [x, y] a := by
  cases x <;> cases y <;> simp [Layered]

def filtersName : Text := "default_filters".toList

def filterEntries (es : Assoc Text Value) : Assoc Text Value :=
  match es.get? filtersName with
  | some (.map fs) => fs
  | _ => []

section

variable (env : Environment) (es : Assoc Text Value)

theorem get?_overruled_cap :
    (overrule demanglerName env.demangler (overrule capName env.cap es)).get? capName =
      (layerOf env.cap).or (es.get? capName) := by
  rw [get?_overrule_of_ne (by decide), get?_overrule_self]

theorem get?_overruled_demangler :
    (overrule demanglerName env.demangler (overrule capName env.cap es)).get? demanglerName =
      (layerOf env.demangler).or (es.get? demanglerName) := by
  rw [get?_overrule_self, get?_overrule_of_ne (by decide)]

theorem get?_overruled_filters :
    (overrule demanglerName env.demangler (overrule capName env.cap es)).get? filtersName =
      es.get? filtersName := by
  rw [get?_overrule_of_ne (by decide), get?_overrule_of_ne (by decide)]

end

structure Choices where
  cap : Option Int := none
  debugCalls : Option Bool := none
  metadata : Option Bool := none
  comments : Option Bool := none
  demangle : Option Bool := none
  deriving DecidableEq, Repr

/-- Of each setting, the layers that it has: what is chosen, a variable, the entries of a file under
its own names, and what is usual. -/
structure FromLayers (chosen : Choices) (env : Environment) (es : Assoc Text Value)
    (s : Settings) : Prop where
  cap : Layered chosen.cap (wholeFrom 1) 5000 [layerOf env.cap, es.get? capName] s.cap
  demangler : Layered none text "llvm-cxxfilt".toList
    [layerOf env.demangler, es.get? demanglerName] s.demangler
  debugCalls : Layered chosen.debugCalls bool false
    (filterNames.debugCalls.map (filterEntries es).get?) s.filters.debugCalls
  metadata : Layered chosen.metadata bool false
    (filterNames.metadata.map (filterEntries es).get?) s.filters.metadata
  comments : Layered chosen.comments bool false
    (filterNames.comments.map (filterEntries es).get?) s.filters.comments
  demangle : Layered chosen.demangle bool false
    [(filterEntries es).get? "demangle".toList] s.filters.demangle

section

variable {env : Environment} {es : Assoc Text Value}

theorem filters_of_layered {c : Filter.Config}
    (h : Layered none (filterConfig filterNames) {} [es.get? filtersName] c) :
    Layered none bool false (filterNames.debugCalls.map (filterEntries es).get?) c.debugCalls ∧
      Layered none bool false (filterNames.metadata.map (filterEntries es).get?) c.metadata ∧
      Layered none bool false (filterNames.comments.map (filterEntries es).get?) c.comments ∧
      Layered none bool false [(filterEntries es).get? "demangle".toList] c.demangle := by
  cases found : es.get? filtersName with
  | none =>
    have usual : c = {} := by simpa [Layered, found] using h
    simp [usual, filterEntries, found, Layered, filterNames]
  | some v =>
    have read : filterConfig filterNames v = .ok c := by simpa [Layered, found] using h
    obtain ⟨fs, rfl, entries⟩ := record_eq_ok_iff.1 read
    obtain ⟨_, fields, rfl⟩ := map_eq_ok_iff.1 entries
    simp only [both_eq_ok_iff, field_eq_ok_iff] at fields
    simp only [filterEntries, found]
    exact fields

theorem settle_eq_ok_iff {path : Text} {s : Settings} :
    settle path env es = .ok s ↔
      ofValue (.map (overrule demanglerName env.demangler (overrule capName env.cap es))) =
        .ok s := by
  unfold settle
  split <;> simp_all

theorem fromLayers_of_settle {path : Text} {s : Settings} (h : settle path env es = .ok s) :
    FromLayers {} env es s := by
  obtain ⟨_, ⟨⟩, entries⟩ := record_eq_ok_iff.1 (settle_eq_ok_iff.1 h)
  obtain ⟨_, fields, rfl⟩ := map_eq_ok_iff.1 entries
  simp only [both_eq_ok_iff, field_eq_ok_iff, List.map_cons, List.map_nil] at fields
  obtain ⟨cap, demangler, filters⟩ := fields
  rw [get?_overruled_cap, layered_or] at cap
  rw [get?_overruled_demangler, layered_or] at demangler
  obtain ⟨debugCalls, metadata, comments, demangle⟩ :=
    filters_of_layered (get?_overruled_filters env es ▸ filters)
  exact ⟨cap, demangler, debugCalls, metadata, comments, demangle⟩

theorem one_le_cap_of_fromLayers {s : Settings} (h : FromLayers {} env es s) : 1 ≤ s.cap := by
  have cap := h.cap
  unfold Layered at cap
  split at cap
  · rename_i chosen
    cases chosen
  · exact le_of_wholeFrom cap
  · omega

end

section

variable {files : Files} {env : Environment} {given : Option Text} {s : Settings}

theorem exists_settle_of_load (h : load files env given = .ok s) :
    ∃ es, entriesAt files (pathOf given) = .ok es ∧ settle (pathOf given) env es = .ok s := by
  unfold load at h
  dsimp only at h
  split at h
  · cases h
  · cases entries : entriesAt files (pathOf given) with
    | error t =>
      rw [entries] at h
      cases h
    | ok es =>
      rw [entries] at h
      exact ⟨es, rfl, h⟩

theorem fromLayers_of_load (h : load files env given = .ok s) :
    ∃ es, entriesAt files (pathOf given) = .ok es ∧ FromLayers {} env es s := by
  obtain ⟨es, entries, settled⟩ := exists_settle_of_load h
  exact ⟨es, entries, fromLayers_of_settle settled⟩

end

end IrListing.Settings
