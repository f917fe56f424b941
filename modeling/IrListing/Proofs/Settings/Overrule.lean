import IrListing.Proofs.Settings.Layers
import Mathlib.Data.List.Basic

namespace IrListing.Settings

open Check

def readEntry (name : Text) (check : Value → Check α) (usual : α) : Option Value → Check α
  | some v => under (.name name) (check v)
  | none => .ok usual

def assemble (cap demangler filters : Option Value) : Check Settings :=
  (both (readEntry capName (wholeFrom 1) ({} : Settings).cap cap)
    (both (readEntry demanglerName text ({} : Settings).demangler demangler)
      (readEntry filtersName (filterConfig filterNames) {} filters))).map
    fun (cap, demangler, filters) => { cap, demangler, filters }

def outcome (path : Text) : Check Settings → Except Trouble Settings
  | .ok s => .ok s
  | .error findings => .error (.failure ⟨path, .unfit findings⟩)

theorem field_eq_readEntry (es : Assoc Text Value) (name : Text) (check : Value → Check α)
    (usual : α) :
    field es [name] check (.ok usual) = readEntry name check usual (es.get? name) := by
  cases h : es.get? name <;> simp [field, readEntry, h]

theorem ofValue_map (es : Assoc Text Value) :
    ofValue (.map es) =
      assemble (es.get? capName) (es.get? demanglerName) (es.get? filtersName) := by
  simp only [ofValue, record, field_eq_readEntry, assemble]
  rfl

theorem settle_eq (path : Text) (env : Environment) (es : Assoc Text Value) :
    settle path env es =
      outcome path (assemble ((layerOf env.cap).or (es.get? capName))
        ((layerOf env.demangler).or (es.get? demanglerName)) (es.get? filtersName)) := by
  rw [settle, ofValue_map, get?_overruled_cap, get?_overruled_demangler, get?_overruled_filters]
  rfl

theorem layerOf_or_eq (given : Text) (entry : Option Value) :
    (layerOf given).or entry = if given = [] then entry else some (.text given) := by
  unfold layerOf
  split <;> rfl

theorem layerOf_or {given : Text} (set : given ≠ []) (entry entry' : Option Value) :
    (layerOf given).or entry = (layerOf given).or entry' := by
  rw [layerOf_or_eq, layerOf_or_eq, if_neg set, if_neg set]

def AgreeBut (name : Text) (es es' : Assoc Text Value) : Prop :=
  ∀ other, other ≠ name → es.get? other = es'.get? other

section

variable {files files' : Files} {env env' : Environment} {given : Option Text} {path : Text}
  {es es' : Assoc Text Value} {s s' : Settings}

theorem settle_of_cap (set : env.cap ≠ []) (same : AgreeBut capName es es') :
    settle path env es = settle path env es' := by
  rw [settle_eq, settle_eq, layerOf_or set (es.get? capName) (es'.get? capName),
    same demanglerName (by decide), same filtersName (by decide)]

theorem settle_of_demangler (set : env.demangler ≠ []) (same : AgreeBut demanglerName es es') :
    settle path env es = settle path env es' := by
  rw [settle_eq, settle_eq,
    layerOf_or set (es.get? demanglerName) (es'.get? demanglerName), same capName (by decide),
    same filtersName (by decide)]

theorem filters_of_settle (h : settle path env es = .ok s) :
    readEntry filtersName (filterConfig filterNames) {} (es.get? filtersName) = .ok s.filters := by
  rw [settle_eq] at h
  unfold outcome at h
  split at h
  · rename_i read
    cases h
    obtain ⟨_, entries, rfl⟩ := map_eq_ok_iff.1 read
    simp only [both_eq_ok_iff] at entries
    exact entries.2.2
  · cases h

theorem load_of_isMapping (h : IsMapping files (pathOf given) es) :
    load files env given = settle (pathOf given) env es := by
  have entries := entriesAt_of_isMapping h
  obtain ⟨bytes, found, -⟩ := h
  simp [load, found, Entry.isFile, entries, Except.bind]

theorem load_eq_of_settle_eq (h : IsMapping files (pathOf given) es)
    (h' : IsMapping files' (pathOf given) es')
    (same : settle (pathOf given) env es = settle (pathOf given) env es') :
    load files env given = load files' env given := by
  rw [load_of_isMapping h, load_of_isMapping h', same]

theorem filters_of_load (h : load files env given = .ok s) (h' : load files' env' given = .ok s')
    (same : files (pathOf given) = files' (pathOf given)) : s.filters = s'.filters := by
  obtain ⟨es, entries, settled⟩ := exists_settle_of_load h
  obtain ⟨es', entries', settled'⟩ := exists_settle_of_load h'
  have one_file : entriesAt files (pathOf given) = entriesAt files' (pathOf given) := by
    rw [entriesAt, entriesAt, same]
  obtain rfl : es = es' := Except.ok.inj (entries.symm.trans (one_file.trans entries'))
  exact Except.ok.inj ((filters_of_settle settled).symm.trans (filters_of_settle settled'))

/-- A variable that is set makes two mappings the same that differ in nothing but the setting of
its name, and one that is not leaves this setting to the file. However settings come about, their
cap is at least one and their filters are those of the file. -/
theorem load_overruled (files files' : Files) (env : Environment) (given : Option Text) :
    (∀ es es', IsMapping files (pathOf given) es → IsMapping files' (pathOf given) es' →
      (env.cap ≠ [] → AgreeBut capName es es' →
        load files env given = load files' env given) ∧
      (env.demangler ≠ [] → AgreeBut demanglerName es es' →
        load files env given = load files' env given)) ∧
    (∀ es, IsMapping files (pathOf given) es →
      load files env given = outcome (pathOf given) (assemble
        (if env.cap = [] then es.get? capName else some (.text env.cap))
        (if env.demangler = [] then es.get? demanglerName else some (.text env.demangler))
        (es.get? filtersName))) ∧
    ∀ s, load files env given = .ok s →
      1 ≤ s.cap ∧ ∀ env' s', files (pathOf given) = files' (pathOf given) →
        load files' env' given = .ok s' → s.filters = s'.filters := by
  refine ⟨?_, ?_, ?_⟩
  · intro es es' h h'
    constructor
    · intro set agree
      exact load_eq_of_settle_eq h h' (settle_of_cap set agree)
    · intro set agree
      exact load_eq_of_settle_eq h h' (settle_of_demangler set agree)
  · intro es h
    rw [load_of_isMapping h, settle_eq, layerOf_or_eq, layerOf_or_eq]
  · intro s h
    obtain ⟨es, -, layers⟩ := fromLayers_of_load h
    exact ⟨one_le_cap_of_fromLayers layers, fun env' s' same h' => filters_of_load h h' same⟩

end

def usualFile (text : String) : Files := fun path =>
  if path = usualPath then .file text.toUTF8.toList else .absent

def Value.keys? : Value → Option (List Text)
  | .map es => some (es.map (·.1))
  | _ => none

theorem exists_isMapping {text : String} {keys : List Text}
    (read : (Yaml.read documentDepth text.toUTF8.toList).toOption.bind Value.keys? = some keys) :
    ∃ es, IsMapping (usualFile text) usualPath es ∧ es.map (·.1) = keys := by
  cases document : Yaml.read documentDepth text.toUTF8.toList with
  | error p =>
    rw [document] at read
    cases read
  | ok v =>
    rw [document] at read
    cases v with
    | map es => exact ⟨es, ⟨_, rfl, document⟩, Option.some.inj read⟩
    | _ => cases read

theorem agreeBut_of_keys {name : Text} {es es' : Assoc Text Value} (only : es.map (·.1) = [name])
    (none_there : es'.map (·.1) = []) : AgreeBut name es es' := by
  have silent {es : Assoc Text Value} {other : Text} (h : other ∉ es.map (·.1)) :
      es.get? other = none := by
    apply Option.eq_none_iff_forall_ne_some.2
    intro v found
    exact h (Assoc.mem_keys_of_get? found)
  intro other apart
  rw [silent (by simpa [only] using apart), silent (by simp [none_there])]

theorem load_overruled_hidden :
    let cap := usualFile "max_lines_of_asm: [0]"
    let demangler := usualFile "demangler: [0]"
    let nothing := usualFile "\x7b\x7d"
    let env : Environment := ⟨['7'], "names".toList⟩
    (∃ es es', IsMapping cap usualPath es ∧ IsMapping nothing usualPath es' ∧ env.cap ≠ [] ∧
      AgreeBut capName es es' ∧ load cap env none = load nothing env none) ∧
    (∃ es es', IsMapping demangler usualPath es ∧ IsMapping nothing usualPath es' ∧
      env.demangler ≠ [] ∧ AgreeBut demanglerName es es' ∧
      load demangler env none = load nothing env none) ∧
    load nothing env none = .ok { cap := 7, demangler := "names".toList } ∧ (1 : Int) ≤ 7 := by
  intro cap demangler nothing env
  obtain ⟨es, hes, keys⟩ : ∃ es, IsMapping cap usualPath es ∧ es.map (·.1) = [capName] :=
    exists_isMapping (by decide +kernel)
  obtain ⟨ts, hts, tool_keys⟩ :
      ∃ es, IsMapping demangler usualPath es ∧ es.map (·.1) = [demanglerName] :=
    exists_isMapping (by decide +kernel)
  obtain ⟨es', hes', no_keys⟩ : ∃ es, IsMapping nothing usualPath es ∧ es.map (·.1) = [] :=
    exists_isMapping (by decide +kernel)
  have set : env.cap ≠ [] := by decide
  have tool_set : env.demangler ≠ [] := by decide
  have loaded : load nothing env none = .ok { cap := 7, demangler := "names".toList } := by
    decide +kernel
  have agree := agreeBut_of_keys keys no_keys
  have tool_agree := agreeBut_of_keys tool_keys no_keys
  obtain ⟨same, -, -⟩ := load_overruled cap nothing env none
  obtain ⟨tool_same, -, -⟩ := load_overruled demangler nothing env none
  obtain ⟨-, -, succeeds⟩ := load_overruled nothing nothing env none
  exact ⟨⟨es, es', hes, hes', set, agree, (same es es' hes hes').1 set agree⟩,
    ⟨ts, es', hts, hes', tool_set, tool_agree, (tool_same ts es' hts hes').2 tool_set tool_agree⟩,
    loaded, (succeeds _ loaded).1⟩

end IrListing.Settings
