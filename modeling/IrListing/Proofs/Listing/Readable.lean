import IrListing.Listing.Make
import IrListing.Proofs.Symbol.Rename
import IrListing.Proofs.Symbol.Tool

namespace IrListing.Listing

open Text IrListing.Symbol

def Changed (lines : List Line) (g : Text → Text) (s : Text) : Prop :=
  s ∈ collect (lines.map (·.text)) ∧ g s ≠ s

instance (lines : List Line) (g : Text → Text) : DecidablePred (Changed lines g) :=
  fun _ => inferInstanceAs (Decidable (_ ∧ _))

structure Nameable (lines : List Line) (g : Text → Text) : Prop where
  oneLine : ∀ s ∈ collect (lines.map (·.text)), '\n' ∉ s
  unbroken : ∀ s ∈ collect (lines.map (·.text)), ∀ c ∈ g s, isBreak c = false

theorem nameable_iff {lines : List Line} {g : Text → Text} :
    Nameable lines g ↔ ∀ s ∈ collect (lines.map (·.text)),
      '\n' ∉ s ∧ (g s).all (!isBreak ·) = true := by
  simp only [List.all_eq_true, Bool.not_eq_true']
  constructor
  · intro h s hs
    exact ⟨h.oneLine s hs, h.unbroken s hs⟩
  · intro h
    constructor
    · intro s hs
      exact (h s hs).1
    · intro s hs
      exact (h s hs).2

instance (lines : List Line) (g : Text → Text) : Decidable (Nameable lines g) :=
  decidable_of_iff _ nameable_iff.symm

theorem Nameable.result_readable {lines : List Line} {g : Text → Text} (h : Nameable lines g)
    {tool : Tool} (answers : tool.Answers g) :
    ∃ names, Renaming names (Changed lines g) g ∧ (readable tool lines).result =
      .ok (lines.map fun l => { l with text := renameFrom names false l.text }) := by
  have asked := answers.result_ask h.oneLine h.unbroken
  have mem := Assoc.mem_ofList_map_iff g (collect (lines.map (·.text)))
  refine ⟨_, renaming_filter mem fun _ => shape_of_mem_collect, ?_⟩
  simp only [readable, Traced.map, asked]
  rfl

theorem clear_changed_iff {lines : List Line} {g : Text → Text} {name rest : Text} :
    Clear (Changed lines g) name rest ↔
      (∀ s ∈ collect (lines.map (·.text)), Changed lines g s →
        standsAt s (name ++ rest) = true → s.length ≤ name.length) ∧
      (¬ Changed lines g name →
        ∀ s ∈ collect (lines.map (·.text)), Changed lines g s → ¬ StandsIn s name) := by
  constructor
  · intro h
    constructor
    · intro s _ hs
      exact h.longer s hs
    · intro kept s _ hs
      exact h.inner kept s hs
  · rintro ⟨longer, inner⟩
    constructor
    · intro s hs
      exact longer s hs.1 hs
    · intro kept s hs
      exact inner kept s hs.1 hs

instance (lines : List Line) (g : Text → Text) (name rest : Text) :
    Decidable (Clear (Changed lines g) name rest) :=
  decidable_of_iff _ clear_changed_iff.symm

instance decidableAllClear (lines : List Line) (g : Text → Text) :
    (parts : List (Text × Text)) → Decidable (AllClear (Changed lines g) parts)
  | [] => .isTrue trivial
  | _ :: parts =>
    have := decidableAllClear lines g parts
    inferInstanceAs (Decidable (_ ∧ _))

def marked (g : Text → Text) (s : Text) : Text := if g s = s then s else tally s

theorem marked_eq_self_iff {g : Text → Text} {s : Text} : marked g s = s ↔ g s = s := by
  unfold marked
  split
  · rename_i kept
    simp [kept]
  · rename_i ne
    have : tally s ≠ s := fun same => by simpa [same] using length_tally s
    simp [ne, this]

theorem changed_marked_iff {lines : List Line} {g : Text → Text} {s : Text} :
    Changed lines (marked g) s ↔ Changed lines g s :=
  and_congr_right fun _ => not_congr marked_eq_self_iff

theorem Nameable.marked {lines : List Line} {g : Text → Text} (h : Nameable lines g) :
    Nameable lines (marked g) where
  oneLine := h.oneLine
  unbroken := by
    intro s hs c hc
    unfold Listing.marked at hc
    split at hc
    · rename_i kept
      exact h.unbroken s hs c (by rwa [kept])
    · simp only [tally, List.mem_append, List.mem_replicate, List.mem_singleton] at hc
      obtain ⟨-, rfl⟩ | rfl := hc
      · decide
      · decide

/-- A listing line has its references each under its own name, whatever the names of the symbols
that change, exactly when none of these symbols gets in the way. -/
theorem readable_own_names_iff {lines : List Line} {g₀ : Text → Text} {i : Nat} {line : Line}
    (found : lines[i]? = some line) (nameable : Nameable lines g₀)
    (unmarked : (cut line.text).Unmarked) :
    (∀ tool g, tool.Answers g → Nameable lines g →
        (∀ s, Changed lines g s ↔ Changed lines g₀ s) →
        ∃ out, (readable tool lines).result = .ok out ∧
          out[i]? = some { line with text := (cut line.text).fill g }) ↔
      AllClear (Changed lines g₀) (cut line.text).parts := by
  have collected : ∀ s ∈ references line.text, s ∈ collect (lines.map (·.text)) := by
    intro s hs
    exact mem_collect_iff.2 ⟨_, List.mem_map_of_mem (List.mem_of_getElem? found), hs⟩
  have keeps (g : Text → Text) :
      ∀ s ∈ references line.text, ¬ Changed lines g s → g s = s := by
    intro s hs kept
    exact Decidable.not_not.1 fun ne => kept ⟨collected s hs, ne⟩
  constructor
  · intro own
    obtain ⟨out, done, place⟩ := own _ _ (Tool.naming_answers (marked g₀)) nameable.marked
      fun _ => changed_marked_iff
    obtain ⟨names, R, result⟩ := nameable.marked.result_readable (Tool.naming_answers (marked g₀))
    obtain rfl := Except.ok.inj (result.symm.trans done)
    have renamed : renameFrom names false line.text = (cut line.text).fill (marked g₀) := by
      simpa [found] using place
    have T : Telling (Changed lines (marked g₀)) (marked g₀) := by
      apply telling_of_tally R.isMangled
      intro s hs
      apply if_neg
      intro kept
      exact hs.2 (marked_eq_self_iff.2 kept)
    have same : Changed lines (marked g₀) = Changed lines g₀ := by
      funext s
      exact propext changed_marked_iff
    exact same ▸ R.allClear_of_renameFrom T (keeps _) unmarked false renamed
  · intro clear tool g answers nameable same
    obtain ⟨names, R, result⟩ := nameable.result_readable answers
    refine ⟨_, result, ?_⟩
    have same : Changed lines g = Changed lines g₀ := by
      funext s
      exact propext (same s)
    have renamed := R.renameFrom_eq_fill (keeps g) unmarked (same ▸ clear) false
    simp [found, renamed]

def overloads : List Line :=
  [{ text := "  call void @_Z3fooi(), !dbg !4".toList, scope := some "!4".toList },
    { text := "  @\"_Z3fooij\" @_Z3fooi @_Znwm".toList }]

def overloadName (s : Text) : Text :=
  if s = "_Z3fooi".toList then "foo(int)".toList
  else if s = "_Z3fooij".toList then "foo(int, unsigned int)".toList
  else s

theorem overloads_own_names :
    overloads[1]? = some { text := "  @\"_Z3fooij\" @_Z3fooi @_Znwm".toList } ∧
      Nameable overloads overloadName ∧
      (cut "  @\"_Z3fooij\" @_Z3fooi @_Znwm".toList).Unmarked ∧
      ∃ out, (readable (.naming overloadName) overloads).result = .ok out ∧
        out[1]? = some { text := "  @\"foo(int, unsigned int)\" @foo(int) @_Znwm".toList } := by
  have named : Nameable overloads overloadName := by decide +kernel
  have unmarked : (cut "  @\"_Z3fooij\" @_Z3fooi @_Znwm".toList).Unmarked := by decide +kernel
  have clear : AllClear (Changed overloads overloadName)
      (cut "  @\"_Z3fooij\" @_Z3fooi @_Znwm".toList).parts := by decide +kernel
  obtain ⟨out, done, place⟩ := (readable_own_names_iff (i := 1) rfl named unmarked).2 clear
    (.naming overloadName) overloadName (Tool.naming_answers _) named fun _ => Iff.rfl
  refine ⟨rfl, named, unmarked, out, done, place.trans ?_⟩
  decide +kernel

def versions : List Line :=
  [{ text := "  call void @_Z3foov()".toList }, { text := "  call void @\"_Z3foov@V1\"()".toList }]

def versionName (s : Text) : Text := if s = "_Z3foov".toList then "foo()".toList else s

theorem versions_lose_name :
    Tool.Answers (.naming versionName) versionName ∧ Nameable versions versionName ∧
      (cut "  call void @\"_Z3foov@V1\"()".toList).Unmarked ∧
      (cut "  call void @\"_Z3foov@V1\"()".toList).fill versionName =
        "  call void @\"_Z3foov@V1\"()".toList ∧
      (readable (.naming versionName) versions).result.toOption =
        some [{ text := "  call void @foo()()".toList },
          { text := "  call void @\"foo()@V1\"()".toList }] := by
  refine ⟨Tool.naming_answers _, by decide +kernel, by decide +kernel, by decide +kernel, ?_⟩
  decide +kernel

end IrListing.Listing
