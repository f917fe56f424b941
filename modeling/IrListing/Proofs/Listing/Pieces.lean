import IrListing.Listing.Make
import IrListing.Proofs.Symbol.Pairing
import IrListing.Proofs.Symbol.Rename
import Mathlib.Data.List.SplitBy

namespace IrListing

open Text

namespace Symbol

/-- The longest rows of symbolic characters, and every other character by itself. -/
def pieces (t : Text) : List Text := t.splitBy fun c d => isSymbolic c && isSymbolic d

def namePieces (symbols : List Text) (g : Text → Text) (t : Text) : Text :=
  (pieces t).flatMap fun p => if p ∈ symbols then g p else p

theorem pieces_nil : pieces [] = [] := rfl

theorem pieces_cons {c : Char} (h : isSymbolic c = false) (t : Text) :
    pieces (c :: t) = [c] :: pieces t := by
  have apart : ∀ x ∈ [c].getLast?, ∀ y ∈ t.head?, (isSymbolic x && isSymbolic y) = false := by
    rintro x hx y -
    obtain rfl : c = x := Option.some.inj hx
    rw [h, Bool.false_and]
  exact List.splitBy_append apart

theorem pieces_row {s rest : Text} (ne : s ≠ []) (row : ∀ c ∈ s, isSymbolic c = true)
    (ends : ∀ c ∈ rest.head?, isSymbolic c = false) : pieces (s ++ rest) = s :: pieces rest := by
  have apart : ∀ x ∈ s.getLast?, ∀ y ∈ rest.head?, (isSymbolic x && isSymbolic y) = false := by
    intro x _ y hy
    rw [ends y hy, Bool.and_false]
  have whole : s.IsChain fun c d => (isSymbolic c && isSymbolic d) = true := by
    apply List.Pairwise.isChain
    apply List.pairwise_of_forall_mem_list
    intro c hc d hd
    rw [row c hc, row d hd, Bool.and_self]
  rw [pieces, List.splitBy_append apart, List.splitBy_of_isChain ne whole]
  rfl

@[elab_as_elim]
theorem pieces_induction {P : Text → Prop} (nil : P [])
    (other : ∀ c rest, isSymbolic c = false → P rest → P (c :: rest))
    (row : ∀ s rest, s ≠ [] → (∀ c ∈ s, isSymbolic c = true) →
      (∀ c ∈ rest.head?, isSymbolic c = false) → P rest → P (s ++ rest)) (t : Text) : P t := by
  induction h : t.length using Nat.strongRecOn generalizing t with
  | ind n ih =>
    subst h
    cases t with
    | nil => exact nil
    | cons c rest =>
      cases hc : isSymbolic c with
      | false => exact other c rest hc (ih _ (Nat.lt_succ_self _) rest rfl)
      | true =>
        have shorter := (List.dropWhile_sublist isSymbolic (l := rest)).length_le
        have later := ih _ (Nat.lt_succ_of_le shorter) (rest.dropWhile isSymbolic) rfl
        have parts := row (c :: rest.takeWhile isSymbolic) _ (by simp) ?_
          (fun _ => head?_dropWhile) later
        · rwa [List.cons_append, List.takeWhile_append_dropWhile] at parts
        · intro d hd
          rcases List.mem_cons.1 hd with rfl | hd
          · exact hc
          · exact of_mem_takeWhile hd

theorem standsAt_row_iff {s s' rest : Text} (row : ∀ c ∈ s, isSymbolic c = true)
    (row' : ∀ c ∈ s', isSymbolic c = true) (ends : ∀ c ∈ rest.head?, isSymbolic c = false) :
    standsAt s' (s ++ rest) = true ↔ s' = s := by
  rw [standsAt_iff]
  constructor
  · rintro ⟨rest', same, ends'⟩
    rw [← takeWhile_span row ends, same, takeWhile_span row' ends']
  · rintro rfl
    exact ⟨rest, rfl, ends⟩

theorem renameFrom_joined {names : Assoc Text Text} {s : Text}
    (row : ∀ c ∈ s, isSymbolic c = true) (rest : Text) :
    renameFrom names true (s ++ rest) = s ++ renameFrom names true rest := by
  induction s with
  | nil => rfl
  | cons c s ih =>
    rw [List.cons_append, renameFrom_cons (Or.inl rfl), row c List.mem_cons_self,
      ih fun d hd => row d (List.mem_cons_of_mem _ hd), List.cons_append]

namespace Renaming

variable {names : Assoc Text Text} {renamed : Text → Prop} {g : Text → Text}
  (R : Renaming names renamed g) (rows : ∀ s, renamed s → ∀ c ∈ s, isSymbolic c = true)
include R rows

theorem renameFrom_other {joined : Bool} {c : Char} (hc : isSymbolic c = false) (rest : Text) :
    renameFrom names joined (c :: rest) = c :: renameFrom names false rest := by
  have nothing : longestAt? names (c :: rest) = none := by
    apply R.longestAt?_eq_none
    intro s hs
    rw [Bool.eq_false_iff]
    intro stands
    obtain ⟨rest', e, -⟩ := standsAt_iff.1 stands
    obtain ⟨d, u, rfl, -⟩ := eq_cons_of_isMangled (R.isMangled s hs)
    obtain ⟨rfl, -⟩ := List.cons.inj e
    cases hc.symm.trans (rows _ hs _ List.mem_cons_self)
  rw [renameFrom_cons (Or.inr nothing), hc]

theorem renameFrom_row {s rest : Text} (ne : s ≠ []) (row : ∀ c ∈ s, isSymbolic c = true)
    (ends : ∀ c ∈ rest.head?, isSymbolic c = false) (keeps : ¬ renamed s → g s = s) :
    renameFrom names false (s ++ rest) = g s ++ renameFrom names true rest := by
  by_cases h : renamed s
  · have stands : standsAt s (s ++ rest) = true := (standsAt_row_iff row row ends).2 rfl
    obtain ⟨b, -, -, hb, -, found⟩ := R.exists_longestAt? h stands
    obtain rfl := (standsAt_row_iff row (rows b hb) ends).1 (of_longestAt? found).2.1
    have last : b.getLast?.any isSymbolic = true := by
      rw [List.getLast?_eq_some_getLast ne, Option.any_some, row _ (List.getLast_mem ne)]
    rw [renameFrom_symbol ne found, last]
  · have nothing : longestAt? names (s ++ rest) = none := by
      apply R.longestAt?_eq_none
      intro s' hs'
      rw [Bool.eq_false_iff]
      intro stands
      exact h ((standsAt_row_iff row (rows s' hs') ends).1 stands ▸ hs')
    rw [keeps h]
    cases s with
    | nil => exact absurd rfl ne
    | cons c s =>
      rw [List.cons_append] at nothing ⊢
      rw [renameFrom_cons (Or.inr nothing), row c List.mem_cons_self,
        renameFrom_joined fun d hd => row d (List.mem_cons_of_mem _ hd), List.cons_append]

theorem renameFrom_eq_flatMap (keeps : ∀ s, ¬ renamed s → g s = s) (t : Text) {joined : Bool}
    (apart : joined = true → ∀ c ∈ t.head?, isSymbolic c = false) :
    renameFrom names joined t = (pieces t).flatMap g := by
  induction t using pieces_induction generalizing joined with
  | nil => rw [renameFrom_nil, pieces_nil, List.flatMap_nil]
  | other c rest hc ih =>
    have kept : g [c] = [c] := by
      apply keeps
      intro h
      cases hc.symm.trans (rows _ h c List.mem_cons_self)
    rw [R.renameFrom_other rows hc, ih (by simp), pieces_cons hc, List.flatMap_cons, kept]
    rfl
  | row s rest ne row ends ih =>
    have new : joined = false := by
      cases joined with
      | false => rfl
      | true =>
        cases s with
        | nil => exact absurd rfl ne
        | cons c s => cases (row c List.mem_cons_self).symm.trans (apart rfl c rfl)
    rw [new, R.renameFrom_row rows ne row ends (keeps s), ih fun _ => ends, pieces_row ne row ends,
      List.flatMap_cons]

end Renaming

theorem quote_not_mem_row {s : Text} (row : ∀ c ∈ s, isSymbolic c = true) : '"' ∉ s := by
  intro h
  have : isSymbolic '"' = false := by decide
  cases this.symm.trans (row _ h)

theorem rename_eq_namePieces {names : Assoc Text Text} {symbols : List Text} {g : Text → Text}
    (mem : ∀ e, e ∈ names ↔ e.1 ∈ symbols ∧ e.2 = g e.1)
    (mangled : ∀ s ∈ symbols, isMangled s = true)
    (rows : ∀ s ∈ symbols, ∀ c ∈ s, isSymbolic c = true) (t : Text) :
    rename names t = namePieces symbols g t := by
  let named (p : Text) : Text := if p ∈ symbols then g p else p
  have mem' (e : Text × Text) : e ∈ names ↔ e.1 ∈ symbols ∧ e.2 = named e.1 := by
    rw [mem]
    apply and_congr_right
    intro he
    simp only [named, if_pos he]
  have R := renaming_filter mem' fun s hs => ⟨mangled s hs, quote_not_mem_row (rows s hs)⟩
  apply R.renameFrom_eq_flatMap (fun s hs => rows s hs.1)
  · intro s kept
    by_cases hs : s ∈ symbols
    · exact Decidable.not_not.1 fun ne => kept ⟨hs, ne⟩
    · exact if_neg hs
  · rintro ⟨⟩

theorem Tool.mem_names_iff {tool : Tool} {symbols : List Text} {names : Assoc Text Text}
    (h : (tool.ask symbols).result = .ok names) (e : Text × Text) :
    e ∈ names ↔ e.1 ∈ symbols ∧ names.get? e.1 = some e.2 := by
  constructor
  · intro he
    exact ⟨mem_of_mem_names h he, Assoc.get?_of_mem (nodup_names h) he⟩
  · rintro ⟨-, found⟩
    exact Assoc.mem_of_get? found

theorem Tool.exists_name {tool : Tool} {symbols : List Text} {names : Assoc Text Text}
    (h : (tool.ask symbols).result = .ok names) {s : Text} (hs : s ∈ symbols) :
    ∃ name, names.get? s = some name := by
  rw [← List.mem_eraseDups, ← map_fst_names h] at hs
  exact Assoc.exists_of_mem_keys hs

end Symbol

namespace Listing

open IrListing.Symbol

/-- When all symbols are rows of symbolic characters, lines are renamed piece by piece: a piece that
is a symbol gets its name, all else is copied, and the order of the symbols makes no difference. -/
theorem readable_namePieces {lines : List Line}
    (rows : ∀ s ∈ collect (lines.map (·.text)), ∀ c ∈ s, isSymbolic c = true) :
    (∀ tool names, (tool.ask (collect (lines.map (·.text)))).result = .ok names →
      ∃ g : Text → Text, (∀ s ∈ collect (lines.map (·.text)), names.get? s = some (g s)) ∧
        (readable tool lines).result = .ok (lines.map fun l =>
          { l with text := namePieces (collect (lines.map (·.text))) g l.text })) ∧
      ∀ (g : Text → Text) (symbols : List Text), symbols.Perm (collect (lines.map (·.text))) →
        ∀ t, rename (symbols.map fun s => (s, g s)) t =
          namePieces (collect (lines.map (·.text))) g t := by
  have mangled : ∀ s ∈ collect (lines.map (·.text)), isMangled s = true := by
    intro s hs
    exact (shape_of_mem_collect hs).1
  constructor
  · intro tool names asked
    let g (s : Text) : Text := (names.get? s).getD s
    have own : ∀ s ∈ collect (lines.map (·.text)), names.get? s = some (g s) := by
      intro s hs
      obtain ⟨name, found⟩ := Tool.exists_name asked hs
      simp only [g, found, Option.getD_some]
    have mem (e : Text × Text) :
        e ∈ names ↔ e.1 ∈ collect (lines.map (·.text)) ∧ e.2 = g e.1 := by
      rw [Tool.mem_names_iff asked]
      apply and_congr_right
      intro he
      rw [own _ he, Option.some.injEq, eq_comm]
    refine ⟨g, own, ?_⟩
    rw [readable, Traced.result_map_eq_ok_iff]
    refine ⟨names, asked, ?_⟩
    simp only [rename_eq_namePieces mem mangled rows]
  · intro g symbols order t
    apply rename_eq_namePieces _ mangled rows
    intro e
    rw [← order.mem_iff, List.mem_map]
    constructor
    · rintro ⟨s, hs, rfl⟩
      exact ⟨hs, rfl⟩
    · rintro ⟨hs, name⟩
      exact ⟨e.1, hs, Prod.ext rfl name.symm⟩

def lookalikes : List Line := [{ text := "call @_Z1a(@_Z1ab, _Z1a.x, %c_Z1a)".toList }]

def crossed (s : Text) : Text :=
  if s = "_Z1a".toList then "_Z1ab".toList else "f(_Z1a)".toList

theorem readable_namePieces_lookalikes :
    (∀ s ∈ collect (lookalikes.map (·.text)), ∀ c ∈ s, isSymbolic c = true) ∧
      (∃ names, ((Tool.naming crossed).ask (collect (lookalikes.map (·.text)))).result =
          .ok names ∧
        ∃ g : Text → Text, (∀ s ∈ collect (lookalikes.map (·.text)), names.get? s = some (g s)) ∧
          (readable (.naming crossed) lookalikes).result = .ok (lookalikes.map fun l =>
            { l with text := namePieces (collect (lookalikes.map (·.text))) g l.text })) ∧
      ["_Z1ab".toList, "_Z1a".toList].Perm (collect (lookalikes.map (·.text))) ∧
      rename (["_Z1ab".toList, "_Z1a".toList].map fun s => (s, crossed s))
          "call @_Z1a(@_Z1ab, _Z1a.x, %c_Z1a)".toList =
        "call @_Z1ab(@f(_Z1a), _Z1a.x, %c_Z1a)".toList := by
  have collected : collect (lookalikes.map (·.text)) = ["_Z1a".toList, "_Z1ab".toList] := by
    decide +kernel
  have rows : ∀ s ∈ collect (lookalikes.map (·.text)), ∀ c ∈ s, isSymbolic c = true := by
    simp only [← List.all_eq_true, collected]
    decide
  have order : ["_Z1ab".toList, "_Z1a".toList].Perm (collect (lookalikes.map (·.text))) := by
    rw [collected]
    exact List.Perm.swap _ _ _
  have oneLine : ∀ s ∈ collect (lookalikes.map (·.text)), '\n' ∉ s := by
    rw [collected]
    decide
  have unbroken : ∀ s ∈ collect (lookalikes.map (·.text)), ∀ c ∈ crossed s, isBreak c = false := by
    simp only [← Bool.not_eq_true, ← List.any_eq_false, collected]
    decide +kernel
  have asked := (Tool.naming_answers crossed).result_ask oneLine unbroken
  obtain ⟨named, any⟩ := readable_namePieces rows
  refine ⟨rows, ⟨_, asked, named _ _ asked⟩, order, ?_⟩
  rw [any crossed _ order, collected]
  decide +kernel

end Listing

end IrListing
