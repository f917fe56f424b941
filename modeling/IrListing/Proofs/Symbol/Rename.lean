import IrListing.Symbol.Rename
import IrListing.Proofs.Symbol.Cut

namespace IrListing.Symbol

open Text

theorem standsAt_iff {s t : Text} :
    standsAt s t = true ↔ ∃ rest, t = s ++ rest ∧ ∀ c ∈ rest.head?, isSymbolic c = false := by
  unfold standsAt
  constructor
  · intro h
    split at h
    · rename_i c rest found
      exact ⟨c :: rest, after?_eq_some_iff.1 found, by simpa using h⟩
    · rename_i found
      exact ⟨[], after?_eq_some_iff.1 found, by simp⟩
    · cases h
  · rintro ⟨rest, rfl, ends⟩
    rw [after?_append]
    cases rest with
    | nil => rfl
    | cons c rest => simpa using ends c rfl

theorem foldl_longer (entries : List (Text × Text)) (first : Text × Text) :
    ∃ b ∈ first :: entries, entries.foldl longer (some first) = some b ∧
      ∀ e ∈ first :: entries, e.1.length ≤ b.1.length := by
  induction entries generalizing first with
  | nil => exact ⟨first, by simp, rfl, by simp⟩
  | cons e entries ih =>
    by_cases h : first.1.length < e.1.length
    · obtain ⟨b, hb, found, most⟩ := ih e
      refine ⟨b, List.mem_cons_of_mem _ hb, by simp [longer, h, found], ?_⟩
      rintro d (_ | ⟨_, hd⟩)
      · have := most e List.mem_cons_self
        omega
      · exact most d hd
    · obtain ⟨b, hb, found, most⟩ := ih first
      refine ⟨b, ?_, by simp [longer, h, found], ?_⟩
      · rcases List.mem_cons.1 hb with rfl | hb
        · exact List.mem_cons_self
        · exact List.mem_cons_of_mem _ (List.mem_cons_of_mem _ hb)
      · have bound := most first List.mem_cons_self
        rintro d (_ | ⟨_, _ | ⟨_, hd⟩⟩)
        · exact bound
        · omega
        · exact most d (List.mem_cons_of_mem _ hd)

theorem longestAt?_eq_none_iff {names : Assoc Text Text} {t : Text} :
    longestAt? names t = none ↔ ∀ e ∈ names, standsAt e.1 t = false := by
  rw [longestAt?]
  cases h : names.filter (standsAt ·.1 t) with
  | nil => simpa [List.filter_eq_nil_iff] using h
  | cons e entries =>
    obtain ⟨b, -, found, -⟩ := foldl_longer entries e
    have he : e ∈ names.filter (standsAt ·.1 t) := h ▸ List.mem_cons_self
    simp only [List.mem_filter] at he
    simp only [List.foldl_cons, longer, found, reduceCtorEq, false_iff]
    exact fun all => by simp [all e he.1] at he

theorem of_longestAt? {names : Assoc Text Text} {t : Text} {b : Text × Text}
    (h : longestAt? names t = some b) :
    b ∈ names ∧ standsAt b.1 t = true ∧
      ∀ e ∈ names, standsAt e.1 t = true → e.1.length ≤ b.1.length := by
  rw [longestAt?] at h
  cases standing : names.filter (standsAt ·.1 t) with
  | nil => simp [standing] at h
  | cons e entries =>
    obtain ⟨b', hb, found, most⟩ := foldl_longer entries e
    rw [standing, List.foldl_cons, longer, found] at h
    cases h
    rw [← standing] at hb most
    obtain ⟨mem, stands⟩ := List.mem_filter.1 hb
    exact ⟨mem, stands, fun d hd sd => most d (List.mem_filter.2 ⟨hd, sd⟩)⟩

theorem renameFrom_nil (names : Assoc Text Text) (joined : Bool) :
    renameFrom names joined [] = [] := by
  rw [renameFrom]

theorem renameFrom_cons {names : Assoc Text Text} {joined : Bool} {c : Char} {rest : Text}
    (h : joined = true ∨ longestAt? names (c :: rest) = none) :
    renameFrom names joined (c :: rest) = c :: renameFrom names (isSymbolic c) rest := by
  rw [renameFrom]
  split
  · rename_i symbol name found
    rcases h with rfl | h
    · cases found
    · cases joined
      · rw [if_neg Bool.false_ne_true, h] at found
        cases found
      · cases found
  · rfl

theorem renameFrom_symbol {names : Assoc Text Text} {symbol name rest : Text} (ne : symbol ≠ [])
    (h : longestAt? names (symbol ++ rest) = some (symbol, name)) :
    renameFrom names false (symbol ++ rest) =
      name ++ renameFrom names (symbol.getLast?.any isSymbolic) rest := by
  cases symbol with
  | nil => exact absurd rfl ne
  | cons c s =>
    rw [List.cons_append, renameFrom]
    split
    · rename_i symbol' name' found
      rw [if_neg Bool.false_ne_true, ← List.cons_append, h] at found
      cases found
      simp
    · rename_i found
      rw [if_neg Bool.false_ne_true, ← List.cons_append, h] at found
      cases found

def StandsIn (s t : Text) : Prop :=
  ∃ a b, t = a ++ b ∧ a.getLast?.any isSymbolic = false ∧ standsAt s b = true

theorem standsIn_iff {s t : Text} :
    StandsIn s t ↔ ∃ n ∈ List.range (t.length + 1),
      (t.take n).getLast?.any isSymbolic = false ∧ standsAt s (t.drop n) = true := by
  constructor
  · rintro ⟨a, b, rfl, apart, stands⟩
    refine ⟨a.length, List.mem_range.2 ?_, ?_, ?_⟩
    · simp only [List.length_append]
      omega
    · rwa [List.take_left]
    · rwa [List.drop_left]
  · rintro ⟨n, -, apart, stands⟩
    exact ⟨t.take n, t.drop n, (List.take_append_drop n t).symm, apart, stands⟩

instance (s t : Text) : Decidable (StandsIn s t) := decidable_of_iff _ standsIn_iff.symm

/-- Nothing that is renamed gets in the way of a reference to `name` with `rest` behind it. A longer
symbol could run on into the rest, and a shorter one could stand inside a name that is kept. -/
structure Clear (renamed : Text → Prop) (name rest : Text) : Prop where
  longer : ∀ s, renamed s → standsAt s (name ++ rest) = true → s.length ≤ name.length
  inner : ¬ renamed name → ∀ s, renamed s → ¬ StandsIn s name

def AllClear (renamed : Text → Prop) : List (Text × Text) → Prop
  | [] => True
  | (name, t) :: parts =>
    Clear renamed name (Cut.fill id ⟨t, parts⟩) ∧ AllClear renamed parts

theorem allClear_symbol {renamed : Text → Prop} {name : Text} {k : Cut} :
    AllClear renamed (k.symbol name).parts ↔
      Clear renamed name (k.fill id) ∧ AllClear renamed k.parts :=
  Iff.rfl

structure Bounded (name rest : Text) : Prop where
  ends : ∀ c ∈ rest.head?, isSymbolic c = false
  row_or_quote : (∀ c ∈ name, isSymbolic c = true) ∨ rest.head? = some '"'

theorem bounded_quote (name rest : Text) : Bounded name ('"' :: rest) where
  ends := by
    rintro c ⟨⟩
    decide
  row_or_quote := Or.inr rfl

structure Renaming (names : Assoc Text Text) (renamed : Text → Prop) (g : Text → Text) : Prop where
  mem_iff : ∀ e, e ∈ names ↔ renamed e.1 ∧ e.2 = g e.1
  isMangled : ∀ s, renamed s → isMangled s = true
  unquoted : ∀ s, renamed s → '"' ∉ s

theorem renaming_filter {names : Assoc Text Text} {symbols : List Text} {g : Text → Text}
    (mem : ∀ e, e ∈ names ↔ e.1 ∈ symbols ∧ e.2 = g e.1)
    (shape : ∀ s ∈ symbols, isMangled s = true ∧ '"' ∉ s) :
    Renaming (names.filter fun e => e.1 ≠ e.2) (fun s => s ∈ symbols ∧ g s ≠ s) g where
  mem_iff := by
    intro e
    rw [List.mem_filter, mem]
    constructor
    · rintro ⟨⟨he, name⟩, ne⟩
      exact ⟨⟨he, fun same => by simp [name, same] at ne⟩, name⟩
    · rintro ⟨⟨he, ne⟩, name⟩
      exact ⟨⟨he, name⟩, by simpa [name] using Ne.symm ne⟩
  isMangled s hs := (shape s hs.1).1
  unquoted s hs := (shape s hs.1).2

namespace Renaming

variable {names : Assoc Text Text} {renamed : Text → Prop} {g : Text → Text}
  (R : Renaming names renamed g)
include R

theorem longestAt?_eq_none {t : Text} (h : ∀ s, renamed s → standsAt s t = false) :
    longestAt? names t = none :=
  longestAt?_eq_none_iff.2 fun e he => h e.1 ((R.mem_iff e).1 he).1

theorem exists_longestAt? {s t : Text} (hs : renamed s) (stands : standsAt s t = true) :
    ∃ b rest, t = b ++ rest ∧ renamed b ∧ s.length ≤ b.length ∧
      longestAt? names t = some (b, g b) := by
  cases found : longestAt? names t with
  | none =>
    have := longestAt?_eq_none_iff.1 found (s, g s) ((R.mem_iff _).2 ⟨hs, rfl⟩)
    simp [stands] at this
  | some b =>
    obtain ⟨mem, standing, most⟩ := of_longestAt? found
    obtain ⟨hb, name⟩ := (R.mem_iff b).1 mem
    obtain ⟨rest, rfl, -⟩ := standsAt_iff.1 standing
    exact ⟨b.1, rest, rfl, hb, most (s, g s) ((R.mem_iff _).2 ⟨hs, rfl⟩) stands,
      by rw [← name]⟩

theorem standsIn_of_standsAt {s a b name rest : Text} (clear : Clear renamed name rest)
    (bounded : Bounded name rest) (hs : renamed s) (split : name = a ++ b)
    (apart : a.getLast?.any isSymbolic = false) (stands : standsAt s (b ++ rest) = true) :
    StandsIn s name := by
  refine ⟨a, b, split, apart, ?_⟩
  obtain ⟨rest', e, ends⟩ := standsAt_iff.1 stands
  rw [standsAt_iff]
  rcases List.append_eq_append_iff.1 e with ⟨u, rfl, rfl⟩ | ⟨u, rfl, rfl⟩
  · cases u with
    | nil => exact ⟨[], by simp, by simp⟩
    | cons c u =>
      -- the symbol would go beyond the name
      exfalso
      rcases bounded.row_or_quote with row | quote
      · cases List.eq_nil_or_concat a with
        | inl nil =>
          subst nil split
          have := clear.longer _ hs stands
          simp only [List.length_append, List.length_cons] at this
          omega
        | inr last =>
          obtain ⟨a', x, rfl⟩ := last
          have : isSymbolic x = true := row x (by simp [split])
          simp [this] at apart
      · obtain rfl : c = '"' := by simpa using quote
        exact R.unquoted _ hs (by simp)
  · refine ⟨u, rfl, ?_⟩
    cases u with
    | nil => simp
    | cons c u => exact ends

theorem renameFrom_kept {name rest : Text} (clear : Clear renamed name rest)
    (bounded : Bounded name rest) (kept : ¬ renamed name) (a b : Text) (split : name = a ++ b) :
    renameFrom names (a.getLast?.any isSymbolic) (b ++ rest) =
      b ++ renameFrom names (name.getLast?.any isSymbolic) rest := by
  induction b generalizing a with
  | nil => simp [split]
  | cons x b ih =>
    have copied :
        a.getLast?.any isSymbolic = true ∨ longestAt? names (x :: (b ++ rest)) = none := by
      cases apart : a.getLast?.any isSymbolic with
      | true => exact Or.inl rfl
      | false =>
        right
        apply R.longestAt?_eq_none
        intro s hs
        rw [Bool.eq_false_iff]
        intro stands
        exact clear.inner kept s hs (R.standsIn_of_standsAt clear bounded hs split apart stands)
    have next := ih (a ++ [x]) (by simp [split])
    rw [List.getLast?_concat, Option.any_some] at next
    rw [List.cons_append, renameFrom_cons copied, next, List.cons_append]

theorem renameFrom_clear {name rest : Text} (clear : Clear renamed name rest)
    (bounded : Bounded name rest) (mangled : Symbol.isMangled name = true)
    (keeps : ¬ renamed name → g name = name) :
    renameFrom names false (name ++ rest) =
      g name ++ renameFrom names (name.getLast?.any isSymbolic) rest := by
  by_cases h : renamed name
  · have stands : standsAt name (name ++ rest) = true :=
      standsAt_iff.2 ⟨rest, rfl, bounded.ends⟩
    obtain ⟨b, rest', e, hb, longest, found⟩ := R.exists_longestAt? h stands
    have same : b.length = name.length :=
      Nat.le_antisymm (clear.longer b hb (of_longestAt? found).2.1) longest
    obtain ⟨rfl, -⟩ := List.append_inj e.symm same
    obtain ⟨c, u, rfl, -⟩ := eq_cons_of_isMangled mangled
    exact renameFrom_symbol (by simp) found
  · rw [keeps h]
    exact R.renameFrom_kept clear bounded h [] name rfl

theorem standsAt_of_ne {s rest : Text} {c : Char} (hs : renamed s) (h : c ≠ '_') :
    standsAt s (c :: rest) = false := by
  obtain ⟨_, _, rfl, -⟩ := eq_cons_of_isMangled (R.isMangled s hs)
  simp [standsAt, after?, h.symm]

theorem renameFrom_ne {joined : Bool} {c : Char} {rest : Text} (h : c ≠ '_') :
    renameFrom names joined (c :: rest) = c :: renameFrom names (isSymbolic c) rest :=
  renameFrom_cons (Or.inr (R.longestAt?_eq_none fun _ hs => R.standsAt_of_ne hs h))

theorem renameFrom_at (joined : Bool) (rest : Text) :
    renameFrom names joined ('@' :: rest) = '@' :: renameFrom names false rest := by
  rw [R.renameFrom_ne (by decide), show isSymbolic '@' = false by decide]

theorem renameFrom_quote (joined : Bool) (rest : Text) :
    renameFrom names joined ('"' :: rest) = '"' :: renameFrom names false rest := by
  rw [R.renameFrom_ne (by decide), show isSymbolic '"' = false by decide]

theorem renameFrom_plain {joined : Bool} {c : Char} {rest : Text}
    (unmarked : ((cut rest).behind [c]).Unmarked) :
    renameFrom names joined (c :: rest) = c :: renameFrom names (isSymbolic c) rest := by
  apply renameFrom_cons
  right
  apply R.longestAt?_eq_none
  intro s hs
  rw [Bool.eq_false_iff]
  intro stands
  obtain ⟨rest', e, -⟩ := standsAt_iff.1 stands
  obtain ⟨x, u, rfl, mark⟩ := eq_cons_of_isMangled (R.isMangled s hs)
  simp only [List.cons_append, List.cons.injEq] at e
  obtain ⟨rfl, rfl⟩ := e
  have first := head?_lead_cut (x :: (u ++ rest'))
  obtain ⟨lead, hlead⟩ : ∃ lead, (cut (x :: (u ++ rest'))).lead = x :: lead := by
    cases hl : (cut (x :: (u ++ rest'))).lead with
    | nil => simp [hl] at first
    | cons y lead => exact ⟨lead, by simpa [hl] using first⟩
  have absent := unmarked _ List.mem_cons_self
  simp only [Cut.behind, hlead, List.singleton_append] at absent
  rcases mark with rfl | rfl
  · simp [has, startsWith, after?] at absent
  · simp [has, startsWith, after?] at absent

theorem renameFrom_eq_fill {t : Text} (keeps : ∀ s ∈ references t, ¬ renamed s → g s = s)
    (unmarked : (cut t).Unmarked) (clear : AllClear renamed (cut t).parts) (joined : Bool) :
    renameFrom names joined t = (cut t).fill g := by
  induction t using cut_induction generalizing joined with
  | nil => simp [renameFrom_nil, Cut.fill]
  | plain c rest h ih =>
    rw [cut_plain h] at unmarked clear ⊢
    rw [references_cons_of_plain h] at keeps
    rw [R.renameFrom_plain unmarked, ih keeps unmarked.of_behind clear, Cut.fill_behind]
    rfl
  | quoted name rest mangled unquoted ih =>
    rw [cut_quoted mangled unquoted] at unmarked clear ⊢
    rw [references_cons_of_reference (.quoted mangled unquoted)] at keeps
    obtain ⟨here, later⟩ := allClear_symbol.1 clear
    rw [Cut.fill_behind, fill_id_cut] at here
    have own := R.renameFrom_clear here (bounded_quote name rest) mangled (keeps name (by simp))
    have after :=
      ih (fun s hs => keeps s (by simp [hs])) unmarked.of_behind.of_symbol.of_behind later
    rw [List.singleton_append] at own
    rw [R.renameFrom_at, R.renameFrom_quote, own, R.renameFrom_quote, after]
    simp
  | bare name rest mangled row ends ih =>
    rw [cut_bare mangled row ends] at unmarked clear ⊢
    rw [references_cons_of_reference (.bare mangled row ends)] at keeps
    obtain ⟨here, later⟩ := allClear_symbol.1 clear
    rw [fill_id_cut] at here
    have own := R.renameFrom_clear here ⟨ends, Or.inl row⟩ mangled (keeps name (by simp))
    have after := ih (fun s hs => keeps s (by simp [hs])) unmarked.of_behind.of_symbol later
    rw [R.renameFrom_at, own, after]
    simp

end Renaming

/-- Names that begin like no symbol and tell how long their symbols are, whatever follows. -/
structure Telling (renamed : Text → Prop) (g : Text → Text) : Prop where
  start : ∀ s, renamed s → ∃ c u, g s = c :: u ∧ c ≠ '_'
  length : ∀ s s' x y, renamed s → renamed s' → g s ++ x = g s' ++ y → s.length = s'.length

def tally (s : Text) : Text := List.replicate s.length '!' ++ ['?']

theorem length_tally (s : Text) : (tally s).length = s.length + 1 := by
  simp [tally]

theorem length_eq_of_tally_append {s s' x y : Text} (h : tally s ++ x = tally s' ++ y) :
    s.length = s'.length := by
  unfold tally at h
  generalize s.length = n, s'.length = m at h
  induction n generalizing m with
  | zero => cases m <;> simp [List.replicate_succ] at h ⊢
  | succ n ih =>
    cases m with
    | zero => simp [List.replicate_succ] at h
    | succ m => exact congrArg (· + 1) (ih m (List.cons.inj h).2)

theorem telling_of_tally {renamed : Text → Prop} {g : Text → Text}
    (mangled : ∀ s, renamed s → isMangled s = true) (h : ∀ s, renamed s → g s = tally s) :
    Telling renamed g where
  start := by
    intro s hs
    obtain ⟨c, u, rfl, -⟩ := eq_cons_of_isMangled (mangled s hs)
    exact ⟨'!', _, h _ hs, by decide⟩
  length := by
    intro s s' x y hs hs' e
    rw [h s hs, h s' hs'] at e
    exact length_eq_of_tally_append e

namespace Renaming

variable {names : Assoc Text Text} {renamed : Text → Prop} {g : Text → Text}
  (R : Renaming names renamed g) (T : Telling renamed g)
include R T

theorem renameFrom_ne_of_standsAt {s t : Text} (hs : renamed s) (stands : standsAt s t = true) :
    ∀ z, renameFrom names false t ≠ '_' :: z := by
  intro z e
  obtain ⟨b, rest, rfl, hb, -, found⟩ := R.exists_longestAt? hs stands
  obtain ⟨_, _, rfl, -⟩ := eq_cons_of_isMangled (R.isMangled b hb)
  rw [renameFrom_symbol (by simp) found] at e
  obtain ⟨c, u, name, hc⟩ := T.start _ hb
  rw [name] at e
  exact hc (List.cons.inj e).1

theorem renameFrom_ne_of_standsAt_behind {s b : Text} (hs : renamed s)
    (stands : standsAt s ('_' :: b) = true) (a z : Text) (joined : Bool)
    (apart : (a.getLast?.map isSymbolic).getD joined = false) :
    renameFrom names joined (a ++ '_' :: b) ≠ a ++ '_' :: z := by
  induction a generalizing joined with
  | nil =>
    obtain rfl : joined = false := apart
    exact R.renameFrom_ne_of_standsAt T hs stands z
  | cons x a ih =>
    intro e
    by_cases copied : joined = true ∨ longestAt? names (x :: (a ++ '_' :: b)) = none
    · rw [List.cons_append, renameFrom_cons copied] at e
      refine ih (isSymbolic x) ?_ (List.cons.inj e).2
      cases a with
      | nil => exact apart
      | cons y a =>
        rw [List.getLast?_cons_cons, List.getLast?_eq_some_getLast (by simp)] at apart
        rw [List.getLast?_eq_some_getLast (by simp)]
        exact apart
    · rw [not_or, Bool.not_eq_true] at copied
      obtain ⟨rfl, found⟩ := copied
      cases hl : longestAt? names (x :: (a ++ '_' :: b)) with
      | none => exact found hl
      | some d =>
        obtain ⟨mem, standing, -⟩ := of_longestAt? hl
        have hd := ((R.mem_iff d).1 mem).1
        obtain ⟨rest, split, -⟩ := standsAt_iff.1 standing
        obtain ⟨_, _, first, -⟩ := eq_cons_of_isMangled (R.isMangled _ hd)
        rw [first] at split
        obtain ⟨rfl, -⟩ := List.cons.inj split
        exact R.renameFrom_ne_of_standsAt T hd standing _ e

theorem clear_of_renameFrom {name rest z : Text} (bounded : Bounded name rest)
    (mangled : Symbol.isMangled name = true) (keeps : ¬ renamed name → g name = name)
    (h : renameFrom names false (name ++ rest) = g name ++ z) : Clear renamed name rest where
  longer := by
    intro s hs stands
    by_cases hn : renamed name
    · obtain ⟨b, rest', e, hb, longest, found⟩ := R.exists_longestAt? hs stands
      obtain ⟨_, _, first, -⟩ := eq_cons_of_isMangled (R.isMangled b hb)
      rw [e] at found h
      rw [renameFrom_symbol (by simp [first]) found] at h
      exact T.length b name _ _ hb hn h ▸ longest
    · obtain ⟨c, u, first, -⟩ := eq_cons_of_isMangled mangled
      have own : g name ++ z = '_' :: (c :: u ++ z) := by
        rw [keeps hn, first]
        rfl
      exact absurd (h.trans own) (R.renameFrom_ne_of_standsAt T hs stands _)
  inner := by
    rintro hn s hs ⟨a, b, rfl, apart, stands⟩
    obtain ⟨rest', rfl, ends⟩ := standsAt_iff.1 stands
    have further : standsAt s (s ++ (rest' ++ rest)) = true := by
      refine standsAt_iff.2 ⟨rest' ++ rest, rfl, ?_⟩
      cases rest' with
      | nil => exact bounded.ends
      | cons c rest' => exact ends
    obtain ⟨c, u, rfl, -⟩ := eq_cons_of_isMangled (R.isMangled s hs)
    have alone : (a.getLast?.map isSymbolic).getD false = false := by
      cases hl : a.getLast? with
      | none => rfl
      | some x => simpa [hl] using apart
    rw [keeps hn] at h
    apply R.renameFrom_ne_of_standsAt_behind T hs further a (c :: u ++ rest' ++ z) false alone
    simpa using h

theorem allClear_of_renameFrom {t : Text} (keeps : ∀ s ∈ references t, ¬ renamed s → g s = s)
    (unmarked : (cut t).Unmarked) (joined : Bool)
    (h : renameFrom names joined t = (cut t).fill g) : AllClear renamed (cut t).parts := by
  induction t using cut_induction generalizing joined with
  | nil =>
    rw [cut_nil]
    trivial
  | plain c rest plain ih =>
    rw [cut_plain plain] at unmarked h ⊢
    rw [references_cons_of_plain plain] at keeps
    rw [R.renameFrom_plain unmarked, Cut.fill_behind] at h
    exact ih keeps unmarked.of_behind _ (List.cons.inj h).2
  | quoted name rest mangled unquoted ih =>
    rw [cut_quoted mangled unquoted] at unmarked h ⊢
    rw [references_cons_of_reference (.quoted mangled unquoted)] at keeps
    rw [R.renameFrom_at, R.renameFrom_quote, Cut.fill_behind, Cut.fill_symbol,
      Cut.fill_behind] at h
    simp only [List.cons_append, List.nil_append, List.cons.injEq, true_and] at h
    have own := keeps name (by simp)
    have here := R.clear_of_renameFrom T (bounded_quote name rest) mangled own h
    rw [R.renameFrom_clear here (bounded_quote name rest) mangled own, R.renameFrom_quote] at h
    have later := (List.cons.inj (List.append_cancel_left h)).2
    refine allClear_symbol.2 ⟨?_, ih (fun s hs => keeps s (by simp [hs]))
      unmarked.of_behind.of_symbol.of_behind _ later⟩
    rw [Cut.fill_behind, fill_id_cut]
    exact here
  | bare name rest mangled row ends ih =>
    rw [cut_bare mangled row ends] at unmarked h ⊢
    rw [references_cons_of_reference (.bare mangled row ends)] at keeps
    rw [R.renameFrom_at, Cut.fill_behind, Cut.fill_symbol] at h
    simp only [List.cons_append, List.nil_append, List.cons.injEq, true_and] at h
    have own := keeps name (by simp)
    have here := R.clear_of_renameFrom T ⟨ends, Or.inl row⟩ mangled own h
    rw [R.renameFrom_clear here ⟨ends, Or.inl row⟩ mangled own] at h
    have later := List.append_cancel_left h
    refine allClear_symbol.2 ⟨?_, ih (fun s hs => keeps s (by simp [hs]))
      unmarked.of_behind.of_symbol _ later⟩
    rw [fill_id_cut]
    exact here

end Renaming

end IrListing.Symbol
