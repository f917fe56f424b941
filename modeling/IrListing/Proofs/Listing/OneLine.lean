import IrListing.Proofs.Listing.Frame
import IrListing.Proofs.Listing.Places
import IrListing.Proofs.Source.FileName
import IrListing.Proofs.Text.Lines

namespace IrListing

namespace Text

theorem isBreak_of_mem_answerLines {t l : Text} (h : l ∈ answerLines t) :
    ∀ c ∈ l, isBreak c = false := by
  have piece (t : Text) : ∀ c ∈ t.takeWhile (!isBreak ·), isBreak c = false := by
    intro c hc
    simpa using of_mem_takeWhile hc
  fun_induction answerLines t with
  | case1 => cases h
  | case2 t _ whole =>
    obtain rfl := List.mem_singleton.1 h
    intro c hc
    simpa using List.dropWhile_eq_nil_iff.1 whole c hc
  | case3 t _ rest _ ih =>
    rcases List.mem_cons.1 h with rfl | h
    · exact piece t
    · exact ih h
  | case4 t _ c rest _ _ ih =>
    rcases List.mem_cons.1 h with rfl | h
    · exact piece t
    · exact ih h

end Text

open Text

namespace Metadata

theorem eq_of_quotedContent? {t s r : Text} (h : quotedContent? t = some (s, r)) :
    t = s ++ '"' :: r := by
  fun_induction quotedContent? t generalizing s with
  | case1 => cases h
  | case2 t =>
    cases h
    rfl
  | case3 => cases h
  | case4 c t _ ih =>
    obtain ⟨⟨s', r'⟩, read, e⟩ := Option.map_eq_some_iff.1 h
    cases e
    rw [ih read]
    rfl
  | case5 => cases h
  | case6 c t _ _ _ ih =>
    obtain ⟨⟨s', r'⟩, read, e⟩ := Option.map_eq_some_iff.1 h
    cases e
    rw [ih read]
    rfl

theorem subset_of_run? {p : Char → Bool} {t s r : Text} (h : run? p t = some (s, r)) :
    s ⊆ t ∧ r ⊆ t := by
  obtain ⟨rfl, -⟩ := run?_eq_some_iff.1 h
  exact ⟨List.subset_append_left s r, List.subset_append_right s r⟩

theorem subset_of_value? {t s r : Text} (h : value? t = some (s, r)) : s ⊆ t ∧ r ⊆ t := by
  unfold value? at h
  split at h
  · rw [eq_of_quotedContent? h]
    constructor
    · exact List.subset_cons_of_subset _ (List.subset_append_left _ _)
    · apply List.subset_cons_of_subset
      exact List.subset_append_of_subset_right _ (List.subset_cons_self _ _)
  · obtain ⟨⟨s', r'⟩, read, e⟩ := Option.map_eq_some_iff.1 h
    cases e
    obtain ⟨value, rest⟩ := subset_of_run? read
    exact ⟨List.cons_subset_cons _ value, List.subset_cons_of_subset _ rest⟩
  · rcases Option.or_eq_some_iff.1 h with read | ⟨-, read⟩
    · exact subset_of_run? read
    · exact subset_of_run? read

theorem subset_of_option? {t r : Text} {o : Text × Text} (h : option? t = some (o, r)) :
    o.2 ⊆ t ∧ r ⊆ t := by
  simp only [option?, Option.bind_eq_bind, Option.bind_eq_some_iff, Prod.exists, Option.pure_def,
    Option.some.injEq, Prod.mk.injEq, after?_eq_some_iff] at h
  obtain ⟨key, _, read, r', rfl, value, r'', found, rfl, rfl⟩ := h
  obtain ⟨valued, behind⟩ := subset_of_value? found
  have rest : r' ⊆ t := List.Subset.trans (List.subset_append_right _ r') (subset_of_run? read).2
  exact ⟨List.Subset.trans valued rest, List.Subset.trans behind rest⟩

theorem subset_of_mem_options {t : Text} {o : Text × Text} (h : o ∈ options t) : o.2 ⊆ t := by
  fun_induction options t with
  | case1 => cases h
  | case2 c t _ o' r read ih =>
    obtain ⟨value, rest⟩ := subset_of_option? read
    rcases List.mem_cons.1 h with rfl | h
    · exact value
    · exact List.Subset.trans (ih h) rest
  | case3 c t _ _ ih =>
    exact List.Subset.trans (ih h)
      (List.subset_cons_of_subset _ (List.dropWhile_sublist _).subset)
  | case4 c t _ ih => exact List.subset_cons_of_subset _ (ih h)

theorem subset_of_beforeLast? {x : Char} {t s : Text} (h : beforeLast? x t = some s) : s ⊆ t := by
  induction t generalizing s with
  | nil => cases h
  | cons c t ih =>
    rw [beforeLast?] at h
    split at h
    · rename_i s' found
      cases h
      exact List.cons_subset_cons _ (ih found)
    · split at h
      · cases h
        exact List.nil_subset _
      · cases h

theorem newline_not_mem_of_declaration? {t : Text} {n : Node} (h : declaration? t = some n) :
    ∀ e ∈ n.attributes, '\n' ∉ e.2 := by
  simp only [declaration?, Option.bind_eq_bind, Option.bind_eq_some_iff, Prod.exists,
    Option.pure_def, Option.some.injEq] at h
  obtain ⟨_, _, -, _, -, _, _, -, r, -, body, closed, rfl⟩ := h
  intro e he hc
  have option := Assoc.mem_of_mem_ofList he
  have inside := subset_of_beforeLast? closed (subset_of_mem_options option hc)
  have := of_mem_takeWhile inside
  simp at this

end Metadata

namespace Source

theorem Graph.of_file? {g : Graph} {scope name : Text} (h : g.file? scope = some name)
    (even : ∀ id n, g.get? id = some n → ∀ e ∈ n.attributes, '\n' ∉ e.2) :
    name ≠ [] ∧ '\n' ∉ name := by
  have found := (Option.filter_eq_some_iff.1 h).1
  obtain ⟨some_name, last, n, -, present, named⟩ := value?_fileStep_iff.1 found
  exact ⟨some_name, even last n present _ (Assoc.mem_of_get? named)⟩

end Source

namespace Symbol

theorem renameFrom_of_nil (joined : Bool) (t : Text) : renameFrom [] joined t = t := by
  induction t generalizing joined with
  | nil => exact renameFrom_nil [] joined
  | cons c t ih => rw [renameFrom_cons (Or.inr rfl), ih]

theorem mem_renameFrom {names : Assoc Text Text} {joined : Bool} {t : Text} {c : Char}
    (h : c ∈ renameFrom names joined t) : c ∈ t ∨ ∃ e ∈ names, c ∈ e.2 := by
  fun_induction renameFrom names joined t with
  | case1 => cases h
  | case2 joined c' rest symbol name found ih =>
    rcases List.mem_append.1 h with put | h
    · have longest : longestAt? names (c' :: rest) = some (symbol, name) := by
        cases joined with
        | true => cases found
        | false => exact found
      exact Or.inr ⟨_, (of_longestAt? longest).1, put⟩
    · apply (ih h).imp_left
      intro left
      exact List.mem_cons_of_mem _ (List.mem_of_mem_drop left)
  | case3 joined c' rest _ ih =>
    rcases List.mem_cons.1 h with rfl | h
    · exact Or.inl List.mem_cons_self
    · exact (ih h).imp_left (List.mem_cons_of_mem _)

theorem Tool.newline_not_mem_of_mem_names {tool : Tool} {symbols : List Text}
    {names : Assoc Text Text} (h : (tool.ask symbols).result = .ok names) :
    ∀ e ∈ names, '\n' ∉ e.2 := by
  intro e he hc
  rw [result_ask_eq_ok_iff] at h
  split at h
  · subst h
    cases he
  · obtain ⟨output, -, -, rfl⟩ := h
    have answered := (List.of_mem_zip (Assoc.mem_of_mem_ofList he)).2
    cases isBreak_of_mem_answerLines answered '\n' hc

end Symbol

namespace Listing

open IrListing.Symbol IrListing.Filter

theorem exists_of_lastDeclaration? {id : Text} {texts : List Text} {n : Metadata.Node}
    (h : lastDeclaration? id texts = some n) :
    n.id = id ∧ ∃ t ∈ texts, Metadata.declaration? t = some n := by
  induction texts with
  | nil => cases h
  | cons t texts ih =>
    rcases Option.or_eq_some_iff.1 h with later | ⟨-, here⟩
    · obtain ⟨named, u, hu, declared⟩ := ih later
      exact ⟨named, u, List.mem_cons_of_mem _ hu, declared⟩
    · obtain ⟨declared, named⟩ := Option.filter_eq_some_iff.1 here
      exact ⟨by simpa using named, t, List.mem_cons_self, declared⟩

theorem mem_collapse {t : Text} {texts : List Text} (h : t ∈ collapse texts) :
    t = [] ∨ t ∈ texts := by
  fun_induction collapse texts with
  | case1 => cases h
  | case2 first rest _ ih =>
    rcases List.mem_cons.1 h with rfl | h
    · exact Or.inl rfl
    · apply (ih h).imp_right
      intro ht
      exact List.mem_cons_of_mem _ ((List.dropWhile_sublist _).subset ht)
  | case3 first rest _ ih =>
    rcases List.mem_cons.1 h with rfl | h
    · exact Or.inr List.mem_cons_self
    · exact (ih h).imp_right (List.mem_cons_of_mem _)

theorem upTo_isPrefix (cap : Int) (texts : List Text) : upTo cap texts <+: texts := by
  cases cap with
  | ofNat n => exact List.take_prefix _ _
  | negSucc n => exact List.take_prefix _ _

theorem mem_upTo {cap : Int} {t : Text} {texts : List Text} (h : t ∈ upTo cap texts) :
    t ∈ texts :=
  (upTo_isPrefix cap texts).subset h

theorem mem_capped {cap : Int} {t : Text} {texts : List Text} (h : t ∈ capped cap texts) :
    t = marker.text ∨ t ∈ texts := by
  unfold capped at h
  split at h
  · exact Or.inr h
  · rcases List.mem_append.1 h with cut | last
    · exact Or.inr (mem_upTo cut)
    · exact Or.inl (List.mem_singleton.1 last)

theorem mem_layout {config : Config} {cap : Int} {text t : Text} (h : t ∈ layout config cap text) :
    t = [] ∨ t = marker.text ∨ t ∈ Text.lines text := by
  rcases mem_capped h with last | kept
  · exact Or.inr (Or.inl last)
  · apply (mem_collapse kept).imp_right
    intro kept
    exact Or.inr (List.mem_filter.1 kept).1

theorem newline_not_mem_layout {config : Config} {cap : Int} {text t : Text}
    (h : t ∈ layout config cap text) : '\n' ∉ t := by
  rcases mem_layout h with rfl | rfl | line
  · simp
  · decide
  · exact newline_not_mem_of_mem_lines line

theorem exists_names_of_make {m : Maker} {config : Config} {text : Text} {r : Result}
    (done : (m.make config text).result = .ok r) :
    ∃ names : Assoc Text Text, (∀ e ∈ names, '\n' ∉ e.2) ∧
      r.lines = (pass config m.cap text).map
        fun l => { l with text := renameFrom names false l.text } := by
  obtain ⟨lines, made, rfl⟩ := Traced.result_map_eq_ok_iff.1 done
  unfold Maker.lines at made
  dsimp only at made
  split at made
  · split at made
    · obtain ⟨names, asked, rfl⟩ := Traced.result_map_eq_ok_iff.1 made
      refine ⟨names.filter fun e => e.1 ≠ e.2, ?_, rfl⟩
      intro e he
      exact Tool.newline_not_mem_of_mem_names asked e (List.mem_filter.1 he).1
    · cases made
  · cases made
    refine ⟨[], by simp, ?_⟩
    simp [renameFrom_of_nil]

/-- A line without a break in its text, and in the name of its file, which is not empty. -/
structure Line.OnOneLine (l : Line) : Prop where
  text : '\n' ∉ l.text
  file : ∀ place, l.source = some place → ∀ name, place.file = some name → name ≠ [] ∧ '\n' ∉ name

theorem onOneLine_located (texts : List Text) {t : Text} (h : '\n' ∉ t) :
    (Line.located (declarations texts) t).OnOneLine where
  text := h
  file := by
    intro place placed name named
    obtain ⟨scope, -, rfl⟩ := Option.map_eq_some_iff.1 placed
    apply Source.Graph.of_file? named
    intro id n present
    rw [get?_declarations] at present
    obtain ⟨-, u, -, declared⟩ := exists_of_lastDeclaration? present
    exact Metadata.newline_not_mem_of_declaration? declared

theorem Maker.onOneLine {m : Maker} {config : Config} {text : Text} {r : Result}
    (done : (m.make config text).result = .ok r) : ∀ l ∈ r.lines, l.OnOneLine := by
  obtain ⟨names, even, lines⟩ := exists_names_of_make done
  rw [lines, pass_eq]
  intro l hl
  obtain ⟨plain, hplain, rfl⟩ := List.mem_map.1 hl
  obtain ⟨t, ht, rfl⟩ := List.mem_map.1 hplain
  have located := onOneLine_located (Text.lines text) (newline_not_mem_layout ht)
  refine ⟨?_, located.file⟩
  intro hc
  rcases mem_renameFrom hc with inside | ⟨e, he, put⟩
  · exact located.text inside
  · exact even e he put

end Listing

end IrListing
