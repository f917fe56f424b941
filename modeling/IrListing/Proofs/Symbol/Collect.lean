import IrListing.Symbol.Mangled
import Mathlib.Data.List.Basic

namespace IrListing.Symbol

/-- The different ones of some names, in the order of their first places. -/
structure FirstSeen (names seen : List Text) : Prop where
  mem_iff : ∀ s, s ∈ seen ↔ s ∈ names
  ordered : seen.Pairwise fun s s' => names.idxOf s < names.idxOf s'

theorem idxOf_lt_of_filter {p : Text → Bool} {s s' : Text} {names : List Text} (hs : p s = true)
    (hs' : p s' = true) (h : (names.filter p).idxOf s < (names.filter p).idxOf s') :
    names.idxOf s < names.idxOf s' := by
  induction names with
  | nil => simp at h
  | cons name names ih =>
    cases hp : p name with
    | true =>
      rw [List.filter_cons_of_pos hp] at h
      by_cases second : name = s'
      · subst second
        simp [List.idxOf_cons_self] at h
      · rw [List.idxOf_cons_ne _ second] at h ⊢
        by_cases first : name = s
        · subst first
          rw [List.idxOf_cons_self]
          omega
        · rw [List.idxOf_cons_ne _ first] at h ⊢
          have := ih (by omega)
          omega
    | false =>
      have first : name ≠ s := fun e => by simp [e, hs] at hp
      have second : name ≠ s' := fun e => by simp [e, hs'] at hp
      rw [List.filter_cons_of_neg (by simp [hp])] at h
      rw [List.idxOf_cons_ne _ first, List.idxOf_cons_ne _ second]
      have := ih h
      omega

@[elab_as_elim]
theorem eraseDups_induction {P : List Text → Prop} (nil : P [])
    (cons : ∀ name names, P (names.filter fun b => !b == name) → P (name :: names))
    (names : List Text) : P names := by
  induction size : names.length using Nat.strongRecOn generalizing names with
  | ind n ih =>
    cases names with
    | nil => exact nil
    | cons name names =>
      have shorter := List.length_filter_le (fun b => !b == name) names
      rw [List.length_cons] at size
      exact cons name names (ih _ (by omega) _ rfl)

theorem pairwise_eraseDups (names : List Text) :
    names.eraseDups.Pairwise fun s s' => names.idxOf s < names.idxOf s' := by
  induction names using eraseDups_induction with
  | nil => simp
  | cons name names ih =>
    have other : ∀ s ∈ (names.filter fun b => !b == name).eraseDups, name ≠ s := by
      rintro s hs rfl
      simp at hs
    rw [List.eraseDups_cons, List.pairwise_cons]
    constructor
    · intro s hs
      rw [List.idxOf_cons_self, List.idxOf_cons_ne _ (other s hs)]
      omega
    · apply ih.imp_of_mem
      intro s s' hs hs' lt
      rw [List.idxOf_cons_ne _ (other s hs), List.idxOf_cons_ne _ (other s' hs')]
      have := idxOf_lt_of_filter (by simpa using Ne.symm (other s hs))
        (by simpa using Ne.symm (other s' hs')) lt
      omega

theorem eraseDups_filter (p : Text → Bool) (names : List Text) :
    (names.filter p).eraseDups = names.eraseDups.filter p := by
  induction names using eraseDups_induction with
  | nil => rfl
  | cons name names ih =>
    rw [List.filter_filter] at ih
    rw [List.eraseDups_cons]
    cases hp : p name with
    | true =>
      rw [List.filter_cons_of_pos hp, List.filter_cons_of_pos hp, List.eraseDups_cons, ← ih,
        List.filter_filter]
      simp only [Bool.and_comm]
    | false =>
      have others : names.filter p = names.filter fun s => p s && !s == name := by
        apply List.filter_congr
        intro s _
        by_cases same : s = name
        · simp [same, hp]
        · simp [same]
      rw [List.filter_cons_of_neg (by simp [hp]), List.filter_cons_of_neg (by simp [hp]), ← ih,
        others]

theorem firstSeen_eraseDups (names : List Text) : FirstSeen names names.eraseDups where
  mem_iff _ := List.mem_eraseDups
  ordered := pairwise_eraseDups names

theorem FirstSeen.nodup {names seen : List Text} (h : FirstSeen names seen) : seen.Nodup :=
  h.ordered.imp fun lt same => by simp [same] at lt

theorem firstSeen_collect (texts : List Text) :
    FirstSeen (texts.flatMap references) (collect texts) :=
  firstSeen_eraseDups _

theorem collect_append (texts texts' : List Text) :
    collect (texts ++ texts') =
      collect texts ++ (collect texts').filter (· ∉ collect texts) := by
  have unseen (s : Text) : (!(texts.flatMap references).elem s) = decide (s ∉ collect texts) := by
    simp only [collect, List.mem_eraseDups, decide_not, List.elem_eq_mem]
  rw [collect, List.flatMap_append, List.eraseDups_append, List.removeAll, eraseDups_filter]
  simp only [unseen]
  rfl

end IrListing.Symbol
