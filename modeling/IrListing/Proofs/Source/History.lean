import IrListing.Proofs.Source.Resolver
import IrListing.Proofs.Source.Walk
import Mathlib.Data.List.Induction
import Mathlib.Data.Nat.Find

namespace IrListing.Source.Resolver

deriving instance DecidableEq for Action

def after (r : Resolver) (actions : List Action) : Resolver :=
  actions.foldl (fun r a => (r.run a).2) r

def answers (r : Resolver) : List Action → List Answer
  | [] => []
  | a :: actions => (r.run a).1 :: answers (r.run a).2 actions

theorem after_concat (r : Resolver) (actions : List Action) (a : Action) :
    r.after (actions ++ [a]) = ((r.after actions).run a).2 := by
  simp [after]

theorem getElem?_answers (r : Resolver) (actions : List Action) (i : Nat) :
    (r.answers actions)[i]? =
      actions[i]?.map fun a => ((r.after (actions.take i)).run a).1 := by
  induction actions generalizing r i with
  | nil => rfl
  | cons a actions ih =>
    cases i with
    | zero => rfl
    | succ i => exact ih (r.run a).2 i

def leaves? (id : Text) (n? : Option Metadata.Node) : Action → Option Metadata.Node
  | .store n => if n.id = id then some n else n?
  | .remove other => if other = id then none else n?
  | _ => n?

/-- The question at `i` for a scope was first put at `j`: the resolver has not been replaced since
then, but it has after any earlier question for it. -/
structure FirstAsked (actions : List Action) (scope : Text) (i j : Nat) : Prop where
  le : j ≤ i
  asked : actions[j]? = some (.resolve scope)
  kept : .forget ∉ (actions.take i).drop j
  first : ∀ k < j, actions[k]? = some (.resolve scope) → .forget ∈ (actions.take j).drop k

section Step

variable {actions : List Action} {a : Action} {scope : Text} {i j k : Nat}

theorem take_succ_of_getElem? (h : actions[i]? = some a) :
    actions.take (i + 1) = actions.take i ++ [a] := by
  rw [List.take_add_one, h, Option.toList_some]

theorem drop_take_succ (h : actions[i]? = some a) (le : j ≤ i) :
    (actions.take (i + 1)).drop j = (actions.take i).drop j ++ [a] := by
  obtain ⟨inside, -⟩ := List.getElem?_eq_some_iff.1 h
  rw [take_succ_of_getElem? h, List.drop_append_of_le_length]
  rw [List.length_take]
  omega

theorem drop_take_split (kj : k ≤ j) (ji : j ≤ i) (inside : j ≤ actions.length) :
    (actions.take i).drop k = (actions.take j).drop k ++ (actions.take i).drop j := by
  have shorter : (actions.take i).take j = actions.take j := by
    rw [List.take_take, Nat.min_eq_left ji]
  conv => lhs; rw [← List.take_append_drop j (actions.take i), shorter]
  rw [List.drop_append_of_le_length]
  rw [List.length_take]
  omega

theorem FirstAsked.succ_iff (h : actions[i]? = some a) :
    (j < i + 1 ∧ FirstAsked actions scope (i + 1) j) ↔
      a ≠ .forget ∧
        (j < i ∧ FirstAsked actions scope i j ∨ j = i ∧ FirstAsked actions scope i i) := by
  constructor
  · rintro ⟨lt, le, asked, kept, first⟩
    rw [drop_take_succ h (by omega), List.mem_append, List.mem_singleton, not_or] at kept
    refine ⟨Ne.symm kept.2, ?_⟩
    have now : FirstAsked actions scope i j := ⟨by omega, asked, kept.1, first⟩
    rcases Nat.lt_or_eq_of_le (Nat.le_of_lt_succ lt) with earlier | rfl
    · exact Or.inl ⟨earlier, now⟩
    · exact Or.inr ⟨rfl, now⟩
  · rintro ⟨goes_on, here⟩
    obtain ⟨le, now⟩ : j ≤ i ∧ FirstAsked actions scope i j := by
      rcases here with ⟨lt, now⟩ | ⟨rfl, now⟩
      · exact ⟨Nat.le_of_lt lt, now⟩
      · exact ⟨le_rfl, now⟩
    refine ⟨by omega, by omega, now.asked, ?_, now.first⟩
    rw [drop_take_succ h le, List.mem_append, List.mem_singleton, not_or]
    exact ⟨now.kept, Ne.symm goes_on⟩

theorem FirstAsked.exists_of_kept (le : k ≤ i) (asked : actions[k]? = some (.resolve scope))
    (kept : .forget ∉ (actions.take i).drop k) : ∃ j ≤ k, FirstAsked actions scope i j := by
  classical
  have some_question : ∃ j, j ≤ k ∧ actions[j]? = some (.resolve scope) ∧
      .forget ∉ (actions.take i).drop j := ⟨k, le_rfl, asked, kept⟩
  obtain ⟨jk, asked, kept⟩ := Nat.find_spec some_question
  refine ⟨Nat.find some_question, jk, by omega, asked, kept, ?_⟩
  intro m lt earlier
  by_contra absent
  obtain ⟨inside, -⟩ := List.getElem?_eq_some_iff.1 asked
  refine Nat.find_min some_question lt ⟨by omega, earlier, ?_⟩
  rw [drop_take_split (Nat.le_of_lt lt) (by omega) (Nat.le_of_lt inside), List.mem_append, not_or]
  exact ⟨absent, kept⟩

theorem FirstAsked.not_lt (now : FirstAsked actions scope i i)
    (before : FirstAsked actions scope i j) : ¬ j < i :=
  fun lt => before.kept (now.first j lt before.asked)

end Step

theorem get?_known_run (r : Resolver) (a : Action) (scope : Text) :
    (r.run a).2.known.get? scope =
      match a with
      | .forget => none
      | .resolve asked =>
        if asked = scope then some (r.resolve asked).1 else r.known.get? scope
      | _ => r.known.get? scope := by
  cases a with
  | store n => rfl
  | remove id => rfl
  | walk scope => rfl
  | forget => rfl
  | resolve asked =>
    simp only [run, resolve]
    split
    · rename_i l known
      split
      · rename_i same
        rw [← same, known]
      · rfl
    · rw [Assoc.get?_insert]

section Run

variable (g : Graph) (actions : List Action)

theorem get?_graph_after (id : Text) :
    ((ofGraph g).after actions).graph.get? id = actions.foldl (leaves? id) (g.get? id) := by
  induction actions using List.reverseRecOn with
  | nil => rfl
  | append_singleton actions a ih =>
    rw [after_concat, List.foldl_append, ← ih]
    cases a with
    | store n => exact Graph.get?_store _ n id
    | remove other => exact Assoc.get?_erase _ other id
    | walk scope => rfl
    | resolve scope =>
      rw [run, graph_resolve]
      rfl
    | forget => rfl

/-- After the first `i` actions the resolver knows the answers to the questions seen so far, each
from the graph of its first question. -/
def Remembers (i : Nat) : Prop :=
  ∀ scope l, ((ofGraph g).after (actions.take i)).known.get? scope = some l ↔
    ∃ j, (j < i ∧ FirstAsked actions scope i j) ∧
      l = ((ofGraph g).after (actions.take j)).graph.locate scope

variable {g actions} {scope : Text} {i j : Nat}

theorem Remembers.fst_resolve (h : Remembers g actions i) (first : FirstAsked actions scope i j) :
    (((ofGraph g).after (actions.take i)).resolve scope).1 =
      ((ofGraph g).after (actions.take j)).graph.locate scope := by
  rcases Nat.lt_or_eq_of_le first.le with earlier | rfl
  · rw [resolve, (h scope _).2 ⟨j, ⟨earlier, first⟩, rfl⟩]
  · have unknown : ((ofGraph g).after (actions.take j)).known.get? scope = none := by
      rw [Option.eq_none_iff_forall_ne_some]
      intro l known
      obtain ⟨k, ⟨lt, before⟩, -⟩ := (h scope l).1 known
      exact first.not_lt before lt
    rw [resolve, unknown]

theorem Remembers.succ (h : Remembers g actions i) {a : Action} (here : actions[i]? = some a) :
    Remembers g actions (i + 1) := by
  intro scope l
  rw [take_succ_of_getElem? here, after_concat, get?_known_run]
  have other (quiet : a ≠ .resolve scope) (goes_on : a ≠ .forget) :
      ((ofGraph g).after (actions.take i)).known.get? scope = some l ↔
        ∃ j, (j < i + 1 ∧ FirstAsked actions scope (i + 1) j) ∧
          l = ((ofGraph g).after (actions.take j)).graph.locate scope := by
    have not_now : ¬ FirstAsked actions scope i i := by
      intro now
      exact quiet (Option.some.inj (here.symm.trans now.asked))
    simp only [FirstAsked.succ_iff here]
    simp [h scope l, goes_on, not_now]
  cases a with
  | store n => exact other (by simp) (by simp)
  | remove id => exact other (by simp) (by simp)
  | walk asked => exact other (by simp) (by simp)
  | forget =>
    simp only [FirstAsked.succ_iff here]
    simp
  | resolve asked =>
    by_cases same : asked = scope
    · subst same
      simp only [if_true, Option.some.injEq]
      constructor
      · rintro rfl
        obtain ⟨j, le, first⟩ := FirstAsked.exists_of_kept le_rfl here (by simp)
        refine ⟨j, (FirstAsked.succ_iff here).2 ⟨by simp, ?_⟩, h.fst_resolve first⟩
        rcases Nat.lt_or_eq_of_le le with earlier | rfl
        · exact Or.inl ⟨earlier, first⟩
        · exact Or.inr ⟨rfl, first⟩
      · rintro ⟨j, first, rfl⟩
        obtain ⟨-, ⟨-, first⟩ | ⟨rfl, first⟩⟩ := (FirstAsked.succ_iff here).1 first
        · exact h.fst_resolve first
        · exact h.fst_resolve first
    · simp only [same, if_false]
      exact other (by simpa using same) (by simp)

theorem remembers (inside : i ≤ actions.length) : Remembers g actions i := by
  induction i with
  | zero =>
    intro scope l
    simp [after, ofGraph]
  | succ i ih => exact (ih (by omega)).succ (List.getElem?_eq_getElem (by omega))

end Run

theorem eraseIdx_answers (r : Resolver) {actions : List Action} {scope : Text} {i : Nat}
    (here : actions[i]? = some (.walk scope)) :
    (r.answers actions).eraseIdx i = r.answers (actions.eraseIdx i) := by
  induction actions generalizing r i with
  | nil => rfl
  | cons a actions ih =>
    cases i with
    | zero =>
      obtain rfl : a = .walk scope := Option.some.inj here
      rfl
    | succ i => exact congrArg _ (ih (r.run a).2 here)

/-- A walk is answered from the graph at that moment, and it matters for no other answer. A question
is answered from the graph at the moment when the scope was first asked for, and so from the present
one as long as no change has come in between. Neither of them changes the graph, in which the last
node stored under an id counts until it is removed. -/
theorem answers_from_history (g : Graph) (actions : List Action) :
    let graph (i : Nat) : Graph := ((ofGraph g).after (actions.take i)).graph
    let answers := (ofGraph g).answers actions
    (∀ i id, (graph i).get? id = (actions.take i).foldl (leaves? id) (g.get? id)) ∧
      (∀ i scope, actions[i]? = some (.walk scope) →
        graph (i + 1) = graph i ∧ answers[i]? = some (.located ((graph i).locate scope)) ∧
          answers.eraseIdx i = (ofGraph g).answers (actions.eraseIdx i)) ∧
      ∀ i scope, actions[i]? = some (.resolve scope) →
        graph (i + 1) = graph i ∧
          (∃ j, FirstAsked actions scope i j) ∧
          (∀ j, FirstAsked actions scope i j →
            answers[i]? = some (.located ((graph j).locate scope))) ∧
          ((∀ k ≤ i, .forget ∉ (actions.take i).drop k →
              ∀ id, (graph k).get? id = (graph i).get? id) →
            answers[i]? = some (.located ((graph i).locate scope))) := by
  intro graph answers
  refine ⟨fun i => get?_graph_after g (actions.take i), ?_, ?_⟩
  · intro i scope here
    refine ⟨?_, ?_, eraseIdx_answers _ here⟩
    · simp only [graph, take_succ_of_getElem? here, after_concat, run]
    · simp only [answers, getElem?_answers, here, Option.map_some, run, graph]
  · intro i scope here
    obtain ⟨inside, -⟩ := List.getElem?_eq_some_iff.1 here
    have some_first : ∃ j, FirstAsked actions scope i j := by
      obtain ⟨j, -, first⟩ := FirstAsked.exists_of_kept le_rfl here (by simp)
      exact ⟨j, first⟩
    have answered (j : Nat) (first : FirstAsked actions scope i j) :
        answers[i]? = some (.located ((graph j).locate scope)) := by
      simp only [answers, getElem?_answers, here, Option.map_some, run, graph,
        (remembers (Nat.le_of_lt inside)).fst_resolve first]
    refine ⟨?_, some_first, answered, ?_⟩
    · simp only [graph, take_succ_of_getElem? here, after_concat, run, graph_resolve]
    · intro unchanged
      obtain ⟨j, first⟩ := some_first
      have same : (graph j).Agree (graph i) := unchanged j first.le first.kept
      rw [answered j first, same.locate]

def line3 : Metadata.Node := ⟨"!1".toList, "Location".toList, [("line".toList, "3".toList)]⟩

def line4 : Metadata.Node := ⟨"!1".toList, "Location".toList, [("line".toList, "4".toList)]⟩

def changing : List Action :=
  [.store line3, .walk "!1".toList, .resolve "!1".toList, .store line4, .walk "!1".toList,
    .resolve "!1".toList, .forget, .remove "!2".toList, .resolve "!1".toList]

theorem answers_changing :
    FirstAsked changing "!1".toList 5 2 ∧ FirstAsked changing "!1".toList 8 8 ∧
      ((ofGraph []).answers changing)[4]? = some (.located ⟨none, some 4, none⟩) ∧
      ((ofGraph []).answers changing)[5]? = some (.located ⟨none, some 3, none⟩) ∧
      ((ofGraph []).answers changing)[8]? = some (.located ⟨none, some 4, none⟩) := by
  have old : FirstAsked changing "!1".toList 5 2 :=
    ⟨by decide, rfl, by decide, by decide⟩
  have new : FirstAsked changing "!1".toList 8 8 :=
    ⟨by decide, rfl, by decide, by decide⟩
  obtain ⟨-, walks, questions⟩ := answers_from_history [] changing
  refine ⟨old, new, (walks 4 _ rfl).2.1.trans ?_, ((questions 5 _ rfl).2.2.1 2 old).trans ?_,
    ((questions 8 _ rfl).2.2.1 8 new).trans ?_⟩
  · decide +kernel
  · decide +kernel
  · decide +kernel

end IrListing.Source.Resolver
