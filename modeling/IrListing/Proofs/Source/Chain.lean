import IrListing.Proofs.Source.Walk
import Mathlib.Data.Finset.Card
import Mathlib.Logic.Relation

/-! What a walk finds is what lies at the end of its chain of links, and the ids it looks up are
those of the chain. That it stops where it has been before loses nothing: such a chain has no
end. -/

namespace IrListing.Source.Graph

open Metadata Relation

def at? (g : Graph) (step : Node → Step) (id : Text) : Option Step := (g.get? id).map step

def Follows (g : Graph) (step : Node → Step) (id next : Text) : Prop :=
  g.at? step id = some (.follow next)

def Finds (g : Graph) (step : Node → Step) (id value : Text) : Prop :=
  g.at? step id = some (.found value)

def Lacks (g : Graph) (step : Node → Step) (id : Text) : Prop :=
  g.at? step id = none ∨ g.at? step id = some .stop

abbrev Leads (g : Graph) (step : Node → Step) : Text → Text → Prop := ReflTransGen (g.Follows step)

def Endless (g : Graph) (step : Node → Step) (id : Text) : Prop :=
  ∃ path : Nat → Text, path 0 = id ∧ ∀ i, g.Follows step (path i) (path (i + 1))

variable {g : Graph} {step : Node → Step} {start id next value : Text} {seen : List Text}

theorem follows_unique : Relator.RightUnique (g.Follows step) := by
  intro id next next' h h'
  exact Step.follow.inj (Option.some.inj (h.symm.trans h'))

theorem Finds.not_follows (h : g.Finds step id value) : ¬ g.Follows step id next := by
  intro follows
  cases h.symm.trans follows

theorem Lacks.not_follows (h : g.Lacks step id) : ¬ g.Follows step id next := by
  intro follows
  rcases h with missing | stop
  · cases missing.symm.trans follows
  · cases stop.symm.trans follows

theorem Finds.not_lacks (h : g.Finds step id value) : ¬ g.Lacks step id := by
  rintro (missing | stop)
  · cases missing.symm.trans h
  · cases stop.symm.trans h

theorem Leads.eq {last : Text} (h : g.Leads step start id) (h' : g.Leads step start last)
    (end_id : ∀ k, ¬ g.Follows step id k) (end_last : ∀ k, ¬ g.Follows step last k) :
    id = last := by
  rcases ReflTransGen.total_of_right_unique follows_unique h h' with onward | onward
  · rcases onward.cases_head with rfl | ⟨k, follows, -⟩
    · rfl
    · cases end_id k follows
  · rcases onward.cases_head with rfl | ⟨k, follows, -⟩
    · rfl
    · cases end_last k follows

theorem Endless.of_follows (h : g.Endless step id) (follows : g.Follows step id next) :
    g.Endless step next := by
  obtain ⟨path, rfl, all⟩ := h
  exact ⟨fun i => path (i + 1), follows_unique (all 0) follows, fun i => all (i + 1)⟩

theorem Endless.of_leads (h : g.Endless step start) (leads : g.Leads step start id) :
    g.Endless step id := by
  induction leads with
  | refl => exact h
  | tail _ follows ih => exact ih.of_follows follows

theorem Endless.not_end (h : g.Endless step id) : ∃ next, g.Follows step id next := by
  obtain ⟨path, rfl, all⟩ := h
  exact ⟨_, all 0⟩

theorem endless_of_loop (h : g.Leads step start id) (loop : TransGen (g.Follows step) id id) :
    g.Endless step start := by
  have onward (k : { k // TransGen (g.Follows step) k id }) :
      ∃ k' : { k // TransGen (g.Follows step) k id }, g.Follows step k k' := by
    obtain ⟨k, back⟩ := k
    obtain ⟨k', follows, rest⟩ := TransGen.head'_iff.1 back
    rcases reflTransGen_iff_eq_or_transGen.1 rest with rfl | rest
    · exact ⟨⟨_, loop⟩, follows⟩
    · exact ⟨⟨_, rest⟩, follows⟩
  choose next follows using onward
  have back : TransGen (g.Follows step) start id := TransGen.trans_right h loop
  refine ⟨fun i => next^[i] ⟨start, back⟩, rfl, ?_⟩
  intro i
  dsimp only
  rw [Function.iterate_succ_apply']
  exact follows _

/-- A walk has come to `id`, and what it has looked up leads there. -/
structure OnTheWay (g : Graph) (step : Node → Step) (start : Text) (seen : List Text) (id : Text) :
    Prop where
  nodup : seen.Nodup
  known : ∀ k ∈ seen, k ∈ g.map (·.1)
  reached : ∀ k ∈ id :: seen, g.Leads step start k
  onward : ∀ k ∈ seen, TransGen (g.Follows step) k id
  closed : ∀ k ∈ seen, ∀ next, g.Follows step k next → next ∈ id :: seen
  start : start ∈ id :: seen

theorem onTheWay_start : g.OnTheWay step start [] start where
  nodup := List.nodup_nil
  known := by simp
  reached := by
    intro k hk
    obtain rfl := List.mem_singleton.1 hk
    exact .refl
  onward := by simp
  closed := by simp
  start := List.mem_singleton_self start

theorem OnTheWay.follow (h : g.OnTheWay step start seen id) (new : id ∉ seen)
    (follows : g.Follows step id next) : g.OnTheWay step start (id :: seen) next where
  nodup := List.nodup_cons.2 ⟨new, h.nodup⟩
  known := by
    intro k hk
    rcases List.mem_cons.1 hk with rfl | hk
    · obtain ⟨n, present, -⟩ := Option.map_eq_some_iff.1 follows
      exact Assoc.mem_keys_of_get? present
    · exact h.known k hk
  reached := by
    intro k hk
    rcases List.mem_cons.1 hk with rfl | hk
    · exact (h.reached id List.mem_cons_self).tail follows
    · exact h.reached k hk
  onward := by
    intro k hk
    rcases List.mem_cons.1 hk with rfl | hk
    · exact .single follows
    · exact (h.onward k hk).tail follows
  closed := by
    intro k hk next' follows'
    rcases List.mem_cons.1 hk with rfl | hk
    · obtain rfl := follows_unique follows follows'
      exact List.mem_cons_self
    · exact List.mem_cons_of_mem _ (h.closed k hk next' follows')
  start := List.mem_cons_of_mem _ h.start

/-- The ids looked up are those of the chain, each once, and all but one have a node. -/
structure Exhausts (g : Graph) (step : Node → Step) (start : Text) (asked : List Text) : Prop where
  nodup : asked.Nodup
  length_le : asked.length ≤ (g.map (·.1)).toFinset.card + 1
  mem_iff : ∀ k, k ∈ asked ↔ g.Leads step start k

theorem mem_of_leads (first : start ∈ seen)
    (closed : ∀ k ∈ seen, ∀ next, g.Follows step k next → next ∈ seen)
    (h : g.Leads step start id) : id ∈ seen := by
  induction h with
  | refl => exact first
  | tail _ follows ih => exact closed _ ih _ follows

theorem OnTheWay.length_le (h : g.OnTheWay step start seen id) :
    seen.length ≤ (g.map (·.1)).toFinset.card := by
  rw [← List.toFinset_card_of_nodup h.nodup]
  apply Finset.card_le_card
  intro k hk
  exact List.mem_toFinset.2 (h.known k (List.mem_toFinset.1 hk))

theorem OnTheWay.exhausts_of_end (h : g.OnTheWay step start seen id) (new : id ∉ seen)
    (ends : ∀ next, ¬ g.Follows step id next) : g.Exhausts step start (id :: seen) where
  nodup := List.nodup_cons.2 ⟨new, h.nodup⟩
  length_le := Nat.succ_le_succ h.length_le
  mem_iff k := by
    refine ⟨h.reached k, mem_of_leads h.start ?_⟩
    intro k hk next follows
    rcases List.mem_cons.1 hk with rfl | hk
    · cases ends next follows
    · exact h.closed k hk next follows

theorem OnTheWay.exhausts_of_mem (h : g.OnTheWay step start seen id) (visited : id ∈ seen) :
    g.Exhausts step start seen := by
  have same (k : Text) : k ∈ id :: seen ↔ k ∈ seen := by
    rw [List.mem_cons, or_iff_right_of_imp]
    rintro rfl
    exact visited
  refine ⟨h.nodup, Nat.le_succ_of_le h.length_le, fun k => ⟨?_, mem_of_leads ?_ ?_⟩⟩
  · intro hk
    exact h.reached k ((same k).2 hk)
  · exact (same start).1 h.start
  · intro k hk next follows
    exact (same next).1 (h.closed k hk next follows)

def Reaches (g : Graph) (step : Node → Step) (start : Text) : Ending → Prop
  | .found value => ∃ last, g.Leads step start last ∧ g.Finds step last value
  | .lost => ∃ last, g.Leads step start last ∧ g.Lacks step last
  | .cycle _ => g.Endless step start

theorem OnTheWay.tracedFrom (h : g.OnTheWay step start seen id) :
    g.Reaches step start (g.tracedFrom step seen id).1 ∧
      g.Exhausts step start (g.tracedFrom step seen id).2 := by
  fun_induction Graph.tracedFrom g step seen id with
  | case1 seen id visited =>
    have loop := h.onward id visited
    exact ⟨endless_of_loop (h.reached id List.mem_cons_self) loop, h.exhausts_of_mem visited⟩
  | case2 seen id new missing =>
    have lacks : g.Lacks step id := Or.inl (by rw [at?, missing, Option.map_none])
    exact ⟨⟨id, h.reached id List.mem_cons_self, lacks⟩,
      h.exhausts_of_end new fun _ => lacks.not_follows⟩
  | case3 seen id new n present value found =>
    have finds : g.Finds step id value := by rw [Finds, at?, present, Option.map_some, found]
    exact ⟨⟨id, h.reached id List.mem_cons_self, finds⟩,
      h.exhausts_of_end new fun _ => finds.not_follows⟩
  | case4 seen id new n present stop =>
    have lacks : g.Lacks step id := Or.inr (by rw [at?, present, Option.map_some, stop])
    exact ⟨⟨id, h.reached id List.mem_cons_self, lacks⟩,
      h.exhausts_of_end new fun _ => lacks.not_follows⟩
  | case5 seen id new n present next follow ih =>
    have follows : g.Follows step id next := by rw [Follows, at?, present, Option.map_some, follow]
    exact ih (h.follow new follows)

theorem Reaches.value?_eq_some_iff {ending : Ending} (h : g.Reaches step start ending) :
    ending.value? = some value ↔ ∃ last, g.Leads step start last ∧ g.Finds step last value := by
  constructor
  · intro found
    cases ending with
    | found value' =>
      obtain rfl := Option.some.inj found
      exact h
    | lost => cases found
    | cycle id => cases found
  · rintro ⟨last, leads, finds⟩
    cases ending with
    | found value' =>
      obtain ⟨last', leads', finds'⟩ := h
      obtain rfl := leads.eq leads' (fun _ => finds.not_follows) (fun _ => finds'.not_follows)
      obtain ⟨⟩ := finds'.symm.trans finds
      rfl
    | lost =>
      obtain ⟨last', leads', lacks⟩ := h
      obtain rfl := leads.eq leads' (fun _ => finds.not_follows) (fun _ => lacks.not_follows)
      cases finds.not_lacks lacks
    | cycle id =>
      obtain ⟨next, follows⟩ := (Endless.of_leads h leads).not_end
      cases finds.not_follows follows

theorem Reaches.value?_eq_none_iff {ending : Ending} (h : g.Reaches step start ending) :
    ending.value? = none ↔
      (∃ last, g.Leads step start last ∧ g.Lacks step last) ∨ g.Endless step start := by
  constructor
  · intro nothing
    cases ending with
    | found value => cases nothing
    | lost => exact Or.inl h
    | cycle id => exact Or.inr h
  · intro ends
    cases ending with
    | lost => rfl
    | cycle id => rfl
    | found value =>
      obtain ⟨last, leads, finds⟩ := h
      rcases ends with ⟨last', leads', lacks⟩ | endless
      · obtain rfl := leads.eq leads' (fun _ => finds.not_follows) (fun _ => lacks.not_follows)
        cases finds.not_lacks lacks
      · obtain ⟨next, follows⟩ := (endless.of_leads leads).not_end
        cases finds.not_follows follows

theorem tracedFrom_start (g : Graph) (step : Node → Step) (scope : Text) :
    g.Reaches step scope (g.walk step scope) ∧ g.Exhausts step scope (g.traced step scope).2 := by
  have setOff : g.OnTheWay step scope [] scope := onTheWay_start
  obtain ⟨reaches, exhausts⟩ := setOff.tracedFrom
  rw [fst_tracedFrom] at reaches
  exact ⟨reaches, exhausts⟩

/-- A walk looks up each id of its chain once, which is at most one more than there are nodes. It
finds a value exactly when a finite chain leads to it, and nothing exactly when the chain comes to
an id without a node or to a node without a link, or never ends. -/
theorem walk_follows_chain (g : Graph) (step : Node → Step) (scope : Text) :
    ∃ asked, g.traced step scope = (g.walk step scope, asked) ∧ g.Exhausts step scope asked ∧
      (∀ value, (g.walk step scope).value? = some value ↔
        ∃ last, g.Leads step scope last ∧ g.Finds step last value) ∧
      ((g.walk step scope).value? = none ↔
        (∃ last, g.Leads step scope last ∧ g.Lacks step last) ∨ g.Endless step scope) := by
  obtain ⟨reaches, exhausts⟩ := g.tracedFrom_start step scope
  refine ⟨(g.traced step scope).2, Prod.ext fst_tracedFrom rfl, exhausts, ?_, ?_⟩
  · intro value
    exact reaches.value?_eq_some_iff
  · exact reaches.value?_eq_none_iff

end IrListing.Source.Graph
