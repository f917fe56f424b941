import IrListing.Proofs.Source.Chain
import IrListing.Proofs.Source.History

namespace IrListing.Source

open Metadata

namespace Graph

def asked (g : Graph) (step : Node → Step) (scope : Text) : List Text := (g.traced step scope).2

def AgreeOn (g g' : Graph) (ids : List Text) : Prop := ∀ id ∈ ids, g.get? id = g'.get? id

instance (g g' : Graph) (ids : List Text) : Decidable (g.AgreeOn g' ids) :=
  inferInstanceAs (Decidable (∀ id ∈ ids, _))

def Within (g g' : Graph) : Prop := ∀ id n, g.get? id = some n → g'.get? id = some n

/-- A walk is lost at an id that this graph lacks and the other one has. -/
structure BreaksOff (g g' : Graph) (step : Node → Step) (scope : Text) : Prop where
  lost : g.walk step scope = .lost
  missing : ∃ id ∈ g.asked step scope, g.get? id = none ∧ g'.get? id ≠ none

structure Grows {α : Type} (before after : Option α) (cause : Prop) : Prop where
  kept : ∀ value, before = some value → after = some value
  caused : after ≠ before → cause

section Walk

variable {g g' : Graph} {step : Node → Step} {scope : Text}

theorem AgreeOn.traced (h : g.AgreeOn g' (g.asked step scope)) :
    g'.traced step scope = g.traced step scope :=
  tracedFrom_congr fun id asked => by rw [h id asked]

theorem AgreeOn.walk (h : g.AgreeOn g' (g.asked step scope)) :
    g'.walk step scope = g.walk step scope := by
  rw [Graph.walk, Graph.walk, ← fst_tracedFrom, ← fst_tracedFrom]
  exact congrArg Prod.fst h.traced

theorem walk_of_missing {id : Text} (asked : id ∈ g.asked step scope) (missing : g.get? id = none) :
    g.walk step scope = .lost := by
  obtain ⟨reaches, exhausts⟩ := g.tracedFrom_start step scope
  have leads : g.Leads step scope id := (exhausts.mem_iff id).1 asked
  have lacks : g.Lacks step id := Or.inl (by rw [at?, missing, Option.map_none])
  cases ending : g.walk step scope with
  | lost => rfl
  | found value =>
    have nothing := reaches.value?_eq_none_iff.2 (Or.inl ⟨id, leads, lacks⟩)
    rw [ending] at nothing
    cases nothing
  | cycle back =>
    rw [ending] at reaches
    obtain ⟨next, follows⟩ := (Endless.of_leads reaches leads).not_end
    cases lacks.not_follows follows

theorem Within.walk_eq_or_breaksOff (h : g.Within g') :
    g'.walk step scope = g.walk step scope ∨ g.BreaksOff g' step scope := by
  by_cases agree : g.AgreeOn g' (g.asked step scope)
  · exact Or.inl agree.walk
  · right
    simp only [AgreeOn, not_forall] at agree
    obtain ⟨id, asked, differ⟩ := agree
    cases present : g.get? id with
    | none => exact ⟨walk_of_missing asked present, id, asked, present, present ▸ Ne.symm differ⟩
    | some n => exact absurd (present.trans (h id n present).symm) differ

theorem Within.grows (h : g.Within g') {α : Type} (read : Text → Option α) :
    Grows ((g.walk step scope).value?.bind read) ((g'.walk step scope).value?.bind read)
      (g.BreaksOff g' step scope) := by
  have cause : g'.walk step scope = g.walk step scope ∨ g.BreaksOff g' step scope :=
    h.walk_eq_or_breaksOff
  rcases cause with same | breaks
  · rw [same]
    exact ⟨fun _ found => found, fun differ => absurd rfl differ⟩
  · rw [breaks.lost]
    exact ⟨fun _ found => (by cases found), fun _ => breaks⟩

end Walk

theorem file?_eq_bind (g : Graph) (scope : Text) :
    g.file? scope =
      (g.walk fileStep scope).value?.bind (Option.guard (!isStandIn ·)) := by
  rw [file?, Option.bind_guard]

theorem within_store {g : Graph} {n : Node} (new : g.get? n.id = none) : g.Within (g.store n) := by
  intro id m present
  rw [get?_store, if_neg, present]
  rintro rfl
  rw [new] at present
  cases present

end Graph

namespace Resolver

def Action.touched : Action → List Text
  | .store n => [n.id]
  | .remove id => [id]
  | _ => []

def Aside (actions : List Action) (ids : List Text) : Prop :=
  ∀ a ∈ actions, ∀ id ∈ a.touched, id ∉ ids

instance (actions : List Action) (ids : List Text) : Decidable (Aside actions ids) :=
  inferInstanceAs (Decidable (∀ a ∈ actions, ∀ id ∈ a.touched, _))

theorem leaves?_of_not_mem_touched {id : Text} {a : Action} (h : id ∉ a.touched)
    (n? : Option Node) : leaves? id n? a = n? := by
  cases a with
  | store n => exact if_neg fun same => h (List.mem_singleton.2 same.symm)
  | remove other => exact if_neg fun same => h (List.mem_singleton.2 same.symm)
  | walk scope => rfl
  | resolve scope => rfl
  | forget => rfl

theorem Aside.agreeOn {actions : List Action} {ids : List Text} (h : Aside actions ids)
    (g : Graph) : g.AgreeOn ((ofGraph g).after actions).graph ids := by
  intro id inside
  rw [get?_graph_after]
  induction actions with
  | nil => rfl
  | cons a actions ih =>
    have here : id ∉ a.touched := fun touched => h a List.mem_cons_self id touched inside
    rw [List.foldl_cons, leaves?_of_not_mem_touched here]
    exact ih fun b hb => h b (List.mem_cons_of_mem _ hb)

end Resolver

open IrListing.Source.Graph IrListing.Source.Resolver

/-- A graph that has the same nodes at the ids that a walk looks up gives the same walk, which looks
up the same ids. So nothing that is done to other nodes changes file, line or column of a scope; and
where nodes at new ids change one of them, it was unknown and its walk was lost at a new id. -/
theorem walk_local (g g' : Graph) (scope : Text) :
    (∀ step, g.AgreeOn g' (g.asked step scope) →
        g'.walk step scope = g.walk step scope ∧ g'.asked step scope = g.asked step scope) ∧
      (∀ actions,
        let later := ((ofGraph g).after actions).graph
        (Aside actions (g.asked fileStep scope) → later.file? scope = g.file? scope) ∧
          (Aside actions (g.asked lineStep scope) → later.line? scope = g.line? scope) ∧
          (Aside actions (g.asked columnStep scope) → later.column? scope = g.column? scope)) ∧
      (g.Within g' →
        (∀ step, g'.walk step scope = g.walk step scope ∨ g.BreaksOff g' step scope) ∧
          Grows (g.file? scope) (g'.file? scope) (g.BreaksOff g' fileStep scope) ∧
          Grows (g.line? scope) (g'.line? scope) (g.BreaksOff g' lineStep scope) ∧
          Grows (g.column? scope) (g'.column? scope) (g.BreaksOff g' columnStep scope)) := by
  refine ⟨?_, ?_, ?_⟩
  · intro step agree
    exact ⟨agree.walk, congrArg Prod.snd agree.traced⟩
  · intro actions later
    refine ⟨?_, ?_, ?_⟩
    · intro aside
      rw [file?, file?, (aside.agreeOn g).walk]
    · intro aside
      rw [line?, line?, (aside.agreeOn g).walk]
    · intro aside
      rw [column?, column?, (aside.agreeOn g).walk]
  · intro within
    rw [file?_eq_bind, file?_eq_bind]
    exact ⟨fun _ => within.walk_eq_or_breaksOff, within.grows _, within.grows _, within.grows _⟩

def blocks : Graph :=
  [("!1".toList, ⟨"!1".toList, "LexicalBlock".toList,
      [("scope".toList, "!2".toList), ("line".toList, "7".toList)]⟩),
    ("!2".toList, ⟨"!2".toList, "Subprogram".toList, [("file".toList, "!3".toList)]⟩)]

def fileNode : Node := ⟨"!3".toList, "File".toList, [("filename".toList, "a.c".toList)]⟩

def elsewhere : List Action :=
  [.store ⟨"!4".toList, "File".toList, [("filename".toList, "b.c".toList)]⟩, .resolve "!1".toList,
    .store ⟨"!4".toList, "File".toList, []⟩, .remove "!5".toList]

theorem walk_local_blocks :
    let later := ((ofGraph blocks).after elsewhere).graph
    let named := blocks.store fileNode
    (blocks.AgreeOn named (blocks.asked lineStep "!1".toList) ∧
        named.walk lineStep "!1".toList = .found "7".toList) ∧
      (Aside elsewhere (blocks.asked fileStep "!1".toList) ∧ later.file? "!1".toList = none) ∧
      (Aside elsewhere (blocks.asked lineStep "!1".toList) ∧ later.line? "!1".toList = some 7) ∧
      (Aside elsewhere (blocks.asked columnStep "!1".toList) ∧ later.column? "!1".toList = none) ∧
      blocks.Within named ∧
      named.file? "!1".toList = some "a.c".toList ∧
      blocks.BreaksOff named fileStep "!1".toList := by
  intro later named
  obtain ⟨alike, aside, extended⟩ := walk_local blocks named "!1".toList
  obtain ⟨file, line, column⟩ := aside elsewhere
  have agree : blocks.AgreeOn named (blocks.asked lineStep "!1".toList) := by decide +kernel
  have offFile : Aside elsewhere (blocks.asked fileStep "!1".toList) := by decide +kernel
  have offLine : Aside elsewhere (blocks.asked lineStep "!1".toList) := by decide +kernel
  have offColumn : Aside elsewhere (blocks.asked columnStep "!1".toList) := by decide +kernel
  have within : blocks.Within named := within_store (by decide)
  obtain ⟨-, grown, -⟩ := extended within
  have unknown : blocks.file? "!1".toList = none := by decide +kernel
  have known : named.file? "!1".toList = some "a.c".toList := by decide +kernel
  refine ⟨⟨agree, (alike lineStep agree).1.trans ?_⟩, ⟨offFile, (file offFile).trans unknown⟩,
    ⟨offLine, (line offLine).trans ?_⟩, ⟨offColumn, (column offColumn).trans ?_⟩, within, known,
    grown.caused ?_⟩
  · decide +kernel
  · decide +kernel
  · decide +kernel
  · rw [known, unknown]
    simp

end IrListing.Source
