import IrListing.Source.Resolver

namespace IrListing.Source.Graph

open Metadata

theorem get?_store (g : Graph) (n : Node) (id : Text) :
    (g.store n).get? id = if n.id = id then some n else g.get? id :=
  Assoc.get?_insert g n.id id n

section Step

variable {g : Graph} {step : Node → Step} {seen : List Text} {id : Text}

theorem walkFrom_of_mem (h : id ∈ seen) : g.walkFrom step seen id = .cycle id := by
  rw [walkFrom, dif_pos h]

theorem walkFrom_of_missing (new : id ∉ seen) (h : g.get? id = none) :
    g.walkFrom step seen id = .lost := by
  rw [walkFrom, dif_neg new]
  split
  · rfl
  · rename_i n present
    rw [h] at present
    cases present

theorem walkFrom_of_get? {n : Node} (new : id ∉ seen) (h : g.get? id = some n) :
    g.walkFrom step seen id =
      match step n with
      | .found value => .found value
      | .stop => .lost
      | .follow next => g.walkFrom step (id :: seen) next := by
  rw [walkFrom, dif_neg new]
  split
  · rename_i missing
    rw [h] at missing
    cases missing
  · rename_i m present
    obtain rfl : m = n := Option.some.inj (present.symm.trans h)
    rfl

end Step

def tracedFrom (g : Graph) (step : Node → Step) (seen : List Text) (id : Text) :
    Ending × List Text :=
  if _ : id ∈ seen then (.cycle id, seen)
  else match _ : g.get? id with
    | none => (.lost, id :: seen)
    | some n =>
      match step n with
      | .found value => (.found value, id :: seen)
      | .stop => (.lost, id :: seen)
      | .follow next => g.tracedFrom step (id :: seen) next
termination_by (g.unseen seen).length
decreasing_by exact unseen_cons_lt ‹_› ‹_›

def traced (g : Graph) (step : Node → Step) (scope : Text) : Ending × List Text :=
  g.tracedFrom step [] scope

section Trace

variable {g g' : Graph} {step : Node → Step} {seen : List Text} {id : Text}

theorem fst_tracedFrom : (g.tracedFrom step seen id).1 = g.walkFrom step seen id := by
  fun_induction tracedFrom g step seen id with
  | case1 seen id visited => rw [walkFrom_of_mem visited]
  | case2 seen id new missing => rw [walkFrom_of_missing new missing]
  | case3 seen id new n present value found => rw [walkFrom_of_get? new present, found]
  | case4 seen id new n present stop => rw [walkFrom_of_get? new present, stop]
  | case5 seen id new n present next follow ih => rw [walkFrom_of_get? new present, follow, ih]

theorem tracedFrom_of_mem (h : id ∈ seen) : g.tracedFrom step seen id = (.cycle id, seen) := by
  rw [tracedFrom, dif_pos h]

theorem tracedFrom_of_missing (new : id ∉ seen) (h : g.get? id = none) :
    g.tracedFrom step seen id = (.lost, id :: seen) := by
  rw [tracedFrom, dif_neg new]
  split
  · rfl
  · rename_i n present
    rw [h] at present
    cases present

theorem tracedFrom_of_get? {n : Node} (new : id ∉ seen) (h : g.get? id = some n) :
    g.tracedFrom step seen id =
      match step n with
      | .found value => (.found value, id :: seen)
      | .stop => (.lost, id :: seen)
      | .follow next => g.tracedFrom step (id :: seen) next := by
  rw [tracedFrom, dif_neg new]
  split
  · rename_i missing
    rw [h] at missing
    cases missing
  · rename_i m present
    obtain rfl : m = n := Option.some.inj (present.symm.trans h)
    rfl

theorem seen_subset_tracedFrom : seen ⊆ (g.tracedFrom step seen id).2 := by
  fun_induction tracedFrom g step seen id with
  | case1 seen id _ => exact List.Subset.refl seen
  | case2 seen id _ _ => exact List.subset_cons_self id seen
  | case3 seen id _ _ _ _ _ => exact List.subset_cons_self id seen
  | case4 seen id _ _ _ _ => exact List.subset_cons_self id seen
  | case5 seen id _ _ _ _ _ ih => exact List.Subset.trans (List.subset_cons_self id seen) ih

theorem tracedFrom_congr
    (h : ∀ k ∈ (g.tracedFrom step seen id).2, (g.get? k).map step = (g'.get? k).map step) :
    g'.tracedFrom step seen id = g.tracedFrom step seen id := by
  have there {id : Text} {n : Node} (present : g.get? id = some n)
      (same : (g.get? id).map step = (g'.get? id).map step) :
      ∃ n', g'.get? id = some n' ∧ step n' = step n := by
    apply Option.map_eq_some_iff.1
    rw [← same, present, Option.map_some]
  fun_induction tracedFrom g step seen id with
  | case1 seen id visited => rw [tracedFrom_of_mem visited]
  | case2 seen id new missing =>
    have missing' : g'.get? id = none := by
      rw [← Option.map_eq_none_iff (f := step), ← h id List.mem_cons_self, missing, Option.map_none]
    rw [tracedFrom_of_missing new missing']
  | case3 seen id new n present value found =>
    obtain ⟨n', present', same⟩ := there present (h id List.mem_cons_self)
    rw [tracedFrom_of_get? new present', same, found]
  | case4 seen id new n present stop =>
    obtain ⟨n', present', same⟩ := there present (h id List.mem_cons_self)
    rw [tracedFrom_of_get? new present', same, stop]
  | case5 seen id new n present next follow ih =>
    obtain ⟨n', present', same⟩ := there present (h id (seen_subset_tracedFrom List.mem_cons_self))
    rw [tracedFrom_of_get? new present', same, follow]
    exact ih h

end Trace

theorem walkFrom_congr {g g' : Graph} {step : Node → Step}
    (h : ∀ id, (g.get? id).map step = (g'.get? id).map step) (seen : List Text) (id : Text) :
    g.walkFrom step seen id = g'.walkFrom step seen id := by
  have traced : g'.tracedFrom step seen id = g.tracedFrom step seen id :=
    tracedFrom_congr fun k _ => h k
  rw [← fst_tracedFrom, ← fst_tracedFrom, traced]

theorem locate_congr {g g' : Graph}
    (h : ∀ step ∈ [fileStep, lineStep, columnStep], ∀ id,
      (g.get? id).map step = (g'.get? id).map step) (scope : Text) :
    g.locate scope = g'.locate scope := by
  have file : g.walk fileStep scope = g'.walk fileStep scope :=
    walkFrom_congr (h _ (by simp)) [] scope
  have line : g.walk lineStep scope = g'.walk lineStep scope :=
    walkFrom_congr (h _ (by simp)) [] scope
  have column : g.walk columnStep scope = g'.walk columnStep scope :=
    walkFrom_congr (h _ (by simp)) [] scope
  rw [locate, locate, file?, file?, file, line?, line?, line, column?, column?, column]

def Agree (g g' : Graph) : Prop := ∀ id, g.get? id = g'.get? id

theorem Agree.locate {g g' : Graph} (h : g.Agree g') (scope : Text) :
    g.locate scope = g'.locate scope :=
  locate_congr (fun step _ id => by rw [h id]) scope

end IrListing.Source.Graph

namespace IrListing.Source

open Metadata

theorem upward_ne_found (n : Node) (value : Text) : upward n ≠ .found value := by
  unfold upward
  split <;> simp

theorem fileStep_eq_found_iff {n : Node} {name : Text} :
    fileStep n = .found name ↔ n.attributes.get? "filename".toList = some name ∧ name ≠ [] := by
  have filled : n.filled? "filename".toList = some name ↔
      n.attributes.get? "filename".toList = some name ∧ name ≠ [] := by
    rw [n.filled?_eq_filter, Option.filter_eq_some_iff, decide_eq_true_eq]
  rw [← filled, fileStep]
  cases n.filled? "filename".toList with
  | some name' => simp
  | none =>
    cases n.filled? "file".toList with
    | some id => simp
    | none => simp [upward_ne_found]

def placeKeys : List Text := ["filename", "file", "scope", "line", "column"].map (·.toList)

def SamePlace (n n' : Node) : Prop :=
  ∀ key ∈ placeKeys, n.attributes.get? key = n'.attributes.get? key

namespace SamePlace

variable {n n' : Node} (h : SamePlace n n')

include h

theorem upward : upward n = upward n' := by
  rw [Source.upward, Source.upward, h _ (by simp [placeKeys])]

theorem filled? {key : Text} (hkey : key ∈ placeKeys) : n.filled? key = n'.filled? key := by
  rw [Node.filled?, Node.filled?, h key hkey]

theorem fileStep : fileStep n = fileStep n' := by
  rw [Source.fileStep, Source.fileStep, h.filled? (by simp [placeKeys]),
    h.filled? (by simp [placeKeys]), h.upward]

theorem fieldStep {key : Text} (hkey : key ∈ placeKeys) : fieldStep key n = fieldStep key n' := by
  rw [Source.fieldStep, Source.fieldStep, h.filled? hkey, h.upward]

theorem step_eq : ∀ step ∈ [Source.fileStep, lineStep, columnStep], step n = step n' := by
  simp only [List.mem_cons, List.not_mem_nil, or_false]
  rintro _ (rfl | rfl | rfl)
  · exact h.fileStep
  · exact h.fieldStep (by simp [placeKeys])
  · exact h.fieldStep (by simp [placeKeys])

end SamePlace

end IrListing.Source
