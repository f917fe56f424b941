import IrListing.Source.Resolver

namespace IrListing.Source.Resolver

def Faithful (r : Resolver) : Prop :=
  ∀ scope l, r.known.get? scope = some l → l = r.graph.locate scope

theorem faithful_ofGraph (g : Graph) : (ofGraph g).Faithful := by
  intro scope l h
  simp [ofGraph] at h

@[simp] theorem graph_resolve (r : Resolver) (scope : Text) :
    (r.resolve scope).2.graph = r.graph := by
  unfold resolve
  split <;> rfl

theorem Faithful.fst_resolve {r : Resolver} (h : r.Faithful) (scope : Text) :
    (r.resolve scope).1 = r.graph.locate scope := by
  unfold resolve
  split
  · rename_i l known
    exact h scope l known
  · rfl

theorem Faithful.snd_resolve {r : Resolver} (h : r.Faithful) (scope : Text) :
    (r.resolve scope).2.Faithful := by
  intro other l known
  rw [graph_resolve]
  unfold resolve at known
  split at known
  · exact h other l known
  · rw [Assoc.get?_insert] at known
    split at known
    · rename_i e
      cases known
      rw [e]
    · exact h other l known

end IrListing.Source.Resolver
