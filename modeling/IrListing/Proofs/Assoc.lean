import IrListing.Assoc
import Mathlib.Data.List.Induction
import Mathlib.Data.List.Nodup

namespace IrListing.Assoc

variable {κ ν : Type} [DecidableEq κ]

theorem mem_insert_iff {g : κ → ν} {table : Assoc κ ν} (follows : ∀ e ∈ table, e.2 = g e.1)
    (key : κ) (e : κ × ν) : e ∈ insert table key (g key) ↔ e ∈ table ∨ e = (key, g key) := by
  induction table with
  | nil => simp [insert]
  | cons d table ih =>
    have rest := ih fun e he => follows e (List.mem_cons_of_mem _ he)
    have hd : d.2 = g d.1 := follows d List.mem_cons_self
    by_cases h : d.1 = key
    · have same : d = (key, g key) := by rw [← h, ← hd]
      rw [insert, if_pos h, ← same, List.mem_cons]
      exact ⟨Or.inl, fun he => he.elim id Or.inl⟩
    · simp [insert, h, rest, or_assoc]

theorem mem_ofList_map_iff (g : κ → ν) (keys : List κ) (e : κ × ν) :
    e ∈ ofList (keys.map fun k => (k, g k)) ↔ e.1 ∈ keys ∧ e.2 = g e.1 := by
  have onto (table : Assoc κ ν) (follows : ∀ e ∈ table, e.2 = g e.1) (e : κ × ν) :
      e ∈ (keys.map fun k => (k, g k)).foldl (fun table e => insert table e.1 e.2) table ↔
        e ∈ table ∨ e.1 ∈ keys ∧ e.2 = g e.1 := by
    induction keys generalizing table with
    | nil => simp
    | cons key keys ih =>
      have still : ∀ e ∈ insert table key (g key), e.2 = g e.1 := by
        intro e he
        rcases (mem_insert_iff follows key e).1 he with h | rfl
        · exact follows e h
        · rfl
      rw [List.map_cons, List.foldl_cons, ih _ still, mem_insert_iff follows]
      have added : e = (key, g key) ↔ e.1 = key ∧ e.2 = g e.1 := by
        constructor
        · rintro rfl
          exact ⟨rfl, rfl⟩
        · rintro ⟨rfl, he⟩
          exact Prod.ext rfl he
      rw [added, List.mem_cons, or_and_right, or_assoc]
  simpa [ofList] using onto [] (by simp) e

theorem mem_or_eq_of_mem_insert {table : Assoc κ ν} {key : κ} {value : ν} {e : κ × ν}
    (h : e ∈ insert table key value) : e ∈ table ∨ e = (key, value) := by
  induction table with
  | nil => exact Or.inr (List.mem_singleton.1 h)
  | cons d table ih =>
    by_cases hd : d.1 = key
    · rw [insert, if_pos hd, List.mem_cons] at h
      rcases h with rfl | h
      · exact Or.inr rfl
      · exact Or.inl (List.mem_cons_of_mem _ h)
    · rw [insert, if_neg hd, List.mem_cons] at h
      rcases h with rfl | h
      · exact Or.inl List.mem_cons_self
      · exact (ih h).imp_left (List.mem_cons_of_mem _)

theorem mem_or_mem_of_mem_foldl_insert {table : Assoc κ ν} {entries : List (κ × ν)} {e : κ × ν}
    (h : e ∈ entries.foldl (fun table e => insert table e.1 e.2) table) :
    e ∈ table ∨ e ∈ entries := by
  induction entries generalizing table with
  | nil => exact Or.inl h
  | cons d entries ih =>
    rcases ih h with inserted | later
    · exact (mem_or_eq_of_mem_insert inserted).imp_right fun same => by simp [same]
    · exact Or.inr (List.mem_cons_of_mem _ later)

theorem mem_of_mem_ofList {entries : List (κ × ν)} {e : κ × ν} (h : e ∈ ofList entries) :
    e ∈ entries :=
  (mem_or_mem_of_mem_foldl_insert h).resolve_left (by simp)

theorem mem_of_get? {table : Assoc κ ν} {key : κ} {value : ν} (h : table.get? key = some value) :
    (key, value) ∈ table := by
  induction table with
  | nil => cases h
  | cons d table ih =>
    rw [get?] at h
    split at h
    · rename_i same
      obtain rfl := Option.some.inj h
      rw [← same]
      exact List.mem_cons_self
    · exact List.mem_cons_of_mem _ (ih h)

theorem get?_map {ν' : Type} (f : ν → ν') (table : Assoc κ ν) (key : κ) :
    get? (table.map fun (k, value) => (k, f value)) key = (table.get? key).map f := by
  induction table with
  | nil => rfl
  | cons e table ih =>
    rw [List.map_cons, get?, get?, ih]
    split <;> rfl

theorem ofList_concat (entries : List (κ × ν)) (e : κ × ν) :
    ofList (entries ++ [e]) = insert (ofList entries) e.1 e.2 := by
  simp [ofList]

theorem map_fst_insert (table : Assoc κ ν) (key : κ) (value : ν) :
    (insert table key value).map (·.1) =
      if key ∈ table.map (·.1) then table.map (·.1) else table.map (·.1) ++ [key] := by
  induction table with
  | nil => simp [insert]
  | cons d table ih =>
    by_cases hd : d.1 = key
    · simp [insert, hd]
    · rw [insert, if_neg hd, List.map_cons, ih]
      by_cases known : key ∈ table.map (·.1)
      · simp [known]
      · simp [known, Ne.symm hd]

theorem map_fst_ofList [BEq κ] [LawfulBEq κ] (entries : List (κ × ν)) :
    (ofList entries).map (·.1) = (entries.map (·.1)).eraseDups := by
  induction entries using List.reverseRecOn with
  | nil => rfl
  | append_singleton entries e ih =>
    rw [ofList_concat, map_fst_insert, ih, List.map_append, List.eraseDups_append]
    by_cases known : e.1 ∈ entries.map (·.1)
    · simp [known, List.removeAll]
    · simp [known, List.removeAll, List.eraseDups_cons]

theorem nodup_keys_ofList (entries : List (κ × ν)) : ((ofList entries).map (·.1)).Nodup := by
  induction entries using List.reverseRecOn with
  | nil => exact List.nodup_nil
  | append_singleton entries e ih =>
    rw [ofList_concat, map_fst_insert]
    split
    · exact ih
    · rename_i new
      refine List.nodup_append.2 ⟨ih, List.nodup_singleton _, ?_⟩
      rintro key hkey _ he rfl
      exact new (List.mem_singleton.1 he ▸ hkey)

theorem get?_of_mem {table : Assoc κ ν} (unique : (table.map (·.1)).Nodup) {e : κ × ν}
    (h : e ∈ table) : table.get? e.1 = some e.2 := by
  induction table with
  | nil => cases h
  | cons d table ih =>
    obtain ⟨first, rest⟩ := List.nodup_cons.1 unique
    rw [get?]
    rcases List.mem_cons.1 h with rfl | h
    · exact if_pos rfl
    · have other : d.1 ≠ e.1 := by
        intro same
        exact first (List.mem_map.2 ⟨e, h, same.symm⟩)
      rw [if_neg other, ih rest h]

theorem filterMap_keys {table : Assoc κ ν} (unique : (table.map (·.1)).Nodup) :
    (table.map (·.1)).filterMap (fun key => (table.get? key).map fun value => (key, value)) =
      table := by
  rw [List.filterMap_map]
  conv => rhs; rw [← List.filterMap_some (l := table)]
  apply List.filterMap_congr
  intro e he
  simp [get?_of_mem unique he]

theorem eq_of_get?_eq {table table' : Assoc κ ν} (unique : (table.map (·.1)).Nodup)
    (keys : table.map (·.1) = table'.map (·.1)) (same : ∀ key, table.get? key = table'.get? key) :
    table = table' := by
  have unique' : (table'.map (·.1)).Nodup := keys ▸ unique
  rw [← filterMap_keys unique, keys]
  simp only [same, filterMap_keys unique']

theorem exists_of_mem_keys {table : Assoc κ ν} {key : κ} (h : key ∈ table.map (·.1)) :
    ∃ value, table.get? key = some value := by
  induction table with
  | nil => cases h
  | cons d table ih =>
    by_cases hd : d.1 = key
    · exact ⟨d.2, if_pos hd⟩
    · obtain ⟨value, found⟩ := ih ((List.mem_cons.1 h).resolve_left (Ne.symm hd))
      exact ⟨value, (if_neg hd).trans found⟩

theorem get?_ofList [BEq κ] [LawfulBEq κ] (entries : List (κ × ν)) (key : κ) :
    (ofList entries).get? key = entries.reverse.lookup key := by
  induction entries using List.reverseRecOn with
  | nil => rfl
  | append_singleton entries e ih =>
    obtain ⟨k, value⟩ := e
    rw [ofList_concat, get?_insert, ih, List.reverse_concat, List.lookup_cons]
    by_cases h : k = key
    · simp [h]
    · simp [h, beq_eq_false_iff_ne.2 (Ne.symm h)]

theorem get?_ofList_append_cons [BEq κ] [LawfulBEq κ] {key : κ} {value : ν} {more : List (κ × ν)}
    (entries : List (κ × ν)) (last : ∀ e ∈ more, e.1 ≠ key) :
    (ofList (entries ++ (key, value) :: more)).get? key = some value := by
  have nothing : more.reverse.lookup key = none := by
    rw [List.lookup_eq_none_iff]
    intro e he
    exact bne_iff_ne.2 (last e (List.mem_reverse.1 he)).symm
  rw [get?_ofList, List.reverse_append, List.reverse_cons, List.lookup_append, List.lookup_append,
    nothing, List.lookup_cons_self]
  rfl

theorem get?_ofList_of_last [BEq κ] [LawfulBEq κ] {entries : List (κ × ν)} {i : Nat} {e : κ × ν}
    (here : entries[i]? = some e)
    (last : ∀ j d, i < j → entries[j]? = some d → d.1 ≠ e.1) :
    (ofList entries).get? e.1 = some e.2 := by
  obtain ⟨bound, entry⟩ := List.getElem?_eq_some_iff.1 here
  have split : entries = entries.take i ++ e :: entries.drop (i + 1) := by simp [← entry]
  rw [split]
  apply get?_ofList_append_cons
  intro d hd
  obtain ⟨j, there⟩ := List.mem_iff_getElem?.1 hd
  rw [List.getElem?_drop] at there
  exact last _ d (by omega) there

theorem ofList_map [BEq κ] [LawfulBEq κ] (g : κ → ν) (keys : List κ) :
    ofList (keys.map fun key => (key, g key)) = keys.eraseDups.map fun key => (key, g key) := by
  have unique := nodup_keys_ofList (keys.map fun key => (key, g key))
  have same : (keys.map fun key => (key, g key)).map (·.1) = keys := by
    rw [List.map_map]
    exact List.map_id'' (fun _ => rfl) keys
  rw [← filterMap_keys unique, map_fst_ofList, same]
  conv => rhs; rw [← List.filterMap_eq_map]
  apply List.filterMap_congr
  intro key hkey
  have entry := (mem_ofList_map_iff g keys (key, g key)).2 ⟨List.mem_eraseDups.1 hkey, rfl⟩
  have found : (ofList _).get? key = some (g key) := get?_of_mem unique entry
  rw [found]
  rfl

theorem map_fst_ofList_append [BEq κ] [LawfulBEq κ] {entries more : List (κ × ν)}
    (known : ∀ key ∈ more.map (·.1), key ∈ entries.map (·.1)) :
    (ofList (entries ++ more)).map (·.1) = (ofList entries).map (·.1) := by
  have nothing : (more.map (·.1)).removeAll (entries.map (·.1)) = [] := by
    simpa [List.removeAll] using known
  rw [map_fst_ofList, map_fst_ofList, List.map_append, List.eraseDups_append, nothing]
  exact List.append_nil _

theorem get?_ofList_append_eq_iff [BEq κ] [LawfulBEq κ] {entries more : List (κ × ν)} {key : κ} :
    (ofList (entries ++ more)).get? key = (ofList entries).get? key ↔
      ∀ value, more.reverse.lookup key = some value → entries.reverse.lookup key = some value := by
  rw [get?_ofList, get?_ofList, List.reverse_append, List.lookup_append]
  cases more.reverse.lookup key with
  | none => simp
  | some value => simp [eq_comm]

theorem ofList_append_eq_iff [BEq κ] [LawfulBEq κ] {entries more : List (κ × ν)} :
    ofList (entries ++ more) = ofList entries ↔
      ∀ key value, more.reverse.lookup key = some value →
        entries.reverse.lookup key = some value := by
  constructor
  · intro same key
    exact get?_ofList_append_eq_iff.1 (by rw [same])
  · intro repeats
    apply eq_of_get?_eq (nodup_keys_ofList _)
    · apply map_fst_ofList_append
      intro key hkey
      rw [← List.mem_eraseDups, ← map_fst_ofList] at hkey ⊢
      obtain ⟨value, found⟩ := exists_of_mem_keys hkey
      rw [get?_ofList] at found
      apply mem_keys_of_get?
      rw [get?_ofList, repeats key value found]
    · intro key
      exact get?_ofList_append_eq_iff.2 (repeats key)

end IrListing.Assoc
