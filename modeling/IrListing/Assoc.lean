namespace IrListing

abbrev Assoc (κ ν : Type) := List (κ × ν)

namespace Assoc

variable {κ ν : Type} [DecidableEq κ]

def get? : Assoc κ ν → κ → Option ν
  | [], _ => none
  | (k, v) :: table, key => if k = key then some v else get? table key

def insert : Assoc κ ν → κ → ν → Assoc κ ν
  | [], key, value => [(key, value)]
  | (k, v) :: table, key, value =>
    if k = key then (key, value) :: table else (k, v) :: insert table key value

def erase (table : Assoc κ ν) (key : κ) : Assoc κ ν := table.filter (·.1 ≠ key)

def ofList (entries : List (κ × ν)) : Assoc κ ν :=
  entries.foldl (fun table e => insert table e.1 e.2) []

@[simp] theorem get?_nil (key : κ) : get? ([] : Assoc κ ν) key = none := rfl

@[simp] theorem get?_insert_self (table : Assoc κ ν) (key : κ) (value : ν) :
    get? (insert table key value) key = some value := by
  induction table with
  | nil => simp [insert, get?]
  | cons e table ih =>
    by_cases h : e.1 = key
    · simp [insert, get?, h]
    · simp [insert, get?, h, ih]

theorem get?_insert_of_ne (table : Assoc κ ν) {key other : κ} (value : ν) (h : key ≠ other) :
    get? (insert table key value) other = get? table other := by
  induction table with
  | nil => simp [insert, get?, h]
  | cons e table ih =>
    by_cases hk : e.1 = key
    · simp [insert, get?, hk, h]
    · simp [insert, get?, hk, ih]

theorem get?_insert (table : Assoc κ ν) (key other : κ) (value : ν) :
    get? (insert table key value) other = if key = other then some value else get? table other := by
  split
  · next h => rw [← h, get?_insert_self]
  · next h => exact get?_insert_of_ne table value h

@[simp] theorem get?_erase_self (table : Assoc κ ν) (key : κ) :
    get? (erase table key) key = none := by
  induction table with
  | nil => rfl
  | cons e table ih =>
    by_cases h : e.1 = key
    · simpa [erase, h] using ih
    · simpa [erase, get?, h] using ih

theorem get?_erase_of_ne (table : Assoc κ ν) {key other : κ} (h : key ≠ other) :
    get? (erase table key) other = get? table other := by
  induction table with
  | nil => rfl
  | cons e table ih =>
    by_cases hk : e.1 = key
    · simpa [erase, get?, hk, h] using ih
    · by_cases ho : e.1 = other
      · simp [erase, get?, ho, Ne.symm h]
      · simpa [erase, get?, hk, ho] using ih

theorem get?_erase (table : Assoc κ ν) (key other : κ) :
    get? (erase table key) other = if key = other then none else get? table other := by
  split
  · next h => rw [← h, get?_erase_self]
  · next h => exact get?_erase_of_ne table h

theorem mem_keys_of_get? {table : Assoc κ ν} {key : κ} {value : ν}
    (h : get? table key = some value) : key ∈ table.map (·.1) := by
  induction table with
  | nil => simp at h
  | cons e table ih =>
    by_cases hk : e.1 = key
    · simp [hk]
    · simp only [get?, hk, if_false] at h
      exact List.mem_cons_of_mem _ (ih h)

end Assoc

end IrListing
