/-!
# PriceOracle.Table

Finite maps as lists of pairs. A key occurs at most once in a table built by `put`; in any list
the first pair of a key counts.
-/

namespace PriceOracle

abbrev Table (α β : Type) := List (α × β)

namespace Table

variable {α β : Type} [DecidableEq α]

def get? (t : Table α β) (key : α) : Option β :=
  match t with
  | [] => none
  | (k, v) :: rest => if k = key then some v else get? rest key

/-- Put a value under a key in the place of the one before. -/
def put (t : Table α β) (key : α) (value : β) : Table α β :=
  match t with
  | [] => [(key, value)]
  | (k, v) :: rest => if k = key then (key, value) :: rest else (k, v) :: put rest key value

def erase (t : Table α β) (key : α) : Table α β := t.filter fun p => p.1 ≠ key

/-- Put values under their keys, one after another. -/
def putAll (t : Table α β) (pairs : List (α × β)) : Table α β :=
  pairs.foldl (fun t p => t.put p.1 p.2) t

/-- The table of a list of pairs, of which the last one of a key counts. -/
def ofPairs (pairs : List (α × β)) : Table α β := putAll [] pairs

@[simp] theorem get?_nil (key : α) : get? ([] : Table α β) key = none := rfl

theorem get?_put (t : Table α β) (key other : α) (value : β) :
    (t.put key value).get? other = if key = other then some value else t.get? other := by
  induction t with
  | nil => by_cases h : key = other <;> simp [put, get?, h]
  | cons p rest ih =>
    obtain ⟨k, v⟩ := p
    by_cases hk : k = key
    · subst hk
      by_cases h : k = other <;> simp [put, get?, h]
    · by_cases h : k = other
      · subst h
        simp [put, get?, hk, Ne.symm hk]
      · simp [put, get?, hk, h, ih]

@[simp] theorem get?_put_self (t : Table α β) (key : α) (value : β) :
    (t.put key value).get? key = some value := by simp [get?_put]

theorem get?_put_of_ne (t : Table α β) {key other : α} (value : β) (h : key ≠ other) :
    (t.put key value).get? other = t.get? other := by simp [get?_put, h]

theorem get?_erase (t : Table α β) (key other : α) :
    (t.erase key).get? other = if key = other then none else t.get? other := by
  induction t with
  | nil => simp [erase]
  | cons p rest ih =>
    obtain ⟨k, v⟩ := p
    have step : erase ((k, v) :: rest) key
        = if k = key then erase rest key else (k, v) :: erase rest key := by
      by_cases hk : k = key <;> simp [erase, hk]
    rw [step]
    by_cases hk : k = key
    · subst hk
      rw [if_pos rfl, ih]
      by_cases h : k = other <;> simp [get?, h]
    · by_cases h : k = other
      · subst h
        simp [get?, hk, Ne.symm hk]
      · simp [get?, hk, h, ih]

end Table
end PriceOracle
