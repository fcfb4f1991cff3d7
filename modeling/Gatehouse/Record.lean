/-! Records are string-keyed tables that remember the order in which their keys first arrived: a key
    that is written again keeps its place and takes the new value. JSON objects and the slots of a
    store are both records, so what is read back from a document keeps the order of writing. -/

namespace Gatehouse

/-- A string-keyed table in order of first arrival. -/
abbrev Record (α : Type) := List (String × α)

namespace Record

variable {α : Type}

/-- The value under a key. -/
def get? (r : Record α) (key : String) : Option α := List.lookup key r

/-- Writes a key: in place if it is there, at the end if it is new. -/
def put (r : Record α) (key : String) (value : α) : Record α :=
  match r with
  | [] => [(key, value)]
  | (k, v) :: rest => if k = key then (key, value) :: rest else (k, v) :: put rest key value

/-- Removes a key. -/
def erase (r : Record α) (key : String) : Record α := r.filter (fun e => e.1 ≠ key)

/-- The keys in order. -/
def keys (r : Record α) : List String := r.map Prod.fst

/-- Whether a key is there. -/
def has (r : Record α) (key : String) : Bool := (r.get? key).isSome

/-- The record that results from writing the entries one after another. -/
def ofList (entries : List (String × α)) : Record α :=
  entries.foldl (fun r e => put r e.1 e.2) []

@[simp] theorem get?_nil (key : String) : get? ([] : Record α) key = none := rfl

theorem get?_cons (k key : String) (v : α) (r : Record α) :
    get? ((k, v) :: r) key = if key = k then some v else get? r key := by
  by_cases h : key = k
  · simp [get?, h]
  · simp [get?, List.lookup_cons, h, beq_false_of_ne h]

/-- A key that was written holds what was written. -/
@[simp] theorem get?_put_self (r : Record α) (key : String) (value : α) :
    get? (put r key value) key = some value := by
  induction r with
  | nil => simp [put, get?_cons]
  | cons e r ih =>
    obtain ⟨k, v⟩ := e
    by_cases h : k = key
    · simp [put, h, get?_cons]
    · simp [put, h, get?_cons, Ne.symm h, ih]

/-- Writing a key leaves the other keys alone. -/
theorem get?_put_of_ne (r : Record α) {key other : String} (value : α) (h : other ≠ key) :
    get? (put r key value) other = get? r other := by
  induction r with
  | nil => simp [put, get?_cons, h]
  | cons e r ih =>
    obtain ⟨k, v⟩ := e
    by_cases hk : k = key
    · subst hk
      simp [put, get?_cons, h]
    · simp [put, hk, get?_cons, ih]

/-- A key that was removed is not there. -/
@[simp] theorem get?_erase_self (r : Record α) (key : String) : get? (erase r key) key = none := by
  induction r with
  | nil => rfl
  | cons e r ih =>
    obtain ⟨k, v⟩ := e
    by_cases h : k = key
    · simpa [erase, h] using ih
    · simpa [erase, h, get?_cons, Ne.symm h] using ih

/-- Removing a key leaves the other keys alone. -/
theorem get?_erase_of_ne (r : Record α) {key other : String} (h : other ≠ key) :
    get? (erase r key) other = get? r other := by
  induction r with
  | nil => rfl
  | cons e r ih =>
    obtain ⟨k, v⟩ := e
    by_cases hk : k = key
    · subst hk
      simpa [erase, get?_cons, h] using ih
    · by_cases ho : other = k
      · simp [erase, hk, get?_cons, ho]
      · simpa [erase, hk, get?_cons, ho] using ih

/-- A key keeps its place when it is written again, and comes last when it is new. -/
theorem keys_put (r : Record α) (key : String) (value : α) :
    keys (put r key value) = if key ∈ keys r then keys r else keys r ++ [key] := by
  induction r with
  | nil => rfl
  | cons e r ih =>
    obtain ⟨k, v⟩ := e
    by_cases h : k = key
    · simp [put, keys, h]
    · simp only [put, h, if_false, keys, List.map_cons] at ih ⊢
      by_cases hm : key ∈ r.map Prod.fst <;> simp [ih, hm, Ne.symm h]

end Record

end Gatehouse
