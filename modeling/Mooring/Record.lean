/-! Tables that keep the order of their keys. Putting a key that is there replaces its value in
place; a new key goes to the end. -/

namespace Mooring

/-- Pairs of key and value in order. -/
abbrev Record (α : Type) := List (String × α)

namespace Record

variable {α : Type}

def get? (r : Record α) (key : String) : Option α :=
  (r.find? (fun entry => entry.1 == key)).map (·.2)

def contains (r : Record α) (key : String) : Bool := r.any (fun entry => entry.1 == key)

def put (key : String) (value : α) : Record α → Record α
  | [] => [(key, value)]
  | (k, v) :: r => if k = key then (k, value) :: r else (k, v) :: put key value r

/-- Puts every pair of `more` in turn. -/
def putAll (r more : Record α) : Record α := more.foldl (fun r (k, v) => put k v r) r

/-- The table of a list of pairs: each key at its first place with its last value. -/
def ofPairs (pairs : List (String × α)) : Record α := putAll [] pairs

def keys (r : Record α) : List String := r.map (·.1)

@[simp] theorem get?_nil (key : String) : get? ([] : Record α) key = none := rfl

theorem get?_cons (k key : String) (v : α) (r : Record α) :
    get? ((k, v) :: r) key = if k = key then some v else get? r key := by
  by_cases h : k = key <;> simp [get?, h]

@[simp] theorem get?_put_self (key : String) (value : α) (r : Record α) :
    get? (put key value r) key = some value := by
  induction r with
  | nil => simp [put, get?]
  | cons entry r ih =>
    obtain ⟨k, v⟩ := entry
    by_cases h : k = key <;> simp [put, h, get?_cons, ih]

theorem get?_put_of_ne {key other : String} (h : key ≠ other) (value : α) (r : Record α) :
    get? (put key value r) other = get? r other := by
  induction r with
  | nil => simp [put, get?, h]
  | cons entry r ih =>
    obtain ⟨k, v⟩ := entry
    by_cases hk : k = key
    · subst hk; simp [put, get?_cons, h]
    · simp [put, hk, get?_cons, ih]

/-- A new key goes to the end. -/
theorem put_of_not_mem {key : String} {r : Record α} (h : key ∉ keys r) (value : α) :
    put key value r = r ++ [(key, value)] := by
  induction r with
  | nil => rfl
  | cons entry r ih =>
    obtain ⟨k, v⟩ := entry
    simp only [keys, List.map_cons, List.mem_cons, not_or] at h
    rw [put, if_neg (Ne.symm h.1), ih h.2]
    rfl

theorem putAll_of_nodup {r more : Record α} (h : (keys r ++ keys more).Nodup) :
    putAll r more = r ++ more := by
  induction more generalizing r with
  | nil => exact (List.append_nil r).symm
  | cons entry more ih =>
    obtain ⟨k, v⟩ := entry
    have hk : k ∉ keys r := fun hmem =>
      (List.nodup_append.mp h).2.2 k hmem k (List.mem_cons_self ..) rfl
    have hmore : (keys (r ++ [(k, v)]) ++ keys more).Nodup := by
      simpa [keys] using h
    show putAll (put k v r) more = r ++ (k, v) :: more
    rw [put_of_not_mem hk, ih hmore, List.append_assoc]
    rfl

/-- Pairs with keys of their own make a table as they are. -/
theorem ofPairs_of_nodup {pairs : List (String × α)} (h : (pairs.map (·.1)).Nodup) :
    ofPairs pairs = pairs :=
  putAll_of_nodup (by simpa [keys] using h)

end Record

end Mooring
