/-! A map that keeps its keys in the order of their first insertion, each key once. Putting a key
that is there replaces its value in place. -/

namespace ResourceStubs

/-- A map with text keys in insertion order. -/
structure Dict (α : Type) where
  entries : List (String × α)
  nodup : (entries.map Prod.fst).Nodup

namespace Dict

variable {α β : Type}

/-- No entries. -/
def empty : Dict α := ⟨[], by simp⟩

instance : Inhabited (Dict α) := ⟨empty⟩

/-- The keys in insertion order. -/
def keys (d : Dict α) : List String := d.entries.map Prod.fst

/-- The values in the order of their keys. -/
def values (d : Dict α) : List α := d.entries.map Prod.snd

/-- The number of keys. -/
def size (d : Dict α) : Nat := d.entries.length

/-- There are no keys. -/
def isEmpty (d : Dict α) : Bool := d.entries.isEmpty

/-- The value of a key. -/
def get? (d : Dict α) (key : String) : Option α := d.entries.lookup key

/-- The key has a value. -/
def contains (d : Dict α) (key : String) : Bool := (d.get? key).isSome

/-- Entries with the value of `key` replaced, or with the key and value added at the end. -/
def put (key : String) (value : α) : List (String × α) → List (String × α)
  | [] => [(key, value)]
  | (k, v) :: rest => if k = key then (k, value) :: rest else (k, v) :: put key value rest

theorem keys_put (key : String) (value : α) (entries : List (String × α)) :
    (put key value entries).map Prod.fst =
      if key ∈ entries.map Prod.fst then entries.map Prod.fst
      else entries.map Prod.fst ++ [key] := by
  induction entries with
  | nil => simp [put]
  | cons entry rest ih =>
    obtain ⟨k, v⟩ := entry
    simp only [put]
    by_cases h : k = key
    · simp [h]
    · have h' : ¬key = k := fun e => h e.symm
      simp only [h, if_false, List.map_cons, ih, List.mem_cons, h', false_or]
      split <;> simp

/-- The map with the value of a key replaced in place, or with the key added at the end. -/
def insert (d : Dict α) (key : String) (value : α) : Dict α where
  entries := put key value d.entries
  nodup := by
    rw [keys_put]
    split
    · exact d.nodup
    · rename_i absent
      refine List.nodup_append.2 ⟨d.nodup, by simp, fun a ha b hb e => absent ?_⟩
      rw [← List.mem_singleton.1 hb, ← e]
      exact ha

/-- The entries put in one after the other. -/
def ofList (entries : List (String × α)) : Dict α :=
  entries.foldl (fun d entry => d.insert entry.1 entry.2) empty

@[simp] theorem keys_empty : (empty : Dict α).keys = [] := rfl

theorem keys_insert (d : Dict α) (key : String) (value : α) :
    (d.insert key value).keys = if key ∈ d.keys then d.keys else d.keys ++ [key] :=
  keys_put key value d.entries

theorem nodup_keys (d : Dict α) : d.keys.Nodup := d.nodup

theorem lookup_cons_of_ne {key k : String} (h : key ≠ k) (v : α) (rest : List (String × α)) :
    ((k, v) :: rest).lookup key = rest.lookup key := by
  rw [List.lookup_cons, beq_eq_false_iff_ne.2 h]

theorem lookup_put (key other : String) (value : α) (entries : List (String × α)) :
    (put key value entries).lookup other =
      if other = key then some value else entries.lookup other := by
  induction entries with
  | nil =>
    by_cases h : other = key
    · simp [put, h]
    · rw [put, lookup_cons_of_ne h, if_neg h]
  | cons entry rest ih =>
    obtain ⟨k, v⟩ := entry
    by_cases hk : k = key
    · subst hk
      by_cases h : other = k
      · simp [put, h]
      · rw [put, if_pos rfl, lookup_cons_of_ne h, lookup_cons_of_ne h, if_neg h]
    · by_cases ho : other = k
      · subst ho
        simp [put, hk]
      · rw [put, if_neg hk, lookup_cons_of_ne ho, lookup_cons_of_ne ho, ih]

@[simp] theorem get?_empty (key : String) : (empty : Dict α).get? key = none := rfl

theorem get?_insert (d : Dict α) (key other : String) (value : α) :
    (d.insert key value).get? other = if other = key then some value else d.get? other :=
  lookup_put key other value d.entries

end Dict

end ResourceStubs
