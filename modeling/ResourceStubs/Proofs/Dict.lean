import ResourceStubs.Dict

/-! Looking up in a map: a key has the value that stands beside it, and in a map that is filled from
a list it has the last of its values there. -/

namespace ResourceStubs.Dict

variable {α β : Type}

/-- What a key is looked up as stands beside the key. -/
theorem mem_of_lookup {entries : List (String × α)} {key : String} {value : α}
    (h : entries.lookup key = some value) : (key, value) ∈ entries := by
  obtain ⟨before, after, rfl, -⟩ := List.lookup_eq_some_iff.mp h
  exact List.mem_append_right _ List.mem_cons_self

theorem lookup_eq_none_iff {entries : List (String × α)} {key : String} :
    entries.lookup key = none ↔ key ∉ entries.map Prod.fst := by
  rw [List.lookup_eq_none_iff]
  constructor
  · intro h hm
    obtain ⟨entry, he, rfl⟩ := List.mem_map.mp hm
    simpa using h entry he
  · intro h entry he
    exact bne_iff_ne.mpr fun hk => h (List.mem_map.mpr ⟨entry, he, hk.symm⟩)

/-- Keeping the entries of some keys changes nothing about these keys. -/
theorem lookup_filter_key (entries : List (String × α)) (keep : String → Bool) (key : String) :
    (entries.filter (keep ·.1)).lookup key = if keep key then entries.lookup key else none := by
  induction entries with
  | nil => simp
  | cons entry rest ih =>
    obtain ⟨k, v⟩ := entry
    by_cases hk : keep k
    · rw [List.filter_cons_of_pos (by simpa using hk)]
      by_cases h : key = k
      · subst h
        simp [hk]
      · rw [lookup_cons_of_ne h, lookup_cons_of_ne h, ih]
    · rw [List.filter_cons_of_neg (by simpa using hk), ih]
      by_cases h : key = k
      · subst h
        simp [hk]
      · rw [lookup_cons_of_ne h]

/-- Leaving the entries of one key out changes nothing about the others. -/
theorem lookup_filter_ne (entries : List (String × α)) (key other : String) :
    (entries.filter (·.1 ≠ key)).lookup other =
      if other = key then none else entries.lookup other := by
  rw [lookup_filter_key entries (fun k => decide (k ≠ key))]
  by_cases h : other = key <;> simp [h]

/-- A key that stands once has one entry, with the value that it is looked up as. -/
theorem filter_key_eq_singleton {entries : List (String × α)} {key : String} {value : α}
    (once : ((entries.filter (·.1 == key)).map Prod.fst).Nodup)
    (found : entries.lookup key = some value) : entries.filter (·.1 == key) = [(key, value)] := by
  have own : (key, value) ∈ entries.filter (·.1 == key) :=
    List.mem_filter.mpr ⟨mem_of_lookup found, by simp⟩
  have same : ∀ k ∈ (entries.filter (·.1 == key)).map Prod.fst, k = key := by
    simp only [List.mem_map, List.mem_filter, beq_iff_eq]
    rintro k ⟨entry, ⟨-, h⟩, rfl⟩
    exact h
  rw [List.eq_replicate_of_mem same, List.nodup_replicate, List.length_map] at once
  obtain ⟨entry, single⟩ := List.length_eq_one_iff.mp
    (Nat.le_antisymm once (List.length_pos_of_mem own))
  rw [single] at own ⊢
  rw [List.mem_singleton.mp own]

theorem get?_eq_some_iff {d : Dict α} {key : String} {value : α} :
    d.get? key = some value ↔ (key, value) ∈ d.entries := by
  obtain ⟨entries, nodup⟩ := d
  simp only [get?]
  induction entries with
  | nil => simp
  | cons entry rest ih =>
    obtain ⟨k, v⟩ := entry
    rw [List.map_cons, List.nodup_cons] at nodup
    by_cases h : key = k
    · subst h
      have hv : (key, value) ∉ rest := fun hm => nodup.1 (List.mem_map.mpr ⟨_, hm, rfl⟩)
      simp [hv, eq_comm]
    · rw [lookup_cons_of_ne h, ih nodup.2]
      simp [h]

/-- Maps with the same entries have the same values, in whatever order the entries are. -/
theorem get?_of_perm {d d' : Dict α} (h : d.entries.Perm d'.entries) : d.get? = d'.get? := by
  funext key
  refine Option.ext fun value => ?_
  rw [get?_eq_some_iff, get?_eq_some_iff, h.mem_iff]

theorem mem_keys_iff {d : Dict α} {key : String} :
    key ∈ d.keys ↔ ∃ value, d.get? key = some value := by
  simp [keys, get?_eq_some_iff]

theorem get?_eq_none_iff {d : Dict α} {key : String} : d.get? key = none ↔ key ∉ d.keys := by
  rw [mem_keys_iff, Option.eq_none_iff_forall_ne_some, not_exists]

theorem put_of_not_mem {key : String} {entries : List (String × α)}
    (absent : key ∉ entries.map Prod.fst) (value : α) :
    put key value entries = entries ++ [(key, value)] := by
  induction entries with
  | nil => rfl
  | cons entry rest ih =>
    obtain ⟨k, v⟩ := entry
    rw [List.map_cons, List.mem_cons, not_or] at absent
    rw [put, if_neg fun h => absent.1 h.symm, ih absent.2]
    rfl

theorem entries_foldl_insert {entries : List (String × α)} {d : Dict α}
    (nodup : ((d.entries ++ entries).map Prod.fst).Nodup) :
    (entries.foldl (fun d entry => d.insert entry.1 entry.2) d).entries = d.entries ++ entries := by
  induction entries generalizing d with
  | nil => simp
  | cons entry rest ih =>
    have absent : entry.1 ∉ d.entries.map Prod.fst := by
      rw [List.map_append, List.map_cons, List.nodup_append] at nodup
      exact fun hm => nodup.2.2 _ hm _ List.mem_cons_self rfl
    have put : (d.insert entry.1 entry.2).entries = d.entries ++ [entry] :=
      put_of_not_mem absent entry.2
    rw [List.foldl_cons, ih (by rwa [put, List.append_assoc]), put, List.append_assoc]
    rfl

/-- A map that is filled from a list without repeated keys has the entries of the list. -/
theorem entries_ofList {entries : List (String × α)} (nodup : (entries.map Prod.fst).Nodup) :
    (ofList entries).entries = entries :=
  entries_foldl_insert (d := empty) nodup

theorem get?_foldl_insert (entries : List (String × α)) (d : Dict α) (key : String) :
    (entries.foldl (fun d entry => d.insert entry.1 entry.2) d).get? key =
      (entries.reverse.lookup key).or (d.get? key) := by
  induction entries generalizing d with
  | nil => rfl
  | cons entry rest ih =>
    obtain ⟨k, v⟩ := entry
    rw [List.foldl_cons, ih, get?_insert, List.reverse_cons, List.lookup_append, Option.or_assoc]
    congr 1
    by_cases h : key = k
    · simp [h]
    · rw [if_neg h, lookup_cons_of_ne h]
      rfl

/-- A map that is filled from a list has the last value of each key. -/
theorem get?_ofList (entries : List (String × α)) (key : String) :
    (ofList entries).get? key = entries.reverse.lookup key := by
  rw [ofList, get?_foldl_insert, get?_empty, Option.or_none]

theorem lookup_map_named (name : α → String) (xs : List α) (key : String) :
    (xs.map fun x => (name x, x)).lookup key = xs.find? (name · == key) := by
  induction xs with
  | nil => rfl
  | cons x xs ih =>
    by_cases h : key = name x
    · simp [h]
    · have h' : ¬name x = key := fun e => h e.symm
      rw [List.map_cons, lookup_cons_of_ne h, ih, List.find?_cons_of_neg (by simpa using h')]

/-- A map that is filled with elements under their names has the last element of each name. -/
theorem get?_ofList_named (name : α → String) (xs : List α) (key : String) :
    (ofList (xs.map fun x => (name x, x))).get? key = xs.reverse.find? (name · == key) := by
  rw [get?_ofList, ← List.map_reverse, lookup_map_named]

theorem mem_keys_ofList_named {name : α → String} {xs : List α} {key : String} :
    key ∈ (ofList (xs.map fun x => (name x, x))).keys ↔ ∃ x ∈ xs, name x = key := by
  rw [mem_keys_iff, ← Option.isSome_iff_exists, get?_ofList_named, List.find?_isSome]
  simp

end ResourceStubs.Dict
