import ResourceStubs.Json.Basic

/-! Rules for reading records out of JSON values. A record is an object, whose unknown members are
ignored and whose known ones stand once in any order, or the array of its fields in their declared
order. A map is an object and keeps the order of its members. -/

namespace ResourceStubs.Json

variable {α : Type}

/-- The known fields of a record that are there. -/
def Fields := List (String × Json)

/-- The value of a field. -/
def Fields.get? (fields : Fields) (name : String) : Option Json := fields.lookup name

/-- The known fields among the members of an object, each once. -/
def knownFields? (names : List String) (members : List (String × Json)) : Option Fields :=
  let known := members.filter fun member => names.contains member.1
  if (known.map Prod.fst).Nodup then some known else none

/-- The fields of a record with the given field names. -/
def fields? (names : List String) : Json → Option Fields
  | .object members => knownFields? names members
  | .array items => if items.length ≤ names.length then some (names.zip items) else none
  | _ => none

/-- The fields of a record that is not written as an array. -/
def objectFields? (names : List String) : Json → Option Fields
  | .object members => knownFields? names members
  | _ => none

/-- A field that must be there. -/
def Fields.required (fields : Fields) (name : String) (decode : Json → Option α) : Option α :=
  (fields.get? name).bind decode

/-- A field that has a value of its own when it is missing. -/
def Fields.withDefault (fields : Fields) (name : String) (fallback : α)
    (decode : Json → Option α) : Option α :=
  match fields.get? name with
  | none => some fallback
  | some value => decode value

/-- A field that may be missing or null. -/
def Fields.optional (fields : Fields) (name : String) (decode : Json → Option α) :
    Option (Option α) :=
  match fields.get? name with
  | none | some .null => some none
  | some value => (decode value).map some

/-- A text. -/
def text? : Json → Option String
  | .string s => some s
  | _ => none

/-- A truth value. -/
def flag? : Json → Option Bool
  | .bool b => some b
  | _ => none

/-- A natural number below `2 ^ 32`, written without fraction and exponent. -/
def word32? : Json → Option Nat
  | .number (.natural n) => if n < Decimal.twoPow 32 then some n else none
  | _ => none

/-- A list of values of one kind. -/
def list? (decode : Json → Option α) : Json → Option (List α)
  | .array items => items.mapM decode
  | _ => none

/-- A map to values of one kind. Of a repeated key every value must be of that kind, and the last
one counts. -/
def dict? (decode : Json → Option α) : Json → Option (Dict α)
  | .object members =>
    (members.mapM fun member => (decode member.2).map (member.1, ·)).map Dict.ofList
  | _ => none

/-- Any value that can be kept. -/
def free? (json : Json) : Option Json := if json.usable then some json.settle else none

/-- The kind and the content of a value tagged with its kind: a record of `kind` and `value`, or the
array of both. -/
def tagged? : Json → Option (String × Option Json)
  | .array [kind, value] => (text? kind).map (·, some value)
  | .object members =>
    (knownFields? ["kind", "value"] members).bind fun fields =>
      (fields.required "kind" text?).map (·, fields.get? "value")
  | _ => none

theorem mem_of_lookup {members : List (String × Json)} {name : String} {value : Json}
    (h : members.lookup name = some value) : (name, value) ∈ members := by
  induction members with
  | nil => simp at h
  | cons member rest ih =>
    obtain ⟨k, v⟩ := member
    by_cases e : name = k
    · subst e
      simp at h
      simp [h]
    · rw [lookup_cons_of_ne e] at h
      exact List.mem_cons_of_mem _ (ih h)
where
  lookup_cons_of_ne {members : List (String × Json)} {name k : String} {v : Json} (h : ¬name = k) :
      ((k, v) :: members).lookup name = members.lookup name := by
    rw [List.lookup_cons, beq_eq_false_iff_ne.2 h]

theorem sizeOf_lt_of_mem {members : List (String × Json)} {name : String} {value : Json}
    (h : (name, value) ∈ members) : sizeOf value < sizeOf (Json.object members) := by
  have := List.sizeOf_lt_of_mem h
  simp only [Prod.mk.sizeOf_spec, Json.object.sizeOf_spec] at *
  omega

/-- The content of a tagged value is smaller than the value. -/
theorem sizeOf_lt_of_tagged {json value : Json} {kind : String}
    (h : json.tagged? = some (kind, some value)) : sizeOf value < sizeOf json := by
  unfold tagged? at h
  split at h
  · rename_i k v
    obtain ⟨s, -, eq⟩ := Option.map_eq_some_iff.1 h
    simp only [Prod.mk.injEq, Option.some.injEq] at eq
    rw [← eq.2]
    simp only [Json.array.sizeOf_spec, List.cons.sizeOf_spec, List.nil.sizeOf_spec]
    omega
  · rename_i members
    obtain ⟨fields, hf, h⟩ := Option.bind_eq_some_iff.1 h
    obtain ⟨s, -, eq⟩ := Option.map_eq_some_iff.1 h
    simp only [Prod.mk.injEq] at eq
    simp only [knownFields?] at hf
    split at hf
    · cases hf
      exact sizeOf_lt_of_mem (List.mem_filter.1 (mem_of_lookup eq.2)).1
    · simp at hf
  · simp at h

end ResourceStubs.Json
