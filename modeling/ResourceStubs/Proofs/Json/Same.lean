import Mathlib.Data.List.Forall2
import ResourceStubs.Proofs.Dict
import ResourceStubs.Json.Decode
import ResourceStubs.Stub.Encode

/-! Values of JSON that say the same. An object is a map from its keys to their values, so the order
of its members says nothing, and an object that repeats a key is not the same as any. A decoder that
cannot tell such values apart from the form an encoder gives reads the encoded value back. -/

namespace ResourceStubs.Json

variable {α : Type}

/-- The two are the same value: they differ at most in the order of the members of objects. -/
inductive Same : Json → Json → Prop where
  | null : Same .null .null
  | bool (b : Bool) : Same (.bool b) (.bool b)
  | number (n : Number) : Same (.number n) (.number n)
  | string (s : String) : Same (.string s) (.string s)
  | array {items others : List Json} (each : List.Forall₂ Same items others) :
      Same (.array items) (.array others)
  | object {members others : List (String × Json)} (once : (members.map Prod.fst).Nodup)
      (once' : (others.map Prod.fst).Nodup)
      (each : ∀ key, Option.Rel Same (members.lookup key) (others.lookup key)) :
      Same (.object members) (.object others)
  | unusable : Same .unusable .unusable

/-- An object without a repeated key is the same as itself when its values are. -/
theorem same_object_self {members : List (String × Json)} (once : (members.map Prod.fst).Nodup)
    (each : ∀ member ∈ members, member.2.Same member.2) :
    (object members).Same (.object members) := by
  refine .object once once fun key => ?_
  cases h : members.lookup key with
  | none => exact .none
  | some value => exact .some (each (key, value) (mem_of_lookup h))

/-- The fields are those of a record with the members. -/
structure Fields.Hold (fields : Fields) (members : List (String × Json)) : Prop where
  once : (members.map Prod.fst).Nodup
  each : ∀ name, Option.Rel Same (members.lookup name) (fields.get? name)

namespace Fields.Hold

variable {fields : Fields} {members : List (String × Json)} {name : String}

theorem found (hold : fields.Hold members) (name : String) (value : Json)
    (mem : (name, value) ∈ members) :
    ∃ held, fields.get? name = some held ∧ value.Same held := by
  have looked : members.lookup name = some value :=
    (Dict.get?_eq_some_iff (d := ⟨members, hold.once⟩)).mpr mem
  have rel := hold.each name
  rw [looked] at rel
  cases h : fields.get? name with
  | none => simp [h] at rel
  | some held => exact ⟨held, rfl, by simpa [h] using rel⟩

theorem missing (hold : fields.Hold members) (absent : name ∉ members.map Prod.fst) :
    fields.get? name = none := by
  have rel := hold.each name
  rw [Dict.lookup_eq_none_iff.mpr absent] at rel
  cases h : fields.get? name with
  | none => rfl
  | some held => simp [h] at rel

end Fields.Hold

/-- The known fields of an object are those of any object that is the same. -/
theorem knownFields?_of_same {members others : List (String × Json)} (names : List String)
    (same : (object members).Same (.object others))
    (known : ∀ member ∈ members, member.1 ∈ names) :
    ∃ fields, knownFields? names others = some fields ∧ fields.Hold members := by
  cases same with
  | object once once' each =>
    have sub : ((others.filter fun member => names.contains member.1).map Prod.fst).Nodup :=
      once'.sublist (List.filter_sublist.map _)
    refine ⟨_, if_pos sub, once, fun name => ?_⟩
    have kept := Dict.lookup_filter_key others (names.contains ·) name
    show Option.Rel Same _ (List.lookup name _)
    rw [kept]
    split
    · exact each name
    · rename_i unknown
      have absent : name ∉ members.map Prod.fst := fun hk => by
        obtain ⟨member, hm, rfl⟩ := List.mem_map.mp hk
        exact unknown (List.contains_iff_mem.mpr (known member hm))
      rw [Dict.lookup_eq_none_iff.mpr absent]
      exact .none

/-- A record is read out of any object that is the same, if it is read out of all fields with its
members. -/
theorem objectFields?_bind_of_same {members : List (String × Json)} {names : List String}
    {read : Fields → Option α} {a : α} {json : Json} (same : (object members).Same json)
    (known : ∀ member ∈ members, member.1 ∈ names)
    (reads : ∀ fields : Fields, fields.Hold members → read fields = some a) :
    (json.objectFields? names).bind read = some a := by
  cases same with
  | object once once' each =>
    obtain ⟨fields, hf, hold⟩ := knownFields?_of_same names (.object once once' each) known
    rw [objectFields?, hf]
    exact reads fields hold

theorem fields?_bind_of_same {members : List (String × Json)} {names : List String}
    {read : Fields → Option α} {a : α} {json : Json} (same : (object members).Same json)
    (known : ∀ member ∈ members, member.1 ∈ names)
    (reads : ∀ fields : Fields, fields.Hold members → read fields = some a) :
    (json.fields? names).bind read = some a := by
  have read := objectFields?_bind_of_same same known reads
  cases same with
  | object => exact read

/-- The kind and the content of a value that is the same as a tagged one. -/
theorem Same.tagged {kind : String} {content json : Json}
    (same : (ofTagged kind content).Same json) :
    ∃ content', json.tagged? = some (kind, some content') ∧ content.Same content' := by
  cases same with
  | object once once' each =>
    have read := knownFields?_of_same ["kind", "value"] (.object once once' each) (by simp)
    obtain ⟨fields, hf, hold⟩ := read
    obtain ⟨_, hkind, ⟨⟩⟩ := hold.found "kind" (.string kind) (by simp)
    obtain ⟨content', hvalue, hsame⟩ := hold.found "value" content (by simp)
    exact ⟨content', by simp [tagged?, hf, Fields.required, hkind, hvalue, text?], hsame⟩

/-- A value that is the same as a kind without content has no content. -/
theorem Same.kind {kind : String} {json : Json} (same : (ofKind kind).Same json) :
    json.tagged? = some (kind, none) := by
  cases same with
  | object once once' each =>
    have read := knownFields?_of_same ["kind", "value"] (.object once once' each) (by simp)
    obtain ⟨fields, hf, hold⟩ := read
    obtain ⟨_, hkind, ⟨⟩⟩ := hold.found "kind" (.string kind) (by simp)
    have hvalue : fields.get? "value" = none := hold.missing (by simp)
    simp [tagged?, hf, Fields.required, hkind, hvalue, text?]

/-- Nothing is lost in the JSON form of a value. The form repeats no key, it decodes to the value,
and so does whatever is the same as it; values whose forms are the same are equal. -/
structure Lossless (encode : α → Json) (decode : Json → Option α) : Prop where
  same_self : ∀ a, (encode a).Same (encode a)
  decode_encode : ∀ a, decode (encode a) = some a
  decode_of_same : ∀ a json, (encode a).Same json → decode json = some a
  eq_of_same : ∀ a b, (encode a).Same (encode b) → a = b

/-- The part of being lossless that the rest follows from. -/
structure RoundTrips (encode : α → Json) (decode : Json → Option α) : Prop where
  same_self : ∀ a, (encode a).Same (encode a)
  decode_of_same : ∀ {a json}, (encode a).Same json → decode json = some a

namespace RoundTrips

variable {encode : α → Json} {decode : Json → Option α}

theorem lossless (trip : RoundTrips encode decode) : Lossless encode decode := by
  have decode_encode (a : α) : decode (encode a) = some a := trip.decode_of_same (trip.same_self a)
  refine ⟨trip.same_self, decode_encode, fun _ _ => trip.decode_of_same, fun a b same => ?_⟩
  have read : decode (encode b) = some a := trip.decode_of_same same
  rw [decode_encode b] at read
  exact (Option.some.inj read).symm

theorem text : RoundTrips string text? where
  same_self := .string
  decode_of_same same := by cases same; rfl

theorem flag : RoundTrips bool flag? where
  same_self := .bool
  decode_of_same same := by cases same; rfl

theorem same_self_option (trip : RoundTrips encode decode) :
    ∀ a : Option α, (ofOption encode a).Same (ofOption encode a)
  | none => .null
  | some a => trip.same_self a

theorem list (trip : RoundTrips encode decode) :
    RoundTrips (fun as => array (as.map encode)) (list? decode) where
  same_self as := .array (List.forall₂_same.mpr (by simpa using fun a _ => trip.same_self a))
  decode_of_same {as json} same := by
    cases same with
    | array each =>
      rename_i others
      rw [List.forall₂_map_left_iff] at each
      simp only [list?]
      induction each with
      | nil => rfl
      | cons h _ ih => simp [trip.decode_of_same h, ih]

end RoundTrips

namespace Fields.Hold

variable {encode : α → Json} {decode : Json → Option α} {fields : Fields}
  {members : List (String × Json)}

theorem required (hold : fields.Hold members) (trip : RoundTrips encode decode) (name : String)
    (a : α) (mem : (name, encode a) ∈ members) : fields.required name decode = some a := by
  obtain ⟨held, found, same⟩ := hold.found name _ mem
  simp [Fields.required, found, trip.decode_of_same same]

theorem withDefault (hold : fields.Hold members) (trip : RoundTrips encode decode)
    (name : String) (fallback a : α) (mem : (name, encode a) ∈ members) :
    fields.withDefault name fallback decode = some a := by
  obtain ⟨held, found, same⟩ := hold.found name _ mem
  simp [Fields.withDefault, found, trip.decode_of_same same]

/-- A field that is null when it has no value is told apart from any value whose form is not. -/
theorem optional (hold : fields.Hold members) (trip : RoundTrips encode decode)
    (proper : ∀ a, encode a ≠ .null) (name : String) (a : Option α)
    (mem : (name, Json.ofOption encode a) ∈ members) :
    fields.optional name decode = some a := by
  obtain ⟨held, found, same⟩ := hold.found name _ mem
  cases a with
  | none =>
    cases same
    simp [Fields.optional, found]
  | some a =>
    have : held ≠ .null := by
      rintro rfl
      generalize h : Json.ofOption encode (some a) = form at same
      cases same
      exact proper a h
    simp only [Fields.optional, found]
    rw [trip.decode_of_same same]
    rfl

end Fields.Hold

end ResourceStubs.Json
