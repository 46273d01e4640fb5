import Mathlib.Data.List.Forall2
import ResourceStubs.Proofs.Dict
import ResourceStubs.Json.Decode

/-! Values that a decoder does not tell apart, and the order that it keeps. Of an object that stands
for a record only the known fields count, in whatever order they are; an object that stands for a
map counts member by member. What it is for two values to be alike follows the record, the list or
the map that they stand for, down to the parts that must be equal. The other way round, the entries
of a map come in the order of the members of its object. -/

namespace ResourceStubs.Json

variable {α : Type}

/-- A way for two values to be alike. -/
abbrev Likeness := Json → Json → Prop

/-- The fields are there in both or in neither, and alike. -/
def FieldsAlike (fields : List (String × Likeness)) (members others : List (String × Json)) :
    Prop :=
  ∀ field ∈ fields, Option.Rel field.2 (members.lookup field.1) (others.lookup field.1)

/-- No field of the names stands twice among the members. -/
def Once (names : List String) (members : List (String × Json)) : Prop :=
  ((members.filter fun member => names.contains member.1).map Prod.fst).Nodup

/-- Values alike as records: two objects may have their fields in any order and any others beside
them, and two arrays have the fields at their positions. -/
inductive RecordAlike (fields : List (String × Likeness)) : Likeness
  | same (json : Json) : RecordAlike fields json json
  | object {members others : List (String × Json)} (once : Once (fields.map Prod.fst) members)
      (once' : Once (fields.map Prod.fst) others) (each : FieldsAlike fields members others) :
      RecordAlike fields (.object members) (.object others)
  | array {items others : List Json} (length : items.length = others.length)
      (each : FieldsAlike fields ((fields.map Prod.fst).zip items)
        ((fields.map Prod.fst).zip others)) :
      RecordAlike fields (.array items) (.array others)

/-- Values alike as lists, item by item. -/
inductive ListAlike (alike : Likeness) : Likeness
  | same (json : Json) : ListAlike alike json json
  | array {items others : List Json} (each : List.Forall₂ alike items others) :
      ListAlike alike (.array items) (.array others)

/-- Values alike as maps: the same keys in the same order, with values that are alike. -/
inductive MapAlike (alike : Likeness) : Likeness
  | same (json : Json) : MapAlike alike json json
  | object {members others : List (String × Json)}
      (each : List.Forall₂ (fun member other => member.1 = other.1 ∧ alike member.2 other.2)
        members others) : MapAlike alike (.object members) (.object others)

/-! ### Reordering and unknown fields -/

theorem lookup_filter_known {names : List String} {name : String} (known : name ∈ names)
    (members : List (String × Json)) :
    (members.filter fun member => names.contains member.1).lookup name = members.lookup name :=
  (Dict.lookup_filter_key members (names.contains ·) name).trans
    (if_pos (List.contains_iff_mem.mpr known))

theorem usable_object (members : List (String × Json)) :
    (Json.object members).usable = members.all (·.2.usable) := by
  rw [usable]
  induction members with
  | nil => rfl
  | cons member rest ih => rw [membersUsable, ih, List.all_cons]

theorem Once.nodup_filter {names : List String} {members : List (String × Json)}
    (once : Once names members) (keep : String → Bool) (known : ∀ name, keep name → name ∈ names) :
    ((members.filter (keep ·.1)).map Prod.fst).Nodup := by
  refine once.sublist (List.Sublist.map _ (List.monotone_filter_right _ fun member h => ?_))
  exact List.contains_iff_mem.mpr (known _ h)

theorem Once.perm {names : List String} {members others : List (String × Json)}
    (once : Once names members) (perm : members.Perm others) : Once names others :=
  ((perm.filter _).map Prod.fst).nodup_iff.mp once

theorem Once.insert {names : List String} {before after : List (String × Json)}
    (once : Once names (before ++ after)) {name : String} (unknown : name ∉ names) (json : Json) :
    Once names (before ++ (name, json) :: after) := by
  rw [Once, List.filter_append, List.filter_cons_of_neg (by simpa using unknown),
    ← List.filter_append]
  exact once

theorem once_of_nodup {members : List (String × Json)} (nodup : (members.map Prod.fst).Nodup)
    (names : List String) : Once names members :=
  nodup.sublist (List.filter_sublist.map _)

section

variable {fields : List (String × Likeness)} {members others : List (String × Json)}

theorem FieldsAlike.of_lookup_eq (refl : ∀ field ∈ fields, ∀ json, field.2 json json)
    (same : ∀ name ∈ fields.map Prod.fst, members.lookup name = others.lookup name) :
    FieldsAlike fields members others := by
  intro field hf
  rw [same field.1 (List.mem_map_of_mem hf)]
  cases others.lookup field.1 with
  | none => exact .none
  | some json => exact .some (refl field hf json)

/-- Fields may come in another order. -/
theorem FieldsAlike.of_perm (refl : ∀ field ∈ fields, ∀ json, field.2 json json)
    (once : Once (fields.map Prod.fst) members) (perm : members.Perm others) :
    FieldsAlike fields members others := by
  refine .of_lookup_eq refl fun name hn => ?_
  have same : (⟨_, once⟩ : Dict Json).get? = (⟨_, once.perm perm⟩ : Dict Json).get? :=
    Dict.get?_of_perm (perm.filter _)
  rw [← lookup_filter_known hn, ← lookup_filter_known hn others]
  exact congrFun same name

/-- Fields with unknown names may be added anywhere. -/
theorem FieldsAlike.of_insert (refl : ∀ field ∈ fields, ∀ json, field.2 json json)
    {before after : List (String × Json)} {name : String} (unknown : name ∉ fields.map Prod.fst)
    (json : Json) : FieldsAlike fields (before ++ after) (before ++ (name, json) :: after) := by
  refine .of_lookup_eq refl fun known hk => ?_
  have ne : known ≠ name := fun h => unknown (h ▸ hk)
  rw [List.lookup_append, List.lookup_append, Dict.lookup_cons_of_ne ne]

/-- Records whose fields are in another order are alike. -/
theorem RecordAlike.of_perm (refl : ∀ field ∈ fields, ∀ json, field.2 json json)
    (nodup : (members.map Prod.fst).Nodup) (perm : members.Perm others) :
    RecordAlike fields (.object members) (.object others) :=
  have once := once_of_nodup nodup (fields.map Prod.fst)
  .object once (once.perm perm) (.of_perm refl once perm)

/-- A record is like the one with an unknown field more. -/
theorem RecordAlike.of_insert (refl : ∀ field ∈ fields, ∀ json, field.2 json json)
    {before after : List (String × Json)} (nodup : ((before ++ after).map Prod.fst).Nodup)
    {name : String} (unknown : name ∉ fields.map Prod.fst) (json : Json) :
    RecordAlike fields (.object (before ++ after)) (.object (before ++ (name, json) :: after)) := by
  have once := once_of_nodup nodup (fields.map Prod.fst)
  exact .object once (once.insert unknown json) (.of_insert refl unknown json)

end

/-! ### Decoders that do not tell alike values apart -/

/-- The decoder does not tell values apart that are alike, and null is like nothing else. -/
structure Respects (alike : Likeness) (decode : Json → Option α) : Prop where
  null_iff : ∀ {json other}, alike json other → (json = .null ↔ other = .null)
  decode_eq : ∀ {json other}, alike json other → decode json = decode other

namespace FieldsAlike

variable {fields : List (String × Likeness)} {here there : Fields} {alike : Likeness}
  {decode : Json → Option α}

theorem get? (each : FieldsAlike fields here there) {name : String} (mem : (name, alike) ∈ fields) :
    Option.Rel alike (here.get? name) (there.get? name) := each _ mem

theorem required (each : FieldsAlike fields here there) (respects : Respects alike decode)
    (name : String) (mem : (name, alike) ∈ fields) :
    here.required name decode = there.required name decode := by
  have rel := each.get? mem
  unfold Fields.required
  generalize here.get? name = found, there.get? name = found' at rel
  cases rel with
  | some rel => exact respects.decode_eq rel
  | none => rfl

theorem withDefault (each : FieldsAlike fields here there) (respects : Respects alike decode)
    (name : String) (fallback : α) (mem : (name, alike) ∈ fields) :
    here.withDefault name fallback decode = there.withDefault name fallback decode := by
  have rel := each.get? mem
  unfold Fields.withDefault
  generalize here.get? name = found, there.get? name = found' at rel
  cases rel with
  | some rel => exact respects.decode_eq rel
  | none => rfl

theorem optional (each : FieldsAlike fields here there) (respects : Respects alike decode)
    (name : String) (mem : (name, alike) ∈ fields) :
    here.optional name decode = there.optional name decode := by
  have rel := each.get? mem
  unfold Fields.optional
  generalize here.get? name = found, there.get? name = found' at rel
  cases rel with
  | none => rfl
  | @some json other rel =>
    by_cases null : json = .null
    · rw [null, (respects.null_iff rel).mp null]
    · have null' : other ≠ .null := fun h => null ((respects.null_iff rel).mpr h)
      simp only [respects.decode_eq rel]

end FieldsAlike

theorem fields?_object {names : List String} {members : List (String × Json)}
    (once : Once names members) :
    (object members).fields? names =
      some (members.filter fun member => names.contains member.1) := if_pos once

/-- Reading a record depends on its known fields alone. -/
theorem RecordAlike.bind_fields?_eq {fields : List (String × Likeness)} {json other : Json}
    (alike : RecordAlike fields json other) {read : Fields → Option α}
    (reads : ∀ here there : Fields, FieldsAlike fields here there → read here = read there) :
    (json.fields? (fields.map Prod.fst)).bind read =
      (other.fields? (fields.map Prod.fst)).bind read := by
  cases alike with
  | same => rfl
  | object once once' each =>
    rw [fields?_object once, fields?_object once']
    refine reads _ _ fun field hf => ?_
    have known : field.1 ∈ fields.map Prod.fst := List.mem_map_of_mem hf
    rw [lookup_filter_known known, lookup_filter_known known]
    exact each field hf
  | array length each =>
    rw [fields?, fields?, length]
    split
    · exact reads _ _ each
    · rfl

namespace Respects

variable {alike : Likeness} {decode : Json → Option α}

theorem equal (decode : Json → Option α) : Respects Eq decode where
  null_iff h := by rw [h]
  decode_eq := congrArg decode

theorem record {fields : List (String × Likeness)} {read : Fields → Option α}
    (reads : ∀ here there : Fields, FieldsAlike fields here there → read here = read there) :
    Respects (RecordAlike fields) fun json => (json.fields? (fields.map Prod.fst)).bind read where
  null_iff h := by cases h <;> simp
  decode_eq h := h.bind_fields?_eq reads

theorem list (respects : Respects alike decode) : Respects (ListAlike alike) (list? decode) where
  null_iff h := by cases h <;> simp
  decode_eq h := by
    cases h with
    | same => rfl
    | array each =>
      simp only [list?]
      induction each with
      | nil => rfl
      | cons h _ ih => rw [List.mapM_cons, List.mapM_cons, respects.decode_eq h, ih]

theorem dict (respects : Respects alike decode) : Respects (MapAlike alike) (dict? decode) where
  null_iff h := by cases h <;> simp
  decode_eq h := by
    cases h with
    | same => rfl
    | object each =>
      simp only [dict?]
      congr 1
      induction each with
      | nil => rfl
      | cons h _ ih => rw [List.mapM_cons, List.mapM_cons, h.1, respects.decode_eq h.2, ih]

end Respects

/-! ### The order of entries -/

/-- Some object in the value repeats a key. -/
inductive RepeatsKey : Json → Prop
  | here {members : List (String × Json)} (repeated : ¬(members.map Prod.fst).Nodup) :
      RepeatsKey (.object members)
  | member {members : List (String × Json)} {member : String × Json} (mem : member ∈ members)
      (inside : RepeatsKey member.2) : RepeatsKey (.object members)
  | item {items : List Json} {item : Json} (mem : item ∈ items) (inside : RepeatsKey item) :
      RepeatsKey (.array items)

theorem repeatsKey_object_iff {members : List (String × Json)} :
    (Json.object members).RepeatsKey ↔
      ¬(members.map Prod.fst).Nodup ∨ ∃ member ∈ members, member.2.RepeatsKey := by
  constructor
  · rintro (⟨repeated⟩ | ⟨mem, inside⟩)
    · exact .inl repeated
    · exact .inr ⟨_, mem, inside⟩
  · rintro (repeated | ⟨member, mem, inside⟩)
    · exact .here repeated
    · exact .member mem inside

theorem not_repeatsKey_string (s : String) : ¬(Json.string s).RepeatsKey := nofun

/-- The value of a field of a record, whose names are given in their declared order. -/
def field? (names : List String) (name : String) : Json → Option Json
  | .object members => members.lookup name
  | .array items => (names.zip items).lookup name
  | _ => none

/-- The entries of the map are the members of the object, one by one. A map whose object is missing
has none. -/
inductive InOrder (keeps : Json → α → Prop) : Option Json → Dict α → Prop
  | missing : InOrder keeps none .empty
  | object {members : List (String × Json)} {map : Dict α}
      (each : List.Forall₂ (fun member entry => member.1 = entry.1 ∧ keeps member.2 entry.2)
        members map.entries) : InOrder keeps (some (.object members)) map

/-- What is decoded from a value without repeated keys is in its order. -/
def Keeps (decode : Json → Option α) (keeps : Json → α → Prop) : Prop :=
  ∀ json a, ¬json.RepeatsKey → decode json = some a → keeps json a

theorem not_repeatsKey_of_field? {names : List String} {name : String} {json value : Json}
    (once : ¬json.RepeatsKey) (found : json.field? names name = some value) :
    ¬value.RepeatsKey := by
  intro inside
  unfold field? at found
  split at found
  next members => exact once (.member (Dict.mem_of_lookup found) inside)
  next items =>
    exact once (.item (List.of_mem_zip (Dict.mem_of_lookup found)).2 inside)
  next => cases found

/-- The fields that are read out of a record are those of the value. -/
theorem get?_of_fields? {names : List String} {json : Json} {fields : Fields}
    (read : json.fields? names = some fields) {name : String} (known : name ∈ names) :
    fields.get? name = json.field? names name := by
  unfold fields? at read
  split at read
  next members =>
    rw [knownFields?] at read
    split at read
    next =>
      rw [← Option.some.inj read]
      exact lookup_filter_known known members
    next => cases read
  next items =>
    split at read
    next => rw [← Option.some.inj read]; rfl
    next => cases read
  next => cases read

namespace Keeps

variable {decode : Json → Option α} {keeps : Json → α → Prop}

theorem self (decode : Json → Option α) : Keeps decode (decode · = some ·) := fun _ _ _ read => read

/-- The members of an object are decoded one by one. -/
theorem forall₂_mapM (kept : Keeps decode keeps) {members : List (String × Json)}
    (once : ∀ member ∈ members, ¬member.2.RepeatsKey) {entries : List (String × α)}
    (read : members.mapM (fun member => (decode member.2).map (member.1, ·)) = some entries) :
    List.Forall₂
      (fun member entry => member.1 = entry.1 ∧ keeps member.2 entry.2) members entries := by
  induction members generalizing entries with
  | nil =>
    obtain rfl := Option.some.inj read
    exact .nil
  | cons member members ih =>
    simp only [List.mapM_cons, Option.bind_eq_bind, Option.bind_eq_some_iff, Option.map_eq_some_iff]
      at read
    obtain ⟨_, ⟨a, ha, rfl⟩, rest, hrest, h⟩ := read
    obtain rfl := Option.some.inj h
    exact .cons ⟨rfl, kept _ _ (once member List.mem_cons_self) ha⟩
      (ih (fun other ho => once other (List.mem_cons_of_mem _ ho)) hrest)

/-- A map has its entries in the order of its object. -/
theorem dict (kept : Keeps decode keeps) {json : Json} (once : ¬json.RepeatsKey) {map : Dict α}
    (read : dict? decode json = some map) : InOrder keeps (some json) map := by
  unfold dict? at read
  split at read
  next members =>
    obtain ⟨entries, hentries, rfl⟩ := Option.map_eq_some_iff.mp read
    have nodup : (members.map Prod.fst).Nodup := by
      by_contra h
      exact once (.here h)
    have each := kept.forall₂_mapM (fun member hm h => once (.member hm h)) hentries
    have keys : members.map Prod.fst = entries.map Prod.fst := by
      rw [← List.forall₂_eq_eq_eq, List.forall₂_map_left_iff, List.forall₂_map_right_iff]
      exact each.imp fun _ _ h => h.1
    rw [keys] at nodup
    exact .object (by rwa [Dict.entries_ofList nodup])
  next => cases read

/-- A map that is a field of a record has its entries in the order of the field. -/
theorem withDefault (kept : Keeps decode keeps) {json : Json} (once : ¬json.RepeatsKey)
    {names : List String} {fields : Fields} (hfields : json.fields? names = some fields)
    {name : String} (known : name ∈ names) {map : Dict α}
    (read : fields.withDefault name Dict.empty (dict? decode) = some map) :
    InOrder keeps (json.field? names name) map := by
  rw [Fields.withDefault, get?_of_fields? hfields known] at read
  cases found : json.field? names name with
  | none =>
    rw [found] at read
    obtain rfl := Option.some.inj read
    exact .missing
  | some value =>
    rw [found] at read
    exact kept.dict (not_repeatsKey_of_field? once found) read

/-- An optional field with a value is decoded from the field. -/
theorem optional (kept : Keeps decode keeps) {json : Json} (once : ¬json.RepeatsKey)
    {names : List String} {fields : Fields} (hfields : json.fields? names = some fields)
    {name : String} (known : name ∈ names) {a : α}
    (read : fields.optional name decode = some (some a)) :
    ∃ value, json.field? names name = some value ∧ keeps value a := by
  rw [Fields.optional, get?_of_fields? hfields known] at read
  split at read
  next => cases read
  next => cases read
  next value _ found =>
    obtain ⟨_, hdecode, ⟨⟩⟩ := Option.map_eq_some_iff.mp read
    exact ⟨value, found, kept _ _ (not_repeatsKey_of_field? once found) hdecode⟩

end Keeps

/-- Documents of a kind may be rearranged and extended: the same is decoded from values that are
alike, and the maps that are decoded from a value without repeated keys are in its order. -/
structure ForwardCompatible (alike : Likeness) (decode : Json → Option α)
    (keeps : Json → α → Prop) : Prop where
  unchanged : ∀ {json other}, alike json other → decode json = decode other
  in_order : Keeps decode keeps

end ResourceStubs.Json
