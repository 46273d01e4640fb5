import ResourceStubs.Proofs.Model.Hint

/-! The names of literal types, and when one shadows a reserved name. A reserved name that gets
`Type` behind it is out of the way, and a name that is kept was looked up. A name that is made of
the values also gets `Type` behind it, but is not looked up after that: it is reserved when the
values give nothing to it or `New`. So the hint of a shape has a reserved name in it exactly if such
an enumeration is found on the way. -/

namespace ResourceStubs

open Relation

namespace Reserved

/-- All reserved names. -/
def words : List String := keywords ++ builtins ++ typingNames

theorem isReserved_iff {word : String} : isReserved word = true ↔ word ∈ words := by
  simp [isReserved, words, or_assoc]

/-- The reserved names with `Type` at their end, found by their bytes. -/
theorem words_ending_in_type : ∀ word ∈ words,
    "Type".toByteArray.data.toList <:+ word.toByteArray.data.toList →
      word = "Type" ∨ word = "NewType" := by
  decide +kernel

/-- Only two reserved names have `Type` behind something. -/
theorem isReserved_append_type_iff {word : String} :
    isReserved (word ++ "Type") = true ↔ word = "" ∨ word = "New" := by
  have ends : "Type".toByteArray.data.toList <:+ (word ++ "Type").toByteArray.data.toList := by
    rw [String.toByteArray_append, ByteArray.data_append, Array.toList_append]
    exact List.suffix_append _ _
  have empty : word ++ "Type" = "" ++ "Type" ↔ word = "" := String.append_left_inj _
  have new : word ++ "Type" = "New" ++ "Type" ↔ word = "New" := String.append_left_inj _
  rw [isReserved_iff, ← empty, ← new]
  constructor
  · exact fun h => words_ending_in_type _ h ends
  · rintro (h | h)
    all_goals
      rw [h]
      decide +kernel

end Reserved

namespace TypeHint

/-- A literal type of the name is named after its values, and what they give to the name makes it a
reserved one. -/
def NamedReserved (name : String) (values : List String) : Prop :=
  "__string".toList <+: name.toList ∧
    String.join (values.map Naming.classPrefix) ∈ ["", "New"]

theorem isReserved_literalName_iff (name : String) (values : List String) :
    isReserved (literalName name values) = true ↔ NamedReserved name values := by
  rw [literalName, NamedReserved, ← List.isPrefixOf_iff_prefix]
  split
  next named => rw [Reserved.isReserved_append_type_iff, List.mem_pair, and_iff_right named]
  next kept =>
    refine iff_of_false ?_ fun h => kept h.1
    split
    next reserved =>
      -- neither `Type` nor `NewType` comes from a reserved name
      rw [Reserved.isReserved_append_type_iff]
      rintro (rfl | rfl)
      all_goals exact absurd reserved (by decide +kernel)
    next free => exact free

theorem ofValues_eq_ok (name : String) {values : List String} (h : values ≠ []) :
    ofValues name values =
      .ok (.literal (literalName name values.eraseDups) values.eraseDups) := by
  simp [ofValues, h]

/-- The names of the literal types in a hint, at any depth. -/
def literalNames : TypeHint → List String
  | literal name _ => [name]
  | list item | iterator item => item.literalNames
  | dict key value => key.literalNames ++ value.literalNames
  | any | nothing | str | int | float | bool | bytes | dateTime | typeDef _ | reference _ _ _ => []

/-- The name of a shape is that of an anonymous string exactly if the name of its literal type
is. -/
theorem namedReserved_append_type_iff {name : String} {values : List String} :
    NamedReserved (name ++ "Type") values ↔ NamedReserved name values := by
  refine and_congr_left fun _ => ?_
  rw [String.toList_append]
  constructor
  · rintro ⟨rest, eq⟩
    rcases List.append_eq_append_iff.mp eq with ⟨more, hname, -⟩ | ⟨more, hstring, htype⟩
    · exact ⟨more, hname.symm⟩
    · cases more with
      | nil => exact ⟨[], by simpa using hstring⟩
      | cons c more =>
        have first : c = 'T' := (List.cons.inj htype).1.symm
        have : 'T' ∈ "__string".toList := by rw [hstring, first]; simp
        exact absurd this (by decide)
  · exact fun h => h.trans (List.prefix_append _ _)

end TypeHint

namespace ServiceModel

variable {model : ServiceModel} {name : String}

theorem hint_of_enum {values : List String}
    (h : model.shapes.get? name = some (.string (some values))) (hvalues : values ≠ []) :
    model.hint name = .ok
      (.literal (TypeHint.literalName (name ++ "Type") values.eraseDups) values.eraseDups) := by
  obtain ⟨value, rest, rfl⟩ := List.exists_cons_of_ne_nil hvalues
  rw [hint, hintFrom, shape_eq_ok h, Fallible.ok_bind]
  exact TypeHint.ofValues_eq_ok _ hvalues

theorem exists_enum_of_leafHint? {shape : Shape} {hint : TypeHint}
    (h : leafHint? name shape = some hint) {literal : String} (hl : literal ∈ hint.literalNames) :
    ∃ values, shape = .string (some values) ∧
      literal = TypeHint.literalName (name ++ "Type") values.eraseDups := by
  unfold leafHint? at h
  split at h <;> cases h
  case h_1 value values => exact ⟨value :: values, rfl, List.mem_singleton.mp hl⟩
  all_goals cases hl

/-- Every literal type in a hint is that of an enumeration that the shape leads to. -/
theorem Hints.exists_enum {hint : TypeHint} (h : model.Hints name hint) {literal : String}
    (hl : literal ∈ hint.literalNames) :
    ∃ enum values, ReflTransGen model.Holds name enum ∧
      model.shapes.get? enum = some (.string (some values)) ∧
      literal = TypeHint.literalName (enum ++ "Type") values.eraseDups := by
  induction h with
  | leaf found leaf =>
    obtain ⟨values, rfl, eq⟩ := exists_enum_of_leafHint? leaf hl
    exact ⟨_, values, .refl, found, eq⟩
  | list found _ ih =>
    obtain ⟨enum, values, reach, henum, eq⟩ := ih hl
    exact ⟨enum, values, reach.head (.member found), henum, eq⟩
  | map found _ _ ihKey ihValue =>
    rcases List.mem_append.mp hl with hl | hl
    · obtain ⟨enum, values, reach, henum, eq⟩ := ihKey hl
      exact ⟨enum, values, reach.head (.key found), henum, eq⟩
    · obtain ⟨enum, values, reach, henum, eq⟩ := ihValue hl
      exact ⟨enum, values, reach.head (.value found), henum, eq⟩

end ServiceModel

namespace TypeHint

/-- A literal type is made of any name and any values, and its name is reserved only if it is made
of the values and these make it so. The same holds of the hint of an enumeration, by the name of its
shape, and of every literal type in the hint of a shape, by an enumeration that the shape leads
to. -/
theorem isReserved_literal_iff (name : String) (values : List String) (model : ServiceModel) :
    (values ≠ [] → ∃ literal, ofValues name values = .ok (.literal literal values.eraseDups) ∧
      (isReserved literal = true ↔ NamedReserved name values.eraseDups)) ∧
    (model.shapes.get? name = some (.string (some values)) → values ≠ [] →
      ∃ literal, model.hint name = .ok (.literal literal values.eraseDups) ∧
        (isReserved literal = true ↔ NamedReserved name values.eraseDups)) ∧
    ∀ hint, model.hint name = .ok hint → ∀ literal ∈ hint.literalNames,
      ∃ enum values, ReflTransGen model.Holds name enum ∧
        model.shapes.get? enum = some (.string (some values)) ∧
        literal = literalName (enum ++ "Type") values.eraseDups ∧
        (isReserved literal = true ↔ NamedReserved enum values.eraseDups) := by
  have ofShape (name : String) (values : List String) :
      isReserved (literalName (name ++ "Type") values) = true ↔ NamedReserved name values := by
    rw [isReserved_literalName_iff, namedReserved_append_type_iff]
  refine ⟨fun h => ⟨_, ofValues_eq_ok name h, isReserved_literalName_iff _ _⟩, fun found h => ?_,
    fun hint h literal hl => ?_⟩
  · exact ⟨_, ServiceModel.hint_of_enum found h, ofShape name values.eraseDups⟩
  · obtain ⟨enum, values, reach, found, rfl⟩ := (ServiceModel.hints_of_hintFrom h).exists_enum hl
    exact ⟨enum, values, reach, found, rfl, ofShape enum values.eraseDups⟩

/-- A model with a list of an anonymous enumeration. -/
def tideModel : ServiceModel where
  serviceName := "tides"
  metadata := .empty
  operations := .empty
  shapes := ⟨[("Tides", .list ⟨"__stringOfTide", none⟩),
    ("__stringOfTide", .string (some ["high", "low", "high"]))], by decide⟩
  documentation := none

theorem isReserved_literal_iff_tides :
    (∃ literal, ofValues "Type" ["high", "low", "high"] = .ok (.literal literal ["high", "low"]) ∧
      (isReserved literal = true ↔ NamedReserved "Type" ["high", "low"])) ∧
    (∃ literal, tideModel.hint "__stringOfTide" = .ok (.literal literal ["high", "low"]) ∧
      (isReserved literal = true ↔ NamedReserved "__stringOfTide" ["high", "low"])) ∧
    ∃ hint literal, tideModel.hint "Tides" = .ok hint ∧ literal ∈ hint.literalNames ∧
      ∃ enum values, ReflTransGen tideModel.Holds "Tides" enum ∧
        tideModel.shapes.get? enum = some (.string (some values)) ∧
        literal = literalName (enum ++ "Type") values.eraseDups ∧
        (isReserved literal = true ↔ NamedReserved enum values.eraseDups) := by
  have once : ["high", "low", "high"].eraseDups = ["high", "low"] := by decide
  have of (name : String) := isReserved_literal_iff name ["high", "low", "high"] tideModel
  have hint : tideModel.hint "Tides" = .ok (.list (.literal
      (literalName "__stringOfTideType" ["high", "low"]) ["high", "low"])) := by
    rw [ServiceModel.hint, ServiceModel.hintFrom, ServiceModel.shape_eq_ok rfl, Fallible.ok_bind]
    dsimp only
    rw [dif_pos (by decide), ServiceModel.hintFrom, ServiceModel.shape_eq_ok rfl, Fallible.ok_bind]
    dsimp only
    rw [ofValues_eq_ok _ (by simp), once]
    rfl
  exact ⟨once ▸ (of "Type").1 (by simp), once ▸ (of "__stringOfTide").2.1 rfl (by simp),
    _, _, hint, List.mem_singleton_self _, (of "Tides").2.2 _ hint _ (List.mem_singleton_self _)⟩

/-- What the values give to a name may make it a reserved one. -/
theorem not_forall_literal_not_isReserved :
    ¬∀ (name : String) (values : List String), values ≠ [] →
      ∃ literal, ofValues name values = .ok (.literal literal values.eraseDups) ∧
        isReserved literal = false := by
  intro h
  obtain ⟨literal, made, free⟩ := h "__stringType" ["new"] (by simp)
  rw [ofValues_eq_ok _ (by simp)] at made
  obtain ⟨rfl, -⟩ := TypeHint.literal.inj (Except.ok.inj made)
  have reserved := (isReserved_literalName_iff "__stringType" ["new"].eraseDups).mpr
    ⟨by decide, by decide +kernel⟩
  rw [reserved] at free
  cases free

end TypeHint

end ResourceStubs
