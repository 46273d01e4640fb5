import ResourceStubs.Proofs.Json.Same
import ResourceStubs.Stub.Decode

/-! The JSON form of the stub classes loses nothing. A hint that is missing is null there and the
hint of nothing is a kind of its own, so the two are told apart; a docstring is always written, so
its default is never taken for it. -/

namespace ResourceStubs

open Json

namespace TypeHint

/-- The hint of a kind that has a content, read by what a hint of the kind has for it. -/
def ofContent? (kind : String) (content : Json) : Option TypeHint :=
  match HintContent.ofKind kind with
  | .element wrap => (ofJson? content).map wrap
  | .keyAndValue =>
    match content with
    | .array [key, value] => do some (.dict (← ofJson? key) (← ofJson? value))
    | _ => none
  | .values => do
    let fields ← content.objectFields? ["name", "values"]
    some (.literal (← fields.required "name" text?) (← fields.required "values" (list? text?)))
  | .typeDef => (text? content).map .typeDef
  | .reference => do
    let fields ← content.objectFields? ["name", "service", "stringify"]
    some (.reference (← fields.required "name" text?) (← fields.required "service" text?)
      (← fields.required "stringify" flag?))
  | .nothing =>
    match content with
    | .null => plain? kind
    | _ => none

/-- Reading a hint takes its kind first and then its content. -/
theorem ofJson?_eq (json : Json) : ofJson? json = json.tagged?.bind fun (kind, content?) =>
    content?.elim (plain? kind) (ofContent? kind) := by
  rw [ofJson?]
  split
  next h =>
    rw [Option.attach_eq_none_iff] at h
    rw [h]
    rfl
  next kind tag _ =>
    rw [tag]
    rfl
  next kind content tag _ =>
    conv_rhs => rw [tag]
    simp only [Option.bind_some, Option.elim_some, ofContent?]
    cases HintContent.ofKind kind with
    | keyAndValue =>
      simp only
      split
      next => rfl
      next other =>
        split
        next => exact (other _ _ tag rfl HEq.rfl).elim
        next => rfl
    | nothing =>
      cases content <;> rfl
    | _ => rfl

theorem toJson_ne_null (hint : TypeHint) : hint.toJson ≠ .null := by
  cases hint <;> simp [toJson, ofKind, ofTagged]

theorem ofJson?_of_same_ofKind {kind : String} {json : Json} (same : (ofKind kind).Same json) :
    ofJson? json = plain? kind := by
  rw [ofJson?_eq, same.kind]
  rfl

theorem ofJson?_of_same_ofTagged {kind : String} {content json : Json}
    (same : (ofTagged kind content).Same json) :
    ∃ content', content.Same content' ∧ ofJson? json = ofContent? kind content' := by
  obtain ⟨content', tag, h⟩ := same.tagged
  refine ⟨content', h, ?_⟩
  rw [ofJson?_eq, tag]
  rfl

theorem toJson_same_self (hint : TypeHint) : hint.toJson.Same hint.toJson := by
  have kind (kind : String) : (ofKind kind).Same (ofKind kind) :=
    same_object_self (by simp) (by simp [Same.string])
  have tagged (kind : String) {content : Json} (h : content.Same content) :
      (ofTagged kind content).Same (ofTagged kind content) :=
    same_object_self (by simp) (by simp [Same.string, h])
  induction hint with
  | list item ih | iterator item ih => exact tagged _ ih
  | dict key value ihKey ihValue => exact tagged _ (.array (by simp [ihKey, ihValue]))
  | typeDef name => exact tagged _ (.string name)
  | literal name values =>
    refine tagged _ (same_object_self (by simp) ?_)
    simp [Same.string, ofTexts, (RoundTrips.list RoundTrips.text).same_self values]
  | reference name service quoted =>
    exact tagged _ (same_object_self (by simp) (by simp [Same.string, Same.bool]))
  | _ => exact kind _

theorem ofJson?_of_same {hint : TypeHint} {json : Json} (same : hint.toJson.Same json) :
    ofJson? json = some hint := by
  induction hint generalizing json with
  | list item ih | iterator item ih =>
    obtain ⟨content, h, read⟩ := ofJson?_of_same_ofTagged same
    rw [read]
    exact congrArg (Option.map _) (ih h)
  | dict key value ihKey ihValue =>
    obtain ⟨content, h, read⟩ := ofJson?_of_same_ofTagged same
    rw [read]
    cases h with
    | array each =>
      obtain _ | ⟨hk, _ | ⟨hv, ⟨⟩⟩⟩ := each
      simp [ofContent?, HintContent.ofKind, ihKey hk, ihValue hv]
  | typeDef name =>
    obtain ⟨content, h, read⟩ := ofJson?_of_same_ofTagged same
    rw [read]
    exact congrArg (Option.map _) (RoundTrips.text.decode_of_same h)
  | literal name values =>
    obtain ⟨content, h, read⟩ := ofJson?_of_same_ofTagged same
    rw [read]
    refine objectFields?_bind_of_same h (by simp) fun fields hold => ?_
    have hname := hold.required .text "name" name (by simp)
    have hvalues := hold.required (.list .text) "values" values (by simp [ofTexts])
    simp [hname, hvalues]
  | reference name service quoted =>
    obtain ⟨content, h, read⟩ := ofJson?_of_same_ofTagged same
    rw [read]
    refine objectFields?_bind_of_same h (by simp) fun fields hold => ?_
    have hname := hold.required .text "name" name (by simp)
    have hservice := hold.required .text "service" service (by simp)
    have hquoted := hold.required .flag "stringify" quoted (by simp)
    simp [hname, hservice, hquoted]
  | _ => exact ofJson?_of_same_ofKind same

theorem roundTrips : RoundTrips toJson ofJson? where
  same_self := toJson_same_self
  decode_of_same := ofJson?_of_same

end TypeHint

theorem Argument.roundTrips : RoundTrips toJson ofJson? where
  same_self argument := by
    refine same_object_self (by simp) ?_
    simp [Same.string, TypeHint.roundTrips.same_self_option, RoundTrips.text.same_self_option]
  decode_of_same {argument json} same := by
    refine fields?_bind_of_same same (by simp) fun fields hold => ?_
    have name := hold.required .text "name" argument.name (by simp)
    have hint := hold.optional TypeHint.roundTrips TypeHint.toJson_ne_null "type_annotation"
      argument.hint (by simp)
    have fallback := hold.optional .text (by simp) "default" argument.fallback (by simp)
    have marker := hold.required .text "prefix" argument.marker (by simp)
    simp [name, hint, fallback, marker]

theorem Method.roundTrips : RoundTrips toJson ofJson? where
  same_self method := by
    refine same_object_self (by simp) ?_
    simp [Same.string, TypeHint.toJson_same_self, (RoundTrips.list Argument.roundTrips).same_self]
  decode_of_same {method json} same := by
    refine fields?_bind_of_same same (by simp) fun fields hold => ?_
    have name := hold.required .text "name" method.name (by simp)
    have arguments := hold.required (.list Argument.roundTrips) "arguments" method.arguments
      (by simp)
    have returns := hold.required TypeHint.roundTrips "return_type" method.returns (by simp)
    have docstring := hold.withDefault .text "docstring" "" method.docstring (by simp)
    simp [name, arguments, returns, docstring]

theorem Attribute.roundTrips : RoundTrips toJson ofJson? where
  same_self member := by
    refine same_object_self (by simp) ?_
    simp [Same.string, TypeHint.toJson_same_self]
  decode_of_same {member json} same := by
    refine fields?_bind_of_same same (by simp) fun fields hold => ?_
    have name := hold.required .text "name" member.name (by simp)
    have hint := hold.required TypeHint.roundTrips "type_annotation" member.hint (by simp)
    simp [name, hint]

theorem ServiceName.roundTrips : RoundTrips toJson ofJson? where
  same_self service := same_object_self (by simp) (by simp [Same.string])
  decode_of_same {service json} same := by
    refine fields?_bind_of_same same (by simp) fun fields hold => ?_
    have name := hold.required .text "name" service.name (by simp)
    have className := hold.required .text "class_name" service.className (by simp)
    have version := hold.required .text "boto3_version" service.version (by simp)
    simp [name, className, version]

theorem Collection.roundTrips : RoundTrips toJson ofJson? where
  same_self collection := by
    refine same_object_self (by simp) ?_
    simp [Same.string, TypeHint.toJson_same_self, ServiceName.roundTrips.same_self,
      (RoundTrips.list Method.roundTrips).same_self]
  decode_of_same {collection json} same := by
    refine fields?_bind_of_same same (by simp) fun fields hold => ?_
    have name := hold.required .text "name" collection.name (by simp)
    have parentName := hold.required .text "parent_name" collection.parentName (by simp)
    have attributeName := hold.required .text "attribute_name" collection.attributeName (by simp)
    have elementName := hold.required .text "object_class_name" collection.elementName (by simp)
    have hint := hold.required TypeHint.roundTrips "type_annotation" collection.hint (by simp)
    have service := hold.required ServiceName.roundTrips "service_name" collection.service
      (by simp)
    have methods := hold.required (.list Method.roundTrips) "methods" collection.methods (by simp)
    simp [name, parentName, attributeName, elementName, hint, service, methods]

theorem Resource.roundTrips : RoundTrips toJson ofJson? where
  same_self resource := by
    refine same_object_self (by simp) ?_
    simp [Same.string, ServiceName.roundTrips.same_self,
      (RoundTrips.list Method.roundTrips).same_self,
      (RoundTrips.list Attribute.roundTrips).same_self,
      (RoundTrips.list Collection.roundTrips).same_self]
  decode_of_same {resource json} same := by
    refine fields?_bind_of_same same (by simp) fun fields hold => ?_
    have name := hold.required .text "name" resource.name (by simp)
    have service := hold.required ServiceName.roundTrips "service_name" resource.service (by simp)
    have methods := hold.required (.list Method.roundTrips) "methods" resource.methods (by simp)
    have attributes := hold.required (.list Attribute.roundTrips) "attributes" resource.attributes
      (by simp)
    have collections := hold.required (.list Collection.roundTrips) "collections"
      resource.collections (by simp)
    simp [name, service, methods, attributes, collections]

theorem ServiceResource.roundTrips : RoundTrips toJson ofJson? where
  same_self root := by
    refine same_object_self (by simp) ?_
    simp [Same.string, ServiceName.roundTrips.same_self,
      (RoundTrips.list Method.roundTrips).same_self,
      (RoundTrips.list Attribute.roundTrips).same_self,
      (RoundTrips.list Collection.roundTrips).same_self,
      (RoundTrips.list Resource.roundTrips).same_self]
  decode_of_same {root json} same := by
    refine fields?_bind_of_same same (by simp) fun fields hold => ?_
    have name := hold.required .text "name" root.name (by simp)
    have service := hold.required ServiceName.roundTrips "service_name" root.service (by simp)
    have methods := hold.required (.list Method.roundTrips) "methods" root.methods (by simp)
    have attributes := hold.required (.list Attribute.roundTrips) "attributes" root.attributes
      (by simp)
    have collections := hold.required (.list Collection.roundTrips) "collections"
      root.collections (by simp)
    have subResources := hold.required (.list Resource.roundTrips) "sub_resources"
      root.subResources (by simp)
    simp [name, service, methods, attributes, collections, subResources]

/-- Every part of a service's classes is read back from its JSON form as it was, whatever order the
members of the objects are in, and different parts have different forms. -/
theorem json_forms_lossless :
    Lossless TypeHint.toJson TypeHint.ofJson? ∧ Lossless ServiceName.toJson ServiceName.ofJson? ∧
      Lossless Argument.toJson Argument.ofJson? ∧ Lossless Method.toJson Method.ofJson? ∧
      Lossless Attribute.toJson Attribute.ofJson? ∧
      Lossless Collection.toJson Collection.ofJson? ∧
      Lossless Resource.toJson Resource.ofJson? ∧
      Lossless ServiceResource.toJson ServiceResource.ofJson? :=
  ⟨TypeHint.roundTrips.lossless, ServiceName.roundTrips.lossless, Argument.roundTrips.lossless,
    Method.roundTrips.lossless, Attribute.roundTrips.lossless, Collection.roundTrips.lossless,
    Resource.roundTrips.lossless, ServiceResource.roundTrips.lossless⟩

end ResourceStubs
