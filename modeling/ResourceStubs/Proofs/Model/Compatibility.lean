import ResourceStubs.Proofs.Model.Alike

/-! Documents that are rearranged or extended. Of values that are alike the same is decoded, and the
maps that are decoded, at any depth, have their entries in the order of the value: the operations
and shapes of a service, the members of its structures, its resource types, what these declare, and
its waiters. -/

namespace ResourceStubs

open Json

namespace Shape

/-- The value of a field of a shape, from an object or from an array that begins with the kind. -/
def field? (json : Json) (kind name : String) : Option Json :=
  json.field? ("type" :: (fields kind).map Prod.fst) name

/-- The shape is decoded from the value, and the members of a structure are in its order. -/
structure InOrderOf (json : Json) (shape : Shape) : Prop where
  decoded : ofJson? json = some shape
  members : ∀ members required, shape = .record members required →
    InOrder (ShapeRef.ofJson? · = some ·) (field? json "structure" "members") members

/-- The content of a shape has the fields of the shape, and repeats no key if the shape repeats
none. -/
theorem content_of_kind? {json content : Json} {kind : String}
    (h : kind? json = some (kind, content)) (once : ¬json.RepeatsKey) :
    ¬content.RepeatsKey ∧ ∀ names name, name ≠ "type" →
      content.field? names name = json.field? ("type" :: names) name := by
  unfold kind? at h
  split at h
  next =>
    split at h
    next members _ =>
      split at h
      next =>
        obtain ⟨rfl, rfl⟩ := Prod.mk.inj (Option.some.inj h)
        refine ⟨?_, fun names name ne => ?_⟩
        · rintro (⟨repeated⟩ | ⟨mem, inside⟩)
          · refine once (.here fun nodup => repeated ?_)
            exact nodup.sublist (List.filter_sublist.map _)
          · exact once (.member (List.mem_filter.mp mem).1 inside)
        · exact (Dict.lookup_filter_key members (· != "type") name).trans
            (if_pos (by simpa using ne))
      next => cases h
    next items _ =>
      obtain ⟨rfl, rfl⟩ := Prod.mk.inj (Option.some.inj h)
      refine ⟨?_, fun names name ne => ?_⟩
      · rintro (_ | _ | ⟨mem, inside⟩)
        exact once (.item (List.mem_cons_of_mem _ mem) inside)
      · exact (Dict.lookup_cons_of_ne ne _ _).symm
    next => cases h
  next => cases h

theorem keeps : Keeps ofJson? InOrderOf := by
  intro json shape once h
  refine ⟨h, ?_⟩
  rintro members required rfl
  rw [ofJson?] at h
  obtain ⟨⟨kind, content⟩, hkind, h⟩ := Option.bind_eq_some_iff.mp h
  obtain ⟨once', same⟩ := content_of_kind? hkind once
  dsimp only at h
  split at h
  next =>
    simp only [Option.bind_eq_bind, Option.bind_eq_some_iff] at h
    obtain ⟨fields, hfields, members, hmembers, required, -, h⟩ := h
    cases h
    have order := (Keeps.self ShapeRef.ofJson?).withDefault once' hfields (by simp) hmembers
    rwa [same _ _ (by decide)] at order
  all_goals simp [plain?, Option.bind_eq_some_iff] at h

end Shape

namespace ServiceModel

/-- The operations, the shapes and the members of structures are in the order of the value. -/
structure InOrderOf (json : Json) (model : ServiceModel) : Prop where
  operations : InOrder (Operation.ofJson? · = some ·)
    (json.field? (fields.map Prod.fst) "operations") model.operations
  shapes : InOrder Shape.InOrderOf (json.field? (fields.map Prod.fst) "shapes") model.shapes

theorem keeps (serviceName : String) : Keeps (ofJson? serviceName) InOrderOf := by
  intro json model once h
  simp only [ofJson?, Option.bind_eq_bind, Option.bind_eq_some_iff] at h
  obtain ⟨read, hread, _, -, operations, hoperations, shapes, hshapes, _, -, h⟩ := h
  obtain rfl := Option.some.inj h
  exact ⟨(Keeps.self Operation.ofJson?).withDefault once hread (by simp) hoperations,
    Shape.keeps.withDefault once hread (by simp) hshapes⟩

end ServiceModel

namespace ResourceDefinition

/-- The definition is decoded from the value, and all its maps are in the order of the value. -/
structure InOrderOf (json : Json) (definition : ResourceDefinition) : Prop where
  decoded : ofJson? json = some definition
  actions : InOrder (ActionDefinition.ofJson? · = some ·)
    (json.field? (fields.map Prod.fst) "actions") definition.actions
  batchActions : InOrder (ActionDefinition.ofJson? · = some ·)
    (json.field? (fields.map Prod.fst) "batchActions") definition.batchActions
  waiters : InOrder (WaiterDefinition.ofJson? · = some ·)
    (json.field? (fields.map Prod.fst) "waiters") definition.waiters
  has : InOrder (related? · = some ·) (json.field? (fields.map Prod.fst) "has") definition.has
  hasMany : InOrder (ActionDefinition.ofJson? · = some ·)
    (json.field? (fields.map Prod.fst) "hasMany") definition.hasMany

theorem keeps : Keeps ofJson? InOrderOf := by
  intro json definition once decoded
  have h := decoded
  simp only [ofJson?, Option.bind_eq_bind, Option.bind_eq_some_iff] at h
  obtain ⟨read, hread, _, -, _, -, _, -, actions, hactions, batchActions, hbatchActions,
    waiters, hwaiters, has, hhas, hasMany, hhasMany, h⟩ := h
  obtain rfl := Option.some.inj h
  have action := Keeps.self ActionDefinition.ofJson?
  exact {
    decoded
    actions := action.withDefault once hread (by simp) hactions
    batchActions := action.withDefault once hread (by simp) hbatchActions
    waiters := (Keeps.self WaiterDefinition.ofJson?).withDefault once hread (by simp) hwaiters
    has := (Keeps.self related?).withDefault once hread (by simp) hhas
    hasMany := action.withDefault once hread (by simp) hhasMany }

end ResourceDefinition

namespace ResourceDocument

/-- The resource types are in the order of the value, and so are the maps of each, also of the
service itself. -/
structure InOrderOf (json : Json) (document : ResourceDocument) : Prop where
  service : ∀ definition, document.service = some definition → ∃ value,
    json.field? (fields.map Prod.fst) "service" = some value ∧ definition.InOrderOf value
  resources : InOrder ResourceDefinition.InOrderOf
    (json.field? (fields.map Prod.fst) "resources") document.resources

theorem keeps : Keeps ofJson? InOrderOf := by
  intro json document once h
  simp only [ofJson?, Option.bind_eq_bind, Option.bind_eq_some_iff] at h
  obtain ⟨read, hread, service, hservice, resources, hresources, h⟩ := h
  obtain rfl := Option.some.inj h
  refine ⟨?_, ResourceDefinition.keeps.withDefault once hread (by simp) hresources⟩
  rintro definition rfl
  exact ResourceDefinition.keeps.optional once hread (by simp) hservice

end ResourceDocument

namespace WaiterModel

/-- The waiters are in the order of the value. -/
structure InOrderOf (json : Json) (model : WaiterModel) : Prop where
  waiters : InOrder (WaiterConfig.ofJson? · = some ·)
    (json.field? (fields.map Prod.fst) "waiters") model.waiters

theorem keeps : Keeps ofJson? InOrderOf := by
  intro json model once h
  simp only [ofJson?, Option.bind_eq_bind, Option.bind_eq_some_iff] at h
  obtain ⟨read, hread, _, -, waiters, hwaiters, h⟩ := h
  obtain rfl := Option.some.inj h
  exact ⟨(Keeps.self WaiterConfig.ofJson?).withDefault once hread (by simp) hwaiters⟩

end WaiterModel

/-- The three documents of a service may have their records rearranged and extended at any depth,
and their maps are kept in order. -/
theorem documents_forwardCompatible :
    (∀ serviceName, ForwardCompatible ServiceModel.Alike (ServiceModel.ofJson? serviceName)
      fun json model => model.InOrderOf json) ∧
    ForwardCompatible ResourceDocument.Alike ResourceDocument.ofJson?
      (fun json document => document.InOrderOf json) ∧
    ForwardCompatible WaiterModel.Alike WaiterModel.ofJson? fun json model =>
      model.InOrderOf json :=
  ⟨fun serviceName =>
    ⟨(ServiceModel.respects serviceName).decode_eq, ServiceModel.keeps serviceName⟩,
    ⟨ResourceDocument.respects.decode_eq, ResourceDocument.keeps⟩,
    ⟨WaiterModel.respects.decode_eq, WaiterModel.keeps⟩⟩

/-! ### A dock -/

namespace Dock

/-- A structure with two members. -/
def shape : List (String × Json) :=
  [("type", .string "structure"),
    ("members", .object [("Name", .object [("shape", .string "Text")]),
      ("Berth", .object [("shape", .string "Text")])])]

/-- The structure with its kind at the end and an unknown field before it. -/
def extendedShape : List (String × Json) :=
  shape.tail ++ [("sensitive", .bool true), ("type", .string "structure")]

/-- The fields of a service model with one shape. -/
def model (shape : List (String × Json)) : List (String × Json) :=
  [("shapes", .object [("Dock", .object shape)]), ("documentation", .string "Docks.")]

theorem alike_extendedShape : ∃ reordered, Shape.Alike (.object shape) (.object reordered) ∧
    Shape.Alike (.object reordered) (.object extendedShape) := by
  have turned : shape.Perm (shape.tail ++ [("type", .string "structure")]) :=
    (List.perm_append_singleton _ _).symm
  refine ⟨_, .of_perm rfl (by simp [shape]) turned, ?_⟩
  exact .of_insert rfl (by simp [shape]) (by simp [Shape.fields]) rfl

theorem alike_model {fields others : List (String × Json)}
    (alike : Shape.Alike (.object fields) (.object others)) :
    ServiceModel.Alike (.object (model fields)) (.object (model others)) := by
  refine .object (once_of_nodup (by simp [model]) _) (once_of_nodup (by simp [model]) _)
    fun field hf => ?_
  simp only [ServiceModel.fields, List.mem_cons, List.not_mem_nil, or_false] at hf
  rcases hf with rfl | rfl | rfl | rfl
  case inr.inr.inl => exact .some (.object (.cons ⟨rfl, alike⟩ .nil))
  case inr.inr.inr => exact .some rfl
  all_goals exact .none

end Dock

theorem documents_forwardCompatible_dock :
    let plain := Json.object (Dock.model Dock.shape)
    let extended :=
      Json.object (("version", .string "2.0") :: (Dock.model Dock.extendedShape).reverse)
    ServiceModel.ofJson? "dock" plain = ServiceModel.ofJson? "dock" extended ∧
      ∃ model, ServiceModel.ofJson? "dock" plain = some model ∧ model.InOrderOf plain := by
  have compatible := documents_forwardCompatible.1 "dock"
  have refl : ∀ field ∈ ServiceModel.fields, ∀ json, field.2 json json := by
    simp [ServiceModel.fields, ServiceMetadata.Alike, RecordAlike.same, MapAlike.same]
  obtain ⟨reordered, first, second⟩ := Dock.alike_extendedShape
  have inside := (compatible.unchanged (Dock.alike_model first)).trans
    (compatible.unchanged (Dock.alike_model second))
  have turned := compatible.unchanged
    (.of_perm refl (by simp [Dock.model]) (Dock.model Dock.extendedShape).reverse_perm.symm)
  have added : ServiceModel.Alike (.object ([] ++ (Dock.model Dock.extendedShape).reverse))
      (.object ([] ++ ("version", .string "2.0") :: (Dock.model Dock.extendedShape).reverse)) :=
    .of_insert refl (by simp [Dock.model]) (by simp [ServiceModel.fields]) _
  refine ⟨(inside.trans turned).trans (compatible.unchanged added), _, rfl,
    compatible.in_order _ _ ?_ rfl⟩
  simp [Dock.model, Dock.shape, repeatsKey_object_iff, not_repeatsKey_string]

end ResourceStubs
