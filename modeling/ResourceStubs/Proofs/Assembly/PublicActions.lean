import ResourceStubs.Proofs.Assembly.MethodNames
import ResourceStubs.Proofs.Naming.SnakeCase

/-! Which public actions are shown. In snake case a final plural acronym is set off by an
underscore, also where nothing stands before it: a name that is such an acronym as a whole becomes
private. It is the only way for a name to become private, so every other public action is among the
public callables of its resource type and has a method in the class. -/

namespace ResourceStubs

open Fallible

namespace Naming

open Text

/-- An underscore before the first place is all that can come to the front. -/
theorem head?_insertUnderscores_eq_underscore_iff {place : Nat → Bool} {cs : List Char}
    (free : '_' ∉ cs) :
    (insertUnderscores place cs).head? = some '_' ↔ cs ≠ [] ∧ place 0 = true := by
  cases cs with
  | nil => simp [insertUnderscores]
  | cons c cs =>
    have hc : c ≠ '_' := fun h => free (h ▸ List.mem_cons_self)
    rw [insertUnderscores, List.zipIdx_cons, List.flatMap_cons, markPlace]
    split <;> simp_all

/-- At the start of a name no word is set off, but a plural acronym is. -/
theorem wordPlaces_zero {before plural : List Char} :
    wordPlaces before plural 0 = true ↔ before = [] ∧ plural ≠ [] := by
  have start : startsWordAt before 0 = false := by simp [startsWordAt]
  rw [wordPlaces, start, Bool.false_or, Bool.and_eq_true, beq_iff_eq, eq_comm,
    List.length_eq_zero_iff]
  simp

theorem IsPluralAcronym.underscore_not_mem {plural : List Char} (h : IsPluralAcronym plural) :
    '_' ∉ plural :=
  fun hm => absurd (h.letters '_' hm) (by decide)

/-- A name that is a plural acronym ends in itself. -/
theorem IsPluralAcronym.endsInPlural {name : List Char} (h : IsPluralAcronym name) :
    EndsInPlural name [] name :=
  ⟨rfl, .inr h, fun _ suffix _ => suffix.length_le⟩

/-- In snake case an underscore stands in front only of names that had one there and of plural
acronyms. -/
theorem head?_snakeCase_eq_underscore_iff (name : String) :
    (snakeCase name).toList.head? = some '_' ↔
      name.toList.head? = some '_' ∨ IsPluralAcronym name.toList := by
  by_cases underscore : '_' ∈ name.toList
  · rw [snakeCase_of_underscore underscore, or_iff_left]
    exact fun h => h.underscore_not_mem underscore
  · obtain ⟨before, plural, ends⟩ := exists_endsInPlural name.toList
    have first : name.toList.head? ≠ some '_' := fun h => underscore (List.mem_of_head? h)
    rw [snakeCase, if_neg underscore, String.toList_ofList, snakeCaseChars_eq ends, lowerText,
      head?_lowerAfter_eq_underscore_iff, head?_insertUnderscores_eq_underscore_iff underscore,
      wordPlaces_zero, or_iff_right first]
    constructor
    · rintro ⟨-, rfl, some_char⟩
      rw [ends.split, List.nil_append]
      exact ends.isPlural.resolve_left some_char
    · intro whole
      obtain ⟨rfl, rfl⟩ := whole.endsInPlural.unique ends
      have some_char : name.toList ≠ [] := by
        obtain ⟨capitals, eq, -⟩ := whole
        simp [eq]
      exact ⟨some_char, rfl, some_char⟩

end Naming

open Naming

namespace Schema

variable {name : String} {definition : ResourceDefinition} {resources : Dict ResourceDefinition}
  {schema : Schema}

/-- The public callables of a schema are those of its definition. -/
theorem publicCallables_of_resolve (h : resolve name definition resources = .ok schema) :
    schema.publicCallables = definition.publicCallables := by
  obtain ⟨collections, -, rfl⟩ := resolve_eq_ok h
  rfl

/-- An action whose name is public is among the public callables unless its name is a plural
acronym. -/
theorem snakeCase_mem_publicCallables_iff (h : resolve name definition resources = .ok schema)
    {declared : String} (hd : declared ∈ definition.actions.keys)
    (hpublic : declared.toList.head? ≠ some '_') :
    snakeCase declared ∈ schema.publicCallables.keys ↔ ¬IsPluralAcronym declared.toList := by
  rw [publicCallables_of_resolve h, ResourceDefinition.publicCallables, mem_keys_publicCallables,
    exists_callables_outline_iff, Ne, head?_snakeCase_eq_underscore_iff, or_iff_right hpublic]
  exact and_iff_left (.inl (.action hd))

end Schema

/-- All public actions of the definition have a method of their name among those of its class,
called like the known one if there is one, except for plural acronyms. Of these there is none if
each known method stands under its own name. -/
structure ResourceDefinition.ShowsActions (definition : ResourceDefinition) (known : Dict Method)
    (names : List String) : Prop where
  shown : ∀ declared ∈ definition.actions.keys, declared.toList.head? ≠ some '_' →
    ¬IsPluralAcronym declared.toList → nameAmong known (snakeCase declared) ∈ names
  dropped : KeyedByName known → ∀ declared ∈ definition.actions.keys,
    IsPluralAcronym declared.toList → snakeCase declared ∉ names

namespace ServiceContext

variable {context : ServiceContext} {oracle : Oracle} {service : ServiceName} {limit : Nat}

theorem showsActions_of_body {declared : String × ResourceDefinition} {resource : ResourceInstance}
    (hr : context.instantiate declared = .ok resource) {name stubName : String}
    {known : Dict Method} {stub : Resource}
    (h : resource.body oracle service limit name stubName known = .ok stub) :
    declared.2.ShowsActions known stub.methodNames := by
  have offered : declared.2.NamesMethods (resource.schema.sortedCallables.map Prod.fst) :=
    namesMethods_sortedCallables hr
  constructor
  · intro action ha hpublic hplural
    rw [resource.names_of_body h]
    refine List.mem_map_of_mem ((offered.2 _).mpr ⟨?_, .inl (.action ha)⟩)
    rw [Ne, head?_snakeCase_eq_underscore_iff]
    exact not_or.mpr ⟨hpublic, hplural⟩
  · intro hknown action _ hplural hm
    rw [resource.names_of_body_of_keyedByName hknown h] at hm
    exact ((offered.2 _).mp hm).1 ((head?_snakeCase_eq_underscore_iff action).mpr (.inr hplural))

end ServiceContext

namespace Session

/-- In snake case a name becomes private exactly if it is a plural acronym. So of the public actions
that a definition declares, all but the plural acronyms are among the public callables of its
schema, and have a method in the class that any run makes of the definition. -/
theorem showsActions_of_stubs (action : String) (session : Session) (oracle : Oracle)
    (service : ServiceName) (limit : Nat) :
    ((snakeCase action).toList.head? = some '_' ↔
      action.toList.head? = some '_' ∨ IsPluralAcronym action.toList) ∧
    (∀ name definition resources schema, Schema.resolve name definition resources = .ok schema →
      action ∈ definition.actions.keys → action.toList.head? ≠ some '_' →
        (snakeCase action ∈ schema.publicCallables.keys ↔ ¬IsPluralAcronym action.toList)) ∧
    ∀ root, session.stubs oracle service limit = .ok (some root) →
      ∃ document, session.resourceDocument service.name = .ok (some document) ∧
        (∃ known, oracle.rootMethods = .ok known ∧
          document.root.ShowsActions known root.methodNames) ∧
        List.Forall₂ (fun declared stub => ∃ known, oracle.methodsOf stub.name = .ok known ∧
          declared.2.ShowsActions known stub.methodNames)
          document.resources.entries root.subResources := by
  refine ⟨head?_snakeCase_eq_underscore_iff action, fun _ _ _ _ h hd hpublic =>
    Schema.snakeCase_mem_publicCallables_iff h hd hpublic, fun root h => ?_⟩
  obtain ⟨context, body, classes, hhas, hname, hbody, -, hclasses, rfl⟩ := exists_steps_of_stubs h
  refine ⟨context.document, hname ▸ hhas.document, ?_, ?_⟩
  · obtain ⟨resource, hr, hbody⟩ := bind_eq_ok.mp hbody
    obtain ⟨known, hknown, hbody⟩ := bind_eq_ok.mp hbody
    exact ⟨known, hknown, ServiceContext.showsActions_of_body hr hbody⟩
  · refine ServiceContext.forall₂_of_resourceClasses hclasses
      fun declared resource known stub hr hknown hbody => ⟨known, ?_, ?_⟩
    · rw [(resource.parts_of_body hbody).1]
      exact hknown
    · exact ServiceContext.showsActions_of_body hr hbody

/-- A hook with two actions. -/
def hook : ResourceDefinition :=
  { ResourceDefinition.empty with
    actions := .ofList [("ListARNs", ⟨none, none, none⟩), ("ARNs", ⟨none, none, none⟩)] }

theorem isPluralAcronym_arns : IsPluralAcronym "ARNs".toList :=
  ⟨['A', 'R', 'N'], by decide, by decide, by simp⟩

theorem showsActions_of_stubs_shop :
    (snakeCase "ARNs").toList.head? = some '_' ∧
    (∃ schema, Schema.resolve "Hook" hook .empty = .ok schema ∧
      (snakeCase "ListARNs" ∈ schema.publicCallables.keys ↔ ¬IsPluralAcronym "ListARNs".toList) ∧
      (snakeCase "ARNs" ∈ schema.publicCallables.keys ↔ ¬IsPluralAcronym "ARNs".toList)) ∧
    ∃ root, Shop.store.session.stubs Shop.source.oracle Shop.service 120 = .ok (some root) ∧
      ∃ document, Shop.store.session.resourceDocument "shop" = .ok (some document) ∧
        (∃ known, Shop.source.oracle.rootMethods = .ok known ∧
          document.root.ShowsActions known root.methodNames) ∧
        List.Forall₂
          (fun declared stub => ∃ known, Shop.source.oracle.methodsOf stub.name = .ok known ∧
            declared.2.ShowsActions known stub.methodNames)
          document.resources.entries root.subResources := by
  have of (action : String) :=
    showsActions_of_stubs action Shop.store.session Shop.source.oracle Shop.service 120
  obtain ⟨root, h⟩ := Shop.exists_stubs Shop.source.keyedByName_oracle Shop.total_source 120
  refine ⟨(of "ARNs").1.mpr (.inr isPluralAcronym_arns), ⟨_, rfl, ?_, ?_⟩, root, h,
    (of "ARNs").2.2 root h⟩
  · exact (of "ListARNs").2.1 "Hook" hook .empty _ rfl (by decide) (by decide)
  · exact (of "ARNs").2.1 "Hook" hook .empty _ rfl (by decide) (by decide)

/-- A public action is dropped where its name is a plural acronym as a whole. -/
theorem not_forall_public_shown :
    ¬(∀ name : String, name ≠ "" → name.toList.head? ≠ some '_' →
      (snakeCase name).toList.head? ≠ some '_') ∧
    ¬∀ name definition resources schema, Schema.resolve name definition resources = .ok schema →
      ∀ declared ∈ definition.actions.keys, declared.toList.head? ≠ some '_' →
        snakeCase declared ∈ schema.publicCallables.keys := by
  constructor
  · intro h
    exact h "ARNs" (by decide) (by decide)
      ((head?_snakeCase_eq_underscore_iff "ARNs").mpr (.inr isPluralAcronym_arns))
  · intro h
    have resolved : Schema.resolve "Hook" hook .empty = .ok _ := rfl
    have declared : "ARNs" ∈ hook.actions.keys := by decide
    have found := h "Hook" hook .empty _ resolved "ARNs" declared (by decide)
    exact (Schema.snakeCase_mem_publicCallables_iff resolved declared (by decide)).mp found
      isPluralAcronym_arns

end Session

end ResourceStubs
