import Mathlib.Order.WellFoundedSet
import ResourceStubs.Model.Hint
import ResourceStubs.Proofs.Dict
import ResourceStubs.Proofs.Fallible

/-! When a shape has a hint. A list or map shape holds the shapes of its elements. A shape has a
hint exactly when it unfolds: it is defined and all that it holds unfolds in turn. The search
through the shapes that are still unseen never misses one, since a shape that unfolds and is left
behind is not met again. If no shape holds itself through others, it is enough that all shapes that
a shape holds, at any depth, are defined. The hint then stands for the shape: it has a list for a
list shape, a dictionary for a map shape, and the hint of its own for any other. -/

namespace ResourceStubs.ServiceModel

open Fallible Relation

variable (model : ServiceModel)

/-- A list shape holds the shape of its elements, a map shape those of its keys and values. -/
inductive Holds : String → String → Prop
  | member {name : String} {member : ShapeRef} :
    model.shapes.get? name = some (.list member) → Holds name member.shape
  | key {name : String} {key value : ShapeRef} :
    model.shapes.get? name = some (.map key value) → Holds name key.shape
  | value {name : String} {key value : ShapeRef} :
    model.shapes.get? name = some (.map key value) → Holds name value.shape

/-- No shape holds itself, directly or through others. -/
def Acyclic : Prop := ∀ name, ¬TransGen model.Holds name name

/-- A shape and all that it holds at any depth are defined. -/
def Maps (name : String) : Prop :=
  ∀ inner, ReflTransGen model.Holds name inner → inner ∈ model.shapes.keys

variable {model} {name : String}

theorem maps_of_holds {inner : String} (h : model.Maps name) (hi : model.Holds name inner) :
    model.Maps inner := fun _ hr => h _ (hr.head hi)

theorem Maps.of_forall_holds (hdefined : name ∈ model.shapes.keys)
    (h : ∀ inner, model.Holds name inner → model.Maps inner) : model.Maps name := by
  intro inner hr
  rcases hr.cases_head with rfl | ⟨next, hn, hr⟩
  · exact hdefined
  · exact h next hn inner hr

theorem maps_iff :
    model.Maps name ↔
      name ∈ model.shapes.keys ∧ ∀ inner, model.Holds name inner → model.Maps inner :=
  ⟨fun h => ⟨h name .refl, fun _ hi => maps_of_holds h hi⟩, fun ⟨hd, h⟩ => .of_forall_holds hd h⟩

/-- A shape is defined, and all that it holds unfolds in turn. -/
inductive Unfolds (model : ServiceModel) : String → Prop
  | intro {name : String} : name ∈ model.shapes.keys →
    (∀ inner, model.Holds name inner → Unfolds model inner) → Unfolds model name

/-- A shape that unfolds does not hold itself, directly or through others. -/
theorem Unfolds.irrefl (h : model.Unfolds name) : ¬TransGen model.Holds name name := by
  induction h with
  | intro _ _ ih =>
    intro hcycle
    obtain ⟨inner, hi, hr⟩ := TransGen.head'_iff.mp hcycle
    exact ih inner hi (.tail' hr hi)

theorem mem_keys_of_holds {inner : String} (h : model.Holds name inner) :
    name ∈ model.shapes.keys := by
  cases h with
  | member hs | key hs | value hs => exact Dict.mem_keys_iff.mpr ⟨_, hs⟩

/-- Where no shape holds itself, every way down comes to an end: there are only finitely many
defined shapes, and the others hold nothing. -/
theorem Acyclic.wellFounded (hacyclic : model.Acyclic) :
    WellFounded fun inner outer => model.Holds outer inner := by
  have : IsStrictOrder String fun inner outer => TransGen model.Holds outer inner :=
    { irrefl := hacyclic
      trans := fun _ _ _ hab hbc => hbc.trans hab }
  have hwf : {name | name ∈ model.shapes.keys}.WellFoundedOn fun inner outer =>
      TransGen model.Holds outer inner := model.shapes.keys.finite_toSet.wellFoundedOn
  have hundefined (name : String) (h : name ∉ model.shapes.keys) :
      Acc (fun inner outer => model.Holds outer inner) name :=
    .intro name fun _ hi => absurd (mem_keys_of_holds hi) h
  have hdefined (name : String) (h : name ∈ model.shapes.keys) :
      Acc (fun inner outer => model.Holds outer inner) name := by
    refine hwf.induction h fun name _ ih => .intro name fun inner hi => ?_
    by_cases hd : inner ∈ model.shapes.keys
    · exact ih inner hd (.single hi)
    · exact hundefined inner hd
  exact ⟨fun name => (em _).elim (hdefined name) (hundefined name)⟩

/-- Where no shape holds itself, a shape unfolds as soon as all that it holds is defined. -/
theorem maps_iff_unfolds (hacyclic : model.Acyclic) :
    model.Maps name ↔ model.Unfolds name := by
  constructor
  · intro h
    induction name using hacyclic.wellFounded.induction with
    | _ name ih =>
      exact .intro (h name .refl) fun inner hi => ih inner hi (maps_of_holds h hi)
  · intro h
    induction h with
    | intro hdefined _ ih => exact .of_forall_holds hdefined ih

theorem holds_list_iff {member : ShapeRef} (h : model.shapes.get? name = some (.list member))
    {inner : String} : model.Holds name inner ↔ inner = member.shape := by
  constructor
  · intro hi
    cases hi <;> simp_all
  · rintro rfl
    exact .member h

theorem holds_map_iff {key value : ShapeRef}
    (h : model.shapes.get? name = some (.map key value)) {inner : String} :
    model.Holds name inner ↔ inner = key.shape ∨ inner = value.shape := by
  constructor
  · intro hi
    cases hi <;> simp_all
  · rintro (rfl | rfl)
    · exact .key h
    · exact .value h

/-- A shape that is neither a list nor a map holds nothing. -/
theorem not_holds_of_leaf {shape : Shape} (h : model.shapes.get? name = some shape)
    (hlist : ∀ member, shape ≠ .list member) (hmap : ∀ key value, shape ≠ .map key value)
    (inner : String) : ¬model.Holds name inner := by
  intro hi
  cases hi with
  | member hs => exact absurd (Option.some.inj (h.symm.trans hs)) (hlist _)
  | key hs => exact absurd (Option.some.inj (h.symm.trans hs)) (hmap _ _)
  | value hs => exact absurd (Option.some.inj (h.symm.trans hs)) (hmap _ _)

theorem maps_list_iff {member : ShapeRef} (h : model.shapes.get? name = some (.list member)) :
    model.Maps name ↔ model.Maps member.shape := by
  have hdefined := Dict.mem_keys_iff.mpr ⟨_, h⟩
  rw [maps_iff]
  simp [holds_list_iff h, hdefined]

theorem shape_eq_ok {shape : Shape} (h : model.shapes.get? name = some shape) :
    model.shape name = .ok shape := by
  simp [ServiceModel.shape, h]

theorem shape_decides (name : String) :
    Decides (model.shape name) (name ∈ model.shapes.keys) := by
  unfold shape
  cases h : model.shapes.get? name with
  | some shape => exact .of_eq_ok rfl (Dict.mem_keys_iff.mpr ⟨shape, h⟩)
  | none => exact .of_told rfl (Dict.get?_eq_none_iff.mp h)

theorem members_decides (model : ServiceModel) (name : String) :
    Decides (model.members name)
      (∃ members required, model.shapes.get? name = some (.record members required)) := by
  rw [members]
  cases hs : model.shapes.get? name with
  | none =>
    obtain ⟨e, he, htold⟩ := (shape_decides name).exists_error (Dict.get?_eq_none_iff.mp hs)
    rw [he]
    exact .of_eq_error rfl htold (by simp)
  | some shape =>
    rw [shape_eq_ok hs, ok_bind]
    cases shape with
    | record members required => exact .of_eq_ok rfl ⟨members, required, rfl⟩
    | _ => exact .of_told rfl (by simp)

theorem members_eq_ok {model : ServiceModel} {name : String} {members : Dict ShapeRef}
    {required : List String} (h : model.shapes.get? name = some (.record members required)) :
    model.members name =
      .ok (members.entries.map fun member =>
        ⟨member.1, member.2, required.contains member.1⟩) := by
  rw [ServiceModel.members, shape_eq_ok h]
  rfl

/-- One step of the search: the shape is defined, and if it holds others it is still unseen and the
search among the rest finds hints for those. A shape that holds others and is not unseen has no
end. -/
theorem hintFrom_step {errors : Error → Prop} {unseen : List String} {P : String → Prop}
    (htold : ∀ e, IsTold e → errors e)
    (hendless : name ∉ unseen → ∀ inner, model.Holds name inner →
      errors (.introspection (.endless name)))
    (hinner : name ∈ unseen → ∀ inner, model.Holds name inner →
      Settles errors (model.hintFrom (unseen.erase name) inner) (P inner)) :
    Settles errors (model.hintFrom unseen name)
      (name ∈ model.shapes.keys ∧ ∀ inner, model.Holds name inner → name ∈ unseen ∧ P inner) := by
  rw [hintFrom]
  cases hs : model.shapes.get? name with
  | none =>
    have hundefined := Dict.get?_eq_none_iff.mp hs
    obtain ⟨e, he, hfault⟩ := (shape_decides name).exists_error hundefined
    rw [he]
    exact .of_eq_error rfl (htold e hfault) fun h => hundefined h.1
  | some shape =>
    have hdefined : name ∈ model.shapes.keys := Dict.mem_keys_iff.mpr ⟨_, hs⟩
    rw [shape_eq_ok hs, ok_bind]
    cases shape with
    | list member =>
      by_cases hmem : name ∈ unseen
      · have h := (hinner hmem _ (.member hs)).bind_pure TypeHint.list
        refine Settles.congr (by simpa only [hmem, dite_true] using h) ?_
        simp [holds_list_iff hs, hdefined, hmem]
      · refine .of_eq_error (by simp only [hmem, dite_false]; rfl) (hendless hmem _ (.member hs)) ?_
        exact fun h => hmem (h.2 _ (.member hs)).1
    | map key value =>
      by_cases hmem : name ∈ unseen
      · have hvalue := fun k => (hinner hmem _ (.value hs)).bind_pure (TypeHint.dict k)
        have h := (hinner hmem _ (.key hs)).bind fun k _ => hvalue k
        refine Settles.congr (by simpa only [hmem, dite_true] using h) ?_
        simp [holds_map_iff hs, hdefined, hmem]
      · refine .of_eq_error (by simp only [hmem, dite_false]; rfl) (hendless hmem _ (.key hs)) ?_
        exact fun h => hmem (h.2 _ (.key hs)).1
    | string values =>
      have hleaf := not_holds_of_leaf hs (by simp) (by simp)
      have hnone : name ∈ model.shapes.keys ∧
          ∀ inner, model.Holds name inner → name ∈ unseen ∧ P inner :=
        ⟨hdefined, fun inner hi => absurd hi (hleaf inner)⟩
      rcases values with _ | _ | ⟨value, values⟩ <;> exact .of_eq_ok rfl hnone
    | _ =>
      have hleaf := not_holds_of_leaf hs (by simp) (by simp)
      exact .of_eq_ok rfl ⟨hdefined, fun inner hi => absurd hi (hleaf inner)⟩

/-- Whatever the shapes hold, the search fails only at a fault in them. -/
theorem hintFrom_settles_self (unseen : List String) (name : String) :
    Settles IsFault (model.hintFrom unseen name)
      (∃ hint, model.hintFrom unseen name = .ok hint) := by
  induction hn : unseen.length using Nat.strongRecOn generalizing unseen name with
  | ind n ih =>
    refine (hintFrom_step (fun _ => IsTold.isFault) (fun _ _ _ => ⟨_, rfl⟩) fun hmem inner _ =>
      ih _ ?_ (unseen.erase name) inner rfl).self
    rw [← hn, List.length_erase_of_mem hmem]
    exact Nat.sub_lt (List.length_pos_of_mem hmem) Nat.one_pos

/-- A search finds a hint exactly when the shape is defined and, if it holds others, is still unseen
and the search without it finds hints for those. -/
theorem exists_hintFrom_iff {unseen : List String} {name : String} :
    (∃ hint, model.hintFrom unseen name = .ok hint) ↔
      name ∈ model.shapes.keys ∧ ∀ inner, model.Holds name inner →
        name ∈ unseen ∧ ∃ hint, model.hintFrom (unseen.erase name) inner = .ok hint :=
  (hintFrom_settles_self unseen name).iff
    (hintFrom_step (fun _ => IsTold.isFault) (fun _ _ _ => ⟨_, rfl⟩) fun _ inner _ =>
      hintFrom_settles_self (unseen.erase name) inner)

/-- A shape with a hint unfolds: each step of the search leaves a shape behind. -/
theorem unfolds_of_hintFrom {unseen : List String} {name : String}
    (h : ∃ hint, model.hintFrom unseen name = .ok hint) : model.Unfolds name := by
  induction hn : unseen.length using Nat.strongRecOn generalizing unseen name with
  | ind n ih =>
    obtain ⟨hdefined, hinner⟩ := exists_hintFrom_iff.mp h
    refine .intro hdefined fun inner hi => ?_
    obtain ⟨hmem, hhint⟩ := hinner inner hi
    refine ih _ ?_ hhint rfl
    rw [← hn, List.length_erase_of_mem hmem]
    exact Nat.sub_lt (List.length_pos_of_mem hmem) Nat.one_pos

/-- A shape that unfolds has a hint, as long as the search has not left behind any shape that it
holds. -/
theorem exists_hintFrom (h : model.Unfolds name) {unseen : List String}
    (hunseen : ∀ inner, ReflTransGen model.Holds name inner → inner ∈ model.shapes.keys →
      inner ∈ unseen) : ∃ hint, model.hintFrom unseen name = .ok hint := by
  induction h generalizing unseen with
  | @intro name hdefined hinner ih =>
    refine exists_hintFrom_iff.mpr ⟨hdefined, fun inner hi => ⟨hunseen name .refl hdefined, ?_⟩⟩
    refine ih inner hi fun deeper hr hd => ?_
    -- what the shape holds does not hold the shape in turn
    have hne : deeper ≠ name := by
      rintro rfl
      exact (Unfolds.intro hdefined hinner).irrefl (.head' hi hr)
    exact (List.mem_erase_of_ne hne).mpr (hunseen deeper (hr.head hi) hd)

/-- A shape has a hint exactly when it unfolds. -/
theorem hint_settles_unfolds (model : ServiceModel) (name : String) :
    Settles IsFault (model.hint name) (model.Unfolds name) :=
  (hintFrom_settles_self _ name).congr
    ⟨unfolds_of_hintFrom, fun h => exists_hintFrom h fun _ _ hd => hd⟩

/-- Where no shape holds itself, the search comes to an end: it finds a hint exactly when all that
the shape holds is defined, and else it finds what is not. -/
theorem hintFrom_decides (hacyclic : model.Acyclic) {unseen : List String}
    (hunseen : ∀ inner, ReflTransGen model.Holds name inner → inner ∈ model.shapes.keys →
      inner ∈ unseen) : Decides (model.hintFrom unseen name) (model.Maps name) := by
  induction name using hacyclic.wellFounded.induction generalizing unseen with
  | _ name ih =>
    have hmem {inner : String} (hi : model.Holds name inner) : name ∈ unseen :=
      hunseen name .refl (mem_keys_of_holds hi)
    have hstep := hintFrom_step (P := model.Maps) (fun _ => id)
      (fun hseen _ hi => (hseen (hmem hi)).elim) fun _ inner hi =>
        ih inner hi fun deeper hr hd => by
          -- what the shape holds does not hold the shape in turn
          have hne : deeper ≠ name := by
            rintro rfl
            exact hacyclic deeper (.head' hi hr)
          exact (List.mem_erase_of_ne hne).mpr (hunseen deeper (hr.head hi) hd)
    refine hstep.congr (Iff.trans ?_ maps_iff.symm)
    exact and_congr_right fun _ => forall₂_congr fun _ hi => and_iff_right (hmem hi)

/-- Where no shape holds itself, a shape has a hint exactly when all that it holds is defined. -/
theorem hint_decides (hacyclic : model.Acyclic) (name : String) :
    Decides (model.hint name) (model.Maps name) :=
  hintFrom_decides hacyclic fun _ _ hd => hd

/-- The search for a hint stops a run only where a shape holds itself. -/
theorem mild_hint (hacyclic : model.Acyclic) (name : String) : Mild (model.hint name) :=
  (hint_decides hacyclic name).raisesOnly.mono fun _ ⟨_, h⟩ => h ▸ rfl

theorem neverFatal_hint (model : ServiceModel) (name : String) : NeverFatal (model.hint name) :=
  (hint_settles_unfolds model name).raisesOnly.mono fun _ ⟨_, h⟩ => h ▸ rfl

/-! ### What a hint is made of -/

/-- The hint of a shape that holds no others. -/
def leafHint? (name : String) : Shape → Option TypeHint
  | .string (some (value :: values)) =>
    let unique := (value :: values).eraseDups
    some (.literal (TypeHint.literalName (name ++ "Type") unique) unique)
  | .string _ => some .str
  | .integer | .long => some .int
  | .float | .double => some .float
  | .boolean => some .bool
  | .timestamp => some .dateTime
  | .blob => some .bytes
  | .record _ _ => some (.typeDef (name ++ "TypeDef"))
  | .other => some .any
  | .list _ | .map _ _ => none

/-- The hint stands for the shape: a list for a list, a dictionary for a map, and the hint of its
own for any other. -/
inductive Hints (model : ServiceModel) : String → TypeHint → Prop
  | leaf {name : String} {shape : Shape} {hint : TypeHint} :
    model.shapes.get? name = some shape → leafHint? name shape = some hint → Hints model name hint
  | list {name : String} {member : ShapeRef} {item : TypeHint} :
    model.shapes.get? name = some (.list member) → Hints model member.shape item →
    Hints model name (.list item)
  | map {name : String} {key value : ShapeRef} {keyHint valueHint : TypeHint} :
    model.shapes.get? name = some (.map key value) → Hints model key.shape keyHint →
    Hints model value.shape valueHint → Hints model name (.dict keyHint valueHint)

theorem get?_of_shape_eq_ok {shape : Shape} (h : model.shape name = .ok shape) :
    model.shapes.get? name = some shape := by
  unfold ServiceModel.shape at h
  split at h
  next found => rw [found, Except.ok.inj h]
  next => cases h

/-- A hint that the search finds stands for its shape. -/
theorem hints_of_hintFrom {unseen : List String} {hint : TypeHint}
    (h : model.hintFrom unseen name = .ok hint) : model.Hints name hint := by
  -- a shape that holds others is left out of those that are unseen
  induction hn : unseen.length using Nat.strongRecOn generalizing unseen name hint with
  | ind n ih =>
    have hinner (hmem : name ∈ unseen) {inner : String} {hint : TypeHint}
        (h : model.hintFrom (unseen.erase name) inner = .ok hint) : model.Hints inner hint := by
      have hlength := List.length_erase_of_mem hmem
      have hpos := List.length_pos_of_mem hmem
      exact ih _ (by omega) h rfl
    rw [hintFrom] at h
    obtain ⟨shape, hshape, h⟩ := bind_eq_ok.mp h
    have found := get?_of_shape_eq_ok hshape
    cases shape with
    | list member =>
      dsimp only at h
      split at h
      next hmem =>
        obtain ⟨item, hitem, h⟩ := bind_eq_ok.mp h
        obtain rfl := pure_eq_ok.mp h
        exact .list found (hinner hmem hitem)
      next => cases h
    | map key value =>
      dsimp only at h
      split at h
      next hmem =>
        obtain ⟨keyHint, hkey, h⟩ := bind_eq_ok.mp h
        obtain ⟨valueHint, hvalue, h⟩ := bind_eq_ok.mp h
        obtain rfl := pure_eq_ok.mp h
        exact .map found (hinner hmem hkey) (hinner hmem hvalue)
      next => cases h
    | string values =>
      refine .leaf found ?_
      rcases values with _ | _ | ⟨value, values⟩
      all_goals exact congrArg some (Except.ok.inj h)
    | integer | long | float | double | boolean | timestamp | blob | record | other =>
      exact .leaf found (congrArg some (Except.ok.inj h))

end ResourceStubs.ServiceModel
