import ResourceStubs.Proofs.Model.Hint

/-! The way down from a shape. The hint of a shape is made by calls that nest one in another: a call
for the shape, in it the calls for what the shape holds, the keys of a map before its values. Where
no shape holds itself, the calls that are open at one time are for different shapes, so that no more
of them nest than there are shapes. The search among unseen shapes then never meets a shape that it
has left behind, and it comes to what the calls alone come to: a hint, or the first shape on the way
that is not defined. -/

namespace ResourceStubs.ServiceModel

open Fallible Relation

variable {model : ServiceModel} {name : String}

/-! ### The calls alone -/

/-- The failure at a shape that is not defined. -/
def undefinedShape (model : ServiceModel) (name : String) : Error :=
  .introspection s!"Shape {name} is not defined in {model.serviceName} service model"

/-- The hint of a shape by calls alone, with nothing kept of the shapes that were met. At most
`depth` calls nest in the outermost one; there is no result if that is too few. -/
def hintWithin (model : ServiceModel) (depth : Nat) (name : String) :
    Option (Except Error TypeHint) :=
  match model.shapes.get? name with
  | none => some (.error (model.undefinedShape name))
  | some (.list member) =>
    match depth with
    | 0 => none
    | depth + 1 => (model.hintWithin depth member.shape).map (Except.map TypeHint.list)
  | some (.map key value) =>
    match depth with
    | 0 => none
    | depth + 1 => do
      match ← model.hintWithin depth key.shape with
      | .error error => some (.error error)
      | .ok keyHint =>
        (model.hintWithin depth value.shape).map (Except.map (TypeHint.dict keyHint))
  | some shape => (leafHint? name shape).map .ok

section Calls

variable {depth : Nat}

theorem shape_eq_error (h : model.shapes.get? name = none) :
    model.shape name = .error (model.undefinedShape name) := by
  simp [ServiceModel.shape, undefinedShape, h]

theorem hintWithin_undefined (h : model.shapes.get? name = none) :
    model.hintWithin depth name = some (.error (model.undefinedShape name)) := by
  unfold hintWithin
  rw [h]

theorem hintWithin_leaf {shape : Shape} {hint : TypeHint} (h : model.shapes.get? name = some shape)
    (hleaf : leafHint? name shape = some hint) : model.hintWithin depth name = some (.ok hint) := by
  unfold hintWithin
  rw [h]
  cases shape <;> simp_all [leafHint?]

theorem hintWithin_list {member : ShapeRef} (h : model.shapes.get? name = some (.list member)) :
    model.hintWithin (depth + 1) name =
      (model.hintWithin depth member.shape).map (Except.map TypeHint.list) := by
  rw [hintWithin, h]

theorem hintWithin_map {key value : ShapeRef} (h : model.shapes.get? name = some (.map key value)) :
    model.hintWithin (depth + 1) name =
      (model.hintWithin depth key.shape).bind fun
        | .error error => some (.error error)
        | .ok keyHint =>
          (model.hintWithin depth value.shape).map (Except.map (TypeHint.dict keyHint)) := by
  rw [hintWithin, h]
  rfl

/-- A shape that holds others has no hint by a call in which none nests. -/
theorem exists_depth_of_holds {inner : String} (h : model.Holds name inner)
    {result : Except Error TypeHint} (hresult : model.hintWithin depth name = some result) :
    ∃ less, depth = less + 1 := by
  cases depth with
  | succ depth => exact ⟨depth, rfl⟩
  | zero =>
    unfold hintWithin at hresult
    cases h with
    | member hs | key hs | value hs => simp [hs] at hresult

end Calls

/-! ### How deep the calls nest -/

theorem hintFrom_undefined (unseen : List String) (h : model.shapes.get? name = none) :
    model.hintFrom unseen name = .error (model.undefinedShape name) := by
  rw [hintFrom, shape_eq_error h]
  rfl

theorem hintFrom_leaf {shape : Shape} {hint : TypeHint} (unseen : List String)
    (h : model.shapes.get? name = some shape) (hleaf : leafHint? name shape = some hint) :
    model.hintFrom unseen name = .ok hint := by
  rw [hintFrom, shape_eq_ok h, ok_bind]
  cases shape with
  | list | map => cases hleaf
  | string values =>
    rcases values with _ | _ | _ <;> exact congrArg Except.ok (Option.some.inj hleaf)
  | _ => exact congrArg Except.ok (Option.some.inj hleaf)

/-- A shape that is neither a list nor a map has a hint of its own. -/
theorem leafHint?_of_not_holds {shape : Shape} (h : model.shapes.get? name = some shape)
    (hholds : ∀ inner, ¬model.Holds name inner) : ∃ hint, leafHint? name shape = some hint := by
  cases shape with
  | list => exact absurd (.member h) (hholds _)
  | map => exact absurd (.key h) (hholds _)
  | string values => rcases values with _ | _ | _ <;> exact ⟨_, rfl⟩
  | _ => exact ⟨_, rfl⟩

/-- The calls alone come to what the search comes to, and nest no deeper than there are unseen
shapes, as long as the search has not left behind any shape on the way. -/
theorem hintWithin_eq_hintFrom (hacyclic : model.Acyclic) {unseen : List String} {depth : Nat}
    (hunseen : ∀ inner, ReflTransGen model.Holds name inner → inner ∈ model.shapes.keys →
      inner ∈ unseen) (hdepth : unseen.length ≤ depth) :
    model.hintWithin depth name = some (model.hintFrom unseen name) := by
  induction depth using Nat.strongRecOn generalizing unseen name with
  | ind depth ih =>
    cases hs : model.shapes.get? name with
    | none => rw [hintWithin_undefined hs, hintFrom_undefined unseen hs]
    | some shape =>
      by_cases hholds : ∃ inner, model.Holds name inner
      · -- the shape is still unseen, and nothing that it holds leads back to it
        have hmem := hunseen name .refl (Dict.mem_keys_iff.mpr ⟨shape, hs⟩)
        have hlength := List.length_erase_of_mem hmem
        have hpos := List.length_pos_of_mem hmem
        obtain ⟨depth, rfl⟩ := Nat.exists_eq_succ_of_ne_zero (by omega : depth ≠ 0)
        have hinner {inner : String} (hi : model.Holds name inner) :
            model.hintWithin depth inner = some (model.hintFrom (unseen.erase name) inner) := by
          refine ih depth (Nat.lt_succ_self depth) (fun deeper hr hd => ?_) (by omega)
          have hne : deeper ≠ name := by
            rintro rfl
            exact hacyclic deeper (.head' hi hr)
          exact (List.mem_erase_of_ne hne).mpr (hunseen deeper (hr.head hi) hd)
        rw [hintFrom, shape_eq_ok hs, ok_bind]
        cases shape with
        | list member =>
          rw [hintWithin_list hs, hinner (.member hs)]
          dsimp only
          rw [dif_pos hmem]
          rfl
        | map key value =>
          rw [hintWithin_map hs, hinner (.key hs), hinner (.value hs)]
          dsimp only [Option.bind_some]
          rw [dif_pos hmem]
          cases model.hintFrom (unseen.erase name) key.shape <;> rfl
        | _ => exact absurd hholds.choose_spec (not_holds_of_leaf hs (by simp) (by simp) _)
      · obtain ⟨hint, hleaf⟩ := leafHint?_of_not_holds hs (not_exists.mp hholds)
        rw [hintWithin_leaf hs hleaf, hintFrom_leaf unseen hs hleaf]

/-- No more calls nest than there are shapes. -/
theorem hintWithin_eq_hint (hacyclic : model.Acyclic) (name : String) {depth : Nat}
    (hdepth : model.shapes.size ≤ depth) :
    model.hintWithin depth name = some (model.hint name) :=
  hintWithin_eq_hintFrom hacyclic (fun _ _ hd => hd)
    (Nat.le_trans (Nat.le_of_eq (List.length_map _)) hdepth)

/-! ### What is met on the way -/

/-- The names that are met on the way down from a shape: its own, then those from its elements on,
or those from its keys on and then those from its values on. -/
inductive Meets (model : ServiceModel) : String → List String → Prop
  | last {name : String} : (∀ inner, ¬model.Holds name inner) → Meets model name [name]
  | list {name : String} {member : ShapeRef} {names : List String} :
    model.shapes.get? name = some (.list member) → Meets model member.shape names →
    Meets model name (name :: names)
  | map {name : String} {key value : ShapeRef} {keyNames valueNames : List String} :
    model.shapes.get? name = some (.map key value) → Meets model key.shape keyNames →
    Meets model value.shape valueNames → Meets model name (name :: (keyNames ++ valueNames))

/-- Exactly the shapes that can be reached are met. -/
theorem Meets.mem_iff {names : List String} (h : model.Meets name names) {inner : String} :
    inner ∈ names ↔ ReflTransGen model.Holds name inner := by
  induction h with
  | last hholds =>
    rw [ReflTransGen.cases_head_iff, List.mem_singleton, eq_comm]
    simp [hholds]
  | list hs _ ih =>
    rw [ReflTransGen.cases_head_iff, List.mem_cons, ih, eq_comm]
    simp [holds_list_iff hs]
  | map hs _ _ ihKey ihValue =>
    rw [ReflTransGen.cases_head_iff, List.mem_cons, List.mem_append, ihKey, ihValue, eq_comm]
    simp [holds_map_iff hs, or_and_right, exists_or]

/-- Where no shape holds itself, the way down comes to an end. -/
theorem exists_meets (hacyclic : model.Acyclic) (name : String) :
    ∃ names, model.Meets name names := by
  induction name using hacyclic.wellFounded.induction with
  | _ name ih =>
    by_cases hholds : ∀ inner, ¬model.Holds name inner
    · exact ⟨_, .last hholds⟩
    · obtain ⟨inner, hi⟩ := not_forall_not.mp hholds
      cases hi with
      | @member member hs =>
        obtain ⟨names, hn⟩ := ih member.shape (.member hs)
        exact ⟨_, .list hs hn⟩
      | @key key value hs | @value key value hs =>
        obtain ⟨keyNames, hk⟩ := ih key.shape (.key hs)
        obtain ⟨valueNames, hv⟩ := ih value.shape (.value hs)
        exact ⟨_, .map hs hk hv⟩

/-- What the calls come to shows in the names that are met: they fail at the first that has no
shape. -/
def Answers (model : ServiceModel) (names : List String) (result : Except Error TypeHint) : Prop :=
  match names.find? (· ∉ model.shapes.keys) with
  | some missing => result = .error (model.undefinedShape missing)
  | none => ∃ hint, result = .ok hint

theorem answers_cons_of_mem {names : List String} (h : name ∈ model.shapes.keys)
    (result : Except Error TypeHint) :
    model.Answers (name :: names) result ↔ model.Answers names result := by
  rw [Answers, Answers, List.find?_cons_of_neg (by simpa using h)]

theorem Answers.map {names : List String} {result : Except Error TypeHint}
    (h : model.Answers names result) (f : TypeHint → TypeHint) :
    model.Answers names (result.map f) := by
  unfold Answers at h ⊢
  split at h
  · rw [h]
    rfl
  · obtain ⟨hint, rfl⟩ := h
    exact ⟨f hint, rfl⟩

/-- A failure on the way down is not made up for by what would be met later. -/
theorem Answers.append_of_error {names : List String} {error : Error}
    (h : model.Answers names (.error error)) (others : List String) :
    model.Answers (names ++ others) (.error error) := by
  unfold Answers at h ⊢
  rw [List.find?_append]
  split at h
  next missing found => rwa [found, Option.some_or]
  next => simp at h

theorem Answers.append_of_ok {names others : List String} {hint : TypeHint}
    {result : Except Error TypeHint} (h : model.Answers names (.ok hint))
    (hothers : model.Answers others result) : model.Answers (names ++ others) result := by
  unfold Answers at h ⊢
  rw [List.find?_append]
  split at h
  next => simp at h
  next found => rwa [found, Option.none_or]

/-- The calls fail at the first name on the way that has no shape, and else they find a hint. -/
theorem Meets.answers {names : List String} (h : model.Meets name names) {depth : Nat}
    {result : Except Error TypeHint} (hresult : model.hintWithin depth name = some result) :
    model.Answers names result := by
  induction h generalizing depth result with
  | @last name hholds =>
    cases hs : model.shapes.get? name with
    | none =>
      rw [hintWithin_undefined hs] at hresult
      have hmissing := Dict.get?_eq_none_iff.mp hs
      rw [Answers, List.find?_cons_of_pos (by simpa using hmissing)]
      exact (Option.some.inj hresult).symm
    | some shape =>
      obtain ⟨hint, hleaf⟩ := leafHint?_of_not_holds hs hholds
      rw [hintWithin_leaf hs hleaf] at hresult
      rw [answers_cons_of_mem (Dict.mem_keys_iff.mpr ⟨shape, hs⟩)]
      exact ⟨hint, (Option.some.inj hresult).symm⟩
  | @list name member names hs _ ih =>
    rw [answers_cons_of_mem (Dict.mem_keys_iff.mpr ⟨_, hs⟩)]
    obtain ⟨depth, rfl⟩ := exists_depth_of_holds (.member hs) hresult
    rw [hintWithin_list hs, Option.map_eq_some_iff] at hresult
    obtain ⟨item, hitem, rfl⟩ := hresult
    exact (ih hitem).map TypeHint.list
  | @map name key value keyNames valueNames hs _ _ ihKey ihValue =>
    rw [answers_cons_of_mem (Dict.mem_keys_iff.mpr ⟨_, hs⟩)]
    obtain ⟨depth, rfl⟩ := exists_depth_of_holds (.key hs) hresult
    rw [hintWithin_map hs, Option.bind_eq_some_iff] at hresult
    obtain ⟨keyResult, hkey, hresult⟩ := hresult
    cases keyResult with
    | error error =>
      obtain rfl := Option.some.inj hresult
      exact (ihKey hkey).append_of_error valueNames
    | ok keyHint =>
      obtain ⟨valueResult, hvalue, rfl⟩ := Option.map_eq_some_iff.mp hresult
      exact (ihKey hkey).append_of_ok ((ihValue hvalue).map (TypeHint.dict keyHint))

/-- No hint of a shape is that of a method that returns nothing. -/
theorem Hints.ne_nothing {hint : TypeHint} (h : model.Hints name hint) : hint ≠ .nothing := by
  cases h with
  | list | map => simp
  | @leaf _ shape _ _ hleaf =>
    rintro rfl
    cases shape with
    | string values => rcases values with _ | _ | _ <;> simp [leafHint?] at hleaf
    | _ => simp [leafHint?] at hleaf

/-- Where no shape holds itself, the hint of a shape is found by calls that nest no deeper than
there are shapes. There is one exactly if every shape that can be reached is defined; the failure
else names the first that is not, depth first and the keys of a map before its values. The hint has
a list for each list, a dictionary for each map and the hint of its own for any other shape. -/
theorem hint_of_acyclic (hacyclic : model.Acyclic) (name : String) :
    (∀ depth, model.shapes.size ≤ depth →
      model.hintWithin depth name = some (model.hint name)) ∧
    ((∃ hint, model.hint name = .ok hint) ↔
      ∀ inner, ReflTransGen model.Holds name inner → inner ∈ model.shapes.keys) ∧
    (∃ names, model.Meets name names ∧
      (∀ inner, inner ∈ names ↔ ReflTransGen model.Holds name inner) ∧
      ∀ error, model.hint name = .error error ↔
        ∃ missing, names.find? (· ∉ model.shapes.keys) = some missing ∧
          error = .introspection
            s!"Shape {missing} is not defined in {model.serviceName} service model") ∧
    ∀ hint, model.hint name = .ok hint → model.Hints name hint ∧ hint ≠ .nothing := by
  have hdepth := hintWithin_eq_hint hacyclic name (Nat.le_refl _)
  obtain ⟨names, hmeets⟩ := exists_meets hacyclic name
  have hanswers := hmeets.answers hdepth
  have hdecides := hint_decides hacyclic name
  refine ⟨fun _ => hintWithin_eq_hint hacyclic name, hdecides.self.iff hdecides,
    ⟨names, hmeets, fun _ => hmeets.mem_iff, fun error => ?_⟩, fun hint h => ?_⟩
  · unfold Answers at hanswers
    split at hanswers
    next missing found =>
      rw [hanswers, found]
      simp [undefinedShape, eq_comm]
    next found =>
      obtain ⟨hint, hhint⟩ := hanswers
      rw [hhint, found]
      simp
  · have hhints := hints_of_hintFrom h
    exact ⟨hhints, hhints.ne_nothing⟩

/-- A model with a table that is shared by a list and a map, a record in it that holds the table in
turn, and a shape that nothing defines. -/
def voyageModel : ServiceModel where
  serviceName := "voyages"
  metadata := .empty
  operations := .empty
  shapes := ⟨[("Voyages", .list ⟨"Legs", none⟩), ("Legs", .map ⟨"Port", none⟩ ⟨"Stays", none⟩),
    ("Port", .string none), ("Stays", .list ⟨"Stay", none⟩),
    ("Stay", .record ⟨[("Next", ⟨"Voyages", none⟩)], by decide⟩ ["Next"]),
    ("Cargo", .map ⟨"Legs", none⟩ ⟨"Crate", none⟩)], by decide⟩
  documentation := none

/-- The shapes of the model by how far down the shapes that they hold go. -/
def voyageHeight (name : String) : Nat :=
  (["Stays", "Legs", "Voyages", "Cargo"].findIdx? (· == name)).elim 0 (· + 1)

theorem voyageHeight_lt {outer inner : String} (h : voyageModel.Holds outer inner) :
    voyageHeight inner < voyageHeight outer := by
  cases h with
  | member hs | key hs | value hs =>
    rw [Dict.get?_eq_some_iff] at hs
    simp only [voyageModel, List.mem_cons, List.not_mem_nil, Prod.mk.injEq, reduceCtorEq, and_false,
      or_false, false_or, Shape.list.injEq, Shape.map.injEq] at hs
    obtain ⟨rfl, hs⟩ | ⟨rfl, hs⟩ := hs <;> simp only [hs] <;> decide

theorem acyclic_voyages : voyageModel.Acyclic := by
  have below {outer inner : String} (h : TransGen voyageModel.Holds outer inner) :
      voyageHeight inner < voyageHeight outer := by
    induction h with
    | single hi => exact voyageHeight_lt hi
    | tail _ hi ih => exact (voyageHeight_lt hi).trans ih
  exact fun name h => Nat.lt_irrefl _ (below h)

theorem hint_of_acyclic_voyages :
    voyageModel.Acyclic ∧
    (∀ depth, 6 ≤ depth → voyageModel.hintWithin depth "Voyages" =
      some (.ok (.list (.dict .str (.list (.typeDef "StayTypeDef")))))) ∧
    voyageModel.Hints "Voyages" (.list (.dict .str (.list (.typeDef "StayTypeDef")))) ∧
    ¬(∀ inner, ReflTransGen voyageModel.Holds "Cargo" inner → inner ∈ voyageModel.shapes.keys) ∧
    ∃ names missing, voyageModel.Meets "Cargo" names ∧
      names.find? (· ∉ voyageModel.shapes.keys) = some missing ∧
      Error.introspection "Shape Crate is not defined in voyages service model" =
        .introspection
          s!"Shape {missing} is not defined in {voyageModel.serviceName} service model" := by
  have voyages : voyageModel.hint "Voyages" =
      .ok (.list (.dict .str (.list (.typeDef "StayTypeDef")))) := by decide +kernel
  have cargo : voyageModel.hint "Cargo" =
      .error (.introspection
        "Shape Crate is not defined in voyages service model") := by decide +kernel
  obtain ⟨nested, -, -, found⟩ := hint_of_acyclic acyclic_voyages "Voyages"
  obtain ⟨-, defined, ⟨names, meets, -, faults⟩, -⟩ := hint_of_acyclic acyclic_voyages "Cargo"
  obtain ⟨missing, first, message⟩ := (faults _).mp cargo
  refine ⟨acyclic_voyages, voyages ▸ nested, (found _ voyages).1, fun all => ?_, names, missing,
    meets, first, message⟩
  obtain ⟨hint, ok⟩ := defined.mpr all
  rw [cargo] at ok
  cases ok

end ResourceStubs.ServiceModel
