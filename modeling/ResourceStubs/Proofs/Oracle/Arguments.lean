import ResourceStubs.Oracle.Shapes
import ResourceStubs.Proofs.Model.Hint

/-! The arguments that a method gets from the input of the operation that it calls. A binding fills
in the member that its target names or lies in. Every other member of the input has exactly one
argument, with the hint of its shape: the required members first, in the order of their declaration,
and then the others, in this order too, which have a default. -/

namespace ResourceStubs

open Fallible

/-! ### Members that are filled in -/

theorem takeWhile_eq_iff {α : Type} {p : α → Bool} {xs front : List α} :
    xs.takeWhile p = front ↔
      (∀ x ∈ front, p x = true) ∧
        ∃ rest, xs = front ++ rest ∧ ∀ x, rest.head? = some x → p x = false := by
  constructor
  · rintro rfl
    refine ⟨List.all_eq_true.mp List.all_takeWhile, _, List.takeWhile_append_dropWhile.symm,
      fun x hx => ?_⟩
    have := List.head?_dropWhile_not p xs
    rwa [hx] at this
  · rintro ⟨own, rest, rfl, stop⟩
    rw [List.takeWhile_append_of_pos own]
    cases rest with
    | nil => simp
    | cons x rest => simp [stop x rfl]

namespace Binding

/-- The target of the binding is the member or something in it: the name of the member is what
stands before the first full stop or bracket. -/
def Fills (binding : Binding) (memberName : String) : Prop :=
  (∀ c ∈ memberName.toList, c ≠ '.' ∧ c ≠ '[') ∧
    ∃ rest, binding.target.toList = memberName.toList ++ rest ∧
      ∀ c, rest.head? = some c → c = '.' ∨ c = '['

theorem topLevelTarget_eq_iff {binding : Binding} {memberName : String} :
    binding.topLevelTarget = memberName ↔ binding.Fills memberName := by
  rw [topLevelTarget, ← String.toList_inj, String.toList_ofList, takeWhile_eq_iff]
  simp [Fills, or_iff_not_imp_left]

instance (binding : Binding) (memberName : String) : Decidable (binding.Fills memberName) :=
  decidable_of_iff _ topLevelTarget_eq_iff

end Binding

namespace ShapeSource

variable {source : ShapeSource} {params : List Binding} {allOptional : Bool}

/-- The members that no binding fills in, in the order of their declaration. -/
def unboundMembers (params : List Binding) (members : Dict ShapeRef) : List (String × ShapeRef) :=
  members.entries.filter fun member => ∀ binding ∈ params, ¬binding.Fills member.1

theorem not_isBound (memberName : String) :
    (!isBound params memberName) = decide (∀ binding ∈ params, ¬binding.Fills memberName) := by
  rw [Bool.eq_iff_iff]
  simp [isBound, Binding.topLevelTarget_eq_iff]

/-! ### Arguments of members -/

/-- The argument stands for the member: it has its name and the hint of its shape. -/
def StandsFor (model : ServiceModel) (fallback : Option String) (member : String × ShapeRef)
    (argument : Argument) : Prop :=
  ∃ hint, model.hint member.2.shape = .ok hint ∧ argument = ⟨member.1, some hint, fallback, ""⟩

theorem memberArgument_eq_ok {member : ServiceModel.Member} {given : Bool × Argument}
    (h : source.memberArgument allOptional member = .ok given) :
    given.1 = (member.required && !allOptional) ∧
      StandsFor source.model (if given.1 then none else some optionalDefault)
        (member.name, member.ref) given.2 := by
  obtain ⟨hint, hhint, h⟩ := bind_eq_ok.mp h
  dsimp only at h
  split at h
  next must =>
    obtain rfl := pure_eq_ok.mp h
    exact ⟨must.symm, hint, hhint, rfl⟩
  next may =>
    obtain rfl := pure_eq_ok.mp h
    exact ⟨by simpa using may, hint, hhint, rfl⟩

/-- The member must be given. -/
def MustBeGiven (required : List String) (allOptional : Bool) (member : String × ShapeRef) : Prop :=
  member.1 ∈ required ∧ allOptional = false

instance (required : List String) (allOptional : Bool) (member : String × ShapeRef) :
    Decidable (MustBeGiven required allOptional member) :=
  inferInstanceAs (Decidable (_ ∧ _))

/-- Each group of arguments stands beside the group of its members. -/
theorem forall₂_filter_given {required : List String} {members : List (String × ShapeRef)}
    {given : List (Bool × Argument)}
    (h : List.Forall₂ (fun member argument => source.memberArgument allOptional
      ⟨member.1, member.2, required.contains member.1⟩ = .ok argument) members given) :
    List.Forall₂ (StandsFor source.model none)
        (members.filter fun member => MustBeGiven required allOptional member)
        ((given.filter (·.1)).map Prod.snd) ∧
      List.Forall₂ (StandsFor source.model (some optionalDefault))
        (members.filter fun member => ¬MustBeGiven required allOptional member)
        ((given.filter (!·.1)).map Prod.snd) := by
  induction h with
  | nil => exact ⟨.nil, .nil⟩
  | @cons member argument members given hargument _ ih =>
    obtain ⟨hgiven, hstands⟩ := memberArgument_eq_ok hargument
    have hmust : MustBeGiven required allOptional member ↔ argument.1 = true := by
      rw [hgiven]
      simp [MustBeGiven]
    by_cases hm : argument.1 = true
    · rw [if_pos hm] at hstands
      simp only [List.filter_cons, hmust, hm]
      exact ⟨.cons hstands ih.1, ih.2⟩
    · rw [if_neg hm] at hstands
      simp only [List.filter_cons, hmust, hm]
      exact ⟨ih.1, .cons hstands ih.2⟩

/-- Arguments have the names of the members that they stand for. -/
theorem map_name_of_standsFor {model : ServiceModel} {fallback : Option String}
    {members : List (String × ShapeRef)} {arguments : List Argument}
    (h : List.Forall₂ (StandsFor model fallback) members arguments) :
    arguments.map (·.name) = members.map Prod.fst := by
  refine (map_eq_map_of_forall₂ (h.imp fun member argument hstands => ?_)).symm
  obtain ⟨hint, -, rfl⟩ := hstands
  rfl

theorem fallback_of_standsFor {model : ServiceModel} {fallback : Option String}
    {members : List (String × ShapeRef)} {arguments : List Argument}
    (h : List.Forall₂ (StandsFor model fallback) members arguments) {argument : Argument}
    (ha : argument ∈ arguments) : argument.fallback = fallback := by
  obtain ⟨member, -, hint, -, rfl⟩ := exists_of_forall₂_of_mem h.flip ha
  rfl

/-- What the arguments of a method that calls an operation with an input are made of. -/
theorem inputArguments_eq_ok {operationName : String} {operation : Operation} {input : ShapeRef}
    {members : Dict ShapeRef} {required : List String} {arguments : List Argument}
    (hoperation : source.model.operations.get? operationName = some operation)
    (hinput : operation.input = some input)
    (hshape : source.model.shapes.get? input.shape = some (.record members required))
    (h : source.inputArguments operationName params allOptional = .ok arguments) :
    ∃ given, arguments = Argument.self :: keywordArguments given ∧
      List.Forall₂ (fun member argument => source.memberArgument allOptional
        ⟨member.1, member.2, required.contains member.1⟩ = .ok argument)
        (unboundMembers params members) given := by
  have hcalled : source.model.operation operationName = .ok operation := by
    rw [ServiceModel.operation, hoperation]
  rw [inputArguments, hcalled, ok_bind, hinput] at h
  dsimp only at h
  rw [ServiceModel.members_eq_ok hshape, ok_bind] at h
  obtain ⟨given, hgiven, h⟩ := bind_eq_ok.mp h
  refine ⟨given, (pure_eq_ok.mp h).symm, ?_⟩
  rw [mapM_eq_ok, List.filter_map, List.forall₂_map_left_iff] at hgiven
  simp only [Function.comp_def, not_isBound] at hgiven
  exact hgiven

/-- The arguments account for the members that no binding fills in: each of them has exactly one
argument, `must` without a default if it must be given, and else `may` with one. -/
structure Accounts (model : ServiceModel) (params : List Binding) (allOptional : Bool)
    (members : Dict ShapeRef) (required : List String) (must may : List Argument) : Prop where
  given : List.Forall₂ (StandsFor model none)
    ((unboundMembers params members).filter fun member =>
      MustBeGiven required allOptional member) must
  defaulted : List.Forall₂ (StandsFor model (some "..."))
    ((unboundMembers params members).filter fun member =>
      ¬MustBeGiven required allOptional member) may
  names : ((must ++ may).map (·.name)).Perm ((unboundMembers params members).map Prod.fst)
  once : ((must ++ may).map (·.name)).Nodup
  ordered : (must ++ may).Pairwise fun first later =>
    first.fallback.isSome → later.fallback.isSome

theorem Accounts.of_forall₂ {model : ServiceModel} {members : Dict ShapeRef}
    {required : List String} {must may : List Argument}
    (hmust : List.Forall₂ (StandsFor model none)
      ((unboundMembers params members).filter fun member =>
        MustBeGiven required allOptional member) must)
    (hmay : List.Forall₂ (StandsFor model (some "..."))
      ((unboundMembers params members).filter fun member =>
        ¬MustBeGiven required allOptional member) may) :
    Accounts model params allOptional members required must may := by
  have hperm :
      ((must ++ may).map (·.name)).Perm ((unboundMembers params members).map Prod.fst) := by
    rw [List.map_append, map_name_of_standsFor hmust, map_name_of_standsFor hmay, ← List.map_append]
    simpa using (List.filter_append_perm _ (unboundMembers params members)).map Prod.fst
  have honce : ((unboundMembers params members).map Prod.fst).Nodup :=
    (List.filter_sublist.map Prod.fst).nodup members.nodup
  refine ⟨hmust, hmay, hperm, hperm.nodup_iff.mpr honce, List.pairwise_append.mpr ⟨?_, ?_, ?_⟩⟩
  · exact List.pairwise_of_forall_mem_list fun first hf _ _ hgiven => by
      rw [fallback_of_standsFor hmust hf] at hgiven
      cases hgiven
  · exact List.pairwise_of_forall_mem_list fun _ _ later hl _ => by
      rw [fallback_of_standsFor hmay hl]
      rfl
  · intro first _ later hl _
    rw [fallback_of_standsFor hmay hl]
    rfl

/-- The arguments of a method that calls an operation with an input are the object and, if any
member of the input is left by the bindings, the mark for keywords and the arguments for these
members. -/
theorem inputArguments_accounts {operationName : String} {operation : Operation} {input : ShapeRef}
    {members : Dict ShapeRef} {required : List String} {arguments : List Argument}
    (hoperation : source.model.operations.get? operationName = some operation)
    (hinput : operation.input = some input)
    (hshape : source.model.shapes.get? input.shape = some (.record members required))
    (h : source.inputArguments operationName params allOptional = .ok arguments) :
    ∃ must may, Accounts source.model params allOptional members required must may ∧
      arguments = Argument.self :: (if unboundMembers params members = [] then []
        else Argument.keywordMark :: (must ++ may)) := by
  obtain ⟨given, rfl, hgiven⟩ := inputArguments_eq_ok hoperation hinput hshape h
  obtain ⟨hmust, hmay⟩ := forall₂_filter_given hgiven
  have hnone : given.isEmpty ↔ unboundMembers params members = [] := by
    rw [List.isEmpty_iff, ← List.length_eq_zero_iff, ← List.length_eq_zero_iff, hgiven.length_eq]
  refine ⟨_, _, .of_forall₂ hmust hmay, ?_⟩
  simp only [keywordArguments, hnone]

/-- What a ferry is booked with. -/
def ferryMembers : Dict ShapeRef :=
  ⟨[("Meal", ⟨"Text", none⟩), ("Seats", ⟨"Seats", none⟩), ("Ferry", ⟨"Text", none⟩),
    ("Deck", ⟨"Text", none⟩), ("Guest", ⟨"Text", none⟩)], by decide⟩

/-- A service with one operation. -/
def ferrySource : ShapeSource where
  serviceName := "ferries"
  model :=
    { serviceName := "ferries"
      metadata := .empty
      operations :=
        ⟨[("BookFerry", ⟨none, some ⟨"BookFerryRequest", none⟩, none, none⟩)], by decide⟩
      shapes := ⟨[("Text", .string none), ("Seats", .integer),
        ("BookFerryRequest", .record ferryMembers ["Guest", "Ferry", "Seats"])], by decide⟩
      documentation := none }
  document := .empty
  waiters := none

/-- A ferry fills in itself and a part of the deck. -/
def ferryParams : List Binding :=
  [⟨"Ferry", "identifier", some "Name", none, none⟩, ⟨"Deck[0].Side", "string", none, none, none⟩]

theorem inputArguments_accounts_ferry :
    ∃ must may,
      Accounts ferrySource.model ferryParams false ferryMembers
        ["Guest", "Ferry", "Seats"] must may ∧
      [Argument.self, .keywordMark, .typed "Seats" .int, .typed "Guest" .str,
          (Argument.typed "Meal" .str).withFallback "..."] =
        Argument.self :: (if unboundMembers ferryParams ferryMembers = [] then []
          else Argument.keywordMark :: (must ++ may)) := by
  have made : ferrySource.inputArguments "BookFerry" ferryParams false =
      .ok [Argument.self, .keywordMark, .typed "Seats" .int, .typed "Guest" .str,
        (Argument.typed "Meal" .str).withFallback "..."] := by decide +kernel
  exact inputArguments_accounts rfl rfl rfl made

end ShapeSource

end ResourceStubs
