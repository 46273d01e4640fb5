import ResourceStubs.Config
import ResourceStubs.Proofs.Dict

/-! What a catalog knows. A service stands in it under its own name, and adding a service makes that
name known and no other. -/

namespace ResourceStubs.Catalog

variable {catalog : Catalog}

/-- Every service stands under its own name. -/
def Keyed (catalog : Catalog) : Prop :=
  ∀ name service, catalog.services.get? name = some service → service.name = name

theorem keyed_empty : empty.Keyed := by
  intro name service h
  rw [empty, Dict.get?_empty] at h
  cases h

/-- What a service that is added is found as. -/
theorem get?_add (catalog : Catalog) (name className other : String) :
    (catalog.add name className).services.get? other =
      if other = name then
        some (match catalog.services.get? name with
          | some known => { known with className }
          | none => ServiceName.ofNames name className)
      else catalog.services.get? other := Dict.get?_insert _ _ _ _

theorem Keyed.add (h : catalog.Keyed) (name className : String) :
    (catalog.add name className).Keyed := by
  intro other service hs
  rw [get?_add] at hs
  split at hs
  next heq =>
    subst heq
    cases hknown : catalog.services.get? other with
    | none =>
      rw [hknown] at hs
      obtain rfl := Option.some.inj hs
      rfl
    | some known =>
      rw [hknown] at hs
      obtain rfl := Option.some.inj hs
      exact h other known hknown
  next => exact h _ _ hs

theorem Keyed.addAll (h : catalog.Keyed) (entries : List (String × String)) :
    (catalog.addAll entries).Keyed := by
  induction entries generalizing catalog with
  | nil => exact h
  | cons entry entries ih => exact ih (h.add entry.1 entry.2)

theorem contains_add (catalog : Catalog) (name className other : String) :
    (catalog.add name className).contains other = true ↔
      other = name ∨ catalog.contains other = true := by
  simp only [contains, Dict.contains, get?_add]
  split <;> simp_all

theorem contains_addAll (catalog : Catalog) (entries : List (String × String)) (name : String) :
    (catalog.addAll entries).contains name = true ↔
      name ∈ entries.map Prod.fst ∨ catalog.contains name = true := by
  induction entries generalizing catalog with
  | nil => simp [addAll]
  | cons entry entries ih =>
    change (addAll (catalog.add entry.1 entry.2) entries).contains name = true ↔ _
    rw [ih, contains_add, List.map_cons, List.mem_cons, or_left_comm, or_assoc]

/-- A known service is found under its name, and another is not. -/
theorem Keyed.find (h : catalog.Keyed) (name : String) :
    (∃ service, service.name = name ∧ catalog.contains name = true ∧
        catalog.find name = .ok service) ∨
      (catalog.contains name = false ∧ catalog.find name = .error (.serviceNotFound name)) := by
  simp only [Catalog.find, contains, Dict.contains]
  cases hs : catalog.services.get? name with
  | none => exact .inr ⟨rfl, rfl⟩
  | some service => exact .inl ⟨service, h _ _ hs, rfl, rfl⟩

theorem keyed_defaults : defaults.Keyed := keyed_empty.addAll _

/-- The services of a configured catalog are the default and the configured ones. -/
theorem contains_applyTo (config : Config) (name : String) :
    (config.applyTo defaults).contains name = true ↔
      (∃ entry ∈ config.services, entry.name = name) ∨ name ∈ defaultEntries.map Prod.fst := by
  rw [Config.applyTo, contains_addAll, defaults, contains_addAll]
  have hnone : empty.contains name = false := rfl
  simp [hnone]

theorem keyed_applyTo (config : Config) : (config.applyTo defaults).Keyed := keyed_defaults.addAll _

end ResourceStubs.Catalog
