import ResourceStubs.Command.Survey
import ResourceStubs.Proofs.Service.Catalog

/-! How the catalog of a run is filled. A service of the data directory that the catalog does not
know yet is added under a class name from its model. If its model cannot be loaded, there is no
catalog. -/

namespace ResourceStubs.Command.Survey

/-- The catalog does not know the service, and its model cannot be loaded. -/
def Unreadable (session : Session) (catalog : Catalog) (name : String) (e : Error) : Prop :=
  catalog.contains name = false ∧ session.serviceModel name = .error e

/-- The catalog knows the service or can learn its class name from its model. -/
def Readable (session : Session) (catalog : Catalog) (name : String) : Prop :=
  catalog.contains name = true ∨ ∃ model, session.serviceModel name = .ok model

theorem Unreadable.not_readable {session : Session} {catalog : Catalog} {name : String} {e : Error}
    (h : Unreadable session catalog name e) : ¬Readable session catalog name := by
  rintro (hc | ⟨model, hm⟩)
  · cases h.1.symm.trans hc
  · cases h.2.symm.trans hm

/-- What the catalogs know has grown by some names. -/
structure Grown (catalog : Catalog) (names : List String) (catalog' : Catalog) : Prop where
  keyed : catalog.Keyed → catalog'.Keyed
  contains : ∀ name, catalog'.contains name = true ↔ catalog.contains name = true ∨ name ∈ names

variable {session session' : Session} {catalog : Catalog}

theorem Grown.trans {catalog' catalog'' : Catalog} {names names' : List String}
    (h : Grown catalog names catalog') (h' : Grown catalog' names' catalog'') :
    Grown catalog (names ++ names') catalog'' where
  keyed hkeyed := h'.keyed (h.keyed hkeyed)
  contains name := by rw [h'.contains, h.contains, List.mem_append, or_assoc]

/-- One step: the catalog knows the service afterwards, or its model cannot be loaded. -/
theorem register_cases (session : Session) (catalog : Catalog) (name : String) :
    (Readable session catalog name ∧
      ∃ catalog', register session catalog name = .ok catalog' ∧ Grown catalog [name] catalog') ∨
    ∃ e, Unreadable session catalog name e ∧
      register session catalog name = .error (.model name e) := by
  rw [register]
  cases hc : catalog.contains name with
  | true =>
    refine .inl ⟨.inl hc, catalog, rfl, id, fun other => ?_⟩
    rw [List.mem_singleton]
    exact ⟨.inl, fun h => h.elim id fun heq => heq ▸ hc⟩
  | false =>
    cases hm : session.serviceModel name with
    | error e => exact .inr ⟨e, ⟨hc, hm⟩, by simp⟩
    | ok model =>
      refine .inl ⟨.inr ⟨model, hm⟩, catalog.add name (classNameOf name model), by simp,
        fun hkeyed => hkeyed.add _ _, fun other => ?_⟩
      rw [Catalog.contains_add, List.mem_singleton, or_comm]

/-- What can be learned after a step could be learned before it. -/
theorem Readable.of_grown {catalog' : Catalog} {first name : String}
    (hfirst : Readable session catalog first) (h : Grown catalog [first] catalog')
    (hname : Readable session catalog' name) : Readable session catalog name := by
  rcases hname with hc | hm
  · rcases (h.contains name).mp hc with hc | heq
    · exact .inl hc
    · rwa [List.mem_singleton.mp heq]
  · exact .inr hm

theorem Unreadable.of_grown {catalog' : Catalog} {names : List String} {name : String} {e : Error}
    (h : Grown catalog names catalog') (hname : Unreadable session catalog' name e) :
    Unreadable session catalog name e := by
  refine ⟨?_, hname.2⟩
  cases hc : catalog.contains name with
  | false => rfl
  | true =>
    have hknown := (h.contains name).mpr (.inl hc)
    rw [hname.1] at hknown
    cases hknown

/-- All services are added, or the model of one of them cannot be loaded. -/
theorem foldlM_register (session : Session) (catalog : Catalog) (names : List String) :
    ((∀ name ∈ names, Readable session catalog name) ∧
      ∃ catalog', names.foldlM (register session) catalog = .ok catalog' ∧
        Grown catalog names catalog') ∨
    ∃ name ∈ names, ∃ e, Unreadable session catalog name e ∧
      names.foldlM (register session) catalog = .error (.model name e) := by
  induction names generalizing catalog with
  | nil => exact .inl ⟨by simp, catalog, rfl, id, by simp⟩
  | cons first names ih =>
    rw [List.foldlM_cons]
    rcases register_cases session catalog first with ⟨hfirst, next, heq, hgrown⟩ | ⟨e, he, heq⟩
    · rw [heq]
      rcases ih next with ⟨hall, catalog', h, hgrown'⟩ | ⟨name, hmem, e, he, h⟩
      · have hrest (name : String) (hm : name ∈ names) := hfirst.of_grown hgrown (hall name hm)
        exact .inl ⟨List.forall_mem_cons.mpr ⟨hfirst, hrest⟩, catalog', h, hgrown.trans hgrown'⟩
      · exact .inr ⟨name, List.mem_cons_of_mem _ hmem, e, he.of_grown hgrown, h⟩
    · rw [heq]
      exact .inr ⟨first, List.mem_cons_self, e, he, rfl⟩

/-- A service that the catalog knows before may be left out, whatever its model is. -/
theorem foldlM_register_filter {bad : String} {names : List String}
    (hbad : catalog.contains bad = true)
    (hsame : ∀ name ∈ names, name ≠ bad → session'.serviceModel name = session.serviceModel name) :
    (names.filter (· ≠ bad)).foldlM (register session') catalog =
      names.foldlM (register session) catalog := by
  induction names generalizing catalog with
  | nil => rfl
  | cons first names ih =>
    obtain ⟨hfirst, hrest⟩ := List.forall_mem_cons.mp hsame
    rw [List.foldlM_cons]
    by_cases hb : first = bad
    · subst hb
      have heq : register session catalog first = .ok catalog := by rw [register, if_pos hbad]
      rw [List.filter_cons_of_neg (by simp), heq]
      exact ih hbad hrest
    · have hregister : register session' catalog first = register session catalog first := by
        rw [register, register, hfirst hb]
      rw [List.filter_cons_of_pos (by simpa using hb), List.foldlM_cons, hregister]
      rcases register_cases session catalog first with ⟨-, next, heq, hgrown⟩ | ⟨e, -, heq⟩
      · rw [heq]
        exact ih ((hgrown.contains bad).mpr (.inl hbad)) hrest
      · rw [heq]
        rfl

end ResourceStubs.Command.Survey
