import ResourceStubs.Command.Outcome
import ResourceStubs.Proofs.Fallible

/-! Services handled one after the other. A service is handled, with the outcome that fits what came
of its documents, or it stops the run, and then there are three reasons for that. A run over several
services handles all of them, or those before the first that stops it. -/

namespace ResourceStubs.Command

open Fallible

/-! ### Outcomes -/

/-- The outcome that fits what came of the documents of a service: its stub classes, that it has no
resources, or an error that does not stop the run. -/
inductive Outcome.Fits : Except Error (Option ServiceResource) → Outcome → Prop
  | parsed (root : ServiceResource) : Fits (.ok (some root)) (.parsed root)
  | withoutResources : Fits (.ok none) .withoutResources
  | skipped {e : Error} : e.isMild = true → Fits (.error e) (.skipped e)

theorem Outcome.ofResult_eq_ok_iff {x : Except Error (Option ServiceResource)} {outcome : Outcome} :
    ofResult x = .ok outcome ↔ Fits x outcome := by
  constructor
  · intro h
    rcases x with e | _ | root
    · simp only [ofResult] at h
      split at h
      next hmild =>
        obtain rfl := Except.ok.inj h
        exact .skipped hmild
      next => cases h
    · obtain rfl := Except.ok.inj h
      exact .withoutResources
    · obtain rfl := Except.ok.inj h
      exact .parsed root
  · rintro (root | _ | hmild)
    · rfl
    · rfl
    · simp [ofResult, hmild]

theorem Outcome.ofResult_eq_error_iff {x : Except Error (Option ServiceResource)} {e : Error} :
    ofResult x = .error e ↔ x = .error e ∧ e.isMild = false := by
  rcases x with e' | _ | root
  · by_cases hmild : e'.isMild = true
    · simp only [ofResult, if_pos hmild, Except.error.injEq, reduceCtorEq, false_iff, not_and]
      rintro rfl
      exact Bool.not_eq_false _ ▸ hmild
    · simp only [ofResult, if_neg hmild, Except.error.injEq]
      exact ⟨fun h => ⟨h, h ▸ Bool.eq_false_iff.mpr hmild⟩, And.left⟩
  · simp [ofResult]
  · simp [ofResult]

/-! ### One service -/

namespace Workshop

variable (workshop : Workshop)

/-- What comes of the documents of a service in the workshop. -/
def result (service : ServiceName) : Except Error (Option ServiceResource) :=
  workshop.session.stubsFromShapes service workshop.limit

/-- The service of a name was handled: the catalog has it, and it has the outcome that fits. -/
def Handles (name : String) (handled : Handled) : Prop :=
  workshop.catalog.find name = .ok handled.service ∧
    Outcome.Fits (workshop.result handled.service) handled.outcome

variable {workshop}

theorem handle_of_find {name : String} {service : ServiceName}
    (h : workshop.catalog.find name = .ok service) :
    workshop.handle name =
      match Outcome.ofResult (workshop.result service) with
      | .ok outcome => .ok ⟨service, outcome⟩
      | .error e => .error (.ofError service.name e) := by
  rw [handle, h]
  rfl

theorem handle_eq_ok_iff {name : String} {handled : Handled} :
    workshop.handle name = .ok handled ↔ workshop.Handles name handled := by
  obtain ⟨service, outcome⟩ := handled
  rw [Handles, ← Outcome.ofResult_eq_ok_iff]
  cases hfind : workshop.catalog.find name with
  | error e => simp [handle, hfind]
  | ok found =>
    rw [handle_of_find hfind]
    constructor
    · intro h
      split at h
      next outcome' houtcome =>
        obtain ⟨rfl, rfl⟩ := Handled.mk.inj (Except.ok.inj h)
        exact ⟨rfl, houtcome⟩
      next => cases h
    · rintro ⟨hfound, houtcome⟩
      obtain rfl := Except.ok.inj hfound
      rw [houtcome]

/-- Why a service stops a run: the catalog does not have it, its error is one that does, or the run
dies at one of its shapes. -/
theorem handle_eq_error_iff {name : String} {stop : Stop} :
    workshop.handle name = .error stop ↔
      (∃ e, workshop.catalog.find name = .error e ∧ stop = .failed (.unknown e)) ∨
      (∃ service e, workshop.catalog.find name = .ok service ∧ workshop.result service = .error e ∧
        e.isFatal = true ∧ stop = .failed (.aborted service.name e)) ∨
      ∃ service shape, workshop.catalog.find name = .ok service ∧
        workshop.result service = .error (.introspection (.endless shape)) ∧
        stop = .died service.name := by
  cases hfind : workshop.catalog.find name with
  | error e =>
    have hhandle : workshop.handle name = .error (.failed (.unknown e)) := by rw [handle, hfind]
    rw [hhandle]
    constructor
    · intro h
      exact .inl ⟨e, rfl, (Except.error.inj h).symm⟩
    · rintro (⟨e', he, rfl⟩ | ⟨service, e', hfound, -⟩ | ⟨service, shape, hfound, -⟩)
      · rw [Except.error.inj he]
      · cases hfound
      · cases hfound
  | ok found =>
    rw [handle_of_find hfind]
    constructor
    · intro h
      split at h
      next => cases h
      next e he =>
        obtain ⟨he, hmild⟩ := Outcome.ofResult_eq_error_iff.mp he
        obtain rfl := Except.error.inj h
        rcases Error.isMild_eq_false_iff.mp hmild with hfatal | ⟨shape, rfl⟩
        · exact .inr (.inl ⟨found, e, rfl, he, hfatal, Stop.ofError_of_isFatal hfatal _⟩)
        · exact .inr (.inr ⟨found, shape, rfl, he, rfl⟩)
    · rintro (⟨e, he, -⟩ | ⟨service, e, hfound, he, hfatal, rfl⟩ |
        ⟨service, shape, hfound, he, rfl⟩)
      · cases he
      · obtain rfl := Except.ok.inj hfound
        have hmild := Error.isMild_eq_false_iff.mpr (.inl hfatal)
        rw [Outcome.ofResult_eq_error_iff.mpr ⟨he, hmild⟩]
        exact congrArg _ (Stop.ofError_of_isFatal hfatal _)
      · obtain rfl := Except.ok.inj hfound
        rw [Outcome.ofResult_eq_error_iff.mpr ⟨he, rfl⟩]
        rfl

/-! ### Several services -/

theorem handleAll_of_forall₂ {names : List String} {handled : List Handled}
    (h : List.Forall₂ workshop.Handles names handled) :
    workshop.handleAll names = (handled, none) := by
  induction h with
  | nil => rfl
  | cons hname _ ih => rw [handleAll, handle_eq_ok_iff.mpr hname, ih]

theorem handleAll_of_error {before after : List String} {name : String} {handled : List Handled}
    (h : List.Forall₂ workshop.Handles before handled) {stop : Stop}
    (hname : workshop.handle name = .error stop) :
    workshop.handleAll (before ++ name :: after) = (handled, some stop) := by
  induction h with
  | nil => rw [List.nil_append, handleAll, hname]
  | cons hfirst _ ih => rw [List.cons_append, handleAll, handle_eq_ok_iff.mpr hfirst, ih]

/-- Every service is handled, one after the other, or there is a first that stops the run. -/
theorem handleAll_cases (workshop : Workshop) (names : List String) :
    (∃ handled, List.Forall₂ workshop.Handles names handled) ∨
      ∃ before name after handled stop, names = before ++ name :: after ∧
        List.Forall₂ workshop.Handles before handled ∧ workshop.handle name = .error stop := by
  induction names with
  | nil => exact .inl ⟨[], .nil⟩
  | cons name names ih =>
    cases hname : workshop.handle name with
    | error stop => exact .inr ⟨[], name, names, [], stop, rfl, .nil, hname⟩
    | ok first =>
      have hfirst := handle_eq_ok_iff.mp hname
      rcases ih with ⟨handled, hall⟩ | ⟨before, other, after, handled, stop, rfl, hbefore, hother⟩
      · exact .inl ⟨first :: handled, .cons hfirst hall⟩
      · exact .inr ⟨name :: before, other, after, first :: handled, stop, rfl,
          .cons hfirst hbefore, hother⟩

/-- A run over services stops at the first service that stops it. -/
theorem handleAll_eq_some_iff {names : List String} {handled : List Handled} {stop : Stop} :
    workshop.handleAll names = (handled, some stop) ↔
      ∃ before name after, names = before ++ name :: after ∧
        List.Forall₂ workshop.Handles before handled ∧ workshop.handle name = .error stop := by
  constructor
  · intro hrun
    rcases workshop.handleAll_cases names with
      ⟨all, hall⟩ | ⟨before, name, after, done, other, rfl, hbefore, hname⟩
    · cases (handleAll_of_forall₂ hall).symm.trans hrun
    · rw [handleAll_of_error hbefore hname] at hrun
      obtain ⟨rfl, hstop⟩ := Prod.mk.inj hrun
      obtain rfl := Option.some.inj hstop
      exact ⟨before, name, after, rfl, hbefore, hname⟩
  · rintro ⟨before, name, after, rfl, hbefore, hname⟩
    exact handleAll_of_error hbefore hname

theorem handleAll_congr {workshop' : Workshop} {names : List String}
    (h : ∀ name ∈ names, workshop'.handle name = workshop.handle name) :
    workshop'.handleAll names = workshop.handleAll names := by
  induction names with
  | nil => rfl
  | cons name names ih =>
    obtain ⟨hname, hnames⟩ := List.forall_mem_cons.mp h
    rw [handleAll, handleAll, hname, ih hnames]

/-- What is handled is what comes of one of the services. -/
theorem exists_handles_of_mem {names : List String} {handled : Handled}
    (h : handled ∈ (workshop.handleAll names).1) :
    ∃ name ∈ names, workshop.Handles name handled := by
  rcases workshop.handleAll_cases names with
    ⟨all, hall⟩ | ⟨before, last, after, all, stop, rfl, hall, hlast⟩
  · rw [handleAll_of_forall₂ hall] at h
    exact exists_of_forall₂_of_mem hall.flip h
  · rw [handleAll_of_error hall hlast] at h
    obtain ⟨name, hmem, hname⟩ := exists_of_forall₂_of_mem hall.flip h
    exact ⟨name, List.mem_append_left _ hmem, hname⟩

end Workshop

end ResourceStubs.Command
