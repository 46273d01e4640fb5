import ResourceStubs.Proofs.Command.Survey
import ResourceStubs.Proofs.Fallible
import ResourceStubs.Proofs.Service.History
import ResourceStubs.Session.Memory

/-! The catalog of a run as a history. It starts with the default services, the configuration
changes and adds some, and the services of the data directory come last. These are only added under
names that are not there yet, so that they never change what is known already. -/

namespace ResourceStubs.Command.Survey

variable {session : Session} {config : Config} {catalog : Catalog}
  {history : List (String × String)}

/-- The class name of a service in the catalog of a run: that of its last entry in the
configuration, or else that of the defaults, or else, for a service of the data directory, the one
from its model. -/
def className? (session : Session) (config : Config) (discovered : List String) (name : String) :
    Option String :=
  (Catalog.lastClassName? config.entries name).or <|
    (Catalog.lastClassName? Catalog.defaultEntries name).or <|
      if name ∈ discovered then (session.serviceModel name).toOption.map (classNameOf name)
      else none

/-- The service is not in the history, and has a class name from its model. -/
structure Derived (session : Session) (history : List (String × String)) (names : List String)
    (entry : String × String) : Prop where
  discovered : entry.1 ∈ names
  unknown : entry.1 ∉ history.map Prod.fst
  className : ∃ model, session.serviceModel entry.1 = .ok model ∧
    entry.2 = classNameOf entry.1 model

/-- One step: a service is added if nothing is known of it. -/
theorem exists_holds_of_register (h : catalog.Holds history) {name : String} {next : Catalog}
    (hstep : register session catalog name = .ok next) :
    ∃ added, next.Holds (history ++ added) ∧
      (∀ entry ∈ added, Derived session history [name] entry) ∧
      name ∈ (history ++ added).map Prod.fst := by
  have hknown := (h.recalls.contains name).trans (h.recalls.found name)
  rw [register] at hstep
  split at hstep
  next hcontains =>
    obtain rfl := Except.ok.inj hstep
    exact ⟨[], by rwa [List.append_nil], by simp, by simpa using hknown.mp hcontains⟩
  next hcontains =>
    split at hstep
    next model hmodel =>
      obtain rfl := Except.ok.inj hstep
      refine ⟨[(name, classNameOf name model)], h.add _ _, ?_, by simp⟩
      rw [List.forall_mem_singleton]
      exact ⟨List.mem_cons_self, mt hknown.mpr hcontains, model, hmodel, rfl⟩
    next => cases hstep

/-- A run over the services adds those that nothing is known of, and in the end all are known. -/
theorem exists_holds_of_foldlM (h : catalog.Holds history) {names : List String} {last : Catalog}
    (hrun : names.foldlM (register session) catalog = .ok last) :
    ∃ added, last.Holds (history ++ added) ∧
      (∀ entry ∈ added, Derived session history names entry) ∧
      ∀ name ∈ names, name ∈ (history ++ added).map Prod.fst := by
  induction names generalizing catalog history with
  | nil =>
    obtain rfl := Except.ok.inj hrun
    exact ⟨[], by rwa [List.append_nil], by simp, by simp⟩
  | cons name names ih =>
    rw [List.foldlM_cons] at hrun
    obtain ⟨next, hstep, hrun⟩ := Fallible.bind_eq_ok.mp hrun
    obtain ⟨first, hnext, hfirst, hname⟩ := exists_holds_of_register h hstep
    obtain ⟨others, hlast, hothers, hnames⟩ := ih hnext hrun
    rw [List.append_assoc] at hlast hnames
    refine ⟨first ++ others, hlast, fun entry hentry => ?_, List.forall_mem_cons.mpr ⟨?_, hnames⟩⟩
    · rcases List.mem_append.mp hentry with hmem | hmem
      · have hderived := hfirst entry hmem
        exact ⟨by simp [List.mem_singleton.mp hderived.discovered], hderived.unknown,
          hderived.className⟩
      · have hderived := hothers entry hmem
        exact ⟨List.mem_cons_of_mem _ hderived.discovered,
          fun hin => hderived.unknown (by simp [hin]), hderived.className⟩
    · rw [← List.append_assoc, List.map_append]
      exact List.mem_append_left _ hname

/-- What services are added with is only asked for where nothing was known of them. -/
theorem lastClassName?_of_derived {added : List (String × String)} {names : List String}
    (hadded : ∀ entry ∈ added, Derived session history names entry)
    (hnames : ∀ name ∈ names, name ∈ (history ++ added).map Prod.fst) (name : String) :
    Catalog.lastClassName? (history ++ added) name = (Catalog.lastClassName? history name).or
      (if name ∈ names then (session.serviceModel name).toOption.map (classNameOf name)
        else none) := by
  rw [Catalog.lastClassName?_append]
  cases hlast : Catalog.lastClassName? added name with
  | some className =>
    have hentry := hadded _ (List.mem_reverse.mp (Dict.mem_of_lookup hlast))
    obtain ⟨model, hmodel, hname⟩ := hentry.className
    rw [Catalog.lastClassName?_eq_none_iff.mpr hentry.unknown, if_pos hentry.discovered, hmodel]
    exact congrArg some hname
  | none =>
    cases hearlier : Catalog.lastClassName? history name with
    | some className => rfl
    | none =>
      have hunknown : name ∉ (history ++ added).map Prod.fst := by
        rw [List.map_append, List.mem_append, not_or]
        exact ⟨Catalog.lastClassName?_eq_none_iff.mp hearlier,
          Catalog.lastClassName?_eq_none_iff.mp hlast⟩
      rw [if_neg (mt (hnames name) hunknown), Option.or_none]

/-- The history of the catalog of a run. -/
theorem exists_recalls_of_catalogOf {discovered : List String}
    (h : catalogOf session config discovered = .ok catalog) :
    ∃ added, catalog.Recalls (Catalog.defaultEntries ++ config.entries ++ added) ∧
      (∀ entry ∈ added,
        Derived session (Catalog.defaultEntries ++ config.entries) discovered entry) ∧
      ∀ name, Catalog.lastClassName? (Catalog.defaultEntries ++ config.entries ++ added) name =
        className? session config discovered name := by
  obtain ⟨added, hholds, hadded, hnames⟩ :=
    exists_holds_of_foldlM (Catalog.holds_defaults.addAll config.entries) h
  refine ⟨added, hholds.recalls, hadded, fun name => ?_⟩
  rw [lastClassName?_of_derived hadded hnames, Catalog.lastClassName?_append, Option.or_assoc]
  rfl

/-- A catalog recalls its history, whatever steps it is filled in, from nothing or from the default
services. The catalog of a run is there exactly if every service of the data directory is known or
has a model. It has each service under the class name of its last entry in the configuration, or
else of the defaults, or else from its model, and what comes from models is nothing that was known
before. -/
theorem catalog_recalls :
    (∀ steps : List Catalog.Step,
      (steps.foldl Catalog.Step.run .empty).Recalls (steps.flatMap Catalog.Step.entries)) ∧
    (∀ steps : List Catalog.Step, (steps.foldl Catalog.Step.run .defaults).Recalls
      (Catalog.defaultEntries ++ steps.flatMap Catalog.Step.entries)) ∧
    ∀ (session : Session) (config : Config) (discovered : List String),
      ((∃ catalog, catalogOf session config discovered = .ok catalog) ↔
        ∀ name ∈ discovered, Readable session (config.applyTo .defaults) name) ∧
      ∀ catalog, catalogOf session config discovered = .ok catalog →
        (∀ name, catalog.find name =
          match className? session config discovered name with
          | some className => .ok ⟨name, className, "latest"⟩
          | none => .error (.serviceNotFound name)) ∧
        ∃ added, catalog.Recalls (Catalog.defaultEntries ++ config.entries ++ added) ∧
          ∀ entry ∈ added,
            Derived session (Catalog.defaultEntries ++ config.entries) discovered entry := by
  refine ⟨fun steps => ?_, fun steps => ?_, fun session config discovered => ⟨?_, ?_⟩⟩
  · rw [Catalog.foldl_run_eq]
    exact (Catalog.holds_empty.addAll _).recalls
  · rw [Catalog.foldl_run_eq]
    exact (Catalog.holds_defaults.addAll _).recalls
  · rcases foldlM_register session (config.applyTo .defaults) discovered with
      ⟨hall, catalog, hcatalog, -⟩ | ⟨name, hmem, e, he, hcatalog⟩
    · exact ⟨fun _ => hall, fun _ => ⟨catalog, hcatalog⟩⟩
    · refine ⟨fun ⟨catalog, h⟩ => ?_, fun hall => (he.not_readable (hall name hmem)).elim⟩
      cases h.symm.trans hcatalog
  · intro catalog hcatalog
    obtain ⟨added, hrecalls, hadded, hlast⟩ := exists_recalls_of_catalogOf hcatalog
    exact ⟨fun name => hlast name ▸ hrecalls.find name, added, hrecalls, hadded⟩

/-! ### A fleet -/

namespace Fleet

/-- The model of a service with an identifier. -/
def modelOf (name identifier : String) : ServiceModel where
  serviceName := name
  metadata := { ServiceMetadata.empty with serviceId := some identifier }
  operations := .empty
  shapes := .empty
  documentation := none

def store : MemoryStore := ⟨.ofList [
  ("tug", ⟨modelOf "tug" "Harbour Tug", none, none⟩),
  ("sns", ⟨modelOf "sns" "Notes", none, none⟩)]⟩

/-- One of the default services gets another class name, and a new one gets two. -/
def settings : Config :=
  { Config.default with services := [⟨"barge", "Barge"⟩, ⟨"sqs", "Queue"⟩, ⟨"barge", "Lighter"⟩] }

theorem exists_catalog :
    ∃ catalog, catalogOf store.session settings ["barge", "sns", "sqs", "tug"] = .ok catalog :=
  ⟨_, rfl⟩

end Fleet

/-- A tug gets its class name from its model, and the others keep what they were called before. -/
theorem catalog_recalls_fleet : ∃ catalog,
    catalogOf Fleet.store.session Fleet.settings ["barge", "sns", "sqs", "tug"] = .ok catalog ∧
      catalog.find "barge" = .ok ⟨"barge", "Lighter", "latest"⟩ ∧
      catalog.find "sqs" = .ok ⟨"sqs", "Queue", "latest"⟩ ∧
      catalog.find "sns" = .ok ⟨"sns", "SNS", "latest"⟩ ∧
      catalog.find "tug" = .ok ⟨"tug", "HarbourTug", "latest"⟩ ∧
      catalog.find "raft" = .error (.serviceNotFound "raft") := by
  obtain ⟨catalog, hcatalog⟩ := Fleet.exists_catalog
  obtain ⟨hfind, -⟩ := (catalog_recalls.2.2 _ _ _).2 catalog hcatalog
  exact ⟨catalog, hcatalog, hfind _, hfind _, hfind _, hfind _, hfind _⟩

end ResourceStubs.Command.Survey
