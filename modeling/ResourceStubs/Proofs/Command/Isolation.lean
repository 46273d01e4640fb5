import ResourceStubs.Command.Run
import ResourceStubs.Proofs.Command.Handling
import ResourceStubs.Proofs.Command.Survey
import ResourceStubs.Proofs.Session.OwnDocuments
import ResourceStubs.Proofs.Session.Removal

/-! What a service whose model cannot be read does to the others. A run looks at it twice. While the
services are handled it is skipped, and the others come out as if it were not there. Before that,
while the catalog is filled, a model that cannot be read ends the whole run, unless the service has
its class name from the defaults or the configuration. A model that can be read may do worse: a run
dies where it follows a shape that holds itself. -/

namespace ResourceStubs

open Fallible

namespace Session

/-- The model of the service can be read, and a shape of it holds itself. -/
def HasEndless (session : Session) (name : String) : Prop :=
  ∃ model, session.serviceModel name = .ok model ∧ ¬model.Acyclic

theorem acyclic_of_not_hasEndless {session : Session} {name : String}
    (h : ¬session.HasEndless name) (model : ServiceModel)
    (hmodel : session.serviceModel name = .ok model) : model.Acyclic := by
  by_contra hcyclic
  exact h ⟨model, hmodel, hcyclic⟩

end Session

namespace Command

/-! ### Handling services -/

/-- The catalog has every service under its own name, and the session reads the documents of each
for itself. -/
structure Workshop.Steady (workshop : Workshop) : Prop where
  keyed : workshop.catalog.Keyed
  own : ∀ name, workshop.session.OwnDocuments name

namespace Workshop

variable {workshop workshop' : Workshop} {bad : String}

/-- A service that the catalog knows is handled, unless the run dies at a shape that holds itself.
Another service stops the run. -/
theorem Steady.handle_cases (h : workshop.Steady) (name : String) :
    (∃ handled, workshop.catalog.contains name = true ∧ workshop.handle name = .ok handled ∧
      handled.service.name = name) ∨
    (workshop.catalog.contains name = false ∧
      workshop.handle name = .error (.failed (.unknown (.serviceNotFound name)))) ∨
    (workshop.session.HasEndless name ∧ workshop.handle name = .error (.died name)) := by
  rcases h.keyed.find name with ⟨service, rfl, hcontains, hfind⟩ | ⟨hcontains, hfind⟩
  · have hown := h.own service.name
    cases hhandle : workshop.handle service.name with
    | ok handled =>
      have hfound := (handle_eq_ok_iff.mp hhandle).1
      obtain rfl := Except.ok.inj (hfind.symm.trans hfound)
      exact .inl ⟨handled, hcontains, rfl, rfl⟩
    | error stop =>
      rcases handle_eq_error_iff.mp hhandle with
        ⟨e, hfound, -⟩ | ⟨other, e, hfound, hrun, hfatal, -⟩ | ⟨other, shape, hfound, hrun, rfl⟩
      · cases hfind.symm.trans hfound
      · obtain rfl := Except.ok.inj (hfind.symm.trans hfound)
        rw [hown.neverFatal_stubsFromShapes _ e hrun] at hfatal
        cases hfatal
      · obtain rfl := Except.ok.inj (hfind.symm.trans hfound)
        refine .inr (.inr ⟨?_, rfl⟩)
        by_contra hnone
        have hacyclic := Session.acyclic_of_not_hasEndless hnone
        cases hown.mild_stubsFromShapes hacyclic _ _ hrun
  · exact .inr (.inl ⟨hcontains, handle_eq_error_iff.mpr (.inl ⟨_, hfind, rfl⟩)⟩)

/-- A service is handled alike where its documents are the same. -/
theorem handle_eq_of_agreeOn (hkeyed : workshop.catalog.Keyed)
    (hcatalog : workshop'.catalog = workshop.catalog) (hlimit : workshop'.limit = workshop.limit)
    {name : String} (h : workshop.catalog.contains name = true →
      Session.AgreeOn name workshop'.session workshop.session) :
    workshop'.handle name = workshop.handle name := by
  rw [handle, handle, hcatalog, hlimit]
  rcases hkeyed.find name with ⟨service, rfl, hcontains, hfind⟩ | ⟨-, hfind⟩
  · simp only [hfind, (h hcontains).stubsFromShapes_eq]
  · simp only [hfind]

/-- A run over services goes through, stops at a name that no service has, or dies at a service with
a shape that holds itself. -/
theorem Steady.stop_cases (h : workshop.Steady) (names : List String) :
    (workshop.handleAll names).2 = none ∨
      (∃ name ∈ names, workshop.catalog.contains name = false ∧
        (workshop.handleAll names).2 = some (.failed (.unknown (.serviceNotFound name)))) ∨
      ∃ name ∈ names, workshop.session.HasEndless name ∧
        (workshop.handleAll names).2 = some (.died name) := by
  rcases workshop.handleAll_cases names with
    ⟨all, hall⟩ | ⟨before, name, after, all, stop, rfl, hall, hname⟩
  · exact .inl (by rw [handleAll_of_forall₂ hall])
  · have hmem : name ∈ before ++ name :: after := List.mem_append_cons_self
    rw [handleAll_of_error hall hname]
    rcases h.handle_cases name with ⟨handled, -, heq, -⟩ | ⟨hcontains, heq⟩ | ⟨hendless, heq⟩
    · cases hname.symm.trans heq
    · obtain rfl := Except.error.inj (hname.symm.trans heq)
      exact .inr (.inl ⟨name, hmem, hcontains, rfl⟩)
    · obtain rfl := Except.error.inj (hname.symm.trans heq)
      exact .inr (.inr ⟨name, hmem, hendless, rfl⟩)

/-- A service that the catalog knows, and whose model cannot be read, may be left out. The others
are handled as before. -/
theorem Steady.handleAll_filter (h : workshop.Steady)
    (hbad : workshop.catalog.contains bad = true) {e : Error}
    (hmodel : workshop.session.serviceModel bad = .error e) (names : List String) :
    workshop.handleAll (names.filter (· ≠ bad)) =
      ((workshop.handleAll names).1.filter (·.service.name ≠ bad),
        (workshop.handleAll names).2) := by
  induction names with
  | nil => rfl
  | cons name names ih =>
    rcases h.handle_cases name with ⟨handled, -, heq, rfl⟩ | hstop
    · by_cases hb : handled.service.name = bad
      · rw [List.filter_cons_of_neg (by simpa using hb), ih, handleAll, heq]
        simp [hb]
      · rw [List.filter_cons_of_pos (by simpa using hb), handleAll, handleAll, heq, ih]
        simp [hb]
    · have hb : name ≠ bad := by
        rintro rfl
        rcases hstop with ⟨hcontains, -⟩ | ⟨⟨model, hread, -⟩, -⟩
        · rw [hbad] at hcontains
          cases hcontains
        · cases hmodel.symm.trans hread
      rw [List.filter_cons_of_pos (by simpa using hb), handleAll, handleAll]
      rcases hstop with ⟨-, heq⟩ | ⟨-, heq⟩ <;> rw [heq] <;> rfl

/-- A service whose model cannot be read is among those that were skipped, if it was handled. -/
theorem outcome_of_unreadable {e : Error} (hmodel : workshop.session.serviceModel bad = .error e)
    {names : List String} {handled : Handled} (hmem : handled ∈ (workshop.handleAll names).1)
    (hname : handled.service.name = bad) : handled.outcome = .skipped e := by
  obtain ⟨name, -, -, hfits⟩ := exists_handles_of_mem hmem
  have hresult : workshop.result handled.service = .error e := by
    rw [result, Session.stubsFromShapes, ShapeSource.ofSession, hname, hmodel]
    rfl
  rw [hresult] at hfits
  generalize handled.outcome = outcome at hfits
  cases hfits
  rfl

/-- What is skipped may be left out of what is built. -/
theorem roots_filter {e : Error} (hmodel : workshop.session.serviceModel bad = .error e)
    (names : List String) :
    roots ((workshop.handleAll names).1.filter (·.service.name ≠ bad)) =
      roots (workshop.handleAll names).1 := by
  rw [roots, roots, List.filterMap_filter]
  refine List.filterMap_congr fun handled hmem => ?_
  by_cases hname : handled.service.name = bad
  · simp [hname, outcome_of_unreadable hmodel hmem hname, Outcome.root?]
  · simp [hname]

end Workshop

/-! ### Plans -/

/-- The services that are asked for, or else those of the data directory that the configuration does
not rule out. -/
def wanted (config : Config) (discovered : List String) (asked : Option (List String)) :
    List String :=
  asked.getD (discovered.filter config.selects)

theorem selection_eq (survey : Survey) (asked : Option (List String)) :
    selection survey asked =
      if wanted survey.config survey.discovered asked = [] then .error .nothingSelected
      else .ok (wanted survey.config survey.discovered asked) := by
  rw [selection, ← wanted]
  cases wanted survey.config survey.discovered asked <;> rfl

section

variable {request : ParseRequest} {config : Config} {discovered : List String}
  {data : DataDirectory} (hroot : data.root = request.dataDirectory)
  (hconfig : Config.loadOrDefault data.files request.config = .ok config)
  (hservices : data.services = .ok discovered)
include hroot hconfig hservices

/-- Where the catalog cannot be filled no service is handled. -/
theorem parseRun_of_error {failure : Failure}
    (hcatalog : Survey.catalogOf data.session config discovered = .error failure) :
    parseRun data.files request =
      .failure [.out s!"→ Reading SDK data from: {request.dataDirectory}", .err failure.text]
        data.files := by
  have hdata : (⟨data.files, request.dataDirectory⟩ : DataDirectory) = data := by rw [← hroot]
  have hplan : plan data.files request = .error failure := by
    simp only [plan, Survey.take, hdata, hconfig, hservices, Survey.orFail, bind, Except.bind,
      hcatalog]
  rw [parseRun, hplan]

theorem plan_of_ok {catalog : Catalog}
    (hcatalog : Survey.catalogOf data.session config discovered = .ok catalog) :
    plan data.files request =
      if wanted config discovered request.services = [] then .error .nothingSelected
      else .ok (⟨data.session, catalog, config.summaryLimit⟩,
        wanted config discovered request.services) := by
  have hdata : (⟨data.files, request.dataDirectory⟩ : DataDirectory) = data := by rw [← hroot]
  simp only [plan, Survey.take, hdata, hconfig, hservices, Survey.orFail, bind, Except.bind,
    hcatalog, pure, Except.pure, selection_eq]
  by_cases hnone : wanted config discovered request.services = []
  · rw [if_pos hnone, if_pos hnone]
  · rw [if_neg hnone, if_neg hnone]

end

/-- The run told some lines, and with them delivers stub classes. -/
def Delivers (files : FileSystem) (request : ParseRequest) (built : List ServiceResource) : Prop :=
  ∃ lines, parseRun files request = deliver files lines built request.output

theorem delivers_of_plan {files : FileSystem} {request : ParseRequest} {workshop : Workshop}
    {names : List String} (hplan : plan files request = .ok (workshop, names))
    (hstop : (workshop.handleAll names).2 = none) :
    Delivers files request (roots (workshop.handleAll names).1) := by
  refine ⟨.out s!"→ Reading SDK data from: {request.dataDirectory}" ::
    handledLines request.verbose names.length (workshop.handleAll names).1 ++
      summaryLines (workshop.handleAll names).1, ?_⟩
  rw [parseRun, hplan]
  simp only [hstop]

/-! ### With a service and without it -/

/-- Two runs over services come to the same but for what they tell of one of the services. They stop
at the same name and for the same reason, or not at all. The other services come out alike, and the
same stub classes are built. -/
structure AlikeBut (bad : String) (run run' : List Handled × Option Stop) : Prop where
  stop : run'.2 = run.2
  others : run'.1.filter (·.service.name ≠ bad) = run.1.filter (·.service.name ≠ bad)
  built : roots run'.1 = roots run.1

/-- Where a known service is skipped in both runs and the others have the same documents, the runs
are alike but for it. -/
theorem handleAll_alikeBut {workshop workshop' : Workshop} {bad : String} (h : workshop.Steady)
    (h' : workshop'.Steady) (hcatalog : workshop'.catalog = workshop.catalog)
    (hlimit : workshop'.limit = workshop.limit) (hbad : workshop.catalog.contains bad = true)
    {e e' : Error} (hmodel : workshop.session.serviceModel bad = .error e)
    (hmodel' : workshop'.session.serviceModel bad = .error e')
    (hsame : ∀ name, workshop.catalog.contains name = true → name ≠ bad →
      Session.AgreeOn name workshop'.session workshop.session)
    {names names' : List String} (hnames : names'.filter (· ≠ bad) = names.filter (· ≠ bad)) :
    AlikeBut bad (workshop.handleAll names) (workshop'.handleAll names') := by
  have hothers : workshop'.handleAll (names.filter (· ≠ bad)) =
      workshop.handleAll (names.filter (· ≠ bad)) := by
    refine Workshop.handleAll_congr fun name hmem => ?_
    have hne : name ≠ bad := by simpa using (List.mem_filter.mp hmem).2
    exact Workshop.handle_eq_of_agreeOn h.keyed hcatalog hlimit fun hc => hsame name hc hne
  have hbad' : workshop'.catalog.contains bad = true := hcatalog ▸ hbad
  rw [← hnames, h'.handleAll_filter hbad' hmodel', hnames,
    h.handleAll_filter hbad hmodel] at hothers
  obtain ⟨hfilter, hstop⟩ := Prod.mk.inj hothers
  refine ⟨hstop, hfilter, ?_⟩
  rw [← Workshop.roots_filter hmodel names, ← Workshop.roots_filter hmodel' names', hfilter]

/-- Apart from a service itself, as many services are wanted without it as with it. -/
theorem wanted_filter (config : Config) (discovered : List String) (asked : Option (List String))
    (bad : String) :
    (wanted config (discovered.filter (· ≠ bad)) asked).filter (· ≠ bad) =
      (wanted config discovered asked).filter (· ≠ bad) := by
  cases asked with
  | some names => rfl
  | none =>
    simp only [wanted, Option.getD_none, List.filter_filter]
    refine List.filter_congr fun name _ => ?_
    cases config.selects name <;> simp

/-- Without a service the others that a run can know have the same documents. Only names of the
configuration may be paths that lead through the directory of the service. -/
theorem agreeOn_of_without {data data' : DataDirectory} {bad : String} {config : Config}
    {discovered : List String} (hwithout : data.Without bad data')
    (hnamed : ∀ entry ∈ config.services, Location.IsPlain entry.name ∨
      data'.document? entry.name = data.document? entry.name)
    (hplain : ∀ name ∈ discovered, Location.IsPlain name) {name : String}
    (hname : (config.applyTo .defaults).contains name = true ∨ name ∈ discovered)
    (hne : name ≠ bad) : Session.AgreeOn name data'.session data.session := by
  have hdefaults : ∀ name ∈ Catalog.defaultEntries.map Prod.fst, Location.IsPlain name := by decide
  have hsame : data'.document? name = data.document? name := by
    rcases hname with hknown | hmem
    · rcases (Catalog.contains_applyTo config name).mp hknown with ⟨entry, hentry, rfl⟩ | hdefault
      · rcases hnamed entry hentry with hp | heq
        · exact hwithout.document?_of_ne hp hne
        · exact heq
      · exact hwithout.document?_of_ne (hdefaults name hdefault) hne
    · exact hwithout.document?_of_ne (hplain name hmem) hne
  exact DataDirectory.agreeOn_of_document?_eq (congrFun hsame _) (congrFun hsame _)
    (congrFun hsame _)

theorem steady_of_grown {config : Config} {discovered : List String} {catalog : Catalog}
    (data : DataDirectory) (hgrown : Survey.Grown (config.applyTo .defaults) discovered catalog) :
    Workshop.Steady ⟨data.session, catalog, config.summaryLimit⟩ :=
  ⟨hgrown.keyed (Catalog.keyed_applyTo config), fun name => data.ownDocuments name⟩

/-- A run over the data directory without a service fills the same catalog and comes to the same but
for the service. -/
theorem exists_plan_of_without {data data' : DataDirectory} {request : ParseRequest}
    {config : Config} {discovered : List String} (hservices : data.services = .ok discovered)
    (hplain : ∀ name ∈ discovered, Location.IsPlain name) {bad : String} (hbad : bad ∈ discovered)
    {e : Error} (hmodel : data.session.serviceModel bad = .error e)
    (hreadable : Survey.Readable data.session (config.applyTo .defaults) bad) {catalog : Catalog}
    (hcatalog : Survey.catalogOf data.session config discovered = .ok catalog)
    (hgrown : Survey.Grown (config.applyTo .defaults) discovered catalog)
    (hroot : data'.root = request.dataDirectory) (hwithout : data.Without bad data')
    (hconfig : Config.loadOrDefault data'.files request.config = .ok config)
    (hnamed : ∀ entry ∈ config.services, Location.IsPlain entry.name ∨
      data'.document? entry.name = data.document? entry.name)
    (hnames : wanted config (discovered.filter (· ≠ bad)) request.services ≠ []) :
    ∃ workshop', plan data'.files request =
        .ok (workshop', wanted config (discovered.filter (· ≠ bad)) request.services) ∧
      AlikeBut bad
        (Workshop.handleAll ⟨data.session, catalog, config.summaryLimit⟩
          (wanted config discovered request.services))
        (workshop'.handleAll (wanted config (discovered.filter (· ≠ bad)) request.services)) := by
  have hknown : (config.applyTo .defaults).contains bad = true := by
    rcases hreadable with hc | ⟨model, hm⟩
    · exact hc
    · cases hmodel.symm.trans hm
  have hsame (name : String) (hc : catalog.contains name = true) (hne : name ≠ bad) :=
    agreeOn_of_without hwithout hnamed hplain ((hgrown.contains name).mp hc) hne
  -- the service is left out where the catalog is filled, too
  have hcatalog' :
      Survey.catalogOf data'.session config (discovered.filter (· ≠ bad)) = .ok catalog := by
    refine (Survey.foldlM_register_filter hknown fun name hmem hne => ?_).trans hcatalog
    exact (hsame name ((hgrown.contains name).mpr (.inr hmem)) hne).model
  have hplan := plan_of_ok hroot hconfig (hwithout.services_eq hservices) hcatalog'
  rw [if_neg hnames] at hplan
  have hmissing := data'.answersWith_documents bad |>.missing
    (hwithout.document?_self (hplain bad hbad) _)
  exact ⟨_, hplan,
    handleAll_alikeBut (steady_of_grown data hgrown) (steady_of_grown data' hgrown) rfl
    rfl ((hgrown.contains bad).mpr (.inr hbad)) hmodel hmissing.1 hsame
    (wanted_filter config discovered request.services bad)⟩

/-- A service of the data directory whose model cannot be read, and a run. If the service or another
like it is known by its model alone, the run ends before any service is handled. Else the service is
skipped: the run goes through unless it is asked for a service that nobody knows or dies at a
service with a shape that holds itself, and it comes to the same as a run over the data directory
without the service. -/
theorem parseRun_of_unreadable (data : DataDirectory) (request : ParseRequest)
    (hroot : data.root = request.dataDirectory) (htree : data.files.top.WellFormed)
    {config : Config} (hconfig : Config.loadOrDefault data.files request.config = .ok config)
    {discovered : List String} (hservices : data.services = .ok discovered) {bad : String}
    (hbad : bad ∈ discovered) {e : Error} (hmodel : data.session.serviceModel bad = .error e) :
    let known := config.applyTo .defaults
    let names := wanted config discovered request.services
    ((∃ name ∈ discovered, ∃ e, Survey.Unreadable data.session known name e) →
      ∃ name ∈ discovered, ∃ e, Survey.Unreadable data.session known name e ∧
        parseRun data.files request =
          .failure [.out s!"→ Reading SDK data from: {request.dataDirectory}",
            .err (Failure.model name e).text] data.files) ∧
    ((∀ name ∈ discovered, Survey.Readable data.session known name) → names ≠ [] →
      ∃ workshop, plan data.files request = .ok (workshop, names) ∧
        let run := workshop.handleAll names
        ((run.2 = none ∧ Delivers data.files request (roots run.1)) ∨
          (∃ name ∈ names, known.contains name = false ∧ name ∉ discovered ∧
            run.2 = some (.failed (.unknown (.serviceNotFound name)))) ∨
          ∃ name ∈ names, data.session.HasEndless name ∧ run.2 = some (.died name)) ∧
        (∀ handled ∈ run.1, handled.service.name = bad → handled.outcome = .skipped e) ∧
        ∀ data' : DataDirectory, data'.root = data.root → data.Without bad data' →
          Config.loadOrDefault data'.files request.config = .ok config →
          (∀ entry ∈ config.services, Location.IsPlain entry.name ∨
            data'.document? entry.name = data.document? entry.name) →
          let names' := wanted config (discovered.filter (· ≠ bad)) request.services
          names' ≠ [] →
          ∃ workshop', plan data'.files request = .ok (workshop', names') ∧
            AlikeBut bad run (workshop'.handleAll names') ∧
            (run.2 = none → Delivers data'.files request (roots run.1))) := by
  intro known names
  have hplain (name : String) (hmem : name ∈ discovered) :=
    DataDirectory.isPlain_of_mem_services htree hservices hmem
  rcases Survey.foldlM_register data.session known discovered with
    ⟨hall, catalog, hcatalog, hgrown⟩ | ⟨name, hmem, e', he, hcatalog⟩
  · refine ⟨fun ⟨name, hmem, _, he⟩ => (he.not_readable (hall name hmem)).elim, fun _ hnames => ?_⟩
    have hplan := plan_of_ok hroot hconfig hservices hcatalog
    rw [if_neg hnames] at hplan
    have hsteady := steady_of_grown data hgrown
    refine ⟨_, hplan, ?_, fun handled hmem => Workshop.outcome_of_unreadable hmodel hmem, ?_⟩
    · rcases hsteady.stop_cases names with hstop | ⟨name, hmem, hunknown, hstop⟩ | hdies
      · exact .inl ⟨hstop, delivers_of_plan hplan hstop⟩
      · have hnone := mt (hgrown.contains name).mpr (by simp [hunknown])
        rw [not_or, Bool.not_eq_true] at hnone
        exact .inr (.inl ⟨name, hmem, hnone.1, hnone.2, hstop⟩)
      · exact .inr (.inr hdies)
    · intro data' hroot' hwithout hconfig' hnamed names' hnames'
      obtain ⟨workshop', hplan', halike⟩ := exists_plan_of_without hservices hplain hbad hmodel
        (hall bad hbad) hcatalog hgrown (hroot'.trans hroot) hwithout hconfig' hnamed hnames'
      refine ⟨workshop', hplan', halike, fun hstop => ?_⟩
      rw [← halike.built]
      exact delivers_of_plan hplan' (halike.stop.trans hstop)
  · refine ⟨fun _ => ⟨name, hmem, e', he, ?_⟩, fun h => (he.not_readable (h name hmem)).elim⟩
    exact parseRun_of_error hroot hconfig hservices hcatalog

/-! ### A lamp beside a service that cannot be read -/

namespace Lamps

/-- The documents of a lamp. -/
def lamp : FileNode := .directory [("2020", .directory [
  ("service-2.json", .file "\x7b\x7d"),
  ("resources-1.json", .file "\x7b\"resources\": \x7b\"Bulb\": \x7b\x7d\x7d\x7d")])]

/-- A service model that cannot be read. -/
def broken : FileNode := .directory [("2020", .directory [("service-2.json", .file "")])]

/-- A data directory with a lamp. -/
def alone : DataDirectory := ⟨⟨.directory [("lamp", lamp)], []⟩, "."⟩

/-- A data directory with a lamp and another service. -/
def beside (bad : String) : DataDirectory := ⟨⟨.directory [("lamp", lamp), (bad, broken)], []⟩, "."⟩

/-- Stubs of the lamp are asked for. -/
def request : ParseRequest := ⟨".", some ["lamp"], none, none, false⟩

/-- The lamp has no shapes at all. -/
theorem not_hasEndless_lamp : ¬(beside "sqs").session.HasEndless "lamp" := by
  rintro ⟨model, hmodel, hcyclic⟩
  have hnone : model.shapes.keys = [] := by
    obtain rfl := Except.ok.inj hmodel
    rfl
  refine hcyclic fun name hcycle => ?_
  obtain ⟨inner, hholds, -⟩ := Relation.TransGen.head'_iff.mp hcycle
  have hdefined := ServiceModel.mem_keys_of_holds hholds
  rw [hnone] at hdefined
  cases hdefined

theorem wellFormed : (beside "sqs").files.top.WellFormed := by
  have hversion {entries : List (String × FileNode)} (h : (FileNode.directory entries).WellFormed) :
      (FileNode.directory [("2020", .directory entries)]).WellFormed :=
    .directory (by simp) (List.forall_mem_singleton.mpr (show Location.IsPlain "2020" by decide))
      (by simpa using h)
  have hlamp : lamp.WellFormed :=
    hversion (.directory (by decide) (by decide) (by simp [FileNode.WellFormed.file]))
  have hbroken : broken.WellFormed :=
    hversion (.directory (by decide) (by decide) (by simp [FileNode.WellFormed.file]))
  exact .directory (by decide) (by decide) (by simp [hlamp, hbroken])

theorem services_sqs : (beside "sqs").services = .ok ["lamp", "sqs"] :=
  congrArg Except.ok (List.mergeSort_of_pairwise (by decide))

theorem services_torch : (beside "torch").services = .ok ["lamp", "torch"] :=
  congrArg Except.ok (List.mergeSort_of_pairwise (by decide))

/-- The torch is known by its model alone. -/
theorem code_torch : (parseRun (beside "torch").files request).code = 1 := by
  have hmodel : (beside "torch").session.serviceModel "torch" = .error _ := rfl
  rcases Survey.foldlM_register (beside "torch").session (Config.default.applyTo .defaults)
    ["lamp", "torch"] with ⟨hall, -⟩ | ⟨name, -, e, -, hcatalog⟩
  · have htorch : Survey.Unreadable (beside "torch").session (Config.default.applyTo .defaults)
        "torch" _ := ⟨by decide +kernel, hmodel⟩
    exact (htorch.not_readable (hall "torch" (by simp))).elim
  · rw [parseRun_of_error rfl rfl services_torch hcatalog]
    rfl

theorem code_alone : (parseRun alone.files request).code = 0 := by decide +kernel

theorem built_alone : (plan alone.files request).map
    (fun todo => (roots (todo.1.handleAll todo.2).1).map (·.name)) =
      .ok ["LampServiceResource"] := by
  decide +kernel

end Lamps

/-- A service with its name among the defaults is skipped, and the lamp is built as without it. -/
theorem parseRun_of_unreadable_sqs : ∃ built,
    built.map (·.name) = ["LampServiceResource"] ∧
      Delivers (Lamps.beside "sqs").files Lamps.request built ∧
      Delivers Lamps.alone.files Lamps.request built := by
  have hmodel : (Lamps.beside "sqs").session.serviceModel "sqs" = .error _ := rfl
  obtain ⟨-, hskips⟩ := parseRun_of_unreadable (Lamps.beside "sqs") Lamps.request rfl
    Lamps.wellFormed rfl Lamps.services_sqs (by simp) hmodel
  have hlamp : ∃ model, (Lamps.beside "sqs").session.serviceModel "lamp" = .ok model := ⟨_, rfl⟩
  obtain ⟨workshop, -, hrun, -, halone⟩ := hskips
    (List.forall_mem_cons.mpr
      ⟨.inr hlamp, List.forall_mem_singleton.mpr (.inl (by decide +kernel))⟩)
    (List.cons_ne_nil _ _)
  rcases hrun with
    ⟨hstop, hdelivers⟩ | ⟨name, hname, -, hunknown, -⟩ | ⟨name, hname, hendless, -⟩
  · obtain ⟨workshop', hplan', halike, hdelivers'⟩ := halone Lamps.alone rfl ⟨_, rfl, rfl⟩ rfl
      (by simp [Config.default]) (List.cons_ne_nil _ _)
    have hbuilt := Lamps.built_alone
    rw [hplan'] at hbuilt
    exact ⟨_, halike.built ▸ Except.ok.inj hbuilt, hdelivers, hdelivers' hstop⟩
  · obtain rfl := List.mem_singleton.mp hname
    exact (hunknown (by simp)).elim
  · obtain rfl := List.mem_singleton.mp hname
    exact (Lamps.not_hasEndless_lamp hendless).elim

/-- A service whose model cannot be read may take all others down: a torch ends a run that is asked
for the lamp alone. -/
theorem not_forall_code_eq_zero : ¬∀ (data data' : DataDirectory) (request : ParseRequest)
    (discovered : List String) (bad : String) (e : Error),
      data.root = request.dataDirectory → data'.root = data.root →
      data.services = .ok discovered → bad ∈ discovered →
      data.session.serviceModel bad = .error e → data.Without bad data' →
      (parseRun data'.files request).code = 0 → (parseRun data.files request).code = 0 := by
  intro h
  have hmodel : (Lamps.beside "torch").session.serviceModel "torch" = .error _ := rfl
  have hcode := h (Lamps.beside "torch") Lamps.alone Lamps.request _ "torch" _ rfl rfl
    Lamps.services_torch (by simp) hmodel ⟨_, rfl, rfl⟩ Lamps.code_alone
  rw [Lamps.code_torch] at hcode
  cases hcode

end Command

end ResourceStubs
