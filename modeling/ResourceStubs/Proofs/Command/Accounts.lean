import ResourceStubs.Proofs.Command.Isolation
import ResourceStubs.Proofs.Files.Write
import ResourceStubs.Proofs.Stub.Printed

/-! The account of a run. A run that ends well has handled every wanted service once, in their
order, each with one of three outcomes. The counts that it tells are those of the outcomes, and the
output holds the stub classes that were built, in the same order. A run that ends or dies before it
delivers anything leaves the file system as it was. -/

namespace ResourceStubs.Command

open Fallible

/-! ### What is told -/

theorem subResourceCount_eq_sum (handled : List Handled) :
    subResourceCount handled = ((roots handled).map (·.subResources.length)).sum := by
  rw [subResourceCount, List.sum_eq_foldl, List.foldl_map]

/-- Whatever failure stops a run, its text is told last. -/
theorem getLast?_failureLines (told : List Line) (total done : Nat) (failure : Failure) :
    (told ++ failureLines total done failure).getLast? = some (.err failure.text) := by
  cases failure <;> simp [failureLines]

/-- The line with the counts. -/
def totalLine (roots below without : Nat) : Line :=
  .out <| s!"✓ Total: {roots} service resources, {below} sub-resources, " ++
    s!"{without} services without resources"

/-- The line with the number of services that were skipped. -/
def skippedLine (skipped : Nat) : Line :=
  .out s!"⚠ Skipped {skipped} service(s) due to parse errors"

/-- The counts are told last. -/
theorem exists_summaryLines_eq (handled : List Handled) :
    ∃ remarks, summaryLines handled = remarks ++ [totalLine (roots handled).length
      ((roots handled).map (·.subResources.length)).sum (withoutResourcesCount handled)] := by
  rw [← subResourceCount_eq_sum, summaryLines, totalLine]
  exact ⟨_ ++ [.out ""], (List.append_assoc _ [_] [_]).symm⟩

theorem skippedLine_mem_summaryLines {handled : List Handled} (h : skippedCount handled ≠ 0) :
    skippedLine (skippedCount handled) ∈ summaryLines handled := by
  simp [summaryLines, skippedLine, h]

/-! ### Runs -/

/-- Why a run ends before it delivers anything: the configuration or the data directory cannot be
read, the catalog cannot be filled, nothing is wanted, or a service stops the run after those before
it were handled. -/
inductive EndsEarly (files : FileSystem) (request : ParseRequest) : Failure → Prop
  | config {e : Error} : Config.loadOrDefault files request.config = .error e →
    EndsEarly files request (.config e)
  | listing {config : Config} {e : Error} :
    Config.loadOrDefault files request.config = .ok config →
    (DataDirectory.mk files request.dataDirectory).services = .error e →
    EndsEarly files request (.listing request.dataDirectory e)
  | model {config : Config} {discovered : List String} {name : String} {e : Error} :
    Config.loadOrDefault files request.config = .ok config →
    (DataDirectory.mk files request.dataDirectory).services = .ok discovered →
    Survey.catalogOf (DataDirectory.mk files request.dataDirectory).session config discovered =
      .error (.model name e) →
    EndsEarly files request (.model name e)
  | nothingSelected {survey : Survey} :
    Survey.take files request.dataDirectory request.config = .ok survey →
    wanted survey.config survey.discovered request.services = [] →
    EndsEarly files request .nothingSelected
  | unknown {workshop : Workshop} {before after : List String} {name : String}
    {handled : List Handled} {e : Error} :
    plan files request = .ok (workshop, before ++ name :: after) →
    List.Forall₂ workshop.Handles before handled → workshop.catalog.find name = .error e →
    EndsEarly files request (.unknown e)
  | aborted {workshop : Workshop} {before after : List String} {name : String}
    {handled : List Handled} {service : ServiceName} {e : Error} :
    plan files request = .ok (workshop, before ++ name :: after) →
    List.Forall₂ workshop.Handles before handled → workshop.catalog.find name = .ok service →
    workshop.result service = .error e → e.isFatal = true →
    EndsEarly files request (.aborted service.name e)

/-- A run dies at a service: those before it were handled, and the run follows a shape of the
service that has no end. -/
inductive Dies (files : FileSystem) (request : ParseRequest) : String → Prop
  | endless {workshop : Workshop} {before after : List String} {name : String}
    {handled : List Handled} {service : ServiceName} {shape : String} :
    plan files request = .ok (workshop, before ++ name :: after) →
    List.Forall₂ workshop.Handles before handled → workshop.catalog.find name = .ok service →
    workshop.result service = .error (.introspection (.endless shape)) →
    Dies files request service.name

namespace Survey

/-- What a run handles services with. -/
def workshop (survey : Survey) : Workshop :=
  ⟨survey.session, survey.catalog, survey.config.summaryLimit⟩

theorem plan_eq (files : FileSystem) (request : ParseRequest) :
    plan files request = (take files request.dataDirectory request.config >>= fun survey =>
      if wanted survey.config survey.discovered request.services = [] then
        .error .nothingSelected
      else .ok (survey.workshop, wanted survey.config survey.discovered request.services)) := by
  rw [plan]
  congr 1
  funext survey
  rw [selection_eq]
  split <;> rfl

theorem orFail_eq_ok_iff {α : Type} {own : Error → Failure} {x : Except Error α} {a : α} :
    orFail own x = .ok a ↔ x = .ok a := by
  cases x <;> simp [orFail]

theorem orFail_eq_error_iff {α : Type} {own : Error → Failure} {x : Except Error α}
    {failure : Failure} : orFail own x = .error failure ↔ ∃ e, x = .error e ∧ failure = own e := by
  cases x <;> simp [orFail, eq_comm]

theorem take_eq_error_iff {files : FileSystem} {request : ParseRequest} {failure : Failure} :
    take files request.dataDirectory request.config = .error failure ↔
      (∃ e, Config.loadOrDefault files request.config = .error e ∧ failure = .config e) ∨
      ∃ config, Config.loadOrDefault files request.config = .ok config ∧
        ((∃ e, (DataDirectory.mk files request.dataDirectory).services = .error e ∧
            failure = .listing request.dataDirectory e) ∨
          ∃ discovered,
            (DataDirectory.mk files request.dataDirectory).services = .ok discovered ∧
            catalogOf (DataDirectory.mk files request.dataDirectory).session config discovered =
              .error failure) := by
  simp only [take, bind_eq_error, orFail_eq_error_iff, orFail_eq_ok_iff, pure, Except.pure,
    reduceCtorEq, and_false, exists_false, or_false]

end Survey

variable {files : FileSystem} {request : ParseRequest}

/-- A run ends early if its plan fails, or if one of the planned services stops it. -/
theorem endsEarly_iff {failure : Failure} :
    EndsEarly files request failure ↔ plan files request = .error failure ∨
      ∃ workshop names, plan files request = .ok (workshop, names) ∧
        ∃ handled, workshop.handleAll names = (handled, some (.failed failure)) := by
  rw [Survey.plan_eq]
  constructor
  · rintro (⟨he⟩ | ⟨hconfig, he⟩ | ⟨hconfig, hservices, he⟩ | ⟨htake, hnone⟩ |
      ⟨hplan, hbefore, hfind⟩ | ⟨hplan, hbefore, hfind, he, hfatal⟩)
    · rw [Survey.take_eq_error_iff.mpr (.inl ⟨_, he, rfl⟩)]
      exact .inl rfl
    · rw [Survey.take_eq_error_iff.mpr (.inr ⟨_, hconfig, .inl ⟨_, he, rfl⟩⟩)]
      exact .inl rfl
    · rw [Survey.take_eq_error_iff.mpr (.inr ⟨_, hconfig, .inr ⟨_, hservices, he⟩⟩)]
      exact .inl rfl
    · rw [htake]
      exact .inl (if_pos hnone)
    · rw [Survey.plan_eq] at hplan
      have hstop := Workshop.handle_eq_error_iff.mpr (.inl ⟨_, hfind, rfl⟩)
      exact .inr ⟨_, _, hplan, _, Workshop.handleAll_of_error hbefore hstop⟩
    · rw [Survey.plan_eq] at hplan
      have hstop := Workshop.handle_eq_error_iff.mpr (.inr (.inl ⟨_, _, hfind, he, hfatal, rfl⟩))
      exact .inr ⟨_, _, hplan, _, Workshop.handleAll_of_error hbefore hstop⟩
  · rintro (hplan | ⟨workshop, names, hplan, handled, hrun⟩)
    · cases htake : Survey.take files request.dataDirectory request.config with
      | ok survey =>
        rw [htake] at hplan
        change (if _ then _ else _) = _ at hplan
        split at hplan
        next hnone =>
          obtain rfl := Except.error.inj hplan
          exact .nothingSelected htake hnone
        next => cases hplan
      | error other =>
        rw [htake] at hplan
        obtain rfl := Except.error.inj hplan
        -- a survey fails at the first of its steps that does
        rcases Survey.take_eq_error_iff.mp htake with
          ⟨e, he, rfl⟩ | ⟨config, hconfig, ⟨e, he, rfl⟩ | ⟨discovered, hservices, hcatalog⟩⟩
        · exact .config he
        · exact .listing hconfig he
        · rcases Survey.foldlM_register (DataDirectory.mk files request.dataDirectory).session
              (config.applyTo .defaults) discovered with
            ⟨-, catalog, heq, -⟩ | ⟨name, -, e, -, heq⟩
          · cases heq.symm.trans hcatalog
          · obtain rfl := Except.error.inj (heq.symm.trans hcatalog)
            exact .model hconfig hservices hcatalog
    · rw [← Survey.plan_eq] at hplan
      obtain ⟨before, name, after, rfl, hbefore, hname⟩ := Workshop.handleAll_eq_some_iff.mp hrun
      rcases Workshop.handle_eq_error_iff.mp hname with
        ⟨e, hfind, hstop⟩ | ⟨service, e, hfind, he, hfatal, hstop⟩ | ⟨_, _, _, _, hstop⟩
      · obtain rfl := Stop.failed.inj hstop
        exact .unknown hplan hbefore hfind
      · obtain rfl := Stop.failed.inj hstop
        exact .aborted hplan hbefore hfind he hfatal
      · cases hstop

/-- A run dies if one of the planned services has it do so. -/
theorem dies_iff {service : String} :
    Dies files request service ↔
      ∃ workshop names, plan files request = .ok (workshop, names) ∧
        ∃ handled, workshop.handleAll names = (handled, some (.died service)) := by
  constructor
  · rintro ⟨hplan, hbefore, hfind, he⟩
    have hstop := Workshop.handle_eq_error_iff.mpr (.inr (.inr ⟨_, _, hfind, he, rfl⟩))
    exact ⟨_, _, hplan, _, Workshop.handleAll_of_error hbefore hstop⟩
  · rintro ⟨workshop, names, hplan, handled, hrun⟩
    obtain ⟨before, name, after, rfl, hbefore, hname⟩ := Workshop.handleAll_eq_some_iff.mp hrun
    rcases Workshop.handle_eq_error_iff.mp hname with
      ⟨_, _, hstop⟩ | ⟨_, _, _, _, _, hstop⟩ | ⟨found, shape, hfind, he, hstop⟩
    · cases hstop
    · cases hstop
    · obtain rfl := Stop.died.inj hstop
      exact .endless hplan hbefore hfind he

/-- A run that ends early tells its failure last, and leaves the file system as it was. -/
theorem EndsEarly.stops {failure : Failure} (h : EndsEarly files request failure) :
    let run := parseRun files request
    run.code = 1 ∧ run.lines.getLast? = some (.err failure.text) ∧ run.files = files := by
  rcases endsEarly_iff.mp h with hplan | ⟨workshop, names, hplan, handled, hrun⟩
  · simp only [parseRun, hplan]
    exact ⟨rfl, rfl, rfl⟩
  · simp only [parseRun, hplan, hrun]
    exact ⟨rfl, getLast?_failureLines _ _ _ _, rfl⟩

/-- A run that dies leaves the file system as it was. The last that it tells is that it begins the
service. -/
theorem Dies.stops {service : String} (h : Dies files request service) :
    let run := parseRun files request
    run.code = 134 ∧ (∃ place total, run.lines.getLast? = some (beginning place total service)) ∧
      run.files = files := by
  obtain ⟨workshop, names, hplan, handled, hrun⟩ := dies_iff.mp h
  simp only [parseRun, hplan, hrun]
  exact ⟨rfl, ⟨_, _, List.getLast?_concat⟩, rfl⟩

/-- A run that neither ends early nor dies handles everything that is wanted, and then delivers. -/
theorem exists_deliver (h : ∀ failure, ¬EndsEarly files request failure)
    (hdies : ∀ service, ¬Dies files request service) :
    ∃ survey, Survey.take files request.dataDirectory request.config = .ok survey ∧
      let names := wanted survey.config survey.discovered request.services
      names ≠ [] ∧ ∃ handled, List.Forall₂ survey.workshop.Handles names handled ∧
        ∃ told, parseRun files request =
          deliver files (told ++ summaryLines handled) (roots handled) request.output := by
  cases htake : Survey.take files request.dataDirectory request.config with
  | error failure =>
    refine (h failure (endsEarly_iff.mpr (.inl ?_))).elim
    rw [Survey.plan_eq, htake]
    rfl
  | ok survey =>
    refine ⟨survey, rfl, ?_⟩
    intro names
    have hnames : names ≠ [] := fun hnone => h _ (.nothingSelected htake hnone)
    have hplan : plan files request = .ok (survey.workshop, names) := by
      rw [Survey.plan_eq, htake]
      exact if_neg hnames
    refine ⟨hnames, ?_⟩
    rcases survey.workshop.handleAll_cases names with
      ⟨handled, hall⟩ | ⟨before, name, after, done, stop, hsplit, hbefore, hname⟩
    · refine ⟨handled, hall,
        .out s!"→ Reading SDK data from: {request.dataDirectory}" ::
          handledLines request.verbose names.length handled, ?_⟩
      rw [parseRun, hplan]
      simp only [Workshop.handleAll_of_forall₂ hall]
    · have hrun : survey.workshop.handleAll names = (done, some stop) :=
        hsplit ▸ Workshop.handleAll_of_error hbefore hname
      cases stop with
      | failed failure =>
        exact (h failure (endsEarly_iff.mpr (.inr ⟨_, _, hplan, done, hrun⟩))).elim
      | died service => exact (hdies service (dies_iff.mpr ⟨_, _, hplan, done, hrun⟩)).elim

/-! ### Delivery -/

/-- The output is refused: the directory around it cannot be made, or it cannot be written there.
The directories that could be made stay. -/
inductive Refused (files : FileSystem) (path text : String) : Failure → FileSystem → Prop
  | directory {made : FileSystem} {failure : Failure} :
    makeRoom files path = (made, some failure) → Refused files path text failure made
  | output {made : FileSystem} {e : FileError} : makeRoom files path = (made, none) →
    made.write path text = .error e → Refused files path text (.output path e) made

/-- What is told of the output that was written. -/
def outputLines (output : Option String) : List Line :=
  output.toList.map fun path => .out s!"  📄 {path}"

/-- A run delivers stub classes, or the output that it is to write is refused. -/
theorem deliver_cases (files : FileSystem) (told : List Line) (built : List ServiceResource)
    (output : Option String) :
    let run := deliver files told built output
    (run.code = 0 ∧ run.lines = told ++ outputLines output ∧
      (∀ path, output = some path →
        ∃ text, run.files.read path = .ok text ∧ HoldsStubs text built) ∧
      (output = none → run.files = files)) ∨
    (run.code = 1 ∧ ∃ path failure, output = some path ∧
      Refused files path (outputText built) failure run.files ∧
      run.lines.getLast? = some (.err failure.text)) := by
  cases output with
  | none => exact .inl ⟨rfl, (List.append_nil told).symm, nofun, fun _ => rfl⟩
  | some path =>
    rcases hroom : makeRoom files path with ⟨made, _ | failure⟩
    · cases hwrite : made.write path (outputText built) with
      | error e =>
        simp only [deliver, hroom, hwrite]
        exact .inr ⟨rfl, path, _, rfl, .output hroom hwrite, List.getLast?_concat⟩
      | ok written =>
        simp only [deliver, hroom, hwrite]
        refine .inl ⟨rfl, rfl, fun other hother => ?_, nofun⟩
        obtain rfl := Option.some.inj hother
        exact ⟨_, FileSystem.read_of_write hwrite, holdsStubs_pretty built⟩
    · simp only [deliver, hroom]
      exact .inr ⟨rfl, path, failure, rfl, .directory hroom, List.getLast?_concat⟩

/-! ### The account -/

/-- What a run that ends well has done with the services that were wanted. Each was handled in its
place, and the counts of the outcomes add up to their number. The counts are told last but for the
output, which holds the stub classes that were built; without an output the file system is as it
was. -/
structure Accounts (files : FileSystem) (request : ParseRequest) (survey : Survey)
    (names : List String) (handled : List Handled) (run : Run) : Prop where
  handles : List.Forall₂ survey.workshop.Handles names handled
  counts : (roots handled).length + withoutResourcesCount handled + skippedCount handled =
    names.length
  total : ∃ told, run.lines = told ++ totalLine (roots handled).length
    ((roots handled).map (·.subResources.length)).sum (withoutResourcesCount handled) ::
      outputLines request.output
  skips : skippedCount handled ≠ 0 → skippedLine (skippedCount handled) ∈ run.lines
  output : ∀ path, request.output = some path →
    ∃ text, run.files.read path = .ok text ∧ HoldsStubs text (roots handled)
  unchanged : request.output = none → run.files = files

/-- A run accounts for every service that is wanted if it ends well. A run that ends early or dies
leaves the file system as it was, and no run ends otherwise unless its output is refused. -/
theorem parseRun_accounts (files : FileSystem) (request : ParseRequest) :
    let run := parseRun files request
    (run.code = 0 → ∃ survey,
      Survey.take files request.dataDirectory request.config = .ok survey ∧
      let names := wanted survey.config survey.discovered request.services
      names ≠ [] ∧ ∃ handled, Accounts files request survey names handled run) ∧
    (∀ failure, EndsEarly files request failure →
      run.code = 1 ∧ run.lines.getLast? = some (.err failure.text) ∧ run.files = files) ∧
    (∀ service, Dies files request service → run.code = 134 ∧ run.files = files) ∧
    (run.code ≠ 0 → (∃ failure, EndsEarly files request failure) ∨
      (∃ service, Dies files request service) ∨
      ∃ path built failure, request.output = some path ∧
        Refused files path (outputText built) failure run.files ∧
        run.lines.getLast? = some (.err failure.text)) := by
  intro run
  refine ⟨fun hcode => ?_, fun failure h => h.stops,
    fun service h => ⟨h.stops.1, h.stops.2.2⟩, fun hcode => ?_⟩
  · -- a run that ended early or died would have another code
    have hearly (failure : Failure) (h : EndsEarly files request failure) : False := by
      have hstop : run.code = 1 := h.stops.1
      omega
    have hdies (service : String) (h : Dies files request service) : False := by
      have hstop : run.code = 134 := h.stops.1
      omega
    obtain ⟨survey, htake, hnames, handled, hall, told, hrun⟩ := exists_deliver hearly hdies
    refine ⟨survey, htake, hnames, handled, ?_⟩
    rcases deliver_cases files (told ++ summaryLines handled) (roots handled) request.output with
      ⟨-, hlines, hread, hkept⟩ | ⟨hfailed, -⟩
    · rw [← hrun] at hlines hread hkept
      obtain ⟨remarks, hsummary⟩ := exists_summaryLines_eq handled
      exact {
        handles := hall
        counts := (handled_counts handled).trans hall.length_eq.symm
        total := ⟨told ++ remarks, by rw [hlines, hsummary]; simp⟩
        skips := fun hskipped => hlines ▸ List.mem_append_left _
          (List.mem_append_right _ (skippedLine_mem_summaryLines hskipped))
        output := hread
        unchanged := hkept }
    · rw [← hrun] at hfailed
      exact absurd (hfailed.symm.trans hcode) (by decide)
  · by_contra hneither
    rw [not_or, not_or, not_exists, not_exists] at hneither
    obtain ⟨hearly, hdies, hnotRefused⟩ := hneither
    obtain ⟨survey, -, -, handled, -, told, hrun⟩ := exists_deliver hearly hdies
    rcases deliver_cases files (told ++ summaryLines handled) (roots handled) request.output with
      ⟨hdone, -⟩ | ⟨-, path, failure, hpath, hrefused, hlast⟩
    · rw [← hrun] at hdone
      exact hcode hdone
    · rw [← hrun] at hrefused hlast
      exact hnotRefused ⟨path, _, failure, hpath, hrefused, hlast⟩

namespace Lamps

/-- The documents of a service without resources. -/
def bare : FileNode := .directory [("2020", .directory [("service-2.json", .file "\x7b\x7d")])]

/-- A data directory with a service for each of the outcomes. -/
def shelf : DataDirectory :=
  ⟨⟨.directory [("iam", bare), ("lamp", lamp), ("sqs", broken)], []⟩, "."⟩

/-- Stubs of all services of the shelf are asked for, of the lamp twice. -/
def order : ParseRequest :=
  ⟨".", some ["lamp", "iam", "sqs", "lamp"], none, some "out/ir.json", false⟩

/-- Stubs are asked for where there is no data directory. -/
def misplaced : ParseRequest := { order with dataDirectory := "missing" }

theorem services_shelf : shelf.services = .ok ["iam", "lamp", "sqs"] :=
  congrArg Except.ok (List.mergeSort_of_pairwise (by decide))

/-- The stub classes of the lamp. -/
def root : ServiceResource where
  name := "LampServiceResource"
  service := .ofNames "lamp" "Lamp"
  methods := []
  attributes := []
  collections := []
  subResources := [⟨"Bulb", .ofNames "lamp" "Lamp", [], [], []⟩]

/-- Their JSON form. -/
def form : Json :=
  let service := Json.object [("name", .string "lamp"), ("class_name", .string "Lamp"),
    ("boto3_version", .string "latest")]
  .object [("name", .string "LampServiceResource"), ("service_name", service),
    ("methods", .array []), ("attributes", .array []), ("collections", .array []),
    ("sub_resources", .array [.object [("name", .string "Bulb"), ("service_name", service),
      ("methods", .array []), ("attributes", .array []), ("collections", .array [])]])]

/-- What is seen of the services that were handled: the stub classes, and what was skipped. -/
def seen (handled : List Handled) : List (Option ServiceResource) × Nat :=
  (handled.map (·.outcome.root?), skippedCount handled)

theorem roots_of_seen {handled : List Handled}
    (h : seen handled = ([some root, none, none, some root], 1)) :
    roots handled = [root, root] := by
  have hroots := congrArg (List.filterMap id) (Prod.mk.inj h).1
  rw [List.filterMap_map] at hroots
  exact hroots

theorem exists_plan_shelf : ∃ workshop,
    plan shelf.files order = .ok (workshop, ["lamp", "iam", "sqs", "lamp"]) ∧
      let run := workshop.handleAll ["lamp", "iam", "sqs", "lamp"]
      run.2 = none ∧ seen run.1 =
        ([some root, none, none, some root], 1) := by
  have hrun : (Survey.catalogOf shelf.session .default ["iam", "lamp", "sqs"]).map (fun catalog =>
      let run := Workshop.handleAll ⟨shelf.session, catalog, Config.default.summaryLimit⟩
        ["lamp", "iam", "sqs", "lamp"]
      (run.2, seen run.1)) = .ok (none,
        ([some root, none, none, some root], 1)) := by
    decide +kernel
  cases hcatalog : Survey.catalogOf shelf.session .default ["iam", "lamp", "sqs"] with
  | error failure =>
    rw [hcatalog] at hrun
    cases hrun
  | ok catalog =>
    rw [hcatalog] at hrun
    exact ⟨_, plan_of_ok rfl rfl services_shelf hcatalog, Prod.mk.inj (Except.ok.inj hrun)⟩

theorem code_deliver_shelf (told : List Line) (built : List ServiceResource) :
    (deliver shelf.files told built order.output).code = 0 := by
  have haround : Path.around "out/ir.json" = "out" := by decide +kernel
  simp only [deliver, order, makeRoom, haround]
  rfl

end Lamps

/-- The lamp is built twice, one service has no resources, and one is skipped. The output is an
array with the stub classes of the lamp twice. Without the data directory no output is written. -/
theorem parseRun_accounts_shelf :
    (∃ survey handled text,
      Accounts Lamps.shelf.files Lamps.order survey ["lamp", "iam", "sqs", "lamp"] handled
        (parseRun Lamps.shelf.files Lamps.order) ∧
      Lamps.seen handled = ([some Lamps.root, none, none, some Lamps.root], 1) ∧
      (parseRun Lamps.shelf.files Lamps.order).files.read "out/ir.json" = .ok text ∧
      Json.read? text = some (.array [Lamps.form, Lamps.form])) ∧
    (parseRun Lamps.shelf.files Lamps.misplaced).code = 1 ∧
      (parseRun Lamps.shelf.files Lamps.misplaced).files = Lamps.shelf.files := by
  constructor
  · obtain ⟨workshop, hplan, hstop, hseen⟩ := Lamps.exists_plan_shelf
    obtain ⟨lines, hrun⟩ := delivers_of_plan hplan hstop
    have hcode : (parseRun Lamps.shelf.files Lamps.order).code = 0 :=
      hrun ▸ Lamps.code_deliver_shelf _ _
    obtain ⟨survey, htake, -, handled, haccounts⟩ :=
      (parseRun_accounts Lamps.shelf.files Lamps.order).1 hcode
    obtain ⟨text, hread, hholds⟩ := haccounts.output "out/ir.json" rfl
    rw [Survey.plan_eq, htake] at hplan
    obtain ⟨rfl, -⟩ := Prod.mk.inj (Except.ok.inj hplan)
    have hall : survey.workshop.handleAll ["lamp", "iam", "sqs", "lamp"] = (handled, none) :=
      Workshop.handleAll_of_forall₂ haccounts.handles
    rw [hall] at hseen
    have hroots := Lamps.roots_of_seen hseen
    rw [hroots] at hholds
    exact ⟨survey, handled, text, haccounts, hseen, hread, hholds.read _ (by decide)⟩
  · have hearly : EndsEarly Lamps.shelf.files Lamps.misplaced _ := .listing rfl rfl
    obtain ⟨hcode, -, hfiles⟩ := (parseRun_accounts Lamps.shelf.files Lamps.misplaced).2.1 _ hearly
    exact ⟨hcode, hfiles⟩

namespace Lamps

/-- The documents of a chain, whose links are lists of links. -/
def chain : FileNode := .directory [("2020", .directory [
  ("service-2.json", .file <| "\x7b\"shapes\": \x7b\"Link\": \x7b\"type\": \"list\", " ++
    "\"member\": \x7b\"shape\": \"Link\"\x7d\x7d, \"Chain\": \x7b\"type\": \"structure\", " ++
    "\"members\": \x7b\"Next\": \x7b\"shape\": \"Link\"\x7d\x7d\x7d\x7d\x7d"),
  ("resources-1.json",
    .file "\x7b\"resources\": \x7b\"Chain\": \x7b\"shape\": \"Chain\"\x7d\x7d\x7d")])]

/-- The run dies at the chain. -/
example : (parseRun ⟨.directory [("chain", chain)], []⟩
    ⟨".", some ["chain"], none, none, false⟩).code = 134 := by decide +kernel

end Lamps

end ResourceStubs.Command
