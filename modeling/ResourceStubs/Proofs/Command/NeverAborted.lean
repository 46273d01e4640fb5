import ResourceStubs.Proofs.Command.Accounts

/-! No run is aborted. A run over several services stops at an error that is fatal, and that is only
a model found under another name than its own. A session that reads documents from texts reads the
model of a service for the service, so that nothing that is asked of it meets one. No call of the
program tells that it aborts. -/

namespace ResourceStubs.Command

open Fallible

/-- No run ends early at an error of a service that skipping it does not mend. -/
theorem not_endsEarly_aborted (files : FileSystem) (request : ParseRequest) (service : String)
    (e : Error) : ¬EndsEarly files request (.aborted service e) := by
  intro h
  cases h with
  | @aborted workshop _ _ _ _ found _ hplan _ _ hresult hfatal =>
    rw [Survey.plan_eq] at hplan
    obtain ⟨survey, htake, hplan⟩ := bind_eq_ok.mp hplan
    obtain ⟨config, -, htake⟩ := bind_eq_ok.mp htake
    obtain ⟨discovered, -, htake⟩ := bind_eq_ok.mp htake
    obtain ⟨catalog, -, htake⟩ := bind_eq_ok.mp htake
    obtain rfl := Except.ok.inj htake
    split at hplan
    next => cases hplan
    next =>
      obtain ⟨rfl, -⟩ := Prod.mk.inj (Except.ok.inj hplan)
      have hown := (DataDirectory.mk files request.dataDirectory).ownDocuments found.name
      have hskips : e.isFatal = false :=
        hown.neverFatal_stubsFromShapes config.summaryLimit e hresult
      rw [hfatal] at hskips
      cases hskips

/-! ### What is told -/

/-- The line tells that a run is aborted. -/
def Line.TellsAbort (line : Line) : Prop :=
  ∃ text, line = .err text ∧ "Error: Aborting at ".toList <+: text.toList

theorem Line.not_tellsAbort_out (text : String) : ¬(Line.out text).TellsAbort := by
  rintro ⟨text, h, -⟩
  cases h

/-- Such a text has an `A` in its eighth place. -/
theorem Line.TellsAbort.getElem?_eq {text : String} (h : (Line.err text).TellsAbort) :
    text.toList[7]? = some 'A' := by
  obtain ⟨_, heq, rest, hrest⟩ := h
  cases heq
  rw [← hrest]
  rfl

/-- A text that begins with another letter there does not. -/
theorem Line.not_tellsAbort_of_start (start rest : String) {c : Char}
    (hstart : start.toList[7]? = some c) (hc : c ≠ 'A') :
    ¬(Line.err (start ++ rest)).TellsAbort := by
  intro h
  have hplace := h.getElem?_eq
  have hlength := (List.getElem?_eq_some_iff.mp hstart).1
  rw [String.toList_append, List.getElem?_append_left hlength, hstart] at hplace
  exact hc (Option.some.inj hplace)

theorem exists_text_eq (failure : Failure) :
    ∃ rest, failure.text.toList = "Error: ".toList ++ (failure.headline.toList ++ rest) := by
  rw [Failure.text]
  cases failure.causes with
  | nil => exact ⟨[], by simp [toString, String.toList_append]⟩
  | cons cause causes =>
    dsimp only
    rw [String.intercalate_cons_of_ne_nil (List.cons_ne_nil _ _)]
    simp only [String.toList_append, List.append_assoc, toString]
    exact ⟨_, rfl⟩

/-- The failure of a run that is aborted is told so. -/
theorem tellsAbort_aborted (service : String) (e : Error) :
    (Line.err (Failure.aborted service e).text).TellsAbort := by
  obtain ⟨rest, hrest⟩ := exists_text_eq (.aborted service e)
  have hheadline : (Failure.aborted service e).headline = "Aborting at " ++ service := rfl
  refine ⟨_, rfl, ?_⟩
  rw [hrest, hheadline, String.toList_append]
  simp

/-- A failure whose headline begins otherwise is not. -/
theorem not_tellsAbort_of_headline {failure : Failure} (start rest : String)
    (hheadline : failure.headline = start ++ rest)
    (hstart : start.toList.head?.any (· ≠ 'A') = true) : ¬(Line.err failure.text).TellsAbort := by
  intro h
  obtain ⟨causes, htext⟩ := exists_text_eq failure
  have hplace := h.getElem?_eq
  rw [htext, hheadline, String.toList_append] at hplace
  cases hchars : start.toList with
  | nil => simp [hchars] at hstart
  | cons c others =>
    rw [hchars] at hplace hstart
    have hc : c = 'A' := Option.some.inj hplace
    simp [hc] at hstart

theorem not_tellsAbort_unknown (name : String) :
    ¬(Line.err (Failure.unknown (.serviceNotFound name)).text).TellsAbort :=
  not_tellsAbort_of_headline "Unknown service " name rfl (by decide)

theorem find_eq_error {catalog : Catalog} {name : String} {e : Error}
    (h : catalog.find name = .error e) : e = .serviceNotFound name := by
  rw [Catalog.find] at h
  split at h <;> cases h
  rfl

/-- A run that ends early does not tell so. -/
theorem EndsEarly.not_tellsAbort {files : FileSystem} {request : ParseRequest} {failure : Failure}
    (h : EndsEarly files request failure) : ¬(Line.err failure.text).TellsAbort := by
  cases h with
  | config =>
    exact not_tellsAbort_of_headline "Failed to load config" "" String.append_empty.symm (by decide)
  | listing => exact not_tellsAbort_of_headline "Failed to list services in " _ rfl (by decide)
  | @model _ _ name =>
    exact not_tellsAbort_of_headline "Failed to load service model for " name rfl (by decide)
  | nothingSelected =>
    exact not_tellsAbort_of_headline "No services to parse" "" String.append_empty.symm (by decide)
  | unknown _ _ hfind =>
    obtain rfl := find_eq_error hfind
    exact not_tellsAbort_unknown _
  | aborted hplan hbefore hfind hresult hfatal =>
    exact absurd (.aborted hplan hbefore hfind hresult hfatal) (not_endsEarly_aborted _ _ _ _)

/-- No line tells that a run is aborted. -/
def Quiet (lines : List Line) : Prop := ∀ line ∈ lines, ¬line.TellsAbort

theorem quiet_append {lines lines' : List Line} :
    Quiet (lines ++ lines') ↔ Quiet lines ∧ Quiet lines' := List.forall_mem_append

theorem quiet_cons {line : Line} {lines : List Line} :
    Quiet (line :: lines) ↔ ¬line.TellsAbort ∧ Quiet lines := List.forall_mem_cons

theorem quiet_map_out (texts : List String) : Quiet (texts.map .out) := by
  intro line hline
  obtain ⟨text, -, rfl⟩ := List.mem_map.mp hline
  exact Line.not_tellsAbort_out text

theorem quiet_lines (handled : Handled) (verbose : Bool) : Quiet (handled.lines verbose) := by
  rw [Handled.lines]
  cases handled.outcome with
  | parsed root =>
    cases verbose with
    | false => exact quiet_map_out [_]
    | true => exact quiet_map_out [_, _, _, _]
  | withoutResources => exact quiet_map_out [_]
  | skipped e =>
    refine List.forall_mem_singleton.mpr ?_
    simp only [toString, String.append_assoc]
    exact Line.not_tellsAbort_of_start "⚠ Skipping " _ (by simp; rfl) (by decide)

theorem quiet_handledLines (verbose : Bool) (total : Nat) (handled : List Handled) :
    Quiet (handledLines verbose total handled) := by
  intro line hline
  obtain ⟨⟨h, i⟩, -, hline⟩ := List.mem_flatMap.mp hline
  rcases List.mem_cons.mp hline with rfl | hline
  · exact Line.not_tellsAbort_out _
  · exact quiet_lines h verbose line hline

theorem quiet_summaryLines (handled : List Handled) : Quiet (summaryLines handled) := by
  rw [summaryLines]
  by_cases h : skippedCount handled = 0
  · simp only [h, if_true]
    exact quiet_map_out ["", _]
  · simp only [h, if_false]
    exact quiet_map_out ["", _, "", _]

theorem quiet_deliver {files : FileSystem} {told : List Line} (h : Quiet told)
    (built : List ServiceResource) (output : Option String) :
    Quiet (deliver files told built output).lines := by
  have hrefused {failure : Failure} (hfailure : ¬(Line.err failure.text).TellsAbort) :
      Quiet (told ++ [.err failure.text]) :=
    quiet_append.mpr ⟨h, List.forall_mem_singleton.mpr hfailure⟩
  cases output with
  | none => exact h
  | some path =>
    rw [deliver, makeRoom]
    split
    next made failure hroom =>
      split at hroom
      next => cases hroom
      next =>
        obtain ⟨e, -, rfl⟩ := Option.map_eq_some_iff.mp (Prod.mk.inj hroom).2
        exact hrefused (not_tellsAbort_of_headline "Failed to create " _ rfl (by decide))
    next =>
      split
      next => exact hrefused (not_tellsAbort_of_headline "Failed to write " path rfl (by decide))
      next => exact quiet_append.mpr ⟨h, quiet_map_out [_]⟩

theorem quiet_parseRun (files : FileSystem) (request : ParseRequest) :
    Quiet (parseRun files request).lines := by
  rw [parseRun]
  cases hplan : plan files request with
  | error failure =>
    have hearly : EndsEarly files request failure := endsEarly_iff.mpr (.inl hplan)
    exact quiet_cons.mpr ⟨Line.not_tellsAbort_out _,
      List.forall_mem_singleton.mpr hearly.not_tellsAbort⟩
  | ok todo =>
    obtain ⟨workshop, names⟩ := todo
    cases hrun : workshop.handleAll names with
    | mk handled stop =>
      have hhandled := quiet_handledLines request.verbose names.length handled
      simp only [hrun]
      cases stop with
      | none =>
        exact quiet_deliver (quiet_append.mpr
          ⟨quiet_cons.mpr ⟨Line.not_tellsAbort_out _, hhandled⟩, quiet_summaryLines handled⟩) _ _
      | some stop =>
        cases stop with
        | failed failure =>
          have hearly : EndsEarly files request failure :=
            endsEarly_iff.mpr (.inr ⟨workshop, names, hplan, handled, hrun⟩)
          refine quiet_append.mpr ⟨quiet_cons.mpr ⟨Line.not_tellsAbort_out _, hhandled⟩, ?_⟩
          intro line hline
          cases failure with
          | aborted service e => exact absurd hearly (not_endsEarly_aborted _ _ _ _)
          | _ => exact List.mem_singleton.mp hline ▸ hearly.not_tellsAbort
        | died service =>
          exact quiet_append.mpr ⟨quiet_cons.mpr ⟨Line.not_tellsAbort_out _, hhandled⟩,
            quiet_map_out [_]⟩

theorem quiet_serviceLines (catalog : Catalog) (names : List String) :
    Quiet (serviceLines catalog names).1 ∧
      ∀ failure, (serviceLines catalog names).2 = some failure →
        ¬(Line.err failure.text).TellsAbort := by
  induction names with
  | nil => exact ⟨by simp [serviceLines, Quiet], nofun⟩
  | cons name names ih =>
    rw [serviceLines]
    split
    next e hfind =>
      obtain rfl := find_eq_error hfind
      refine ⟨by simp [Quiet], fun failure h => ?_⟩
      obtain rfl := Option.some.inj h
      exact not_tellsAbort_unknown name
    next => exact ⟨quiet_cons.mpr ⟨Line.not_tellsAbort_out _, ih.1⟩, ih.2⟩

theorem quiet_servicesRun (files : FileSystem) (directory : String) (config : Option String) :
    Quiet (servicesRun files directory config).lines := by
  rw [servicesRun]
  cases htake : Survey.take files directory config with
  | error failure =>
    -- a survey fails for what it fails for where stubs are built
    let request : ParseRequest := ⟨directory, none, config, none, false⟩
    have hplan : plan files request = .error failure := by
      rw [Survey.plan_eq, htake]
      rfl
    exact List.forall_mem_singleton.mpr (endsEarly_iff.mpr (.inl hplan)).not_tellsAbort
  | ok survey =>
    obtain ⟨hlines, hstop⟩ := quiet_serviceLines survey.catalog survey.discovered
    have htold : Quiet (.out "Services:" :: (serviceLines survey.catalog survey.discovered).1) :=
      quiet_cons.mpr ⟨Line.not_tellsAbort_out _, hlines⟩
    dsimp only
    split
    next failure heq =>
      exact quiet_append.mpr ⟨htold, List.forall_mem_singleton.mpr (hstop failure heq)⟩
    next => exact quiet_append.mpr ⟨htold, quiet_map_out ["", _]⟩

/-- Whatever the program is called with, it does not tell that it aborts. -/
theorem quiet_call (files : FileSystem) (arguments : List String) :
    Quiet (call files arguments).lines := by
  rw [call]
  cases read arguments with
  | ok command =>
    cases command with
    | parse request => exact quiet_parseRun files request
    | services directory config => exact quiet_servicesRun files directory config
  | error interruption =>
    cases interruption with
    | misuse =>
      have husage : Level.usage .top = _ := String.intercalate_cons_of_ne_nil (List.cons_ne_nil _ _)
      rw [String.append_assoc] at husage
      refine List.forall_mem_singleton.mpr (husage ▸ ?_)
      exact Line.not_tellsAbort_of_start _ _ (c := 'y') (by simp) (by decide)
    | help level => exact quiet_map_out [_]
    | version => exact quiet_map_out [_]

/-! ### Sessions that read documents from texts -/

/-- Nothing that is asked of a session that reads documents from texts raises a fatal error: neither
the service resource, nor the resources below it, though services were registered anew in between,
nor the shapes that signatures are read from, nor the stub classes, unless the oracle raises one. So
no run is aborted, and no call tells that it is. -/
theorem neverFatal_of_readsTexts :
    (∀ (session earlier : Session) (service : ServiceName), session.ReadsTexts →
      earlier.ReadsTexts → NeverFatal (session.resource service) ∧
      (∀ parent, earlier.resource service = .ok (some parent) →
        NeverFatal (session.subResources service parent)) ∧
      NeverFatal (ShapeSource.ofSession session service) ∧
      (∀ (oracle : Oracle) (limit : Nat), oracle.NeverFatal →
        NeverFatal (session.stubs oracle service limit)) ∧
      ∀ limit, NeverFatal (session.stubsFromShapes service limit)) ∧
    ∀ files : FileSystem,
      (∀ request service e, ¬EndsEarly files request (.aborted service e)) ∧
      ∀ arguments, Quiet (call files arguments).lines := by
  refine ⟨fun session earlier service hsession hearlier => ?_,
    fun files => ⟨not_endsEarly_aborted files, quiet_call files⟩⟩
  have hown := hsession.ownDocuments service.name
  exact ⟨hown.mild_resource.neverFatal,
    fun parent hparent =>
      (hown.mild_subResources (hearlier.ownDocuments service.name) hparent).neverFatal,
    hown.mild_ofSession.neverFatal, fun oracle limit horacle => hown.neverFatal_stubs horacle limit,
    hown.neverFatal_stubsFromShapes⟩

/-! ### A ferry that is registered twice -/

namespace Ferries

def ferry : ServiceName := .ofNames "ferry" "Ferry"

/-- A service with a resource type. -/
def registered : Except Error MemoryStore :=
  MemoryStore.empty.withService "ferry" "\x7b\x7d"
    (some "\x7b\"resources\": \x7b\"Deck\": \x7b\x7d\x7d\x7d") none

/-- The same service again, with another model and without resource types. -/
def registeredAgain (store : MemoryStore) : Except Error MemoryStore :=
  store.withService "ferry" "\x7b\"documentation\": \"second\"\x7d" none none

theorem exists_registered : ∃ first second parent,
    registered = .ok first ∧ registeredAgain first = .ok second ∧
      first.session.resource ferry = .ok (some parent) := ⟨_, _, _, rfl, rfl, rfl⟩

end Ferries

/-- The service resource of the first registration is asked for the resources below it after the
second. -/
theorem neverFatal_of_readsTexts_ferries : ∃ first second parent,
    Ferries.registered = .ok first ∧ Ferries.registeredAgain first = .ok second ∧
      first.session.resource Ferries.ferry = .ok (some parent) ∧
      NeverFatal (second.session.subResources Ferries.ferry parent) ∧
      NeverFatal (first.session.stubs .silent Ferries.ferry 300) := by
  obtain ⟨first, second, parent, hfirst, hsecond, hparent⟩ := Ferries.exists_registered
  have hregistered : first.Registered := .withService .empty hfirst
  have hboth := neverFatal_of_readsTexts.1
  obtain ⟨-, hsubResources, -⟩ := hboth second.session first.session Ferries.ferry
    (.store (.withService hregistered hsecond)) (.store hregistered)
  obtain ⟨-, -, -, hstubs, -⟩ := hboth first.session first.session Ferries.ferry
    (.store hregistered) (.store hregistered)
  refine ⟨first, second, parent, hfirst, hsecond, hparent, hsubResources parent hparent,
    hstubs .silent 300 fun asked => ?_⟩
  cases asked <;> exact .ok _

end ResourceStubs.Command
