import ResourceStubs.Proofs.Files.Tree
import ResourceStubs.Proofs.Session.Agreement
import ResourceStubs.Proofs.Fallible
import ResourceStubs.Proofs.Text.Bytes
import ResourceStubs.Session.Directory
import ResourceStubs.Session.Memory

/-! Data directories. What counts of a document of a service is its text in the greatest version
that has it. A session over the directory looks it up again whenever it is asked, and yet it has the
documents of a store that holds just these texts. Nothing depends on the order in which directories
list their entries. -/

namespace ResourceStubs

open Fallible

namespace Session

/-- The session gives for a service what the texts of its documents say. Without a service model
there is no service; without a resource document there are no resources; without a waiter model the
service is unknown to waits. -/
structure AnswersWith (session : Session) (name : String)
    (model? resources? waiters? : Option String) : Prop where
  missing : model? = none → session.serviceModel name = .error (.serviceNotFound name) ∧
    session.resourceDocument name = .error (.serviceNotFound name) ∧
    session.waiterModel name = .error (.serviceNotFound name)
  model : ∀ text, model? = some text → session.serviceModel name = ServiceModel.read name text
  resources : model?.isSome = true →
    session.resourceDocument name = readOptional ResourceDocument.read resources?
  waiters : model?.isSome = true → session.waiterModel name =
    match waiters? with
    | some text => WaiterModel.read text
    | none => .error (.unknownService name)

/-- Where the texts can be read, a store that they are put into has the same documents. -/
theorem AnswersWith.exists_store {session : Session} {name text : String}
    {resources? waiters? : Option String}
    (h : session.AnswersWith name (some text) resources? waiters?) {model : ServiceModel}
    {resources : Option ResourceDocument} {waiters : Option WaiterModel}
    (hmodel : ServiceModel.read name text = .ok model)
    (hresources : readOptional ResourceDocument.read resources? = .ok resources)
    (hwaiters : readOptional WaiterModel.read waiters? = .ok waiters) (store : MemoryStore) :
    ∃ store', store.withService name text resources? waiters? = .ok store' ∧
      AgreeOn name session store'.session := by
  have hdocuments : ServiceDocuments.read name text resources? waiters? =
      .ok ⟨model, resources, waiters⟩ := by
    rw [ServiceDocuments.read, hmodel, hresources, hwaiters]
    rfl
  have hstored : (store.insert name ⟨model, resources, waiters⟩).documents name =
      .ok ⟨model, resources, waiters⟩ := by
    rw [MemoryStore.documents, MemoryStore.insert, Dict.get?_insert, if_pos rfl]
  refine ⟨store.insert name ⟨model, resources, waiters⟩, ?_, ?_, ?_, ?_⟩
  · rw [MemoryStore.withService, hdocuments]
    rfl
  · simp only [h.resources rfl, hresources, MemoryStore.session, hstored, map_ok]
  · simp only [h.model text rfl, hmodel, MemoryStore.session, hstored, map_ok]
  · simp only [h.waiters rfl, MemoryStore.session, hstored, ok_bind]
    cases waiters? with
    | none =>
      obtain rfl := Except.ok.inj hwaiters
      rfl
    | some text' =>
      obtain ⟨model', hmodel', rfl⟩ := map_eq_ok.mp hwaiters
      exact hmodel'

end Session

namespace DataDirectory

variable (data : DataDirectory)

/-- Where the data directory is. -/
def place : Location := data.files.locate data.root

/-- A version of a service has a file with the text. -/
def Holds (service file version text : String) : Prop :=
  Location.IsPlain version ∧
    data.files.nodeAt (data.place ++ [service, version, file]) = .ok (.file text)

/-- The version has the file with the text, and byte by byte all others that have the file come
before it. -/
structure Latest (service file version text : String) : Prop where
  holds : data.Holds service file version text
  greatest : ∀ other text', data.Holds service file other text' → other ≠ version →
    Text.bytes other < Text.bytes version

/-- The text of the file that counts, if any version has the file. -/
def Chooses (service file : String) : Option String → Prop
  | some text => ∃ version, data.Latest service file version text
  | none => ∀ version text, ¬data.Holds service file version text

variable {data} {service file : String}

/-- Of the texts of a file one counts. -/
theorem Chooses.eq {text? text?' : Option String} (h : data.Chooses service file text?)
    (h' : data.Chooses service file text?') : text? = text?' := by
  cases text? with
  | none =>
    cases text?' with
    | none => rfl
    | some text' =>
      obtain ⟨version, hlatest⟩ := h'
      exact (h _ _ hlatest.holds).elim
  | some text =>
    obtain ⟨version, hlatest⟩ := h
    cases text?' with
    | none => exact (h' _ _ hlatest.holds).elim
    | some text' =>
      obtain ⟨version', hlatest'⟩ := h'
      have hversion : version = version' := by
        by_contra hne
        have hlt := hlatest.greatest _ _ hlatest'.holds (Ne.symm hne)
        exact List.lt_asymm hlt (hlatest'.greatest _ _ hlatest.holds hne)
      subst hversion
      have hfile := hlatest.holds.2.symm.trans hlatest'.holds.2
      injection hfile with hfile
      injection hfile with htext
      rw [htext]

/-! ### The greatest version -/

/-- The latest of several versions is one of them, and none of them is greater. -/
theorem foldl_later (before : String × String) (texts : List (String × String)) :
    ∃ best, texts.foldl later (some before) = some best ∧ best ∈ before :: texts ∧
      ∀ other ∈ before :: texts, other.1 ≤ best.1 := by
  induction texts generalizing before with
  | nil => exact ⟨before, rfl, List.mem_singleton_self before, by simp⟩
  | cons next texts ih =>
    rw [List.foldl_cons, later]
    split
    next hlt =>
      obtain ⟨best, hbest, hmem, hgreatest⟩ := ih next
      refine ⟨best, hbest, List.mem_cons_of_mem _ hmem, List.forall_mem_cons.mpr ⟨?_, hgreatest⟩⟩
      exact hlt.le.trans (hgreatest next List.mem_cons_self)
    next hle =>
      obtain ⟨best, hbest, hmem, hgreatest⟩ := ih before
      obtain ⟨hbefore, htexts⟩ := List.forall_mem_cons.mp hgreatest
      refine ⟨best, hbest, ?_, ?_⟩
      · exact List.cons_subset_cons _ (List.subset_cons_self _ _) hmem
      · refine List.forall_mem_cons.mpr ⟨hbefore, List.forall_mem_cons.mpr ⟨?_, htexts⟩⟩
        exact (not_lt.mp hle).trans hbefore

/-- What a choice among versions comes to. -/
theorem latest?_spec (file : String) (versions : List (String × FileNode)) :
    (textsOf file versions = [] ∧ latest? file versions = none) ∨
      ∃ best ∈ textsOf file versions, latest? file versions = some best.2 ∧
        ∀ other ∈ textsOf file versions, other.1 ≤ best.1 := by
  rw [latest?]
  cases textsOf file versions with
  | nil => exact .inl ⟨rfl, rfl⟩
  | cons first texts =>
    obtain ⟨best, hbest, hmem, hgreatest⟩ := foldl_later first texts
    refine .inr ⟨best, hmem, ?_, hgreatest⟩
    rw [List.foldl_cons, later, hbest]
    rfl

theorem mem_textsOf_iff {versions : List (String × FileNode)} {version text : String} :
    (version, text) ∈ textsOf file versions ↔
      ∃ node, (version, node) ∈ versions ∧ node.child? file = some (.file text) := by
  rw [textsOf, List.mem_filterMap]
  constructor
  · rintro ⟨⟨version', node⟩, hmem, htext⟩
    obtain ⟨text', htext', heq⟩ := Option.map_eq_some_iff.mp htext
    obtain ⟨child, hchild, hfile⟩ := Option.bind_eq_some_iff.mp htext'
    obtain ⟨rfl, rfl⟩ := Prod.mk.inj heq
    cases child with
    | file content =>
      obtain rfl := Option.some.inj hfile
      exact ⟨node, hmem, hchild⟩
    | directory entries => cases hfile
  · rintro ⟨node, hmem, hchild⟩
    exact ⟨_, hmem, by simp [hchild, FileNode.text?]⟩

/-! ### What the tree has of a service -/

theorem versions?_eq_some_iff (hservice : Location.IsPlain service)
    {versions : List (String × FileNode)} :
    data.versions? service = some versions ↔
      data.files.nodeAt (data.place ++ [service]) = .ok (.directory versions) := by
  rw [versions?, hservice.join_eq, place]
  split <;> simp_all

/-- A version has a file exactly if the texts of the file among the versions of the service have
it. -/
theorem holds_iff (htree : data.files.top.WellFormed) (hservice : Location.IsPlain service)
    (hfile : Location.IsPlain file) {version text : String} :
    data.Holds service file version text ↔
      ∃ versions, data.versions? service = some versions ∧
        (version, text) ∈ textsOf file versions := by
  simp only [versions?_eq_some_iff hservice, mem_textsOf_iff]
  have hsteps : data.place ++ [service, version, file] =
      ((data.place ++ [service]) ++ [version]) ++ [file] := by simp
  constructor
  · rintro ⟨hversion, hnode⟩
    rw [hsteps, FileSystem.nodeAt_append_eq_ok_iff hfile] at hnode
    obtain ⟨node, hnode, hchild⟩ := hnode
    obtain ⟨parent, hparent, hentry⟩ := (FileSystem.nodeAt_append_eq_ok_iff hversion).mp hnode
    cases parent with
    | file content => cases hentry
    | directory versions => exact ⟨versions, hparent, node, Dict.mem_of_lookup hentry, hchild⟩
  · rintro ⟨versions, hversions, node, hmem, hchild⟩
    have hwell := FileSystem.wellFormed_of_nodeAt htree hversions
    have hversion : Location.IsPlain version := by
      cases hwell with
      | directory _ plain _ => exact plain _ hmem
    refine ⟨hversion, ?_⟩
    rw [hsteps, FileSystem.nodeAt_append_eq_ok_iff hfile]
    refine ⟨node, (FileSystem.nodeAt_append_eq_ok_iff hversion).mpr ⟨_, hversions, ?_⟩, hchild⟩
    exact hwell.lookup_eq_some_iff.mpr hmem

/-- A document of a service is the text that counts. -/
theorem chooses_document? (data : DataDirectory) (htree : data.files.top.WellFormed)
    (hservice : Location.IsPlain service) (hfile : Location.IsPlain file) :
    data.Chooses service file (data.document? service file) := by
  have hholds {version text : String} :
      data.Holds service file version text ↔ ∃ versions, data.versions? service = some versions ∧
        (version, text) ∈ textsOf file versions := holds_iff htree hservice hfile
  rw [document?]
  cases hversions : data.versions? service with
  | none =>
    intro version text h
    obtain ⟨versions, hv, -⟩ := hholds.mp h
    rw [hversions] at hv
    cases hv
  | some versions =>
    rw [Option.bind_some]
    simp only [hversions, Option.some.injEq, exists_eq_left'] at hholds
    rcases latest?_spec file versions with ⟨hnone, heq⟩ | ⟨best, hmem, heq, hgreatest⟩
    · rw [heq]
      intro version text h
      exact List.not_mem_nil (hnone ▸ hholds.mp h)
    · rw [heq]
      refine ⟨best.1, hholds.mpr hmem, fun other text' h hne => ?_⟩
      exact Text.bytes_lt_iff.mpr (lt_of_le_of_ne (hgreatest _ (hholds.mp h)) hne)

/-! ### The services -/

theorem isService_iff {node : FileNode} :
    isService node = true ↔
      ∃ versions, node = .directory versions ∧ (latest? serviceFile versions).isSome = true := by
  cases node <;> simp [isService]

/-- A service is an entry of the data directory that has a service model. -/
theorem exists_isService_iff (data : DataDirectory) (htree : data.files.top.WellFormed)
    {entries : List (String × FileNode)} (hroot : data.files.list data.root = .ok entries)
    {name : String} :
    (∃ node, (name, node) ∈ entries ∧ isService node = true) ↔
      Location.IsPlain name ∧ ∃ version text, data.Holds name serviceFile version text := by
  have hplace := (FileSystem.list_eq_ok_iff.mp hroot).2
  have hwell := FileSystem.wellFormed_of_nodeAt htree hplace
  have hentry {node : FileNode} (hname : Location.IsPlain name) :
      data.files.nodeAt (data.place ++ [name]) = .ok node ↔ (name, node) ∈ entries := by
    rw [FileSystem.nodeAt_append_eq_ok_iff hname, ← hwell.lookup_eq_some_iff]
    change (∃ parent, data.files.nodeAt (data.files.locate data.root) = .ok parent ∧ _) ↔ _
    simp [hplace, FileNode.child?]
  have hchosen (hname : Location.IsPlain name) :
      (data.document? name serviceFile).isSome = true ↔
        ∃ version text, data.Holds name serviceFile version text := by
    have h := data.chooses_document? htree hname (by decide : Location.IsPlain serviceFile)
    cases hdocument : data.document? name serviceFile with
    | none =>
      rw [hdocument] at h
      simpa [Chooses] using h
    | some text =>
      rw [hdocument] at h
      obtain ⟨version, hlatest⟩ := h
      simpa using ⟨version, text, hlatest.holds⟩
  constructor
  · rintro ⟨node, hmem, hservice⟩
    have hname : Location.IsPlain name := by
      cases hwell with
      | directory _ plain _ => exact plain _ hmem
    obtain ⟨versions, rfl, hlatest⟩ := isService_iff.mp hservice
    have hversions := (versions?_eq_some_iff hname).mpr ((hentry hname).mpr hmem)
    refine ⟨hname, (hchosen hname).mp ?_⟩
    rw [document?, hversions]
    exact hlatest
  · rintro ⟨hname, hholds⟩
    have hsome := (hchosen hname).mpr hholds
    rw [document?] at hsome
    cases hversions : data.versions? name with
    | none =>
      rw [hversions] at hsome
      cases hsome
    | some versions =>
      rw [hversions] at hsome
      have hnode := (versions?_eq_some_iff hname).mp hversions
      exact ⟨_, (hentry hname).mp hnode, isService_iff.mpr ⟨versions, rfl, hsome⟩⟩

/-- The services are the entries that have a service model, in the order of their bytes. -/
theorem exists_services (data : DataDirectory) (htree : data.files.top.WellFormed)
    {entries : List (String × FileNode)} (hroot : data.files.list data.root = .ok entries) :
    ∃ names, data.services = .ok names ∧
      names.Pairwise (fun a b => Text.bytes a < Text.bytes b) ∧
      ∀ name, name ∈ names ↔
        Location.IsPlain name ∧ ∃ version text, data.Holds name serviceFile version text := by
  have hplace := (FileSystem.list_eq_ok_iff.mp hroot).2
  have hwell := FileSystem.wellFormed_of_nodeAt htree hplace
  have hnodup : ((entries.filter (isService ·.2)).map Prod.fst).Nodup := by
    cases hwell with
    | directory nodup _ _ => exact nodup.sublist (List.filter_sublist.map _)
  refine ⟨_, by rw [services, hroot], ?_, fun name => ?_⟩
  · have hsorted := List.pairwise_mergeSort' (· ≤ ·) ((entries.filter (isService ·.2)).map Prod.fst)
    have hdistinct :=
      (List.mergeSort_perm _ (fun a b : String => decide (a ≤ b))).nodup_iff.mpr hnodup
    refine (hsorted.and hdistinct).imp fun {a b} ⟨hle, hne⟩ => ?_
    exact Text.bytes_lt_iff.mpr (lt_of_le_of_ne hle hne)
  · rw [← data.exists_isService_iff htree hroot, List.mem_mergeSort, List.mem_map]
    constructor
    · rintro ⟨entry, hmem, rfl⟩
      obtain ⟨hentry, hservice⟩ := List.mem_filter.mp hmem
      exact ⟨entry.2, hentry, hservice⟩
    · rintro ⟨node, hmem, hservice⟩
      exact ⟨(name, node), List.mem_filter.mpr ⟨hmem, hservice⟩, rfl⟩

/-- The services have names of entries. -/
theorem isPlain_of_mem_services (htree : data.files.top.WellFormed) {names : List String}
    (hnames : data.services = .ok names) {name : String} (hmem : name ∈ names) :
    Location.IsPlain name := by
  obtain ⟨entries, hroot⟩ : ∃ entries, data.files.list data.root = .ok entries := by
    rw [services] at hnames
    split at hnames
    next entries hroot => exact ⟨entries, hroot⟩
    next => cases hnames
  obtain ⟨names', hnames', -, hspec⟩ := data.exists_services htree hroot
  obtain rfl := Except.ok.inj (hnames.symm.trans hnames')
  exact ((hspec name).mp hmem).1

/-! ### What a session over the directory answers -/

theorem holds_iff_of_relisted {files' : FileSystem}
    (hwork : files'.workingDirectory = data.files.workingDirectory)
    (hrelisted : data.files.top.Relisted files'.top) {version text : String} :
    DataDirectory.Holds ⟨files', data.root⟩ service file version text ↔
      data.Holds service file version text := by
  have hplace : DataDirectory.place ⟨files', data.root⟩ = data.place := by
    simp only [place, FileSystem.locate, hwork]
  rw [Holds, Holds, hplace, FileSystem.text_of_relisted hrelisted]

/-- The text that counts does not depend on the order in which directories list their entries. -/
theorem document?_eq_of_relisted {files' : FileSystem} (htree : data.files.top.WellFormed)
    (hwork : files'.workingDirectory = data.files.workingDirectory)
    (hrelisted : data.files.top.Relisted files'.top) (hservice : Location.IsPlain service)
    (hfile : Location.IsPlain file) :
    data.document? service file = DataDirectory.document? ⟨files', data.root⟩ service file := by
  have hchosen := chooses_document? ⟨files', data.root⟩ (hrelisted.wellFormed htree) hservice hfile
  refine (data.chooses_document? htree hservice hfile).eq ?_
  cases hd : DataDirectory.document? ⟨files', data.root⟩ service file with
  | none =>
    rw [hd] at hchosen
    exact fun version text h => hchosen _ _ ((holds_iff_of_relisted hwork hrelisted).mpr h)
  | some text =>
    rw [hd] at hchosen
    obtain ⟨version, hholds, hgreatest⟩ := hchosen
    refine ⟨version, (holds_iff_of_relisted hwork hrelisted).mp hholds, fun other text' h => ?_⟩
    exact hgreatest other text' ((holds_iff_of_relisted hwork hrelisted).mpr h)

theorem session_of_serviceText {name text : String} (data : DataDirectory)
    (h : data.document? name serviceFile = some text) :
    data.session.serviceModel name = ServiceModel.read name text ∧
      data.session.resourceDocument name =
        readOptional ResourceDocument.read (data.document? name resourceFile) ∧
      data.session.waiterModel name =
        match data.document? name waiterFile with
        | some text => WaiterModel.read text
        | none => .error (.unknownService name) := by
  have htext {α : Type} (f : String → Except Error α) : (data.serviceText name >>= f) = f text := by
    rw [serviceText, h]
    rfl
  refine ⟨htext _, ?_, htext _⟩
  have hresources : data.session.resourceDocument name =
      match data.document? name resourceFile with
      | some text => (ResourceDocument.read text).map some
      | none => .ok none := htext _
  rw [hresources]
  cases data.document? name resourceFile <;> rfl

theorem answersWith_documents (data : DataDirectory) (name : String) :
    data.session.AnswersWith name (data.document? name serviceFile)
      (data.document? name resourceFile) (data.document? name waiterFile) where
  missing h := by
    have htext : data.serviceText name = .error (.serviceNotFound name) := by rw [serviceText, h]
    simp [session, htext, bind, Except.bind]
  model text h := (data.session_of_serviceText h).1
  resources h := by
    obtain ⟨text, h⟩ := Option.isSome_iff_exists.mp h
    exact (data.session_of_serviceText h).2.1
  waiters h := by
    obtain ⟨text, h⟩ := Option.isSome_iff_exists.mp h
    exact (data.session_of_serviceText h).2.2

/-- Sessions over directories that have the same documents of a service agree on it. -/
theorem agreeOn_of_document?_eq {data data' : DataDirectory} {name : String}
    (hmodel : data.document? name serviceFile = data'.document? name serviceFile)
    (hresources : data.document? name resourceFile = data'.document? name resourceFile)
    (hwaiters : data.document? name waiterFile = data'.document? name waiterFile) :
    Session.AgreeOn name data.session data'.session := by
  have htext : data.serviceText name = data'.serviceText name := by
    rw [serviceText, serviceText, hmodel]
  refine ⟨?_, ?_, ?_⟩ <;> simp only [session, htext, hresources, hwaiters]

/-- Nor does the list of services depend on the order in which directories list their entries. -/
theorem services_eq_of_relisted {files' : FileSystem} (htree : data.files.top.WellFormed)
    (hwork : files'.workingDirectory = data.files.workingDirectory)
    (hrelisted : data.files.top.Relisted files'.top) {entries : List (String × FileNode)}
    (hroot : data.files.list data.root = .ok entries) :
    DataDirectory.services ⟨files', data.root⟩ = data.services := by
  obtain ⟨entries', hroot'⟩ := FileSystem.exists_list_of_relisted hwork hrelisted hroot
  obtain ⟨names, hnames, hsorted, hmem⟩ := data.exists_services htree hroot
  obtain ⟨names', hnames', hsorted', hmem'⟩ :=
    exists_services ⟨files', data.root⟩ (hrelisted.wellFormed htree) hroot'
  have hnodup {names : List String}
      (h : names.Pairwise fun a b => Text.bytes a < Text.bytes b) : names.Nodup := by
    refine h.imp fun {a b} hlt heq => ?_
    subst heq
    exact List.lt_irrefl _ hlt
  have hperm : names'.Perm names := by
    refine (List.perm_ext_iff_of_nodup (hnodup hsorted') (hnodup hsorted)).mpr fun name => ?_
    rw [hmem, hmem']
    simp only [holds_iff_of_relisted hwork hrelisted]
  rw [hnames, hnames']
  congr 1
  exact hperm.eq_of_pairwise (fun a b _ _ hab hba => (List.lt_asymm hab hba).elim) hsorted' hsorted

end DataDirectory

/-- A session over a data directory has the documents of a store. For each kind of document of a
service one text counts, that of the greatest version that has the file, and the session answers
with these texts. Where they can be read, a run over the session is one over a store that they are
put into. The services are those that have a service model, in the order of their bytes. None of it
depends on the order in which directories list their entries. -/
theorem DataDirectory.session_refines_store (data : DataDirectory)
    (htree : data.files.top.WellFormed) {entries : List (String × FileNode)}
    (hroot : data.files.list data.root = .ok entries) :
    (∀ name, Location.IsPlain name → ∃ model? resources? waiters?,
      data.Chooses name serviceFile model? ∧ data.Chooses name resourceFile resources? ∧
      data.Chooses name waiterFile waiters? ∧
      data.session.AnswersWith name model? resources? waiters? ∧
      ∀ text model resources waiters, model? = some text →
        ServiceModel.read name text = .ok model →
        readOptional ResourceDocument.read resources? = .ok resources →
        readOptional WaiterModel.read waiters? = .ok waiters → ∀ store : MemoryStore,
        ∃ store', store.withService name text resources? waiters? = .ok store' ∧
          ∀ service : ServiceName, service.name = name → ∀ (oracle : Oracle) (limit : Nat),
            data.session.stubs oracle service limit =
              store'.session.stubs oracle service limit) ∧
    (∃ names, data.services = .ok names ∧
      names.Pairwise (fun a b => Text.bytes a < Text.bytes b) ∧
      ∀ name, name ∈ names ↔
        Location.IsPlain name ∧ ∃ version text, data.Holds name serviceFile version text) ∧
    ∀ files' : FileSystem, files'.workingDirectory = data.files.workingDirectory →
      data.files.top.Relisted files'.top →
      DataDirectory.services ⟨files', data.root⟩ = data.services ∧
      ∀ name, Location.IsPlain name →
        Session.AgreeOn name data.session (DataDirectory.session ⟨files', data.root⟩) := by
  refine ⟨fun name hname => ?_, data.exists_services htree hroot, fun files' hwork hrelisted => ?_⟩
  · have hanswers := data.answersWith_documents name
    refine ⟨_, _, _, data.chooses_document? htree hname (by decide),
      data.chooses_document? htree hname (by decide),
      data.chooses_document? htree hname (by decide), hanswers, ?_⟩
    intro text model resources waiters htext hmodel hresources hwaiters store
    rw [htext] at hanswers
    obtain ⟨store', hstore, hagree⟩ := hanswers.exists_store hmodel hresources hwaiters store
    refine ⟨store', hstore, fun service hservice oracle limit => ?_⟩
    subst hservice
    exact hagree.stubs_eq oracle limit
  · refine ⟨services_eq_of_relisted htree hwork hrelisted hroot, fun name hname => ?_⟩
    have hsame {file : String} (hfile : Location.IsPlain file) :=
      document?_eq_of_relisted htree hwork hrelisted hname hfile
    exact agreeOn_of_document?_eq (hsame (by decide)) (hsame (by decide)) (hsame (by decide))

/-! ### A depot -/

namespace Depot

/-- A document without any fields. -/
def blank : FileNode := .file "\x7b\x7d"

/-- The versions of a depot are listed out of order, have documents of different kinds, and one of
them has a service model that cannot be read. -/
def versions : List (String × FileNode) := [
  ("2015", .directory [("waiters-2.json", blank), ("service-2.json", .file "")]),
  ("2020", .directory [("service-2.json", blank)]),
  ("2012", .directory [("resources-1.json", blank)]),
  ("notes.txt", .file "")]

/-- A directory with a depot, whose versions are given. -/
def filesOf (versions : List (String × FileNode)) : FileSystem where
  top := .directory [("depot", .directory versions), ("notes.txt", .file "")]
  workingDirectory := []

def data : DataDirectory := ⟨filesOf versions, "."⟩

theorem wellFormed_versions : (FileNode.directory versions).WellFormed := by
  refine .directory (by decide) (by decide) ?_
  simp only [versions, blank, List.forall_mem_cons]
  refine ⟨?_, ?_, ?_, .file _, by simp⟩ <;>
    exact .directory (by decide) (by decide) (by simp [FileNode.WellFormed.file])

theorem wellFormed : data.files.top.WellFormed := by
  refine .directory (by decide) (by decide) ?_
  simp [wellFormed_versions, FileNode.WellFormed.file]

theorem relisted : data.files.top.Relisted (filesOf versions.reverse).top := by
  refine .directory (.refl _) ?_
  have hversions := FileNode.Relisted.of_perm wellFormed_versions versions.reverse_perm.symm
  simp [hversions, FileNode.Relisted.file]

theorem document?_eq : data.document? "depot" DataDirectory.serviceFile = some "\x7b\x7d" ∧
    data.document? "depot" DataDirectory.resourceFile = some "\x7b\x7d" ∧
    data.document? "depot" DataDirectory.waiterFile = some "\x7b\x7d" := by
  decide +kernel

end Depot

namespace DataDirectory

/-- The depot has the service model of 2020, the waiter model of 2015 and the resource document of
2012, however its versions are listed. -/
theorem session_refines_store_depot :
    (∃ store',
      MemoryStore.empty.withService "depot" "\x7b\x7d" (some "\x7b\x7d") (some "\x7b\x7d") =
        .ok store' ∧
      ∀ (oracle : Oracle) (limit : Nat),
        Depot.data.session.stubs oracle (.ofNames "depot" "Depot") limit =
          store'.session.stubs oracle (.ofNames "depot" "Depot") limit) ∧
    Session.AgreeOn "depot" Depot.data.session
      (session ⟨Depot.filesOf Depot.versions.reverse, "."⟩) := by
  obtain ⟨hdocuments, -, horder⟩ := Depot.data.session_refines_store Depot.wellFormed rfl
  have hname : Location.IsPlain "depot" := by decide
  have hchosen {file : String} (hfile : Location.IsPlain file) :=
    Depot.data.chooses_document? Depot.wellFormed hname hfile
  obtain ⟨htext, htext', htext''⟩ := Depot.document?_eq
  obtain ⟨model?, resources?, waiters?, hmodel, hresources, hwaiters, -, hstore⟩ :=
    hdocuments "depot" hname
  obtain rfl := (hmodel.eq (hchosen (by decide))).trans htext
  obtain rfl := (hresources.eq (hchosen (by decide))).trans htext'
  obtain rfl := (hwaiters.eq (hchosen (by decide))).trans htext''
  obtain ⟨store', heq, hruns⟩ := hstore _ _ _ _ rfl rfl rfl rfl .empty
  obtain ⟨-, hagree⟩ := horder (Depot.filesOf Depot.versions.reverse) rfl Depot.relisted
  exact ⟨⟨store', heq, hruns _ rfl⟩, hagree "depot" hname⟩

end DataDirectory

end ResourceStubs
