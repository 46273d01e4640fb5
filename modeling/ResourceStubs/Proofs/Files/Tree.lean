import Mathlib.Data.List.Nodup
import ResourceStubs.Files.Basic
import ResourceStubs.Proofs.Dict

/-! Trees of files. In a well-formed tree each directory lists an entry once, under a name that
takes one step down. Behind a place such a name leads to an entry of what is at the place. The order
in which directories list their entries does not change what is at a place. -/

namespace ResourceStubs

/-- A name that an entry of a directory can have. As a step of a place it leads down to the
entry. -/
def Location.IsPlain (name : String) : Prop :=
  name ≠ "" ∧ name ≠ "." ∧ name ≠ ".." ∧ '/' ∉ name.toList

instance (name : String) : Decidable (Location.IsPlain name) :=
  inferInstanceAs (Decidable (_ ∧ _ ∧ _ ∧ _))

namespace Location.IsPlain

variable {name : String} (h : IsPlain name)
include h

theorem ofPath_eq : ofPath name = [name] := by
  obtain ⟨hempty, -, -, hslash⟩ := h
  have hparts : name.toList.splitOn '/' = [name.toList] :=
    List.splitOn_eq_singleton hslash
  have hlast : name.toList.getLast? ≠ some '/' := fun he =>
    hslash (List.mem_of_getLast? he)
  simp [ofPath, hparts, hlast, hempty]

theorem not_isAbsolute : isAbsolute name = false := by
  have hhead : name.toList.head? ≠ some '/' := fun he => h.2.2.2 (List.mem_of_head? he)
  simpa [isAbsolute] using hhead

/-- A plain name is one more step. -/
theorem join_eq (place : Location) : place.join name = place ++ [name] := by
  rw [join, h.not_isAbsolute, h.ofPath_eq]
  rfl

end Location.IsPlain

namespace FileNode

/-- What an entry of a directory is. -/
def entry (node : FileNode) (name : String) : Except FileError FileNode :=
  match node with
  | file _ => .error .notDirectory
  | directory entries =>
    match entries.lookup name with
    | some child => .ok child
    | none => .error .notFound

theorem entry_eq_ok_iff {node child : FileNode} {name : String} :
    node.entry name = .ok child ↔ node.child? name = some child := by
  cases node with
  | file text => simp [entry, child?]
  | directory entries =>
    rw [entry, child?]
    cases entries.lookup name <;> simp

/-- Behind any place a name that is no step aside leads to an entry. -/
theorem descend_append {name : String} (hdot : name ≠ ".") (hdots : name ≠ "..") (place : Location)
    (above : List FileNode) (node : FileNode) :
    descend above node (place ++ [name]) = (descend above node place).bind (·.entry name) := by
  induction place generalizing above node with
  | nil =>
    cases node with
    | file text => rfl
    | directory entries =>
      change descend above (directory entries) [name] = entry (directory entries) name
      cases hchild : entries.lookup name <;> simp [descend, entry, hdot, hdots, hchild]
  | cons step place ih =>
    cases node with
    | file text => rfl
    | directory entries =>
      simp only [List.cons_append, descend]
      split
      · exact ih _ _
      · split
        · cases above <;> exact ih _ _
        · cases entries.lookup step with
          | none => rfl
          | some child => exact ih _ _

/-! ### Well-formed trees -/

/-- Every directory of the tree lists its entries once, and under plain names. -/
inductive WellFormed : FileNode → Prop
  | file (text : String) : WellFormed (file text)
  | directory {entries : List (String × FileNode)} (nodup : (entries.map Prod.fst).Nodup)
    (plain : ∀ entry ∈ entries, Location.IsPlain entry.1)
    (below : ∀ entry ∈ entries, WellFormed entry.2) : WellFormed (directory entries)

namespace WellFormed

variable {entries : List (String × FileNode)}

theorem lookup_eq_some_iff (h : WellFormed (.directory entries)) {name : String}
    {child : FileNode} : entries.lookup name = some child ↔ (name, child) ∈ entries := by
  cases h with
  | directory nodup _ _ => exact Dict.get?_eq_some_iff (d := ⟨entries, nodup⟩)

/-- What is at a place of a well-formed tree is a well-formed tree. -/
theorem of_descend {above : List FileNode} {node found : FileNode} {place : Location}
    (habove : ∀ parent ∈ above, WellFormed parent) (hnode : WellFormed node)
    (h : node.descend above place = .ok found) : WellFormed found := by
  induction place generalizing above node with
  | nil =>
    obtain rfl := Except.ok.inj h
    exact hnode
  | cons step place ih =>
    cases hnode with
    | file text => cases h
    | @directory entries nodup plain below =>
      have hself : WellFormed (.directory entries) := .directory nodup plain below
      simp only [descend] at h
      split at h
      · exact ih habove hself h
      · split at h
        · cases above with
          | nil => exact ih habove hself h
          | cons parent further =>
            obtain ⟨hparent, hfurther⟩ := List.forall_mem_cons.mp habove
            exact ih hfurther hparent h
        · split at h
          next child hchild =>
            exact ih (List.forall_mem_cons.mpr ⟨hself, habove⟩)
              (below _ (Dict.mem_of_lookup hchild)) h
          next => cases h

end WellFormed

/-! ### The order of entries -/

/-- The trees differ in nothing but the order in which directories list their entries. -/
inductive Relisted : FileNode → FileNode → Prop
  | file (text : String) : Relisted (file text) (file text)
  | directory {entries entries' : List (String × FileNode)}
    (names : (entries.map Prod.fst).Perm (entries'.map Prod.fst))
    (below : ∀ entry ∈ entries, ∀ entry' ∈ entries', entry.1 = entry'.1 →
      Relisted entry.2 entry'.2) : Relisted (directory entries) (directory entries')

namespace Relisted

/-- Both ways down a place fail alike or lead to trees that differ in the order of entries alone. -/
theorem descend {above above' : List FileNode} {node node' : FileNode}
    (habove : List.Forall₂ Relisted above above') (hnode : Relisted node node')
    (place : Location) :
    (∃ e, node.descend above place = .error e ∧ node'.descend above' place = .error e) ∨
      ∃ found found', node.descend above place = .ok found ∧
        node'.descend above' place = .ok found' ∧ Relisted found found' := by
  induction place generalizing above above' node node' with
  | nil => exact .inr ⟨node, node', rfl, rfl, hnode⟩
  | cons step place ih =>
    cases hnode with
    | file text => exact .inl ⟨.notDirectory, rfl, rfl⟩
    | @directory entries entries' names below =>
      have hself : Relisted (.directory entries) (.directory entries') := .directory names below
      simp only [FileNode.descend]
      split
      · exact ih habove hself
      · split
        · cases habove with
          | nil => exact ih .nil hself
          | cons hparent hfurther => exact ih hfurther hparent
        · cases hchild : entries.lookup step with
          | some child =>
            cases hchild' : entries'.lookup step with
            | some child' =>
              exact ih (.cons hself habove)
                (below _ (Dict.mem_of_lookup hchild) _ (Dict.mem_of_lookup hchild') rfl)
            | none =>
              refine (Dict.lookup_eq_none_iff.mp hchild' (names.mem_iff.mp ?_)).elim
              exact List.mem_map_of_mem (Dict.mem_of_lookup hchild)
          | none =>
            cases hchild' : entries'.lookup step with
            | none => exact .inl ⟨.notFound, rfl, rfl⟩
            | some child' =>
              refine (Dict.lookup_eq_none_iff.mp hchild (names.mem_iff.mpr ?_)).elim
              exact List.mem_map_of_mem (Dict.mem_of_lookup hchild')

theorem refl {node : FileNode} (h : WellFormed node) : Relisted node node := by
  induction h with
  | file text => exact .file text
  | @directory entries nodup _ _ ih =>
    refine .directory (.refl _) fun entry he entry' he' hname => ?_
    obtain rfl := List.inj_on_of_nodup_map nodup he he' hname
    exact ih entry he

/-- The entries of a directory may be put in another order. -/
theorem of_perm {entries entries' : List (String × FileNode)} (h : WellFormed (.directory entries))
    (hperm : entries.Perm entries') : Relisted (.directory entries) (.directory entries') := by
  cases h with
  | directory nodup _ below =>
    refine .directory (hperm.map _) fun entry he entry' he' hname => ?_
    obtain rfl := List.inj_on_of_nodup_map nodup he (hperm.mem_iff.mpr he') hname
    exact refl (below entry he)

theorem wellFormed {node node' : FileNode} (h : Relisted node node') (hnode : WellFormed node) :
    WellFormed node' := by
  induction h with
  | file text => exact .file text
  | @directory entries entries' names below ih =>
    cases hnode with
    | directory nodup plain wellFormed =>
      have hlisted : ∀ entry' ∈ entries', ∃ entry ∈ entries, entry.1 = entry'.1 := by
        intro entry' he
        exact List.mem_map.mp (names.mem_iff.mpr (List.mem_map_of_mem he))
      refine .directory (names.nodup_iff.mp nodup) (fun entry' he' => ?_) fun entry' he' => ?_
      · obtain ⟨entry, he, hname⟩ := hlisted entry' he'
        exact hname ▸ plain entry he
      · obtain ⟨entry, he, hname⟩ := hlisted entry' he'
        exact ih entry he entry' he' hname (wellFormed entry he)

end Relisted

end FileNode

namespace FileSystem

variable {files files' : FileSystem}

theorem nodeAt_append_eq_ok_iff {name : String} (h : Location.IsPlain name) {place : Location}
    {node : FileNode} :
    files.nodeAt (place ++ [name]) = .ok node ↔
      ∃ parent, files.nodeAt place = .ok parent ∧ parent.child? name = some node := by
  rw [nodeAt, FileNode.descend_append h.2.1 h.2.2.1, ← nodeAt]
  cases files.nodeAt place with
  | error e => simp [Except.bind]
  | ok parent => simp [Except.bind, FileNode.entry_eq_ok_iff]

theorem wellFormed_of_nodeAt (h : files.top.WellFormed) {place : Location} {node : FileNode}
    (hnode : files.nodeAt place = .ok node) : node.WellFormed :=
  h.of_descend (fun _ hp => (List.not_mem_nil hp).elim) hnode

/-- Where directories list their entries in another order there are the same texts. -/
theorem text_of_relisted (h : files.top.Relisted files'.top) {place : Location} {text : String} :
    files.nodeAt place = .ok (.file text) ↔ files'.nodeAt place = .ok (.file text) := by
  rcases h.descend .nil place with ⟨e, hx, hy⟩ | ⟨found, found', hx, hy, hfound⟩
  · simp only [nodeAt, hx, hy]
  · simp only [nodeAt, hx, hy]
    cases hfound <;> simp

theorem list_eq_ok_iff {path : String} {entries : List (String × FileNode)} :
    files.list path = .ok entries ↔
      path.isEmpty = false ∧ files.nodeAt (files.locate path) = .ok (.directory entries) := by
  rw [list, node]
  cases path.isEmpty with
  | true => simp [bind, Except.bind]
  | false =>
    cases files.nodeAt (files.locate path) with
    | error e => simp [bind, Except.bind]
    | ok found => cases found <;> simp [bind, Except.bind]

/-- Where directories list their entries in another order there are the same directories. -/
theorem exists_list_of_relisted (hwork : files'.workingDirectory = files.workingDirectory)
    (h : files.top.Relisted files'.top) {path : String} {entries : List (String × FileNode)}
    (hlist : files.list path = .ok entries) : ∃ entries', files'.list path = .ok entries' := by
  obtain ⟨hpath, hplace⟩ := list_eq_ok_iff.mp hlist
  simp only [list_eq_ok_iff, hpath, true_and, locate, hwork]
  rcases h.descend .nil (files.locate path) with ⟨e, herror, -⟩ | ⟨found, found', hx, hy, hfound⟩
  · cases hplace.symm.trans herror
  · cases hplace.symm.trans hx
    cases hfound with
    | directory names below => exact ⟨_, hy⟩

end FileSystem

end ResourceStubs
