import ResourceStubs.Files.Update
import ResourceStubs.Proofs.Files.Tree

/-! Reading what was written. A place may lead down and up again, but it ends where its plain names
lead to. Writing changes the directory there and leaves every directory of the tree a directory, so
the same place leads to the changed directory afterwards, and the path to the text that was
written. -/

namespace ResourceStubs

namespace Location

/-- The plain names of a place after one more step. -/
def step (names : Location) (name : String) : Location :=
  if name = "." then names else if name = ".." then names.dropLast else names ++ [name]

theorem plain_eq (place : Location) : place.plain = place.foldl step [] := rfl

end Location

namespace FileNode

/-- What plain names lead down to. -/
def below? (node : FileNode) : Location → Option FileNode
  | [] => some node
  | name :: rest => (node.child? name).bind (·.below? rest)

theorem below?_append (node : FileNode) (place : Location) (name : String) :
    node.below? (place ++ [name]) = (node.below? place).bind (·.child? name) := by
  induction place generalizing node with
  | nil => simp [below?]
  | cons first place ih =>
    rw [List.cons_append, below?, below?]
    cases node.child? first with
    | none => rfl
    | some child => exact ih child

/-! ### The way down -/

/-- The nodes above a node at plain names, nearest first, and the node. -/
inductive Trail (top : FileNode) : Location → List FileNode → FileNode → Prop
  | top : Trail top [] [] top
  | down {place : Location} {above : List FileNode} {node child : FileNode} {name : String} :
    Trail top place above node → node.child? name = some child →
    Trail top (place ++ [name]) (node :: above) child

theorem Trail.below? {top : FileNode} {place : Location} {above : List FileNode} {node : FileNode}
    (h : Trail top place above node) : top.below? place = some node := by
  induction h with
  | top => rfl
  | down _ hchild ih => rw [below?_append, ih, Option.bind_some, hchild]

/-- A place ends where its plain names lead to, whatever is above the node that it starts from. -/
theorem Trail.below?_of_descend {top : FileNode} {place : Location} {above : List FileNode}
    {node found : FileNode} (htrail : Trail top place above node) {rest : Location}
    (h : node.descend above rest = .ok found) :
    top.below? (rest.foldl Location.step place) = some found := by
  induction rest generalizing place above node with
  | nil =>
    obtain rfl := Except.ok.inj h
    exact htrail.below?
  | cons name rest ih =>
    cases node with
    | file text => cases h
    | directory entries =>
      simp only [descend] at h
      rw [List.foldl_cons, Location.step]
      split at h
      next hdot =>
        rw [if_pos hdot]
        exact ih htrail h
      next hdot =>
        rw [if_neg hdot]
        split at h
        next hdots =>
          rw [if_pos hdots]
          cases htrail with
          | top => exact ih .top h
          | down hparent _ =>
            rw [List.dropLast_concat]
            exact ih hparent h
        next hdots =>
          rw [if_neg hdots]
          split at h
          next child hchild => exact ih (.down htrail hchild) h
          next => cases h

/-! ### Directories that stay -/

/-- Where plain names lead to a directory in the first tree they lead to one in the second. -/
def Keeps (node node' : FileNode) : Prop :=
  ∀ place entries, node.below? place = some (directory entries) →
    ∃ entries', node'.below? place = some (directory entries')

theorem Keeps.directory {entries : List (String × FileNode)} {node' : FileNode}
    (h : Keeps (.directory entries) node') : ∃ entries', node' = .directory entries' := by
  obtain ⟨entries', h'⟩ := h [] entries rfl
  exact ⟨entries', Option.some.inj h'⟩

theorem Keeps.child {node node' : FileNode} (h : Keeps node node') {name : String}
    {entries : List (String × FileNode)} (hchild : node.child? name = some (.directory entries)) :
    ∃ child', node'.child? name = some child' ∧ Keeps (.directory entries) child' := by
  cases hchild' : node'.child? name with
  | none =>
    obtain ⟨entries', h'⟩ := h [name] entries (by rw [below?, hchild]; rfl)
    rw [below?, hchild'] at h'
    cases h'
  | some child' =>
    refine ⟨child', rfl, fun place below hbelow => ?_⟩
    obtain ⟨below', hbelow'⟩ := h (name :: place) below (by rw [below?, hchild]; exact hbelow)
    rw [below?, hchild'] at hbelow'
    exact ⟨below', hbelow'⟩

/-- On the way to a directory there are only directories. -/
theorem exists_directory_of_descend {above : List FileNode} {node : FileNode} {place : Location}
    {entries : List (String × FileNode)} (h : node.descend above place = .ok (.directory entries)) :
    ∃ entries', node = .directory entries' := by
  cases node with
  | directory entries' => exact ⟨entries', rfl⟩
  | file text => cases place <;> cases h

/-- A place that leads to a directory leads to one where all directories stay. -/
theorem Keeps.descend {above above' : List FileNode} {node node' : FileNode}
    (habove : List.Forall₂ Keeps above above') (hnode : Keeps node node') {place : Location}
    {entries : List (String × FileNode)} (h : node.descend above place = .ok (.directory entries)) :
    ∃ entries', node'.descend above' place = .ok (.directory entries') := by
  induction place generalizing above above' node node' with
  | nil =>
    obtain rfl := Except.ok.inj h
    obtain ⟨entries', rfl⟩ := hnode.directory
    exact ⟨entries', rfl⟩
  | cons name place ih =>
    obtain ⟨entries, rfl⟩ := exists_directory_of_descend h
    obtain ⟨entries', rfl⟩ := hnode.directory
    simp only [FileNode.descend] at h ⊢
    by_cases hdot : name = "."
    · rw [if_pos hdot] at h ⊢
      exact ih habove hnode h
    · rw [if_neg hdot] at h ⊢
      by_cases hdots : name = ".."
      · rw [if_pos hdots] at h ⊢
        cases habove with
        | nil => exact ih .nil hnode h
        | cons hparent hfurther => exact ih hfurther hparent h
      · rw [if_neg hdots] at h ⊢
        split at h
        next child hchild =>
          obtain ⟨below, rfl⟩ := exists_directory_of_descend h
          obtain ⟨child', hchild', hkeeps⟩ := hnode.child hchild
          rw [show entries'.lookup name = some child' from hchild']
          exact ih (.cons hnode habove) hkeeps h
        next => cases h

/-! ### Changing a node -/

theorem child?_putChild {node old : FileNode} {name : String} (hold : node.child? name = some old)
    (child : FileNode) (other : String) :
    (node.putChild name child).child? other =
      if other = name then some child else node.child? other := by
  cases node with
  | file text => cases hold
  | directory entries => exact Dict.lookup_put name other child entries

theorem below?_update {change : FileNode → FileNode} {node found : FileNode} {place : Location}
    (h : node.below? place = some found) :
    (node.update change place).below? place = some (change found) := by
  induction place generalizing node with
  | nil =>
    obtain rfl := Option.some.inj h
    rfl
  | cons name place ih =>
    obtain ⟨child, hchild, h⟩ := Option.bind_eq_some_iff.mp h
    simp only [update, below?, hchild, child?_putChild hchild, if_pos, Option.bind_some]
    exact ih h

/-- A change that keeps the directories below a node keeps those of the whole tree. -/
theorem Keeps.update {change : FileNode → FileNode} {node found : FileNode} {place : Location}
    (h : node.below? place = some found) (hchange : Keeps found (change found)) :
    Keeps node (node.update change place) := by
  induction place generalizing node with
  | nil =>
    obtain rfl := Option.some.inj h
    exact hchange
  | cons name place ih =>
    obtain ⟨child, hchild, h⟩ := Option.bind_eq_some_iff.mp h
    simp only [FileNode.update, hchild]
    intro other entries hother
    cases other with
    | nil =>
      obtain rfl := Option.some.inj hother
      exact ⟨_, rfl⟩
    | cons first rest =>
      rw [below?, child?_putChild hchild]
      rw [below?] at hother
      split
      next hname =>
        rw [hname, hchild] at hother
        exact ih h rest entries hother
      next => exact ⟨entries, hother⟩

/-- A file may take the place of anything but a directory. -/
theorem Keeps.putChild_file {entries : List (String × FileNode)} {name : String}
    (hname : ∀ below, entries.lookup name ≠ some (.directory below)) (text : String) :
    Keeps (.directory entries) ((FileNode.directory entries).putChild name (.file text)) := by
  intro place below hbelow
  cases place with
  | nil => exact ⟨_, rfl⟩
  | cons first rest =>
    obtain ⟨child, hchild, hbelow⟩ := Option.bind_eq_some_iff.mp hbelow
    have hput := Dict.lookup_put name first (FileNode.file text) entries
    by_cases hfirst : first = name
    · -- nothing is below the file that was there
      cases child with
      | file old => cases rest <;> cases hbelow
      | directory inner => exact absurd (hfirst ▸ hchild) (hname inner)
    · rw [if_neg hfirst] at hput
      refine ⟨below, ?_⟩
      change ((Dict.put name (.file text) entries).lookup first).bind (·.below? rest) = _
      rw [hput, show entries.lookup first = some child from hchild]
      exact hbelow

end FileNode

namespace FileSystem

variable {files files' : FileSystem}

theorem below?_of_nodeAt {place : Location} {node : FileNode} (h : files.nodeAt place = .ok node) :
    files.top.below? place.plain = some node := by
  rw [Location.plain_eq]
  exact FileNode.Trail.top.below?_of_descend h

theorem lastName?_eq_some {place around : Location} {name : String}
    (h : lastName? place = some (around, name)) :
    place = around ++ [name] ∧ name ≠ "." ∧ name ≠ ".." := by
  rw [lastName?] at h
  split at h
  next last hlast =>
    split at h
    next => cases h
    next hstep =>
      obtain ⟨rfl, rfl⟩ := Prod.mk.inj (Option.some.inj h)
      exact ⟨(List.dropLast_append_getLast? _ hlast).symm, not_or.mp hstep⟩
  next => cases h

/-- What a write comes to: a file is put into the directory around it. -/
theorem write_eq_ok {path text : String} (h : files.write path text = .ok files') :
    path.isEmpty = false ∧ ∃ around name entries, files.locate path = around ++ [name] ∧
      name ≠ "." ∧ name ≠ ".." ∧ files.nodeAt around = .ok (.directory entries) ∧
      (∀ below, entries.lookup name ≠ some (.directory below)) ∧
      files' = files.updateAt around (·.putChild name (.file text)) := by
  rw [write] at h
  split at h
  next => cases h
  next hpath =>
    refine ⟨by simpa using hpath, ?_⟩
    split at h
    next => cases h
    next around name hlast =>
      obtain ⟨hplace, hdot, hdots⟩ := lastName?_eq_some hlast
      cases hnode : files.nodeAt around with
      | error e => simp [entriesAt, hnode, bind, Except.bind] at h
      | ok node =>
        cases node with
        | file old => simp [entriesAt, hnode, bind, Except.bind] at h
        | directory entries =>
          simp only [entriesAt, hnode, bind, Except.bind] at h
          split at h
          next => cases h
          next hname =>
            exact ⟨around, name, entries, hplace, hdot, hdots, hnode, hname,
              (Except.ok.inj h).symm⟩

/-- What was written is what is read. -/
theorem read_of_write {path text : String} (h : files.write path text = .ok files') :
    files'.read path = .ok text := by
  obtain ⟨hpath, around, name, entries, hplace, hdot, hdots, hnode, hname, hfiles⟩ := write_eq_ok h
  have hbelow := below?_of_nodeAt hnode
  have htop : files'.top = files.top.update (·.putChild name (.file text)) around.plain := by
    rw [hfiles]
    rfl
  have hkeeps : FileNode.Keeps files.top files'.top :=
    htop ▸ .update hbelow (.putChild_file hname text)
  -- the place around the file leads to a directory again, and that is the changed one
  obtain ⟨entries', hnode'⟩ : ∃ entries', files'.nodeAt around = .ok (.directory entries') :=
    hkeeps.descend .nil hnode
  have hchanged : files'.top.below? around.plain =
      some ((FileNode.directory entries).putChild name (.file text)) :=
    htop ▸ FileNode.below?_update hbelow
  rw [below?_of_nodeAt hnode'] at hchanged
  have hchild : (FileNode.directory entries').entry name = .ok (.file text) := by
    rw [FileNode.entry_eq_ok_iff, Option.some.inj hchanged]
    exact (Dict.lookup_put name name _ entries).trans (if_pos rfl)
  have hfile : files'.nodeAt (around ++ [name]) = .ok (.file text) := by
    rw [nodeAt, FileNode.descend_append hdot hdots, ← nodeAt, hnode']
    exact hchild
  have hlocate : files'.locate path = around ++ [name] := by
    rw [← hplace, hfiles]
    rfl
  simp [read, node, hpath, hlocate, hfile, bind, Except.bind]

end FileSystem

end ResourceStubs
