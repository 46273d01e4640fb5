import ResourceStubs.Proofs.Session.Directory

/-! A data directory with one of its services taken away. The others are listed as before, and a
session has the same documents of them. -/

namespace ResourceStubs

namespace DataDirectory

variable {data data' : DataDirectory} {name : String}

/-- The second directory has the entries of the first but for those of the name. -/
def Without (data : DataDirectory) (name : String) (data' : DataDirectory) : Prop :=
  ∃ entries, data.files.list data.root = .ok entries ∧
    data'.files.list data'.root = .ok (entries.filter (·.1 ≠ name))

/-- The versions of a service are listed in its entry of the data directory. -/
theorem versions?_of_list {entries : List (String × FileNode)}
    (hroot : data.files.list data.root = .ok entries) {service : String}
    (hservice : Location.IsPlain service) :
    data.versions? service =
      match entries.lookup service with
      | some (.directory versions) => some versions
      | _ => none := by
  have hplace := (FileSystem.list_eq_ok_iff.mp hroot).2
  refine Option.ext fun versions => ?_
  rw [versions?_eq_some_iff hservice, FileSystem.nodeAt_append_eq_ok_iff hservice]
  change (∃ parent, data.files.nodeAt (data.files.locate data.root) = .ok parent ∧ _) ↔ _
  simp only [hplace, Except.ok.injEq, exists_eq_left', FileNode.child?]
  split <;> simp_all

/-- The documents of the others are still there. -/
theorem Without.document?_of_ne (h : data.Without name data') {other : String}
    (hother : Location.IsPlain other) (hne : other ≠ name) :
    data'.document? other = data.document? other := by
  obtain ⟨entries, hroot, hroot'⟩ := h
  funext file
  rw [document?, versions?_of_list hroot' hother, Dict.lookup_filter_ne, if_neg hne, document?,
    versions?_of_list hroot hother]

/-- Those of the service itself are not. -/
theorem Without.document?_self (h : data.Without name data') (hname : Location.IsPlain name)
    (file : String) : data'.document? name file = none := by
  obtain ⟨entries, hroot, hroot'⟩ := h
  rw [document?, versions?_of_list hroot' hname, Dict.lookup_filter_ne, if_pos rfl]
  rfl

/-- The other services are listed in the same order. -/
theorem Without.services_eq (h : data.Without name data') {names : List String}
    (hnames : data.services = .ok names) : data'.services = .ok (names.filter (· ≠ name)) := by
  obtain ⟨entries, hroot, hroot'⟩ := h
  rw [services, hroot] at hnames
  obtain rfl := Except.ok.inj hnames
  have hsorted (names : List String) := List.pairwise_mergeSort' (· ≤ ·) names
  have hfilter : ((entries.filter (·.1 ≠ name)).filter (isService ·.2)).map Prod.fst =
      ((entries.filter (isService ·.2)).map Prod.fst).filter (· ≠ name) := by
    rw [List.filter_map, List.filter_comm]
    rfl
  simp only [services, hroot']
  rw [hfilter]
  congr 1
  refine List.Perm.eq_of_pairwise (fun a b _ _ => le_antisymm) (hsorted _) ((hsorted _).filter _) ?_
  exact (List.mergeSort_perm _ _).trans ((List.mergeSort_perm _ _).symm.filter _)

end DataDirectory

end ResourceStubs
