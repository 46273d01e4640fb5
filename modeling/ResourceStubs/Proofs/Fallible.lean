import Mathlib.Data.List.Forall2
import ResourceStubs.Error

/-! Computations that may fail. A chain of them succeeds when each link does, and a traversal when
it does at every element. Three properties are carried along chains and traversals: that a
computation raises errors of some kind only, as where none of its steps raises one that stops a
whole run; that it settles a proposition, by succeeding or by raising such an error; and that two
runs match except for failures that one of them may raise by itself. -/

namespace ResourceStubs.Fallible

variable {α β γ δ : Type}

theorem bind_eq_ok {ε : Type} {x : Except ε α} {f : α → Except ε β} {b : β} :
    x >>= f = .ok b ↔ ∃ a, x = .ok a ∧ f a = .ok b := by
  cases x <;> simp [bind, Except.bind]

theorem bind_eq_error {ε : Type} {x : Except ε α} {f : α → Except ε β} {e : ε} :
    x >>= f = .error e ↔ x = .error e ∨ ∃ a, x = .ok a ∧ f a = .error e := by
  cases x <;> simp [bind, Except.bind]

theorem ok_bind (a : α) (f : α → Except Error β) : (Except.ok a >>= f) = f a := rfl

theorem map_ok (a : α) (f : α → β) : (Except.ok a : Except Error α).map f = .ok (f a) := rfl

theorem map_eq_ok {x : Except Error α} {f : α → β} {b : β} :
    x.map f = .ok b ↔ ∃ a, x = .ok a ∧ f a = b := by
  cases x <;> simp [Except.map]

theorem map_eq_error {x : Except Error α} {f : α → β} {e : Error} :
    x.map f = .error e ↔ x = .error e := by
  cases x <;> simp [Except.map]

/-- Runs with one view of their results, which may be missing, end alike. -/
theorem alike_of_map_eq {view : α → β} {x y : Except Error (Option α)}
    (h : x.map (Option.map view) = y.map (Option.map view)) :
    (∃ e, x = .error e ∧ y = .error e) ∨ (x = .ok none ∧ y = .ok none) ∨
      ∃ a b, x = .ok (some a) ∧ y = .ok (some b) ∧ view a = view b := by
  rcases x with e | _ | a <;> rcases y with e' | _ | b <;> simp_all [Except.map]

/-- A result is there if its view is. -/
theorem exists_of_map_eq_ok {view : α → β} {x : Except Error (Option α)} {b : β}
    (h : x.map (Option.map view) = .ok (some b)) : ∃ a, x = .ok (some a) ∧ view a = b := by
  obtain ⟨result, hx, h⟩ := map_eq_ok.mp h
  obtain ⟨a, rfl, hview⟩ := Option.map_eq_some_iff.mp h
  exact ⟨a, hx, hview⟩

theorem pure_eq_ok {a b : α} : (pure a : Except Error α) = .ok b ↔ a = b := by
  simp [pure, Except.pure]

theorem mapM_eq_ok {f : α → Except Error β} {xs : List α} {ys : List β} :
    xs.mapM f = .ok ys ↔ List.Forall₂ (fun a b => f a = .ok b) xs ys := by
  induction xs generalizing ys with
  | nil => rw [List.mapM_nil, pure_eq_ok, List.forall₂_nil_left_iff, eq_comm]
  | cons a xs ih =>
    rw [List.mapM_cons, bind_eq_ok, List.forall₂_cons_left_iff]
    constructor
    · rintro ⟨b, hb, h⟩
      obtain ⟨bs, hbs, h⟩ := bind_eq_ok.mp h
      exact ⟨b, bs, hb, ih.mp hbs, (pure_eq_ok.mp h).symm⟩
    · rintro ⟨b, bs, hb, hbs, rfl⟩
      exact ⟨b, hb, bind_eq_ok.mpr ⟨bs, ih.mpr hbs, rfl⟩⟩

/-- A traversal fails at the first element at which its step does. -/
theorem mapM_eq_error {f : α → Except Error β} {xs : List α} {e : Error} :
    xs.mapM f = .error e ↔ ∃ before x after, xs = before ++ x :: after ∧
      (∃ ys, before.mapM f = .ok ys) ∧ f x = .error e := by
  induction xs with
  | nil => simp [pure, Except.pure]
  | cons a xs ih =>
    rw [List.mapM_cons, bind_eq_error]
    constructor
    · rintro (ha | ⟨b, hb, h⟩)
      · exact ⟨[], a, xs, rfl, ⟨[], List.mapM_nil⟩, ha⟩
      · rcases bind_eq_error.mp h with hrest | ⟨bs, -, h⟩
        · obtain ⟨before, x, after, rfl, ⟨ys, hys⟩, hx⟩ := ih.mp hrest
          exact ⟨a :: before, x, after, rfl, ⟨b :: ys, by rw [List.mapM_cons, hb, hys]; rfl⟩, hx⟩
        · cases h
    · rintro ⟨before, x, after, hsplit, ⟨ys, hys⟩, hx⟩
      cases before with
      | nil =>
        obtain ⟨rfl, rfl⟩ := List.cons.inj hsplit
        exact .inl hx
      | cons first before =>
        obtain ⟨rfl, rfl⟩ := List.cons.inj hsplit
        rw [List.mapM_cons] at hys
        obtain ⟨b, hb, hys⟩ := bind_eq_ok.mp hys
        obtain ⟨bs, hbs, -⟩ := bind_eq_ok.mp hys
        exact .inr ⟨b, hb, bind_eq_error.mpr
          (.inl (ih.mpr ⟨before, x, after, rfl, ⟨bs, hbs⟩, hx⟩))⟩

/-- In lists that are related element by element, each of the first stands beside one of the
second. -/
theorem exists_of_forall₂_of_mem {R : α → β → Prop} {xs : List α} {ys : List β}
    (h : List.Forall₂ R xs ys) {x : α} (hx : x ∈ xs) : ∃ y ∈ ys, R x y := by
  induction h with
  | nil => cases hx
  | cons hxy _ ih =>
    rcases List.mem_cons.mp hx with rfl | hx
    · exact ⟨_, List.mem_cons_self, hxy⟩
    · obtain ⟨y, hy, hR⟩ := ih hx
      exact ⟨y, List.mem_cons_of_mem _ hy, hR⟩

/-- A traversal gives something for each of the elements. -/
theorem exists_mapM_of_mem {f : α → Except Error β} {xs : List α} {ys : List β}
    (h : xs.mapM f = .ok ys) {x : α} (hx : x ∈ xs) : ∃ y ∈ ys, f x = .ok y :=
  exists_of_forall₂_of_mem (mapM_eq_ok.mp h) hx

/-- What a traversal gives comes of one of the elements. -/
theorem exists_of_mem_mapM {f : α → Except Error β} {xs : List α} {ys : List β}
    (h : xs.mapM f = .ok ys) {y : β} (hy : y ∈ ys) : ∃ x ∈ xs, f x = .ok y :=
  exists_of_forall₂_of_mem (mapM_eq_ok.mp h).flip hy

/-- A view of each result is a view of all of them. -/
theorem mapM_map (f : α → Except Error β) (view : β → γ) (xs : List α) :
    (xs.mapM fun x => (f x).map view) = (xs.mapM f).map (List.map view) := by
  induction xs with
  | nil => rfl
  | cons x xs ih =>
    rw [List.mapM_cons, List.mapM_cons, ih]
    cases f x with
    | error e => rfl
    | ok y => cases xs.mapM f <;> rfl

/-- Two traversals one after the other come to what both steps come to at each element. -/
theorem mapM_bind_eq_ok_iff {f : α → Except Error β} {g : β → Except Error γ} {xs : List α}
    {zs : List γ} :
    (xs.mapM f >>= List.mapM g) = .ok zs ↔ (xs.mapM fun x => f x >>= g) = .ok zs := by
  simp only [bind_eq_ok, mapM_eq_ok]
  induction xs generalizing zs with
  | nil => simp
  | cons x xs ih =>
    simp only [List.forall₂_cons_left_iff]
    constructor
    · rintro ⟨_, ⟨y, ys, hy, hys, rfl⟩, h⟩
      obtain ⟨z, zs, hz, hzs, rfl⟩ := List.forall₂_cons_left_iff.mp h
      exact ⟨z, zs, ⟨y, hy, hz⟩, ih.mp ⟨ys, hys, hzs⟩, rfl⟩
    · rintro ⟨z, zs, ⟨y, hy, hz⟩, hzs, rfl⟩
      obtain ⟨ys, hys, hzs⟩ := ih.mpr hzs
      exact ⟨y :: ys, ⟨y, ys, hy, hys, rfl⟩, .cons hz hzs⟩

/-- A traversal succeeds if every step does, and gives the results of the steps. -/
theorem mapM_eq_ok_iff_map [Inhabited β] {f : α → Except Error β} {xs : List α} {ys : List β} :
    xs.mapM f = .ok ys ↔
      (∀ x ∈ xs, ∃ y, f x = .ok y) ∧ ys = xs.map fun x => (f x).toOption.getD default := by
  rw [mapM_eq_ok]
  induction xs generalizing ys with
  | nil => simp
  | cons x xs ih =>
    simp only [List.forall₂_cons_left_iff, ih, List.forall_mem_cons, List.map_cons]
    constructor
    · rintro ⟨y, _, hy, ⟨hall, rfl⟩, rfl⟩
      exact ⟨⟨⟨y, hy⟩, hall⟩, by simp [hy, Except.toOption]⟩
    · rintro ⟨⟨⟨y, hy⟩, hall⟩, rfl⟩
      exact ⟨y, _, hy, ⟨hall, rfl⟩, by simp [hy, Except.toOption]⟩

/-- Lists that agree on a view, element by element, have one list of views. -/
theorem map_eq_map_of_forall₂ {f : α → γ} {g : β → γ} {xs : List α} {ys : List β}
    (h : List.Forall₂ (fun x y => f x = g y) xs ys) : xs.map f = ys.map g := by
  induction h with
  | nil => rfl
  | cons hxy _ ih => rw [List.map_cons, List.map_cons, hxy, ih]

theorem forall₂_comp {R : α → β → Prop} {S : β → γ → Prop} {T : α → γ → Prop}
    (hT : ∀ x y z, R x y → S y z → T x z) {xs : List α} {ys : List β} {zs : List γ}
    (hxy : List.Forall₂ R xs ys) (hyz : List.Forall₂ S ys zs) : List.Forall₂ T xs zs := by
  induction hxy generalizing zs with
  | nil =>
    cases hyz
    exact .nil
  | cons hR _ ih =>
    cases hyz with
    | cons hS hyz => exact .cons (hT _ _ _ hR hS) (ih hyz)

/-! ### Errors of some kind -/

/-- Every error of the computation is one of these. -/
def RaisesOnly (errors : Error → Prop) (x : Except Error α) : Prop := ∀ e, x = .error e → errors e

/-- The computation does not end with an error that stops a run over several services. -/
abbrev NeverFatal (x : Except Error α) : Prop := RaisesOnly (·.isFatal = false) x

/-- A run over several services goes on, whatever the computation ends with. -/
abbrev Mild (x : Except Error α) : Prop := RaisesOnly (·.isMild = true) x

namespace RaisesOnly

variable {errors errors' : Error → Prop}

theorem mono {x : Except Error α} (h : RaisesOnly errors x) (he : ∀ e, errors e → errors' e) :
    RaisesOnly errors' x := fun e hx => he e (h e hx)

theorem ok (a : α) : RaisesOnly errors (.ok a) := fun _ h => nomatch h

theorem pure (a : α) : RaisesOnly errors (Pure.pure a) := ok a

theorem error {e : Error} (h : errors e) : RaisesOnly errors (.error e : Except Error α) := by
  rintro _ ⟨⟩
  exact h

theorem bind {x : Except Error α} {f : α → Except Error β} (hx : RaisesOnly errors x)
    (hf : ∀ a, x = .ok a → RaisesOnly errors (f a)) : RaisesOnly errors (x >>= f) := by
  cases x with
  | error e => exact error (hx e rfl)
  | ok a => exact hf a rfl

theorem map {x : Except Error α} (hx : RaisesOnly errors x) (f : α → β) :
    RaisesOnly errors (x.map f) := by
  cases x with
  | error e => exact error (hx e rfl)
  | ok a => exact ok (f a)

theorem bind_pure {x : Except Error α} (hx : RaisesOnly errors x) (f : α → β) :
    RaisesOnly errors (x >>= fun a => Pure.pure (f a)) :=
  hx.bind fun a _ => pure (f a)

theorem mapM {f : α → Except Error β} {xs : List α} (h : ∀ x ∈ xs, RaisesOnly errors (f x)) :
    RaisesOnly errors (xs.mapM f) := by
  induction xs with
  | nil => exact pure []
  | cons x xs ih =>
    rw [List.mapM_cons]
    have hrest := ih fun y hy => h y (List.mem_cons_of_mem _ hy)
    exact (h x List.mem_cons_self).bind fun y _ => hrest.bind_pure (y :: ·)

end RaisesOnly

theorem Mild.neverFatal {x : Except Error α} (h : Mild x) : NeverFatal x :=
  RaisesOnly.mono h fun _ => Error.isFatal_of_isMild

/-! ### Deciding a proposition -/

/-- The computation succeeds if the proposition holds, and else raises one of these errors. -/
def Settles (errors : Error → Prop) (x : Except Error α) (P : Prop) : Prop :=
  match x with
  | .ok _ => P
  | .error e => ¬P ∧ errors e

/-- A fault of the documents that is found, and told. -/
def IsTold (e : Error) : Prop := ∃ detail : String, e = .introspection detail

/-- A fault of the documents, found or not. -/
def IsFault (e : Error) : Prop := ∃ fault, e = .introspection fault

theorem IsTold.isFault {e : Error} : IsTold e → IsFault e
  | ⟨_, h⟩ => ⟨_, h⟩

/-- A run goes on after a fault that is told. -/
theorem IsTold.isMild {e : Error} : IsTold e → e.isMild = true
  | ⟨_, h⟩ => h ▸ rfl

/-- The computation succeeds if the proposition holds, and else finds fault with the documents. -/
abbrev Decides (x : Except Error α) (P : Prop) : Prop := Settles IsTold x P

namespace Settles

variable {errors errors' : Error → Prop} {x : Except Error α} {P Q : Prop}

theorem mono (h : Settles errors x P) (he : ∀ e, errors e → errors' e) : Settles errors' x P := by
  cases x with
  | ok a => exact h
  | error e => exact ⟨h.1, he e h.2⟩

theorem raisesOnly (h : Settles errors x P) : RaisesOnly errors x := by
  rintro e rfl
  exact h.2

theorem exists_ok (h : Settles errors x P) (hP : P) : ∃ a, x = .ok a := by
  cases x with
  | ok a => exact ⟨a, rfl⟩
  | error e => exact absurd hP h.1

theorem exists_error (h : Settles errors x P) (hP : ¬P) : ∃ e, x = .error e ∧ errors e := by
  cases x with
  | ok a => exact absurd h hP
  | error e => exact ⟨e, rfl, h.2⟩

theorem of_eq_ok {a : α} (hx : x = .ok a) (hP : P) : Settles errors x P := by
  subst hx
  exact hP

theorem of_eq_error {e : Error} (hx : x = .error e) (he : errors e) (hP : ¬P) :
    Settles errors x P := by
  subst hx
  exact ⟨hP, he⟩

/-- A fault that is told where the proposition does not hold. -/
theorem of_told {detail : String} (hx : x = .error (.introspection detail)) (hP : ¬P) :
    Settles IsTold x P := of_eq_error hx ⟨detail, rfl⟩ hP

/-- What raises only these errors settles whether it succeeds. -/
theorem of_raisesOnly (h : RaisesOnly errors x) : Settles errors x (∃ a, x = .ok a) := by
  cases x with
  | ok a => exact ⟨a, rfl⟩
  | error e => exact ⟨by simp, h e rfl⟩

theorem self (h : Settles errors x P) : Settles errors x (∃ a, x = .ok a) :=
  of_raisesOnly h.raisesOnly

theorem congr (h : Settles errors x P) (hPQ : P ↔ Q) : Settles errors x Q := by
  rwa [← propext hPQ]

/-- A computation settles one proposition only. -/
theorem iff (h : Settles errors x P) (h' : Settles errors x Q) : P ↔ Q := by
  cases x with
  | ok a => exact ⟨fun _ => h', fun _ => h⟩
  | error e => exact ⟨fun hP => absurd hP h.1, fun hQ => absurd hQ h'.1⟩

/-- The links of a chain settle their propositions one after the other. -/
theorem bind {f : α → Except Error β} (hx : Settles errors x P)
    (hf : ∀ a, x = .ok a → Settles errors (f a) Q) : Settles errors (x >>= f) (P ∧ Q) := by
  cases x with
  | ok a => exact (hf a rfl).congr (by simp [show P from hx])
  | error e => exact of_eq_error rfl hx.2 fun h => hx.1 h.1

theorem map (h : Settles errors x P) (f : α → β) : Settles errors (x.map f) P := by
  cases x <;> exact h

theorem bind_pure (h : Settles errors x P) (f : α → β) :
    Settles errors (x >>= fun a => pure (f a)) P := by
  cases x <;> exact h

theorem of_map_eq {f : α → γ} {y : Except Error β} {g : β → γ} (hy : Settles errors y P)
    (h : x.map f = y.map g) : Settles errors x P := by
  cases x <;> cases y <;> simp_all [Except.map, Settles]

/-- A traversal settles that the proposition of every element holds. -/
theorem mapM {f : α → Except Error β} {P : α → Prop} {xs : List α}
    (h : ∀ a ∈ xs, Settles errors (f a) (P a)) : Settles errors (xs.mapM f) (∀ a ∈ xs, P a) := by
  induction xs with
  | nil => exact of_eq_ok List.mapM_nil (by simp)
  | cons a xs ih =>
    rw [List.mapM_cons]
    have hrest := ih fun b hb => h b (List.mem_cons_of_mem _ hb)
    refine ((h a List.mem_cons_self).bind fun _ _ => hrest.bind_pure _).congr ?_
    simp

/-- A traversal of what came of other elements settles something about those. -/
theorem mapM_of_forall₂ {f : β → Except Error γ} {P : α → Prop} {R : α → β → Prop} {xs : List α}
    {ys : List β} (hxy : List.Forall₂ R xs ys) (h : ∀ x y, R x y → Settles errors (f y) (P x)) :
    Settles errors (ys.mapM f) (∀ x ∈ xs, P x) := by
  induction hxy with
  | nil => exact of_eq_ok List.mapM_nil (by simp)
  | cons hab _ ih =>
    rw [List.mapM_cons]
    refine ((h _ _ hab).bind fun _ _ => ih.bind_pure _).congr ?_
    simp

end Settles

/-! ### Matching runs -/

/-- Both runs succeed with related results or fail alike, unless the first fails with an error of
its own. -/
def Matches (own : Error → Prop) (R : α → β → Prop) : Except Error α → Except Error β → Prop
  | .ok a, .ok b => R a b
  | .ok _, .error _ => False
  | .error e, y => own e ∨ y = .error e

namespace Matches

variable {own : Error → Prop} {R : α → β → Prop} {S : γ → δ → Prop}

theorem refl {R : α → α → Prop} (hR : ∀ a, R a a) (x : Except Error α) : Matches own R x x := by
  cases x with
  | ok a => exact hR a
  | error e => exact Or.inr rfl

theorem of_eq (x : Except Error α) : Matches own Eq x x := refl (fun _ => rfl) x

/-- Runs of chains match when their first links do and the rests match from related results. -/
theorem bind {x : Except Error α} {y : Except Error β} {f : α → Except Error γ}
    {g : β → Except Error δ} (h : Matches own R x y)
    (hfg : ∀ a b, R a b → Matches own S (f a) (g b)) : Matches own S (x >>= f) (y >>= g) := by
  cases x with
  | ok a =>
    cases y with
    | ok b => exact hfg a b h
    | error e => exact h.elim
  | error e =>
    rcases h with h | rfl
    · exact Or.inl h
    · exact Or.inr rfl

theorem pure {c : γ} {d : δ} (h : S c d) :
    Matches own S (Pure.pure c : Except Error γ) (Pure.pure d : Except Error δ) := h

theorem mapM {f : α → Except Error γ} {g : α → Except Error δ} {xs : List α}
    (h : ∀ a, Matches own S (f a) (g a)) :
    Matches own (List.Forall₂ S) (xs.mapM f) (xs.mapM g) := by
  induction xs with
  | nil => exact pure .nil
  | cons a xs ih =>
    rw [List.mapM_cons, List.mapM_cons]
    exact (h a).bind fun c d hcd => ih.bind fun cs ds hcds => pure (.cons hcd hcds)

/-- Runs whose results have one view match on that view. -/
theorem of_map_eq {f : α → γ} {g : β → γ} {x : Except Error α} {y : Except Error β}
    (h : x.map f = y.map g) : Matches own (fun a b => f a = g b) x y := by
  cases x with
  | ok a =>
    cases y with
    | ok b => exact Except.ok.inj h
    | error e => simp [Except.map] at h
  | error e =>
    cases y with
    | ok b => simp [Except.map] at h
    | error e' => exact Or.inr (by simpa [Except.map] using h.symm)

/-- Where the first run has no errors of its own, matching on a view is equality of the views. -/
theorem map_eq {f : α → γ} {g : β → γ} {x : Except Error α} {y : Except Error β}
    (h : Matches own (fun a b => f a = g b) x y) (hown : ∀ e, ¬own e) : x.map f = y.map g := by
  cases x with
  | ok a =>
    cases y with
    | ok b => exact congrArg Except.ok h
    | error e => exact h.elim
  | error e =>
    rcases h with h | rfl
    · exact absurd h (hown e)
    · rfl

/-- Where neither run has errors of its own, so it is. -/
theorem map_eq_of_alike {f : α → γ} {g : β → γ} {x : Except Error α} {y : Except Error β}
    (h : Matches (fun _ => False) (fun a b => f a = g b) x y) : x.map f = y.map g :=
  h.map_eq fun _ hown => hown

theorem exists_ok {x : Except Error α} {y : Except Error β} {a : α} (h : Matches own R x y)
    (hx : x = .ok a) : ∃ b, y = .ok b ∧ R a b := by
  subst hx
  cases y with
  | ok b => exact ⟨b, rfl, h⟩
  | error e => exact h.elim

end Matches

end ResourceStubs.Fallible
