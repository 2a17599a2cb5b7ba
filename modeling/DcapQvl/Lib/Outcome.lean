import Mathlib

/-!
# Outcomes of fallible computations

A computation that may throw is an `Except`. Rules for three kinds of fact about
a sequence of such computations: what its success says about each step
(`bind_eq_ok`), which exceptions it never throws (`Avoids`), and that two runs
both succeed with related results or both throw (`Agree`). `Early` is for functions
with several return statements.
-/

namespace DcapQvl.Lib

variable {ε ε' α β γ δ : Type}

theorem ok_bind (a : α) (f : α → Except ε β) : (Except.ok a >>= f) = f a := rfl

theorem error_bind (e : ε) (f : α → Except ε β) : (Except.error e >>= f) = .error e := rfl

theorem bind_eq_ok {x : Except ε α} {f : α → Except ε β} {b : β} :
    x >>= f = .ok b ↔ ∃ a, x = .ok a ∧ f a = .ok b := by
  cases x with
  | error e =>
    constructor
    · intro h
      cases h
    · rintro ⟨_, h, _⟩
      cases h
  | ok a =>
    constructor
    · intro h
      exact ⟨a, rfl, h⟩
    · rintro ⟨_, h, hf⟩
      cases h
      exact hf

theorem bind_eq_error {x : Except ε α} {f : α → Except ε β} {e : ε} :
    x >>= f = .error e ↔ x = .error e ∨ ∃ a, x = .ok a ∧ f a = .error e := by
  cases x with
  | error e' =>
    constructor
    · intro h
      cases h
      exact Or.inl rfl
    · rintro (h | ⟨_, h, _⟩)
      · cases h
        rfl
      · cases h
  | ok a =>
    constructor
    · intro h
      exact Or.inr ⟨a, rfl, h⟩
    · rintro (h | ⟨_, h, hf⟩)
      · cases h
      · cases h
        exact hf

theorem bind_congr_of_ok {x : Except ε α} {f g : α → Except ε β}
    (h : ∀ a, x = .ok a → f a = g a) : x >>= f = x >>= g := by
  cases x with
  | error e => rfl
  | ok a => exact h a rfl

theorem map_eq_ok {x : Except ε α} {f : α → β} {b : β} :
    f <$> x = .ok b ↔ ∃ a, x = .ok a ∧ f a = b := by
  rw [map_eq_pure_bind, bind_eq_ok]
  simp [Pure.pure, Except.pure]

theorem mapM_congr_of_mem {f g : α → Except ε β} {xs : List α} (h : ∀ x ∈ xs, f x = g x) :
    xs.mapM f = xs.mapM g := by
  induction xs with
  | nil => rfl
  | cons x xs ih =>
    rw [List.mapM_cons, List.mapM_cons, h x List.mem_cons_self,
      ih fun y hy => h y (List.mem_cons_of_mem _ hy)]

theorem mapM_length {f : α → Except ε β} {xs : List α} {ys : List β} (h : xs.mapM f = .ok ys) :
    ys.length = xs.length := by
  induction xs generalizing ys with
  | nil =>
    cases h
    rfl
  | cons x xs ih =>
    rw [List.mapM_cons] at h
    obtain ⟨y, _, h⟩ := bind_eq_ok.mp h
    obtain ⟨zs, hzs, h⟩ := bind_eq_ok.mp h
    cases h
    rw [List.length_cons, List.length_cons, ih hzs]

theorem exists_of_mem_mapM {f : α → Except ε β} {xs : List α} {ys : List β}
    (h : xs.mapM f = .ok ys) : ∀ y ∈ ys, ∃ x ∈ xs, f x = .ok y := by
  induction xs generalizing ys with
  | nil =>
    cases h
    intro y hy
    cases hy
  | cons x xs ih =>
    rw [List.mapM_cons] at h
    obtain ⟨z, hz, h⟩ := bind_eq_ok.mp h
    obtain ⟨zs, hzs, h⟩ := bind_eq_ok.mp h
    cases h
    intro y hy
    rcases List.mem_cons.mp hy with rfl | hy
    · exact ⟨x, List.mem_cons_self .., hz⟩
    · obtain ⟨x', hx', hy⟩ := ih hzs y hy
      exact ⟨x', List.mem_cons_of_mem _ hx', hy⟩

theorem exists_mem_of_mapM {f : α → Except ε β} {xs : List α} {ys : List β}
    (h : xs.mapM f = .ok ys) : ∀ x ∈ xs, ∃ y ∈ ys, f x = .ok y := by
  induction xs generalizing ys with
  | nil =>
    intro x hx
    cases hx
  | cons x xs ih =>
    rw [List.mapM_cons] at h
    obtain ⟨y, hy, h⟩ := bind_eq_ok.mp h
    obtain ⟨ys', hys, h⟩ := bind_eq_ok.mp h
    cases h
    intro z hz
    rcases List.mem_cons.mp hz with rfl | hz
    · exact ⟨y, List.mem_cons_self .., hy⟩
    · obtain ⟨w, hw, hfz⟩ := ih hys z hz
      exact ⟨w, List.mem_cons_of_mem _ hw, hfz⟩

/-- A partial function that has a related result wherever the computation succeeds. -/
theorem exists_mapM {f : α → Except ε β} {g : α → Option γ} {R : β → γ → Prop}
    (hfg : ∀ a b, f a = .ok b → ∃ c, g a = some c ∧ R b c) {xs : List α} {ys : List β}
    (h : xs.mapM f = .ok ys) : ∃ zs, xs.mapM g = some zs ∧ List.Forall₂ R ys zs := by
  induction xs generalizing ys with
  | nil =>
    cases h
    exact ⟨[], rfl, List.Forall₂.nil⟩
  | cons x xs ih =>
    rw [List.mapM_cons] at h
    obtain ⟨y, hy, h⟩ := bind_eq_ok.mp h
    obtain ⟨ys', hys, h⟩ := bind_eq_ok.mp h
    cases h
    obtain ⟨z, hz, hyz⟩ := hfg x y hy
    obtain ⟨zs, hzs, hrest⟩ := ih hys
    exact ⟨z :: zs, by simp [List.mapM_cons, hz, hzs], List.Forall₂.cons hyz hrest⟩

/-- The first element on which the computation throws. -/
theorem mapM_eq_error {f : α → Except ε β} {xs : List α} {e : ε} :
    xs.mapM f = .error e ↔
      ∃ n x ys, xs[n]? = some x ∧ (xs.take n).mapM f = .ok ys ∧ f x = .error e := by
  induction xs with
  | nil =>
    constructor
    · intro h
      cases h
    · rintro ⟨n, x, ys, h, _⟩
      cases h
  | cons x xs ih =>
    rw [List.mapM_cons, bind_eq_error]
    constructor
    · rintro (h | ⟨y, hy, h⟩)
      · exact ⟨0, x, [], rfl, rfl, h⟩
      · rcases bind_eq_error.mp h with h | ⟨ys, _, h⟩
        · obtain ⟨n, z, zs, hz, hzs, hfz⟩ := ih.mp h
          refine ⟨n + 1, z, y :: zs, hz, ?_, hfz⟩
          rw [List.take_succ_cons, List.mapM_cons]
          exact bind_eq_ok.mpr ⟨y, hy, bind_eq_ok.mpr ⟨zs, hzs, rfl⟩⟩
        · cases h
    · rintro ⟨n, z, zs, hz, hzs, hfz⟩
      cases n with
      | zero =>
        cases hz
        exact Or.inl hfz
      | succ n =>
        rw [List.take_succ_cons, List.mapM_cons] at hzs
        obtain ⟨y, hy, hzs⟩ := bind_eq_ok.mp hzs
        obtain ⟨ys, hys, _⟩ := bind_eq_ok.mp hzs
        exact Or.inr ⟨y, hy, bind_eq_error.mpr (Or.inl (ih.mpr ⟨n, z, ys, hz, hys, hfz⟩))⟩

/-! ## Exceptions that are never thrown -/

/-- The computation does not throw `e`. -/
def Avoids (e : ε) (x : Except ε α) : Prop := x ≠ .error e

theorem Avoids.pure {e : ε} (a : α) : Avoids e (Pure.pure a : Except ε α) := by
  intro h
  cases h

theorem Avoids.throw {e e' : ε} (h : e' ≠ e) : Avoids e (.error e' : Except ε α) := by
  intro he
  cases he
  exact h rfl

theorem Avoids.bind {e : ε} {x : Except ε α} {f : α → Except ε β} (hx : Avoids e x)
    (hf : ∀ a, x = .ok a → Avoids e (f a)) : Avoids e (x >>= f) := by
  intro h
  rcases bind_eq_error.mp h with h | ⟨a, ha, h⟩
  · exact hx h
  · exact hf a ha h

theorem Avoids.map {e : ε} {x : Except ε α} (f : α → β) (hx : Avoids e x) :
    Avoids e (f <$> x) := by
  intro h
  cases x with
  | error e' => cases h; exact hx rfl
  | ok a => cases h

theorem Avoids.mapM {e : ε} {f : α → Except ε β} (hf : ∀ a, Avoids e (f a)) (xs : List α) :
    Avoids e (xs.mapM f) := by
  induction xs with
  | nil => exact Avoids.pure _
  | cons x xs ih =>
    rw [List.mapM_cons]
    exact (hf x).bind fun a _ => ih.bind fun as _ => Avoids.pure _

/-- The exception can only come from the second step. -/
theorem bind_eq_error_right {e : ε} {x : Except ε α} {f : α → Except ε β} (hx : Avoids e x) :
    x >>= f = .error e ↔ ∃ a, x = .ok a ∧ f a = .error e := by
  rw [bind_eq_error]
  exact or_iff_right hx

/-- The exception can only come from the first step. -/
theorem bind_eq_error_left {e : ε} {x : Except ε α} {f : α → Except ε β}
    (hf : ∀ a, Avoids e (f a)) : x >>= f = .error e ↔ x = .error e := by
  rw [bind_eq_error]
  exact or_iff_left fun ⟨a, _, h⟩ => hf a h

/-! ## Early returns -/

/-- A part of a function that returns `σ`: it goes on with a value, or the function
    returns or throws here. -/
abbrev Early (ε σ α : Type) := Except (Except ε σ) α

variable {σ : Type}

/-- `if (!condition) return status`. -/
def returnUnless (condition : Prop) [Decidable condition] (status : σ) : Early ε σ Unit :=
  if condition then .ok () else .error (.ok status)

/-- A call whose exceptions are not caught. -/
def calling (x : Except ε α) : Early ε σ α := x.mapError .error

theorem returnUnless_eq_ok {condition : Prop} [Decidable condition] {status : σ} {u : Unit} :
    (returnUnless condition status : Early ε σ Unit) = .ok u ↔ condition := by
  rw [returnUnless]
  by_cases h : condition
  · simp [h]
  · simp [h]

theorem calling_eq_ok {x : Except ε α} {a : α} :
    (calling x : Early ε σ α) = .ok a ↔ x = .ok a := by
  cases x with
  | error e =>
    constructor
    · intro h
      cases h
    · intro h
      cases h
  | ok b => simp [calling, Except.mapError]

theorem Avoids.returnUnless {condition : Prop} [Decidable condition] {r : Except ε σ} {status : σ}
    (h : .ok status ≠ r) :
    Avoids r (DcapQvl.Lib.returnUnless condition status : Early ε σ Unit) := by
  rw [DcapQvl.Lib.returnUnless]
  by_cases hc : condition
  · rw [if_pos hc]
    exact Avoids.pure ()
  · rw [if_neg hc]
    exact Avoids.throw h

/-- A call returns no status of the function, and throws what it throws. -/
theorem Avoids.calling {r : Except ε σ} {x : Except ε α} (h : ∀ e, r = .error e → Avoids e x) :
    Avoids r (DcapQvl.Lib.calling x : Early ε σ α) := by
  intro hx
  cases x with
  | error e =>
    cases hx
    exact h e rfl rfl
  | ok a => cases hx

/-! ## Runs that agree -/

/-- Both runs succeed and `R` relates their results, or both throw. -/
inductive Agree (R : α → β → Prop) : Except ε α → Except ε' β → Prop
  | ok {a : α} {b : β} (h : R a b) : Agree R (.ok a) (.ok b)
  | error (e : ε) (e' : ε') : Agree R (.error e) (.error e')

theorem Agree.refl {R : α → α → Prop} (hR : ∀ a, R a a) (x : Except ε α) : Agree R x x := by
  cases x with
  | error e => exact Agree.error e e
  | ok a => exact Agree.ok (hR a)

theorem Agree.mono {R S : α → β → Prop} {x : Except ε α} {y : Except ε' β} (h : Agree R x y)
    (hRS : ∀ a b, R a b → S a b) : Agree S x y := by
  cases h with
  | ok h => exact Agree.ok (hRS _ _ h)
  | error e e' => exact Agree.error e e'

theorem Agree.trans {R : α → β → Prop} {S : β → γ → Prop} {T : α → γ → Prop} {x : Except ε α}
    {y : Except ε' β} {z : Except ε γ} (hxy : Agree R x y) (hyz : Agree S y z)
    (hRST : ∀ a b c, R a b → S b c → T a c) : Agree T x z := by
  cases hxy with
  | ok hab =>
    cases hyz with
    | ok hbc => exact Agree.ok (hRST _ _ _ hab hbc)
  | error e e' =>
    cases hyz with
    | error _ e'' => exact Agree.error e e''

theorem Agree.bind {R : α → β → Prop} {S : γ → δ → Prop} {x : Except ε α} {y : Except ε' β}
    {f : α → Except ε γ} {g : β → Except ε' δ} (h : Agree R x y)
    (hfg : ∀ a b, R a b → Agree S (f a) (g b)) : Agree S (x >>= f) (y >>= g) := by
  cases h with
  | ok h => exact hfg _ _ h
  | error e e' => exact Agree.error e e'

/-- Equal first steps. -/
theorem Agree.bind_eq {S : γ → δ → Prop} {x y : Except ε α}
    {f : α → Except ε γ} {g : α → Except ε δ} (h : x = y)
    (hfg : ∀ a, x = .ok a → Agree S (f a) (g a)) : Agree S (x >>= f) (y >>= g) := by
  subst h
  cases x with
  | error e => exact Agree.error e e
  | ok a => exact hfg a rfl

theorem Agree.mapM {P : α → γ → Prop} {R : β → δ → Prop} {f : α → Except ε β}
    {g : γ → Except ε' δ} {xs : List α} {ys : List γ} (h : List.Forall₂ P xs ys)
    (hfg : ∀ a c, P a c → Agree R (f a) (g c)) :
    Agree (List.Forall₂ R) (xs.mapM f) (ys.mapM g) := by
  induction h with
  | nil => exact Agree.ok List.Forall₂.nil
  | cons hac _ ih =>
    rw [List.mapM_cons, List.mapM_cons]
    exact (hfg _ _ hac).bind fun b d hbd => ih.bind fun bs ds hbds =>
      Agree.ok (List.Forall₂.cons hbd hbds)

/-- A computation on each element of a list and of a permutation of it. -/
theorem Agree.mapM_perm (f : α → Except ε β) {xs ys : List α} (h : xs.Perm ys) :
    Agree List.Perm (xs.mapM f) (ys.mapM f) := by
  induction h with
  | nil => exact Agree.ok List.Perm.nil
  | cons x _ ih =>
    rw [List.mapM_cons, List.mapM_cons]
    exact Agree.bind_eq rfl fun b _ => ih.bind fun bs cs hperm => Agree.ok (hperm.cons b)
  | swap x y xs =>
    simp only [List.mapM_cons]
    cases f x with
    | error e =>
      cases f y with
      | error e' => exact Agree.error e' e
      | ok b => exact Agree.error e e
    | ok a =>
      cases f y with
      | error e' => exact Agree.error e' e'
      | ok b =>
        cases xs.mapM f with
        | error e => exact Agree.error e e
        | ok bs => exact Agree.ok (List.Perm.swap a b bs)
  | @trans xs ys zs _ _ ih ih' => exact ih.trans ih' fun _ _ _ => List.Perm.trans

end DcapQvl.Lib
