import Mathlib.Data.List.Basic

/-!
# Traced computations

A computation that ends with a result or an exception, after a list of effects. Some of the
effects are the lines of a log.

Results:
* `Traced.result_bind`: the result of one computation after another.
* `Traced.Logs.bind`: what one computation after another logs.
-/

namespace DcapQvl.Lib

/-- A result or an exception, with the effects before it. -/
structure Traced (ε ω α : Type) where
  result : Except ε α
  effects : List ω

namespace Traced

variable {ε ω α β : Type}

protected def pure (a : α) : Traced ε ω α := ⟨.ok a, []⟩

protected def bind (x : Traced ε ω α) (f : α → Traced ε ω β) : Traced ε ω β :=
  match x.result with
  | .ok a => ⟨(f a).result, x.effects ++ (f a).effects⟩
  | .error e => ⟨.error e, x.effects⟩

instance : Monad (Traced ε ω) where
  pure := Traced.pure
  bind := Traced.bind

/-- An exception. -/
def throw (e : ε) : Traced ε ω α := ⟨.error e, []⟩

/-- A single effect. -/
def effect (e : ω) : Traced ε ω Unit := ⟨.ok (), [e]⟩

theorem bind_of_ok {x : Traced ε ω α} {a : α} (h : x.result = .ok a) (f : α → Traced ε ω β) :
    x >>= f = ⟨(f a).result, x.effects ++ (f a).effects⟩ := by
  show Traced.bind x f = _
  unfold Traced.bind
  rw [h]

theorem bind_of_error {x : Traced ε ω α} {e : ε} (h : x.result = .error e)
    (f : α → Traced ε ω β) : x >>= f = ⟨.error e, x.effects⟩ := by
  show Traced.bind x f = _
  unfold Traced.bind
  rw [h]

/-! ## Logs -/

/-- The lines of the log among the effects. -/
def log (isLine : ω → Bool) (x : Traced ε ω α) : List ω := x.effects.filter isLine

/-- After the log `before`, a result leaves a log that `after` allows, and an exception
    leaves one of at most `n` lines. -/
def Logs (isLine : ω → Bool) (n : ℕ) (before : List ω) (x : Traced ε ω α)
    (after : α → List ω → Prop) : Prop :=
  match x.result with
  | .ok a => after a (before ++ x.log isLine)
  | .error _ => (before ++ x.log isLine).length ≤ n

variable {isLine : ω → Bool} {n : ℕ} {before : List ω} {after : α → List ω → Prop}
  {after' : β → List ω → Prop} {x : Traced ε ω α} {f : α → Traced ε ω β}

theorem Logs.pure {a : α} (h : after a before) :
    Logs isLine n before (pure a : Traced ε ω α) after := by
  show after a (before ++ [])
  rw [List.append_nil]
  exact h

/-- The second computation goes on with the log of the first. -/
theorem Logs.bind (hx : Logs isLine n before x after)
    (hf : ∀ a log, after a log → Logs isLine n log (f a) after') :
    Logs isLine n before (x >>= f) after' := by
  unfold Logs at hx
  cases hresult : x.result with
  | error e =>
    rw [hresult] at hx
    rw [bind_of_error hresult]
    exact hx
  | ok a =>
    rw [hresult] at hx
    have := hf a _ hx
    rw [bind_of_ok hresult]
    unfold Logs at this ⊢
    simp only [log, List.filter_append, ← List.append_assoc] at this ⊢
    exact this

/-- Nothing is logged. -/
theorem Logs.silent (hx : x.log isLine = []) (hbefore : before.length ≤ n) :
    Logs isLine n before x fun _ log => log = before := by
  unfold Logs
  rw [hx, List.append_nil]
  cases x.result with
  | ok a => rfl
  | error e => exact hbefore

/-- A line is logged. -/
theorem Logs.effect {e : ω} (he : isLine e = true) :
    Logs isLine n before (effect e : Traced ε ω Unit) fun _ log => log = before ++ [e] := by
  show before ++ [e].filter isLine = before ++ [e]
  rw [List.filter_singleton, he, cond_true]

theorem log_bind_eq_nil (hx : x.log isLine = []) (hf : ∀ a, (f a).log isLine = []) :
    (x >>= f).log isLine = [] := by
  cases hresult : x.result with
  | error e =>
    rw [bind_of_error hresult]
    exact hx
  | ok a =>
    rw [bind_of_ok hresult]
    show (x.effects ++ (f a).effects).filter isLine = []
    rw [List.filter_append]
    exact List.append_eq_nil_iff.mpr ⟨hx, hf a⟩

end Traced

end DcapQvl.Lib
