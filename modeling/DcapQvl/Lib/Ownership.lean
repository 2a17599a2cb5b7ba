import Mathlib.Data.Set.Insert
import Mathlib.Logic.Equiv.Basic

/-!
# Owning pointers

Slots that hold a pointer to a cell each, or none. `Owns held live` says that
the live cells are the ones that are held, and that no cell is held by two
slots. Each operation on slots keeps it.

Results:
* `Owns.acquire`: a fresh cell in a slot that holds none.
* `Owns.clear`: deleting what a slot holds.
* `Owns.move`: moving a pointer to a slot that holds none.
-/

namespace DcapQvl.Lib

variable {ι κ : Type}

/-- The live cells are those that a slot holds, and no two slots hold the same one. -/
structure Owns (held : ι → Option κ) (live : Set κ) : Prop where
  live_iff : ∀ a, a ∈ live ↔ ∃ x, held x = some a
  unique : ∀ x y a, held x = some a → held y = some a → x = y

theorem owns_empty : Owns (fun _ : ι => none) (∅ : Set κ) where
  live_iff a := by simp
  unique x y a h := by cases h

namespace Owns

/-- The invariant is about what the slots hold and which cells are live. -/
theorem congr {held held' : ι → Option κ} {live live' : Set κ} (h : Owns held live)
    (hheld : ∀ x, held' x = held x) (hlive : ∀ a, a ∈ live' ↔ a ∈ live) : Owns held' live' := by
  obtain rfl : held' = held := funext hheld
  obtain rfl : live' = live := Set.ext hlive
  exact h

variable {held : ι → Option κ} {live : Set κ}

theorem mem_live (h : Owns held live) {x : ι} {a : κ} (hx : held x = some a) : a ∈ live :=
  (h.live_iff a).mpr ⟨x, hx⟩

variable [DecidableEq ι]

/-- A fresh cell is put in a slot that holds none. -/
theorem acquire (h : Owns held live) {x : ι} (hx : held x = none) {a : κ} (ha : a ∉ live) :
    Owns (Function.update held x (some a)) (insert a live) where
  live_iff b := by
    rw [Set.mem_insert_iff, h.live_iff]
    constructor
    · rintro (rfl | ⟨y, hy⟩)
      · exact ⟨x, Function.update_self ..⟩
      · have hne : y ≠ x := by
          rintro rfl
          rw [hx] at hy
          cases hy
        exact ⟨y, by rw [Function.update_of_ne hne, hy]⟩
    · rintro ⟨y, hy⟩
      by_cases hyx : y = x
      · subst hyx
        rw [Function.update_self, Option.some.injEq] at hy
        exact Or.inl hy.symm
      · rw [Function.update_of_ne hyx] at hy
        exact Or.inr ⟨y, hy⟩
  unique := by
    -- no other slot holds the cell, which was not live
    have hother : ∀ y, held y ≠ some a := fun y hy => ha (h.mem_live hy)
    intro y z b hy hz
    by_cases hyx : y = x <;> by_cases hzx : z = x
    · rw [hyx, hzx]
    · subst hyx
      rw [Function.update_self] at hy
      rw [Function.update_of_ne hzx, ← hy] at hz
      exact absurd hz (hother z)
    · subst hzx
      rw [Function.update_self] at hz
      rw [Function.update_of_ne hyx, ← hz] at hy
      exact absurd hy (hother y)
    · rw [Function.update_of_ne hyx] at hy
      rw [Function.update_of_ne hzx] at hz
      exact h.unique y z b hy hz

/-- What a slot holds, if anything, is deleted. -/
theorem clear (h : Owns held live) (x : ι) :
    Owns (Function.update held x none) (live \ {a | held x = some a}) where
  live_iff b := by
    rw [Set.mem_sdiff, h.live_iff, Set.mem_ofPred_eq]
    constructor
    · rintro ⟨⟨y, hy⟩, hb⟩
      have hyx : y ≠ x := by
        rintro rfl
        exact hb hy
      exact ⟨y, by rw [Function.update_of_ne hyx, hy]⟩
    · rintro ⟨y, hy⟩
      have hyx : y ≠ x := by
        rintro rfl
        rw [Function.update_self] at hy
        cases hy
      rw [Function.update_of_ne hyx] at hy
      exact ⟨⟨y, hy⟩, fun hx => hyx (h.unique y x b hy hx)⟩
  unique y z b hy hz := by
    have hne : ∀ w, Function.update held x none w = some b → w ≠ x := by
      rintro w hw rfl
      rw [Function.update_self] at hw
      cases hw
    rw [Function.update_of_ne (hne y hy)] at hy
    rw [Function.update_of_ne (hne z hz)] at hz
    exact h.unique y z b hy hz

/-- What a slot holds is moved to one that holds nothing. -/
theorem move (h : Owns held live) {x y : ι} (hne : x ≠ y) (hx : held x = none) :
    Owns (Function.update (Function.update held x (held y)) y none) live := by
  -- it is the old slot function with `x` and `y` exchanged
  have hswap : Function.update (Function.update held x (held y)) y none =
      fun z => held (Equiv.swap x y z) := by
    funext z
    by_cases hzy : z = y
    · subst hzy
      rw [Function.update_self, Equiv.swap_apply_right, hx]
    rw [Function.update_of_ne hzy]
    by_cases hzx : z = x
    · subst hzx
      rw [Function.update_self, Equiv.swap_apply_left]
    · rw [Function.update_of_ne hzx, Equiv.swap_apply_of_ne_of_ne hzx hzy]
  rw [hswap]
  constructor
  · intro a
    rw [h.live_iff]
    constructor
    · rintro ⟨z, hz⟩
      exact ⟨Equiv.swap x y z, by rw [Equiv.swap_apply_self, hz]⟩
    · rintro ⟨z, hz⟩
      exact ⟨_, hz⟩
  · intro z w a hz hw
    exact (Equiv.swap x y).injective (h.unique _ _ a hz hw)

end Owns

end DcapQvl.Lib
