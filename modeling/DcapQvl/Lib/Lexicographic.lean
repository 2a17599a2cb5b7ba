import Mathlib.Data.List.Lex
import Mathlib.Data.List.Forall2
import Mathlib.Order.Lattice

/-!
# Component-wise and lexicographic order

Results:
* `not_lt_of_forall₂_le`: a list that is below another one in every component
  does not come after it.
* `take_lt_of_drop_le`: of two lists, where the order of the tails is against that
  of the wholes, the heads decide.
-/

namespace DcapQvl.Lib

variable {α : Type} [LinearOrder α]

theorem not_lt_of_forall₂_le {xs ys : List α} (h : List.Forall₂ (· ≤ ·) xs ys) : ¬ ys < xs := by
  induction h with
  | nil => exact lt_irrefl _
  | cons hxy _ ih =>
    rw [List.cons_lt_cons_iff]
    rintro (hlt | ⟨_, hlt⟩)
    · exact hlt.not_ge hxy
    · exact ih hlt

theorem append_lt_append_left (zs : List α) {xs ys : List α} : zs ++ xs < zs ++ ys ↔ xs < ys := by
  induction zs with
  | nil => rfl
  | cons z zs ih =>
    rw [List.cons_append, List.cons_append, List.cons_lt_cons_iff, ih]
    simp

/-- Where heads of one length differ, they decide. -/
theorem append_lt_append_iff {xs ys zs ws : List α} (hlen : xs.length = ys.length)
    (hne : xs ≠ ys) : xs ++ zs < ys ++ ws ↔ xs < ys := by
  induction xs generalizing ys with
  | nil =>
    rw [List.length_nil, eq_comm, List.length_eq_zero_iff] at hlen
    exact absurd hlen.symm hne
  | cons x xs ih =>
    cases ys with
    | nil => cases hlen
    | cons y ys =>
      rw [List.cons_append, List.cons_append, List.cons_lt_cons_iff, List.cons_lt_cons_iff]
      refine or_congr_right (and_congr_right fun hxy => ?_)
      refine ih (Nat.succ.inj hlen) fun h => hne ?_
      rw [hxy, h]

theorem take_lt_of_drop_le {xs ys : List α} {n : ℕ} (hlen : xs.length = ys.length)
    (hlt : ¬ ys < xs) (hdrop : List.Forall₂ (· ≤ ·) (ys.drop n) (xs.drop n))
    (hne : ys.drop n ≠ xs.drop n) : xs.take n < ys.take n := by
  rw [← List.take_append_drop n xs, ← List.take_append_drop n ys] at hlt
  have hlens : (ys.take n).length = (xs.take n).length := by
    rw [List.length_take, List.length_take, hlen]
  by_cases hheads : ys.take n = xs.take n
  · rw [hheads, append_lt_append_left] at hlt
    exact absurd ((not_lt.mp hlt).antisymm (not_lt.mp (not_lt_of_forall₂_le hdrop))).symm hne
  · rw [append_lt_append_iff hlens hheads] at hlt
    exact (not_lt.mp hlt).lt_of_ne (Ne.symm hheads)

end DcapQvl.Lib
