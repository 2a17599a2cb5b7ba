import Mathlib

/-!
# Searching in lists

`findFrom` is `std::string::find(pattern, pos)`. The first place of a pattern, and
searches whose result does not depend on the order of the list.

Results:
* `findFrom_eq_some_iff`, `findFrom_eq_none_iff`: what a search yields.
* `findFrom_append_left`, `findFrom_separator`, `findFrom_append_right`: a search in a text
  that is put together of parts.
* `InOrder.append`: parts of two lists, in order, are parts of the whole, in order.
* `find?_reverse_perm`, `find?_perm`: a search for an element that is unique.
-/

namespace DcapQvl.Lib

variable {α : Type}

/-! ## Patterns -/

section Patterns

variable [DecidableEq α]

/-- The first position from `pos` on where the pattern occurs. -/
def findFrom (s pattern : List α) (pos : ℕ) : Option ℕ :=
  (List.range' pos (s.length + 1 - pos)).find? fun i => decide (pattern <+: s.drop i)

variable {s t pattern : List α} {pos i : ℕ}

theorem findFrom_eq_some_iff :
    findFrom s pattern pos = some i ↔ pos ≤ i ∧ i ≤ s.length ∧ pattern <+: s.drop i ∧
      ∀ j, pos ≤ j → j < i → ¬ pattern <+: s.drop j := by
  rw [findFrom, List.find?_range'_eq_some]
  simp only [decide_eq_true_eq, List.mem_range'_1, Bool.not_eq_true', decide_eq_false_iff_not]
  constructor
  · rintro ⟨hi, ⟨hpos, hlt⟩, hall⟩
    exact ⟨hpos, by omega, hi, hall⟩
  · rintro ⟨hpos, hle, hi, hall⟩
    exact ⟨hi, ⟨hpos, by omega⟩, hall⟩

theorem findFrom_eq_none_iff :
    findFrom s pattern pos = none ↔ ∀ j, pos ≤ j → j ≤ s.length → ¬ pattern <+: s.drop j := by
  rw [findFrom, List.find?_eq_none]
  simp only [decide_eq_true_eq, List.mem_range'_1]
  constructor
  · intro h j hpos hle
    exact h j ⟨hpos, by omega⟩
  · rintro h j ⟨hpos, hlt⟩
    exact h j hpos (by omega)

/-- A search from the end of the first part is a search in the second. -/
theorem findFrom_append_left (s t pattern : List α) :
    findFrom (s ++ t) pattern s.length = (findFrom t pattern 0).map (s.length + ·) := by
  have hdrop (j : ℕ) : (s ++ t).drop (s.length + j) = t.drop j := by
    rw [List.drop_append, List.drop_eq_nil_of_le (by omega), List.nil_append]
    congr 1
    omega
  cases h : findFrom t pattern 0 with
  | none =>
    rw [Option.map_none, findFrom_eq_none_iff]
    intro j hpos hle
    rw [List.length_append] at hle
    obtain ⟨k, rfl⟩ := Nat.exists_eq_add_of_le hpos
    rw [hdrop]
    exact findFrom_eq_none_iff.mp h k (Nat.zero_le _) (by omega)
  | some i =>
    obtain ⟨_, hle, hi, hall⟩ := findFrom_eq_some_iff.mp h
    rw [Option.map_some, findFrom_eq_some_iff, List.length_append, hdrop]
    refine ⟨by omega, by omega, hi, fun j hpos hlt => ?_⟩
    obtain ⟨k, rfl⟩ := Nat.exists_eq_add_of_le hpos
    rw [hdrop]
    exact hall k (Nat.zero_le _) (by omega)

/-- A search goes past a part at which the pattern does not occur. -/
theorem findFrom_skip (h : ∀ j < s.length, ¬ pattern <+: (s ++ t).drop j) :
    findFrom (s ++ t) pattern 0 = (findFrom t pattern 0).map (s.length + ·) := by
  rw [← findFrom_append_left]
  cases hfind : findFrom (s ++ t) pattern s.length with
  | none =>
    rw [findFrom_eq_none_iff] at hfind ⊢
    intro j _ hle
    rcases lt_or_ge j s.length with hj | hj
    · exact h j hj
    · exact hfind j hj hle
  | some i =>
    rw [findFrom_eq_some_iff] at hfind ⊢
    refine ⟨Nat.zero_le _, hfind.2.1, hfind.2.2.1, fun j _ hlt => ?_⟩
    rcases lt_or_ge j s.length with hj | hj
    · exact h j hj
    · exact hfind.2.2.2 j hj hlt

/-- A pattern does not occur across a part that its first element is not in. -/
theorem findFrom_separator {c : α} {pattern : List α} (hc : c ∉ s) (t : List α) :
    findFrom (s ++ t) (c :: pattern) 0 = (findFrom t (c :: pattern) 0).map (s.length + ·) := by
  refine findFrom_skip fun j hj h => ?_
  rw [List.drop_append_of_le_length hj.le, List.drop_eq_getElem_cons hj, List.cons_append,
    List.cons_prefix_cons] at h
  exact hc (h.1 ▸ List.getElem_mem hj)

/-- What is found stays the first when the list is continued. -/
theorem findFrom_append_right (h : findFrom s pattern pos = some i) (t : List α) :
    findFrom (s ++ t) pattern pos = some i := by
  rw [findFrom_eq_some_iff] at h ⊢
  obtain ⟨hpos, hle, hi, hall⟩ := h
  have hlen := hi.length_le
  rw [List.length_drop] at hlen
  refine ⟨hpos, by rw [List.length_append]; omega, ?_, fun j hj hlt hprefix => hall j hj hlt ?_⟩
  · rw [List.drop_append_of_le_length hle]
    exact hi.trans (List.prefix_append _ _)
  · rw [List.drop_append_of_le_length (by omega)] at hprefix
    refine List.prefix_of_prefix_length_le hprefix (List.prefix_append _ t) ?_
    rw [List.length_drop]
    omega


end Patterns

/-! ## Parts in order -/

section Parts

variable {s t : List α}

/-- Up to the first separator a prefix is the whole part. -/
theorem eq_of_append_separator {c : α} {y z : List α} (hs : c ∉ s) (ht : c ∉ t)
    (h : s ++ c :: y <+: t ++ c :: z) : s = t := by
  induction s generalizing t with
  | nil =>
    cases t with
    | nil => rfl
    | cons b t =>
      rw [List.nil_append, List.cons_append, List.cons_prefix_cons] at h
      exact absurd (h.1 ▸ List.mem_cons_self ..) ht
  | cons a s ih =>
    cases t with
    | nil =>
      rw [List.nil_append, List.cons_append, List.cons_prefix_cons] at h
      exact absurd (h.1 ▸ List.mem_cons_self ..) hs
    | cons b t =>
      rw [List.cons_append, List.cons_append, List.cons_prefix_cons] at h
      rw [h.1, ih (fun hmem => hs (List.mem_cons_of_mem _ hmem))
        (fun hmem => ht (List.mem_cons_of_mem _ hmem)) h.2]

/-- The lists are parts of a list, one after the other and without overlap. -/
inductive InOrder : List (List α) → List α → Prop
  | nil (rest : List α) : InOrder [] rest
  | cons (gap part : List α) {parts : List (List α)} {rest : List α} (h : InOrder parts rest) :
      InOrder (part :: parts) (gap ++ (part ++ rest))

theorem InOrder.prepend {parts : List (List α)} (h : InOrder parts t) (s : List α) :
    InOrder parts (s ++ t) := by
  cases h with
  | nil rest => exact .nil _
  | cons gap part h =>
    rw [← List.append_assoc]
    exact .cons _ part h

theorem InOrder.append {parts parts' : List (List α)} (h : InOrder parts s)
    (h' : InOrder parts' t) : InOrder (parts ++ parts') (s ++ t) := by
  induction h with
  | nil rest => exact h'.prepend rest
  | cons gap part _ ih =>
    rw [List.append_assoc, List.append_assoc]
    exact .cons gap part ih

theorem InOrder.singleton (gap part : List α) : InOrder [part] (gap ++ part) := by
  have h := InOrder.cons gap part (InOrder.nil [])
  rwa [List.append_nil] at h

end Parts

/-! ## Unique elements -/

variable {p : α → Bool} {l m : List α}

/-- At most one element satisfies the predicate. -/
theorem eq_of_countP_le_one (h : l.countP p ≤ 1) {x y : α} (hx : x ∈ l) (hy : y ∈ l)
    (hpx : p x = true) (hpy : p y = true) : x = y := by
  rw [List.countP_eq_length_filter] at h
  have hx := List.mem_filter.mpr ⟨hx, hpx⟩
  have hy := List.mem_filter.mpr ⟨hy, hpy⟩
  match hfilter : l.filter p, h with
  | [], _ => rw [hfilter] at hx; cases hx
  | [z], _ =>
    rw [hfilter, List.mem_singleton] at hx hy
    rw [hx, hy]

/-- The first element that satisfies a predicate, in two lists with the same elements. -/
theorem find?_perm (h : l.Perm m)
    (hunique : ∀ x ∈ l, ∀ y ∈ l, p x = true → p y = true → x = y) : l.find? p = m.find? p := by
  cases hm : m.find? p with
  | none =>
    rw [List.find?_eq_none] at hm ⊢
    exact fun x hx => hm x (h.mem_iff.mp hx)
  | some y =>
    have hy := h.mem_iff.mpr (List.mem_of_find?_eq_some hm)
    cases hl : l.find? p with
    | none => exact absurd (List.find?_some hm) (List.find?_eq_none.mp hl y hy)
    | some x =>
      rw [hunique x (List.mem_of_find?_eq_some hl) y hy (List.find?_some hl) (List.find?_some hm)]

/-- The last element that satisfies a predicate. -/
theorem find?_reverse_perm (h : l.Perm m)
    (hunique : ∀ x ∈ l, ∀ y ∈ l, p x = true → p y = true → x = y) :
    l.reverse.find? p = m.reverse.find? p := by
  refine find?_perm ((List.reverse_perm l).trans (h.trans (List.reverse_perm m).symm)) ?_
  intro x hx y hy
  exact hunique x (List.mem_reverse.mp hx) y (List.mem_reverse.mp hy)

end DcapQvl.Lib
