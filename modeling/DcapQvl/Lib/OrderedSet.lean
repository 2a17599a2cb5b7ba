import DcapQvl.Lib.Outcome

/-!
# Ordered sets

`std::set` with a comparator `before`: the elements in iteration order, without
two equivalent ones. `emplace` inserts one element and fails when an equivalent
element is there; `emplaceAll` inserts the elements of a list one after the
other. The comparator is only assumed to compare keys of a linear order, on the
elements that are `valid`.

Results:
* `emplaceAll_nil_eq_some`: inserting a list gives its sorted permutation.
* `emplaceAll_nil_isSome`: insertion fails exactly for two equal keys.
* `emplaceEach_nil_eq_ok`, `emplaceEach_nil_eq_duplicate`, `emplaceEach_nil_perm`: the same for
  the loop that parses the elements of an array and emplaces each at once.
* `find?_eq_some_iff`: the first element with a property is the one with the least key.
-/

namespace DcapQvl.Lib

variable {α κ γ ε : Type} [LinearOrder κ]

/-- `std::set::emplace(x)`; `none` when the set has an element equivalent to `x`. -/
def emplace (before : α → α → Bool) (x : α) : List α → Option (List α)
  | [] => some [x]
  | y :: ys =>
    if before x y then some (x :: y :: ys)
    else if before y x then (emplace before x ys).map (y :: ·)
    else none

/-- The elements of a list emplaced from the first to the last. -/
def emplaceAll (before : α → α → Bool) : List α → List α → Option (List α)
  | [], s => some s
  | x :: xs, s => (emplace before x s).bind (emplaceAll before xs)

/-- Each element of an array is read and emplaced before the next one is read;
    an element equivalent to an earlier one is an error. -/
def emplaceEach (before : α → α → Bool) (read : γ → Except ε α) (duplicate : ε) :
    List γ → List α → Except ε (List α)
  | [], s => .ok s
  | c :: cs, s => do
    let x ← read c
    match emplace before x s with
    | some t => emplaceEach before read duplicate cs t
    | none => .error duplicate

/-- `std::set::insert(first, last)`: equivalent elements are skipped. -/
def insertAll (before : α → α → Bool) (xs s : List α) : List α :=
  xs.foldl (fun s x => (emplace before x s).getD s) s

/-- On valid elements the comparator compares keys. -/
def ComparesKeys (valid : α → Prop) (before : α → α → Bool) (key : α → κ) : Prop :=
  ∀ x y, valid x → valid y → (before x y = true ↔ key x < key y)

/-- The iteration order of a set: by strictly increasing keys. -/
def KeysIncrease (key : α → κ) (s : List α) : Prop := s.Pairwise fun x y => key x < key y

variable {valid : α → Prop} {before : α → α → Bool} {key : α → κ}

theorem KeysIncrease.nodup {s : List α} (h : KeysIncrease key s) : (s.map key).Nodup := by
  rw [List.Nodup, List.pairwise_map]
  exact h.imp fun hlt => hlt.ne

/-- Two sets with the same elements are iterated in the same order. -/
theorem KeysIncrease.eq_of_perm {s t : List α} (hs : KeysIncrease key s) (ht : KeysIncrease key t)
    (h : s.Perm t) : s = t :=
  h.eq_of_pairwise (fun _ _ _ _ hab hba => absurd hab hba.not_gt) hs ht

/-- What emplacing an element can do to a set. -/
theorem emplace_cases (hb : ComparesKeys valid before key) {x : α} (hx : valid x) {s : List α}
    (hv : ∀ y ∈ s, valid y) (hs : KeysIncrease key s) :
    (∃ t, emplace before x s = some t ∧ KeysIncrease key t ∧ t.Perm (x :: s)) ∨
    (emplace before x s = none ∧ ∃ y ∈ s, key y = key x) := by
  induction s with
  | nil => exact Or.inl ⟨[x], rfl, List.pairwise_singleton _ _, List.Perm.refl _⟩
  | cons y ys ih =>
    obtain ⟨hy, hys⟩ := List.pairwise_cons.mp hs
    have hvy := hv y (List.mem_cons_self ..)
    rw [emplace]
    by_cases hxy : before x y = true
    · rw [if_pos hxy]
      have hlt := (hb x y hx hvy).mp hxy
      refine Or.inl ⟨_, rfl, List.pairwise_cons.mpr ⟨fun z hz => ?_, hs⟩, List.Perm.refl _⟩
      rcases List.mem_cons.mp hz with rfl | hz
      · exact hlt
      · exact hlt.trans (hy z hz)
    rw [if_neg hxy]
    by_cases hyx : before y x = true
    · rw [if_pos hyx]
      rcases ih (fun z hz => hv z (List.mem_cons_of_mem _ hz)) hys with
        ⟨t, ht, hsorted, hperm⟩ | ⟨hnone, z, hz, hkey⟩
      · refine Or.inl ⟨y :: t, by rw [ht]; rfl, List.pairwise_cons.mpr ⟨fun z hz => ?_, hsorted⟩,
          (hperm.cons y).trans (List.Perm.swap x y ys)⟩
        rcases List.mem_cons.mp (hperm.mem_iff.mp hz) with rfl | hz
        · exact (hb y z hvy hx).mp hyx
        · exact hy z hz
      · exact Or.inr ⟨by rw [hnone]; rfl, z, List.mem_cons_of_mem _ hz, hkey⟩
    · rw [if_neg hyx]
      refine Or.inr ⟨rfl, y, List.mem_cons_self .., le_antisymm ?_ ?_⟩
      · exact not_lt.mp fun h => hxy ((hb x y hx hvy).mpr h)
      · exact not_lt.mp fun h => hyx ((hb y x hvy hx).mpr h)

/-- What emplacing a list can do to a set. -/
theorem emplaceAll_cases (hb : ComparesKeys valid before key) {xs : List α}
    (hx : ∀ x ∈ xs, valid x) {s : List α} (hv : ∀ y ∈ s, valid y) (hs : KeysIncrease key s) :
    (∃ t, emplaceAll before xs s = some t ∧ KeysIncrease key t ∧ t.Perm (xs ++ s)) ∨
    (emplaceAll before xs s = none ∧ ¬ ((xs ++ s).map key).Nodup) := by
  induction xs generalizing s with
  | nil => exact Or.inl ⟨s, rfl, hs, List.Perm.refl _⟩
  | cons x xs ih =>
    have hvx := hx x (List.mem_cons_self ..)
    have hxs : ∀ y ∈ xs, valid y := fun y hy => hx y (List.mem_cons_of_mem _ hy)
    rw [emplaceAll]
    rcases emplace_cases hb hvx hv hs with ⟨t, ht, hsorted, hperm⟩ | ⟨hnone, y, hy, hkey⟩
    · have hmove : (xs ++ t).Perm (x :: xs ++ s) :=
        (hperm.append_left xs).trans List.perm_middle
      have hvt : ∀ y ∈ t, valid y := fun y hy => by
        rcases List.mem_cons.mp (hperm.mem_iff.mp hy) with rfl | hy
        · exact hvx
        · exact hv y hy
      rw [ht, Option.bind_some]
      rcases ih hxs hvt hsorted with ⟨u, hu, husorted, huperm⟩ | ⟨hnone, hdup⟩
      · exact Or.inl ⟨u, hu, husorted, huperm.trans hmove⟩
      · refine Or.inr ⟨hnone, fun h => hdup ?_⟩
        exact (hmove.map key).nodup_iff.mpr h
    · refine Or.inr ⟨by rw [hnone]; rfl, fun h => ?_⟩
      rw [List.cons_append, List.map_cons, List.nodup_cons] at h
      exact h.1 (List.mem_map.mpr ⟨y, List.mem_append_right _ hy, hkey⟩)

/-- Inserting a list into an empty set gives its sorted permutation. -/
theorem emplaceAll_nil_eq_some (hb : ComparesKeys valid before key) {xs t : List α}
    (hx : ∀ x ∈ xs, valid x) :
    emplaceAll before xs [] = some t ↔ KeysIncrease key t ∧ t.Perm xs := by
  rcases emplaceAll_cases hb hx (s := []) (by simp) List.Pairwise.nil with
    ⟨u, hu, hsorted, hperm⟩ | ⟨hnone, hdup⟩
  · rw [List.append_nil] at hperm
    rw [hu, Option.some.injEq]
    constructor
    · rintro rfl
      exact ⟨hsorted, hperm⟩
    · rintro ⟨ht, htperm⟩
      exact hsorted.eq_of_perm ht (hperm.trans htperm.symm)
  · rw [List.append_nil] at hdup
    rw [hnone]
    constructor
    · intro h
      cases h
    · rintro ⟨ht, htperm⟩
      exact absurd ((htperm.map key).nodup_iff.mp ht.nodup) hdup

/-- Inserting a list into an empty set fails exactly when two keys are equal. -/
theorem emplaceAll_nil_isSome (hb : ComparesKeys valid before key) {xs : List α}
    (hx : ∀ x ∈ xs, valid x) : (emplaceAll before xs []).isSome ↔ (xs.map key).Nodup := by
  rcases emplaceAll_cases hb hx (s := []) (by simp) List.Pairwise.nil with
    ⟨u, hu, hsorted, hperm⟩ | ⟨hnone, hdup⟩
  · rw [List.append_nil] at hperm
    rw [hu]
    exact ⟨fun _ => (hperm.map key).nodup_iff.mp hsorted.nodup, fun _ => rfl⟩
  · rw [List.append_nil] at hdup
    rw [hnone]
    constructor
    · intro h
      cases h
    · intro h
      exact absurd h hdup

/-! ## Sets of keys -/

/-- A set is known from its elements. -/
theorem KeysIncrease.eq_of_mem_iff {s t : List α} (hs : KeysIncrease key s)
    (ht : KeysIncrease key t) (h : ∀ x, x ∈ s ↔ x ∈ t) : s = t :=
  hs.eq_of_perm ht ((List.perm_ext_iff_of_nodup hs.nodup.of_map ht.nodup.of_map).mpr h)

/-- A set whose keys are its elements holds what has been inserted, each element once. -/
theorem insertAll_spec (hb : ComparesKeys (fun _ => True) before key)
    (hinj : Function.Injective key) (xs : List α) {s : List α} (hs : KeysIncrease key s) :
    KeysIncrease key (insertAll before xs s) ∧
      ∀ y, y ∈ insertAll before xs s ↔ y ∈ xs ∨ y ∈ s := by
  unfold insertAll
  induction xs generalizing s with
  | nil => exact ⟨hs, fun y => by simp⟩
  | cons x xs ih =>
    rw [List.foldl_cons]
    rcases emplace_cases hb trivial (fun _ _ => trivial) hs with
      ⟨t, ht, hsorted, hperm⟩ | ⟨hnone, z, hz, hkey⟩
    · rw [ht, Option.getD_some]
      obtain ⟨hresult, hmem⟩ := ih hsorted
      refine ⟨hresult, fun y => ?_⟩
      rw [hmem, hperm.mem_iff, List.mem_cons, List.mem_cons, or_left_comm, or_assoc]
    · rw [hnone, Option.getD_none]
      obtain ⟨hresult, hmem⟩ := ih hs
      refine ⟨hresult, fun y => ?_⟩
      have hx : x ∈ s := hinj hkey ▸ hz
      rw [hmem, List.mem_cons, or_assoc]
      constructor
      · exact Or.inr
      · rintro (rfl | h)
        · exact Or.inr hx
        · exact h

/-! ## Reading and emplacing an array -/

/-- Elements that are read the same way are emplaced the same way. -/
theorem emplaceEach_congr {read read' : γ → Except ε α} {cs : List γ}
    (h : ∀ c ∈ cs, read c = read' c) (before : α → α → Bool) (duplicate : ε) (s : List α) :
    emplaceEach before read duplicate cs s = emplaceEach before read' duplicate cs s := by
  induction cs generalizing s with
  | nil => rfl
  | cons c cs ih =>
    rw [emplaceEach, emplaceEach, h c List.mem_cons_self]
    simp only [ih fun d hd => h d (List.mem_cons_of_mem _ hd)]

theorem emplaceEach_eq_ok {read : γ → Except ε α} {duplicate : ε} {cs : List γ} {s t : List α} :
    emplaceEach before read duplicate cs s = .ok t ↔
      ∃ xs, cs.mapM read = .ok xs ∧ emplaceAll before xs s = some t := by
  induction cs generalizing s with
  | nil =>
    constructor
    · intro h
      cases h
      exact ⟨[], rfl, rfl⟩
    · rintro ⟨xs, hxs, h⟩
      cases hxs
      cases h
      rfl
  | cons c cs ih =>
    simp only [emplaceEach, List.mapM_cons, bind_eq_ok]
    constructor
    · rintro ⟨x, hx, h⟩
      cases hemp : emplace before x s with
      | none => rw [hemp] at h; cases h
      | some u =>
        rw [hemp] at h
        obtain ⟨xs, hxs, hall⟩ := ih.mp h
        exact ⟨x :: xs, ⟨x, hx, xs, hxs, rfl⟩, by rw [emplaceAll, hemp]; exact hall⟩
    · rintro ⟨_, ⟨x, hx, xs, hxs, hpure⟩, hall⟩
      cases hpure
      refine ⟨x, hx, ?_⟩
      rw [emplaceAll] at hall
      cases hemp : emplace before x s with
      | none => rw [hemp] at hall; cases hall
      | some u =>
        rw [hemp] at hall
        exact ih.mpr ⟨xs, hxs, hall⟩

/-- The loop reports a duplicate exactly when the elements up to some index are
    all read and emplacing them fails. -/
theorem emplaceEach_eq_duplicate {read : γ → Except ε α} {duplicate : ε}
    (hread : ∀ c, Avoids duplicate (read c)) {cs : List γ} {s : List α} :
    emplaceEach before read duplicate cs s = .error duplicate ↔
      ∃ n xs, (cs.take n).mapM read = .ok xs ∧ emplaceAll before xs s = none := by
  induction cs generalizing s with
  | nil =>
    constructor
    · intro h
      cases h
    · rintro ⟨n, xs, hxs, h⟩
      rw [List.take_nil] at hxs
      cases hxs
      cases h
  | cons c cs ih =>
    rw [emplaceEach, bind_eq_error, or_iff_right (hread c)]
    constructor
    · rintro ⟨x, hx, h⟩
      cases hemp : emplace before x s with
      | none => exact ⟨1, [x], by simp [hx, Pure.pure, Except.pure, Bind.bind, Except.bind],
          by rw [emplaceAll, hemp]; rfl⟩
      | some u =>
        rw [hemp] at h
        obtain ⟨n, xs, hxs, hall⟩ := ih.mp h
        refine ⟨n + 1, x :: xs, ?_, by rw [emplaceAll, hemp]; exact hall⟩
        rw [List.take_succ_cons, List.mapM_cons, hx]
        exact bind_eq_ok.mpr ⟨x, rfl, bind_eq_ok.mpr ⟨xs, hxs, rfl⟩⟩
    · rintro ⟨n, xs, hxs, hall⟩
      cases n with
      | zero =>
        cases hxs
        cases hall
      | succ n =>
        rw [List.take_succ_cons, List.mapM_cons] at hxs
        obtain ⟨x, hx, hxs⟩ := bind_eq_ok.mp hxs
        obtain ⟨ys, hys, hpure⟩ := bind_eq_ok.mp hxs
        cases hpure
        refine ⟨x, hx, ?_⟩
        rw [emplaceAll] at hall
        cases hemp : emplace before x s with
        | none => rfl
        | some u =>
          rw [hemp] at hall
          exact ih.mpr ⟨n, ys, hys, hall⟩

theorem emplaceEach_avoids {read : γ → Except ε α} {duplicate e : ε} (hne : duplicate ≠ e)
    (hread : ∀ c, Avoids e (read c)) {cs : List γ} {s : List α} :
    Avoids e (emplaceEach before read duplicate cs s) := by
  induction cs generalizing s with
  | nil => exact Avoids.pure s
  | cons c cs ih =>
    refine (hread c).bind fun x _ => ?_
    cases emplace before x s with
    | none => exact Avoids.throw hne
    | some t => exact ih

/-- Every element that is read is valid. -/
theorem mapM_forall {read : γ → Except ε α} (hv : ∀ c x, read c = .ok x → valid x) {cs : List γ}
    {xs : List α} (h : cs.mapM read = .ok xs) : ∀ x ∈ xs, valid x := by
  intro x hx
  obtain ⟨c, _, hc⟩ := exists_of_mem_mapM h x hx
  exact hv c x hc

theorem emplaceEach_nil_eq_ok (hb : ComparesKeys valid before key) {read : γ → Except ε α}
    (hv : ∀ c x, read c = .ok x → valid x) {duplicate : ε} {cs : List γ} {t : List α} :
    emplaceEach before read duplicate cs [] = .ok t ↔
      ∃ xs, cs.mapM read = .ok xs ∧ KeysIncrease key t ∧ t.Perm xs := by
  rw [emplaceEach_eq_ok]
  exact exists_congr fun xs => and_congr_right fun hxs =>
    emplaceAll_nil_eq_some hb (mapM_forall hv hxs)

theorem emplaceEach_nil_eq_duplicate (hb : ComparesKeys valid before key)
    {read : γ → Except ε α} (hv : ∀ c x, read c = .ok x → valid x) {duplicate : ε}
    (hread : ∀ c, Avoids duplicate (read c)) {cs : List γ} :
    emplaceEach before read duplicate cs [] = .error duplicate ↔
      ∃ n xs, (cs.take n).mapM read = .ok xs ∧ ¬ (xs.map key).Nodup := by
  rw [emplaceEach_eq_duplicate hread]
  refine exists_congr fun n => exists_congr fun xs => and_congr_right fun hxs => ?_
  rw [← emplaceAll_nil_isSome hb (mapM_forall hv hxs), Option.not_isSome_iff_eq_none]

/-- The loop on an array and on a permutation of it. -/
theorem emplaceEach_nil_perm (hb : ComparesKeys valid before key) {read : γ → Except ε α}
    (hv : ∀ c x, read c = .ok x → valid x) (duplicate : ε) {cs ds : List γ} (h : cs.Perm ds) :
    Agree (· = ·) (emplaceEach before read duplicate cs [])
      (emplaceEach before read duplicate ds []) := by
  have hsome : ∀ {cs ds : List γ}, cs.Perm ds → ∀ t,
      emplaceEach before read duplicate cs [] = .ok t →
      emplaceEach before read duplicate ds [] = .ok t := by
    intro cs ds h t ht
    obtain ⟨xs, hxs, hsorted, hperm⟩ := (emplaceEach_nil_eq_ok hb hv).mp ht
    have hagree := Agree.mapM_perm read h
    rw [hxs] at hagree
    cases hys : ds.mapM read with
    | error e => rw [hys] at hagree; cases hagree
    | ok ys =>
      rw [hys] at hagree
      cases hagree with
      | ok hxy => exact (emplaceEach_nil_eq_ok hb hv).mpr ⟨ys, hys, hsorted, hperm.trans hxy⟩
  cases hcs : emplaceEach before read duplicate cs [] with
  | ok t => rw [hsome h t hcs]; exact Agree.ok rfl
  | error e =>
    cases hds : emplaceEach before read duplicate ds [] with
    | ok t => rw [hsome h.symm t hds] at hcs; cases hcs
    | error e' => exact Agree.error e e'

/-! ## Searching -/

/-- `x` is the element with the least key among those of the set with a property. -/
def IsFirst (key : α → κ) (p : α → Prop) (s : List α) (x : α) : Prop :=
  x ∈ s ∧ p x ∧ ∀ y ∈ s, p y → key x ≤ key y

/-- The first element of a set with a property has the least key. -/
theorem find?_le {s : List α} (hs : KeysIncrease key s) {p : α → Bool} {x : α}
    (hx : s.find? p = some x) {y : α} (hy : y ∈ s) (hp : p y = true) : key x ≤ key y := by
  induction s with
  | nil => cases hy
  | cons z zs ih =>
    obtain ⟨hz, hzs⟩ := List.pairwise_cons.mp hs
    rw [List.find?_cons] at hx
    split at hx
    · cases hx
      rcases List.mem_cons.mp hy with rfl | hy
      · exact le_rfl
      · exact (hz y hy).le
    · next hpz =>
      rcases List.mem_cons.mp hy with rfl | hy
      · rw [hp] at hpz
        cases hpz
      · exact ih hzs hx hy

theorem find?_eq_some_iff {s : List α} (hs : KeysIncrease key s) {p : α → Prop}
    [DecidablePred p] {x : α} : s.find? (fun y => decide (p y)) = some x ↔ IsFirst key p s x := by
  constructor
  · intro h
    refine ⟨List.mem_of_find?_eq_some h, by simpa using List.find?_some h, fun y hy hpy => ?_⟩
    exact find?_le hs h hy (by simpa using hpy)
  · rintro ⟨hmem, hpx, hfirst⟩
    cases hfind : s.find? fun y => decide (p y) with
    | none =>
      rw [List.find?_eq_none] at hfind
      exact absurd (by simpa using hpx) (hfind x hmem)
    | some y =>
      have hy := List.mem_of_find?_eq_some hfind
      have hpy : p y := by simpa using List.find?_some hfind
      have hkey : key y = key x :=
        le_antisymm (find?_le hs hfind hmem (by simpa using hpx)) (hfirst y hy hpy)
      rw [List.inj_on_of_nodup_map hs.nodup hy hmem hkey]

theorem exists_isFirst {s : List α} (hs : KeysIncrease key s) {p : α → Prop} [DecidablePred p]
    (h : ∃ x ∈ s, p x) : ∃ x, IsFirst key p s x := by
  obtain ⟨x, hx, hpx⟩ := h
  cases hfind : s.find? fun y => decide (p y) with
  | none =>
    rw [List.find?_eq_none] at hfind
    exact absurd (by simpa using hpx) (hfind x hx)
  | some y => exact ⟨y, (find?_eq_some_iff hs).mp hfind⟩

/-- A weaker property has an earlier first element. -/
theorem IsFirst.le_of_imp {s : List α} {p q : α → Prop} {x y : α} (hx : IsFirst key p s x)
    (hy : IsFirst key q s y) (h : ∀ z ∈ s, p z → q z) : key y ≤ key x :=
  hy.2.2 x hx.1 (h x hx.1 hx.2.1)

end DcapQvl.Lib
