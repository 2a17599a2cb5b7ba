import DcapQvl.Lib.Outcome

/-!
# Checklists

A loop over pairs of a key and a value that stores in a record what it reads, and
ticks off the kinds that it was told to expect. It does not check that a key occurs once:
a later pair overwrites an earlier one of its kind.

Results:
* `run_eq_ok`: the loop reads every pair, stores what it has read and ticks off its kind.
* `count_eq_one`: pairs that are no more than the expected kinds, and leave none of these, have
  the keys of the expected kinds once each.
* `run_perm`, `consistent_of_forall_perm`: the order of the pairs does not matter exactly when
  no two of them hold different values of one kind.
-/

namespace DcapQvl.Lib

/-- What a loop reads, expects and stores. Things of different kinds are stored in
    different places. -/
structure Checklist (ε κ ν β τ σ : Type) where
  read : κ → ν → Except ε (Option β)
  kind : β → τ
  key : τ → κ
  store : σ → β → σ
  key_kind : ∀ {k v b}, read k v = .ok (some b) → key (kind b) = k
  store_comm : ∀ {b b'}, kind b ≠ kind b' → ∀ s, store (store s b) b' = store (store s b') b

namespace Checklist

variable {ε κ ν β τ σ : Type} (c : Checklist ε κ ν β τ σ)

/-- What is read. -/
def readAll (pairs : List (κ × ν)) : Except ε (List (Option β)) :=
  pairs.mapM fun pair => c.read pair.1 pair.2

theorem readAll_cons_eq_ok {pair : κ × ν} {pairs : List (κ × ν)} {bs : List (Option β)} :
    c.readAll (pair :: pairs) = .ok bs ↔
      ∃ b bs', c.read pair.1 pair.2 = .ok b ∧ c.readAll pairs = .ok bs' ∧ bs = b :: bs' := by
  unfold readAll
  rw [List.mapM_cons, bind_eq_ok]
  constructor
  · rintro ⟨b, hb, h⟩
    obtain ⟨bs', hbs, h⟩ := bind_eq_ok.mp h
    cases h
    exact ⟨b, bs', hb, hbs, rfl⟩
  · rintro ⟨b, bs', hb, hbs, rfl⟩
    exact ⟨b, hb, bind_eq_ok.mpr ⟨bs', hbs, rfl⟩⟩

/-- The kinds of what has been read. -/
def kinds (bs : List (Option β)) : List τ := bs.reduceOption.map c.kind

/-- What is read stands in the order of its keys. -/
theorem keys_sublist {pairs : List (κ × ν)} {bs : List (Option β)}
    (h : c.readAll pairs = .ok bs) : ((c.kinds bs).map c.key).Sublist (pairs.map Prod.fst) := by
  induction pairs generalizing bs with
  | nil =>
    cases h
    exact List.nil_sublist _
  | cons pair pairs ih =>
    obtain ⟨b, bs, hb, hbs, rfl⟩ := c.readAll_cons_eq_ok.mp h
    cases b with
    | none => exact (ih hbs).cons _
    | some b =>
      show (c.key (c.kind b) :: (c.kinds bs).map c.key).Sublist (pair.1 :: pairs.map Prod.fst)
      rw [c.key_kind hb]
      exact (ih hbs).cons_cons _

variable [DecidableEq τ]

/-- What the loop does with a pair that it has read. -/
def tick (self : σ) (expected : List τ) : Option β → σ × List τ
  | some b => (c.store self b, expected.filter (· ≠ c.kind b))
  | none => (self, expected)

/-- The loop. -/
def run : List (κ × ν) → σ → List τ → Except ε (σ × List τ)
  | [], self, expected => .ok (self, expected)
  | pair :: pairs, self, expected => do
    let b ← c.read pair.1 pair.2
    let (self, expected) := c.tick self expected b
    run pairs self expected

theorem run_eq_ok {pairs : List (κ × ν)} {self self' : σ} {expected expected' : List τ} :
    c.run pairs self expected = .ok (self', expected') ↔
      ∃ bs, c.readAll pairs = .ok bs ∧ self' = bs.reduceOption.foldl c.store self ∧
        expected' = expected.filter (· ∉ c.kinds bs) := by
  induction pairs generalizing self expected with
  | nil =>
    constructor
    · intro h
      cases h
      exact ⟨[], rfl, rfl, by simp [kinds]⟩
    · rintro ⟨bs, hbs, rfl, rfl⟩
      cases hbs
      simp [run, kinds]
  | cons pair pairs ih =>
    have hstep (b : Option β) (bs : List (Option β)) :
        (b :: bs).reduceOption.foldl c.store self =
            bs.reduceOption.foldl c.store (c.tick self expected b).1 ∧
          expected.filter (· ∉ c.kinds (b :: bs)) =
            (c.tick self expected b).2.filter (· ∉ c.kinds bs) := by
      cases b with
      | none => exact ⟨by rw [List.reduceOption_cons_of_none]; rfl, by simp [kinds, tick]⟩
      | some b =>
        refine ⟨by rw [List.reduceOption_cons_of_some]; rfl, ?_⟩
        simp only [kinds, tick, List.reduceOption_cons_of_some, List.map_cons, List.mem_cons,
          List.filter_filter]
        exact List.filter_congr fun t _ => by simp [Bool.and_comm]
    rw [run, bind_eq_ok]
    simp only [readAll_cons_eq_ok]
    constructor
    · rintro ⟨b, hb, h⟩
      obtain ⟨bs, hbs, hself, hexpected⟩ := ih.mp h
      exact ⟨b :: bs, ⟨b, bs, hb, hbs, rfl⟩, hself.trans (hstep b bs).1.symm,
        hexpected.trans (hstep b bs).2.symm⟩
    · rintro ⟨_, ⟨b, bs, hb, hbs, rfl⟩, hself, hexpected⟩
      exact ⟨b, hb, ih.mpr ⟨bs, hbs, hself.trans (hstep b bs).1,
        hexpected.trans (hstep b bs).2⟩⟩

/-- Every expected kind that is ticked off has a pair. -/
theorem key_mem {pairs : List (κ × ν)} {self self' : σ} {expected : List τ}
    (h : c.run pairs self expected = .ok (self', [])) :
    ∀ t ∈ expected, c.key t ∈ pairs.map Prod.fst := by
  obtain ⟨bs, hbs, _, hexpected⟩ := c.run_eq_ok.mp h
  intro t ht
  have hmem : t ∈ c.kinds bs := by
    by_contra hnot
    have : t ∈ expected.filter (· ∉ c.kinds bs) := List.mem_filter.mpr ⟨ht, by simpa using hnot⟩
    rw [← hexpected] at this
    cases this
  exact (c.keys_sublist hbs).subset (List.mem_map_of_mem hmem)

/-- No more pairs than kinds are expected, and all of these found. -/
theorem count_eq_one [BEq κ] [LawfulBEq κ] {keys wanted : List κ} (hnodup : wanted.Nodup)
    (hfound : ∀ k ∈ wanted, k ∈ keys) (hlength : keys.length ≤ wanted.length) :
    ∀ k ∈ wanted, keys.count k = 1 := by
  intro k hk
  have hperm : wanted.Perm keys := (hnodup.subperm hfound).perm_of_length_le hlength
  rw [← hperm.count_eq]
  exact List.count_eq_one_of_mem hnodup hk

/-- Nothing is read twice with different values. -/
def Consistent (bs : List (Option β)) : Prop :=
  ∀ b ∈ bs.reduceOption, ∀ b' ∈ bs.reduceOption, c.kind b = c.kind b' → b = b'

omit [DecidableEq τ] in
/-- Keys that occur once. -/
theorem Consistent.of_count [BEq κ] [LawfulBEq κ] {pairs : List (κ × ν)} {bs : List (Option β)}
    (h : c.readAll pairs = .ok bs)
    (hone : ∀ b, (pairs.map Prod.fst).count (c.key (c.kind b)) ≤ 1) : c.Consistent bs := by
  classical
  have hnodup : (c.kinds bs).Nodup := by
    rw [List.nodup_iff_count_le_one]
    intro t
    by_cases ht : t ∈ c.kinds bs
    · obtain ⟨b, _, rfl⟩ := List.mem_map.mp ht
      exact List.count_le_count_map.trans (((c.keys_sublist h).count_le _).trans (hone b))
    · rw [List.count_eq_zero_of_not_mem ht]
      exact Nat.zero_le _
  exact fun b hb b' hb' hkind => List.inj_on_of_nodup_map hnodup hb hb' hkind

/-- The order does not matter where nothing is read twice with different values. -/
theorem run_perm {pairs pairs' : List (κ × ν)} {bs : List (Option β)}
    (hperm : pairs.Perm pairs') (hbs : c.readAll pairs = .ok bs) (hconsistent : c.Consistent bs)
    {self : σ} {expected : List τ} {r : σ × List τ} (h : c.run pairs self expected = .ok r) :
    c.run pairs' self expected = .ok r := by
  obtain ⟨bs₁, hbs₁, hself, hexpected⟩ := c.run_eq_ok.mp h
  rw [hbs] at hbs₁
  cases hbs₁
  have hagree : Agree List.Perm (c.readAll pairs) (c.readAll pairs') := Agree.mapM_perm _ hperm
  rw [hbs] at hagree
  cases hbs' : c.readAll pairs' with
  | error e =>
    rw [hbs'] at hagree
    cases hagree
  | ok bs' =>
    rw [hbs'] at hagree
    obtain ⟨hbs_perm⟩ := hagree
    have hread : bs.reduceOption.Perm bs'.reduceOption := hbs_perm.filterMap id
    refine c.run_eq_ok.mpr ⟨bs', hbs', hself.trans (hread.foldl_eq' ?_ self), ?_⟩
    · intro b hb b' hb' s
      by_cases hkind : c.kind b = c.kind b'
      · rw [hconsistent b hb b' hb' hkind]
      · exact c.store_comm hkind s
    · rw [hexpected]
      exact List.filter_congr fun t _ => by simp [kinds, (hread.map c.kind).mem_iff]

/-- What the last pair holds is stored. -/
theorem run_append_singleton {pairs : List (κ × ν)} {pair : κ × ν} {b : β} {self self' : σ}
    {expected expected' : List τ} (hb : c.read pair.1 pair.2 = .ok (some b))
    (h : c.run (pairs ++ [pair]) self expected = .ok (self', expected')) :
    ∃ s, self' = c.store s b := by
  induction pairs generalizing self expected with
  | nil =>
    obtain ⟨b₁, hb₁, h⟩ := bind_eq_ok.mp h
    rw [hb] at hb₁
    cases hb₁
    cases h
    exact ⟨self, rfl⟩
  | cons pair₁ pairs ih =>
    obtain ⟨b₁, _, h⟩ := bind_eq_ok.mp h
    exact ih h

/-- Where a pair that is overwritten can be seen from the result, a result that does not
    depend on the order means that no pair overwrites another value. -/
theorem consistent_of_forall_perm
    (hseen : ∀ s s' b b', c.kind b = c.kind b' → c.store s b = c.store s' b' → b = b')
    {pairs : List (κ × ν)} {bs : List (Option β)} (hbs : c.readAll pairs = .ok bs) {self : σ}
    {expected : List τ} {r : σ × List τ}
    (h : ∀ pairs', pairs.Perm pairs' → c.run pairs' self expected = .ok r) : c.Consistent bs := by
  have hlast : ∀ b ∈ bs.reduceOption, ∃ s, r.1 = c.store s b := by
    intro b hb
    obtain ⟨pair, hpair, hread⟩ := exists_of_mem_mapM hbs _ (List.reduceOption_mem_iff.mp hb)
    obtain ⟨before, after, rfl⟩ := List.append_of_mem hpair
    have hperm : (before ++ pair :: after).Perm ((before ++ after) ++ [pair]) :=
      List.perm_middle.trans (List.perm_append_singleton pair (before ++ after)).symm
    exact c.run_append_singleton hread (h _ hperm)
  intro b hb b' hb' hkind
  obtain ⟨s, hs⟩ := hlast b hb
  obtain ⟨s', hs'⟩ := hlast b' hb'
  exact hseen s s' b b' hkind (hs.symm.trans hs')

end Checklist

end DcapQvl.Lib
