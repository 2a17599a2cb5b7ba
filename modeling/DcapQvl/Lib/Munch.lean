import Mathlib

/-!
# Scanning a run of characters

A C++ scanner loops `while (p(s.Peek())) { …; s.Take(); }` over the run of characters
with `p` at the start of a text. Its body may `break`, and the next loop then goes on
with the rest of the run.

Results:
* `scanRun_run`: what a loop takes is a part of the run, and what it returns is a fold
  over that part.
* `scanRun_total`: a loop without `break` takes the whole run.
* `mem_run_mul`: a text may start with a run if what follows the run may be the text.
* `Lacks.mul`: a character that two languages lack is in no text of their product.
-/

namespace DcapQvl.Lib

variable {α σ : Type}

/-! ## Runs -/

/-- The text does not start with a character of a run. -/
def Stops (p : α → Bool) (s : List α) : Prop := ∀ c ∈ s.head?, p c = false

theorem stops_nil (p : α → Bool) : Stops p [] := by
  intro c hc
  exact absurd hc (by simp)

theorem stops_cons {p : α → Bool} {c : α} {s : List α} : Stops p (c :: s) ↔ p c = false := by
  simp [Stops]

theorem Stops.mono {p q : α → Bool} {s : List α} (h : Stops q s)
    (hpq : ∀ c, q c = false → p c = false) : Stops p s := fun c hc => hpq c (h c hc)

theorem dropWhile_eq {p : α → Bool} {s : List α} (h : Stops p s) : s.dropWhile p = s := by
  cases s with
  | nil => rfl
  | cons c s => rw [List.dropWhile_cons, stops_cons.mp h]; rfl

theorem stops_dropWhile (p : α → Bool) (s : List α) : Stops p (s.dropWhile p) := by
  induction s with
  | nil => exact stops_nil p
  | cons c s ih =>
    rw [List.dropWhile_cons]
    split_ifs with hc
    · exact ih
    · exact stops_cons.mpr (by simpa using hc)

/-- What follows the run of a text. -/
theorem dropWhile_run {p : α → Bool} {ds rest : List α} (hds : ∀ c ∈ ds, p c = true)
    (hrest : Stops p rest) : (ds ++ rest).dropWhile p = rest := by
  rw [List.dropWhile_append_of_pos hds, dropWhile_eq hrest]

/-! ## Loops -/

/-- `while (p(s.Peek())) { … }`, the body a step on what the loop has accumulated that
    takes the character; `none` is a `break` before it is taken. -/
def scanRun (p : α → Bool) (body : σ → α → Option σ) : σ → List α → σ × List α
  | st, [] => (st, [])
  | st, c :: s =>
    if p c then
      match body st c with
      | some st' => scanRun p body st' s
      | none => (st, c :: s)
    else (st, c :: s)

/-- A loop takes a part `pre` of the run. With `f` for what its body does with a character
    that it takes while `I` holds, it returns the fold of `f` over `pre`, and it has stopped
    at the end of the run or at a `break`. -/
theorem scanRun_run {p : α → Bool} {body : σ → α → Option σ} {f : σ → α → σ} {I : σ → Prop}
    (hf : ∀ st c st', I st → body st c = some st' → f st c = st' ∧ I st') {st : σ} (hst : I st)
    {ds rest : List α} (hds : ∀ c ∈ ds, p c = true) (hrest : Stops p rest) :
    ∃ pre post, ds = pre ++ post ∧
      scanRun p body st (ds ++ rest) = (pre.foldl f st, post ++ rest) ∧ I (pre.foldl f st) ∧
      ∀ c ∈ post.head?, body (pre.foldl f st) c = none := by
  induction ds generalizing st with
  | nil =>
    refine ⟨[], [], rfl, ?_, hst, by simp⟩
    cases rest with
    | nil => rfl
    | cons c rest => simp [scanRun, stops_cons.mp hrest]
  | cons c ds ih =>
    rw [List.cons_append, scanRun, if_pos (hds c (by simp))]
    cases hb : body st c with
    | none => exact ⟨[], c :: ds, rfl, rfl, hst, by simp [hb]⟩
    | some st' =>
      obtain ⟨hfst, hst'⟩ := hf st c st' hst hb
      obtain ⟨pre, post, rfl, hscan, hI, hstop⟩ := ih hst' fun d hd => hds d (by simp [hd])
      refine ⟨c :: pre, post, rfl, ?_⟩
      rw [List.foldl_cons, hfst]
      exact ⟨hscan, hI, hstop⟩

/-- A loop without `break` takes the run and returns the fold over it. -/
theorem scanRun_total {p : α → Bool} {f : σ → α → σ} (st : σ) {ds rest : List α}
    (hds : ∀ c ∈ ds, p c = true) (hrest : Stops p rest) :
    scanRun p (fun st c => some (f st c)) st (ds ++ rest) = (ds.foldl f st, rest) := by
  induction ds generalizing st with
  | nil =>
    cases rest with
    | nil => rfl
    | cons c rest => simp [scanRun, stops_cons.mp hrest]
  | cons c ds ih =>
    rw [List.cons_append, scanRun, if_pos (hds c (by simp))]
    exact ih (f st c) fun d hd => hds d (by simp [hd])

/-! ## Languages of tokens -/

/-- The language of one text of one character. -/
def token (c : α) : Language α := {[c]}

/-- The language of the runs of `p`. -/
def runs (p : α → Bool) : Language α := {s | ∀ c ∈ s, p c = true}

theorem mem_word_mul {w s : List α} {L : Language α} :
    s ∈ ({w} : Language α) * L ↔ ∃ t ∈ L, w ++ t = s := by
  rw [Language.mem_mul]
  constructor
  · rintro ⟨a, rfl, t, ht, h⟩
    exact ⟨t, ht, h⟩
  · rintro ⟨t, ht, h⟩
    exact ⟨w, rfl, t, ht, h⟩

theorem cons_mem_token_mul {c d : α} {s : List α} {L : Language α} :
    d :: s ∈ token c * L ↔ d = c ∧ s ∈ L := by
  rw [token, mem_word_mul]
  constructor
  · rintro ⟨t, ht, h⟩
    simp only [List.singleton_append, List.cons.injEq] at h
    obtain ⟨rfl, rfl⟩ := h
    exact ⟨rfl, ht⟩
  · rintro ⟨rfl, hs⟩
    exact ⟨s, hs, rfl⟩

theorem exists_of_mem_token_mul {c : α} {s : List α} {L : Language α} (h : s ∈ token c * L) :
    ∃ t ∈ L, s = c :: t := by
  obtain ⟨t, ht, rfl⟩ := mem_word_mul.mp h
  exact ⟨t, ht, rfl⟩

/-- A run may be skipped before a text that does not start with one. -/
theorem mem_run_mul {p : α → Bool} {L : Language α} (hL : ∀ t ∈ L, Stops p t) {s : List α} :
    s ∈ runs p * L ↔ s.dropWhile p ∈ L := by
  rw [Language.mem_mul]
  constructor
  · rintro ⟨r, hr, t, ht, rfl⟩
    rw [dropWhile_run hr (hL t ht)]
    exact ht
  · intro h
    refine ⟨s.takeWhile p, ?_, _, h, List.takeWhile_append_dropWhile⟩
    intro c hc
    exact List.mem_takeWhile_imp hc

/-! ## Characters that do not occur -/

/-- `c` is in no text of the language. -/
def Lacks (c : α) (L : Language α) : Prop := ∀ s ∈ L, c ∉ s

theorem lacks_word {c : α} {w : List α} (h : c ∉ w) : Lacks c {w} := by
  rintro s rfl
  exact h

theorem lacks_token {c d : α} (h : c ≠ d) : Lacks c (token d) := by
  apply lacks_word
  simpa using h

theorem lacks_runs {p : α → Bool} {c : α} (h : p c = false) : Lacks c (runs p) := by
  intro s hs hc
  rw [hs c hc] at h
  cases h

theorem Lacks.mul {c : α} {L M : Language α} (hL : Lacks c L) (hM : Lacks c M) :
    Lacks c (L * M) := by
  intro s hs hc
  obtain ⟨a, ha, b, hb, rfl⟩ := Language.mem_mul.mp hs
  rcases List.mem_append.mp hc with hc | hc
  · exact hL a ha hc
  · exact hM b hb hc

end DcapQvl.Lib
