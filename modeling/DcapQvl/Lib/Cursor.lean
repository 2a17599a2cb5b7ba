import Mathlib

/-!
# Reading a buffer through a pair of iterators

A C++ decoder over `std::vector<T>::const_iterator& from, end` reads the buffer
at `from`, moves `from` forwards and backwards and returns `false` when a check
fails. `Reader` models such a decoder on explicit positions. Every dereference
is checked against the buffer, so undefined behaviour is the separate outcome
`Halt.outOfRange`, not a default value.

Results:
* `Refines`: a reader that only depends on the elements of its window behaves
  as a pure function `Scan` on that window; in particular it never reads
  outside the buffer. `Refines.bind`, `refines_within`, `refines_peek` compose.
* `Reads`: the window starts with the encoding of the value that is returned,
  and a reader rejects only when no value fits. `Reads.bind` puts the encodings
  of the fields of a structure one after the other, `Reads.within` confines a
  reader to a declared size and `Reads.peek` covers a size that is read twice.
* `Total`: a reader of a fixed size; with `Reads` its encoding is a bijection
  (`Reads.surjective`, `Reads.injective`).
-/

namespace DcapQvl.Lib

/-- Why a reader stops: `rejected` is `return false`, `outOfRange` is the use of
    an iterator outside the buffer. -/
inductive Halt where
  | rejected
  | outOfRange
  deriving DecidableEq, Repr

/-- A decoder on (buffer, `from`, `end`); it returns its value and the new `from`. -/
def Reader (α β : Type) : Type := List α → ℕ → ℕ → Except Halt (β × ℕ)

/-- A decoder on the elements of a window; it returns its value and what is left. -/
abbrev Scan (α β : Type) : Type := List α → Option (β × List α)

variable {α β γ : Type}

instance : Monad (Reader α) where
  pure v := fun _ pos _ => .ok (v, pos)
  bind r f := fun buf pos stop =>
    match r buf pos stop with
    | .error h => .error h
    | .ok (v, pos') => f v buf pos' stop

theorem Reader.bind_ok {r : Reader α β} {f : β → Reader α γ} {buf : List α} {pos stop pos' : ℕ}
    {v : β} (h : r buf pos stop = .ok (v, pos')) :
    (r >>= f) buf pos stop = f v buf pos' stop := by
  simp only [Bind.bind, h]

theorem Reader.bind_error {r : Reader α β} {f : β → Reader α γ} {buf : List α} {pos stop : ℕ}
    {e : Halt} (h : r buf pos stop = .error e) : (r >>= f) buf pos stop = .error e := by
  simp only [Bind.bind, h]

/-! ## Operations on the iterators -/

/-- The buffer elements from `pos` up to `stop`. -/
def window (buf : List α) (pos stop : ℕ) : List α := (buf.take stop).drop pos

/-- `return false`. -/
def Reader.reject : Reader α β := fun _ _ _ => .error .rejected

/-- `std::distance(from, end)`, a signed difference. -/
def Reader.distance : Reader α ℤ := fun _ pos stop => .ok ((stop : ℤ) - pos, pos)

/-- `*std::next(from, k)`. -/
def Reader.deref (k : ℕ) : Reader α α := fun buf pos _ =>
  match buf[pos + k]? with
  | some x => .ok (x, pos)
  | none => .error .outOfRange

/-- `std::advance(from, k)`. -/
def Reader.advance (k : ℕ) : Reader α Unit := fun buf pos _ =>
  if pos + k ≤ buf.length then .ok ((), pos + k) else .error .outOfRange

/-- `from = std::prev(from, k)`. -/
def Reader.retreat (k : ℕ) : Reader α Unit := fun _ pos _ =>
  if k ≤ pos then .ok ((), pos - k) else .error .outOfRange

/-- `std::copy_n(from, k, out)`. -/
def Reader.copyN (k : ℕ) : Reader α (List α) := fun buf pos _ =>
  if pos + k ≤ buf.length then .ok ((buf.drop pos).take k, pos) else .error .outOfRange

/-- Run `r` with `end = std::next(from, amount)`. -/
def Reader.within (amount : ℕ) (r : Reader α β) : Reader α β := fun buf pos _ =>
  if pos + amount ≤ buf.length then r buf pos (pos + amount) else .error .outOfRange

theorem Reader.distance_bind (f : ℤ → Reader α β) (buf : List α) (pos stop : ℕ) :
    (Reader.distance >>= f) buf pos stop = f ((stop : ℤ) - pos) buf pos stop := rfl

theorem Reader.deref_bind {k : ℕ} {x : α} (f : α → Reader α β) {buf : List α} {pos stop : ℕ}
    (h : buf[pos + k]? = some x) :
    (Reader.deref k >>= f) buf pos stop = f x buf pos stop :=
  Reader.bind_ok (by simp only [Reader.deref, h])

theorem Reader.advance_bind {k : ℕ} (f : Unit → Reader α β) {buf : List α} {pos stop : ℕ}
    (h : pos + k ≤ buf.length) :
    (Reader.advance k >>= f) buf pos stop = f () buf (pos + k) stop :=
  Reader.bind_ok (by simp only [Reader.advance, h, if_true])

theorem Reader.retreat_bind {k : ℕ} (f : Unit → Reader α β) {buf : List α} {pos stop : ℕ}
    (h : k ≤ pos) :
    (Reader.retreat k >>= f) buf pos stop = f () buf (pos - k) stop :=
  Reader.bind_ok (by simp only [Reader.retreat, h, if_true])

theorem Reader.copyN_bind {k : ℕ} (f : List α → Reader α β) {buf : List α} {pos stop : ℕ}
    (h : pos + k ≤ buf.length) :
    (Reader.copyN k >>= f) buf pos stop = f ((buf.drop pos).take k) buf pos stop :=
  Reader.bind_ok (by simp only [Reader.copyN, h, if_true])

/-- The conversion `static_cast<size_t>` of a `std::ptrdiff_t` to 64 bits. -/
def toSize (n : ℤ) : ℕ := (n % 2 ^ 64).toNat

/-- The conversion `(unsigned)` of a `std::ptrdiff_t` to 32 bits. -/
def toUnsigned (n : ℤ) : ℕ := (n % 2 ^ 32).toNat

theorem toUnsigned_eq {n : ℕ} (h : n < 2 ^ 32) : toUnsigned n = n := by
  unfold toUnsigned
  omega

/-- The distance inside a buffer does not change when it is made unsigned. -/
theorem toUnsigned_distance {pos stop : ℕ} (h : pos ≤ stop) (hs : stop < 2 ^ 32) :
    toUnsigned ((stop : ℤ) - pos) = stop - pos := by
  rw [show (stop : ℤ) - pos = ((stop - pos : ℕ) : ℤ) by omega]
  exact toUnsigned_eq (by omega)

theorem toSize_distance {pos stop : ℕ} (h : pos ≤ stop) (hs : stop < 2 ^ 32) :
    toSize ((stop : ℤ) - pos) = stop - pos := by
  unfold toSize
  omega

/-! ## Windows -/

theorem length_window {buf : List α} (pos : ℕ) {stop : ℕ} (h : stop ≤ buf.length) :
    (window buf pos stop).length = stop - pos := by
  simp only [window, List.length_drop, List.length_take]
  omega

theorem window_drop (buf : List α) (pos stop k : ℕ) :
    (window buf pos stop).drop k = window buf (pos + k) stop := by
  simp [window, List.drop_drop]

theorem window_take (buf : List α) (pos stop k : ℕ) (h : pos + k ≤ stop) :
    (window buf pos stop).take k = window buf pos (pos + k) := by
  simp only [window, List.drop_take, List.take_take]
  rw [show min k (stop - pos) = pos + k - pos by omega]

theorem window_all (buf : List α) (pos : ℕ) : window buf pos buf.length = buf.drop pos := by
  simp [window]

theorem window_append {buf : List α} {pos mid stop : ℕ} (h1 : pos ≤ mid) (h2 : mid ≤ stop) :
    window buf pos mid ++ window buf mid stop = window buf pos stop := by
  have := List.take_append_drop (mid - pos) (window buf pos stop)
  rwa [window_take _ _ _ _ (by omega), window_drop, show pos + (mid - pos) = mid by omega] at this

theorem take_drop_eq_window (buf : List α) (pos k : ℕ) :
    (buf.drop pos).take k = window buf pos (pos + k) := by
  rw [window, List.drop_take, Nat.add_sub_cancel_left]

theorem window_cons {buf : List α} {pos stop : ℕ} (h : pos < stop) (hs : stop ≤ buf.length) :
    ∃ x, buf[pos]? = some x ∧ window buf pos stop = x :: window buf (pos + 1) stop := by
  have hx : pos < (buf.take stop).length := by
    rw [List.length_take]
    omega
  refine ⟨buf[pos], List.getElem?_eq_getElem _, ?_⟩
  rw [window, List.drop_eq_getElem_cons hx, List.getElem_take]
  rfl

/-! ## Refinement of a scan -/

/-- The positions `pos ≤ stop` describe a window of a buffer, and the position of its
    end fits in 32 bits. -/
structure InBuffer (buf : List α) (pos stop : ℕ) : Prop where
  le : pos ≤ stop
  stop_le : stop ≤ buf.length
  small : stop < 2 ^ 32

/-- `r` run on a window is `s` applied to the elements of the window: it rejects
    when `s` fails, otherwise it returns the same value and stops where `s`
    stops. It never leaves the buffer. -/
def Refines (r : Reader α β) (s : Scan α β) : Prop :=
  ∀ buf pos stop, InBuffer buf pos stop →
    match s (window buf pos stop) with
    | none => r buf pos stop = .error .rejected
    | some (v, rest) =>
      ∃ pos', pos ≤ pos' ∧ pos' ≤ stop ∧ r buf pos stop = .ok (v, pos') ∧
        rest = window buf pos' stop

theorem refines_pure (v : β) : Refines (pure v : Reader α β) (fun w => some (v, w)) :=
  fun _ pos _ h => ⟨pos, le_rfl, h.le, rfl, rfl⟩

/-- The scan of a sequential composition. -/
def Scan.andThen (s : Scan α β) (t : β → Scan α γ) : Scan α γ := fun w =>
  (s w).bind fun p => t p.1 p.2

/-- The continuation only matters on values that `s` returns. -/
theorem Refines.bind {r : Reader α β} {s : Scan α β} {f : β → Reader α γ} {t : β → Scan α γ}
    (hr : Refines r s) (hf : ∀ w v rest, s w = some (v, rest) → Refines (f v) (t v)) :
    Refines (r >>= f) (s.andThen t) := by
  intro buf pos stop hb
  have h := hr buf pos stop hb
  simp only [Scan.andThen, Bind.bind]
  cases hs : s (window buf pos stop) with
  | none =>
    rw [hs] at h
    simp only at h
    simp [h]
  | some p =>
    obtain ⟨v, rest⟩ := p
    rw [hs] at h
    obtain ⟨pos', h1, h2, h3, h4⟩ := h
    have h' := hf _ _ _ hs buf pos' stop ⟨h2, hb.stop_le, hb.small⟩
    simp only [Option.bind_some, h3, h4]
    cases ht : t v (window buf pos' stop) with
    | none => rw [ht] at h'; exact h'
    | some q =>
      rw [ht] at h'
      obtain ⟨pos'', g1, g2, g3, g4⟩ := h'
      exact ⟨pos'', h1.trans g1, g2, g3, g4⟩

/-- A reader that only differs from another one on windows outside a buffer. -/
theorem Refines.congr {r r' : Reader α β} {s : Scan α β} (h : Refines r s)
    (he : ∀ buf pos stop, InBuffer buf pos stop → r' buf pos stop = r buf pos stop) :
    Refines r' s := by
  intro buf pos stop hb
  rw [he buf pos stop hb]
  exact h buf pos stop hb

/-- The scan that runs `s` on the first `amount` elements; what `s` leaves of
    them comes before the rest of the window. -/
def Scan.within (amount : ℕ) (s : Scan α β) : Scan α β := fun w =>
  if w.length < amount then none
  else (s (w.take amount)).map fun p => (p.1, p.2 ++ w.drop amount)

/-- The scan that runs `s` without consuming anything. -/
def Scan.peek (s : Scan α β) : Scan α β := fun w => (s w).map fun p => (p.1, w)

/-- `copyAndAdvance` of an `amount`: the check on the remaining distance and a
    nested decoder on the sub-window. -/
theorem refines_within {r : Reader α β} {s : Scan α β} (amount : ℕ) (hr : Refines r s) :
    Refines
      (fun buf pos stop =>
        if ((stop : ℤ) - pos) < 0 ∨ toUnsigned ((stop : ℤ) - pos) < amount then .error .rejected
        else Reader.within amount r buf pos stop)
      (s.within amount) := by
  intro buf pos stop hb
  have hlen := length_window pos hb.stop_le
  have hle := hb.le
  have hstop := hb.stop_le
  have hsmall := hb.small
  have hu := toUnsigned_distance hle (by omega)
  simp only [Scan.within, hlen, hu]
  have hneg : ¬ ((stop : ℤ) - pos) < 0 := by omega
  by_cases h : stop - pos < amount
  · simp only [h, if_true, or_true]
  · have hin := hr buf pos (pos + amount) ⟨by omega, by omega, by omega⟩
    simp only [hneg, h, or_false, if_false, Reader.within, show pos + amount ≤ buf.length by omega,
      if_true, window_take _ _ _ _ (show pos + amount ≤ stop by omega)]
    cases hs : s (window buf pos (pos + amount)) with
    | none => rw [hs] at hin; exact hin
    | some p =>
      obtain ⟨v, rest⟩ := p
      rw [hs] at hin
      obtain ⟨pos', h1, h2, h3, h4⟩ := hin
      refine ⟨pos', h1, by omega, h3, ?_⟩
      rw [h4, window_drop, window_append h2 (by omega)]

/-- Reading `k` elements with `r`, moving back by `k` and going on is a look-ahead. -/
theorem refines_peek {r : Reader α β} {s : Scan α β} {f : β → Reader α γ} {t : β → Scan α γ}
    {k : ℕ} (hr : Refines r s) (hk : ∀ w v rest, s w = some (v, rest) → w.length = k + rest.length)
    (hf : ∀ v, Refines (f v) (t v)) :
    Refines (r >>= fun v => Reader.retreat k >>= fun _ => f v) (s.peek.andThen t) := by
  intro buf pos stop hb
  have h := hr buf pos stop hb
  simp only [Scan.andThen, Scan.peek, Bind.bind]
  cases hs : s (window buf pos stop) with
  | none =>
    rw [hs] at h
    simp only at h
    simp [h]
  | some p =>
    obtain ⟨v, rest⟩ := p
    have hlen := hk _ _ _ hs
    rw [hs] at h
    obtain ⟨pos', h1, h2, h3, h4⟩ := h
    rw [h4, length_window _ hb.stop_le, length_window _ hb.stop_le] at hlen
    have hpos : pos' = pos + k := by have := hb.le; omega
    have h' := hf v buf pos stop hb
    simp only [Option.map_some, Option.bind_some, h3, Reader.retreat]
    rw [if_pos (by omega)]
    simp only [show pos' - k = pos by omega]
    exact h'

/-! ## Exact encodings -/

/-- `r` reads exactly the encodings `enc v` followed by a `rest` with `ok v rest`. -/
def Reads (r : Reader α β) (enc : β → List α) (ok : β → List α → Prop) : Prop :=
  ∃ s : Scan α β, Refines r s ∧
    ∀ w v rest, s w = some (v, rest) ↔ w = enc v ++ rest ∧ ok v rest

/-- The fields of a structure are encoded one after the other; `π` projects the
    structure to the field that `r` reads and checks for `P`. -/
theorem Reads.bind {r : Reader α β} {enc : β → List α} {P : β → Prop} {f : β → Reader α γ}
    {enc' : γ → List α} {ok' : γ → List α → Prop} (π : γ → β) (hr : Reads r enc fun v _ => P v)
    (hP : ∀ c rest, ok' c rest → P (π c))
    (hf : ∀ v, P v → Reads (f v) enc' (fun c rest => π c = v ∧ ok' c rest)) :
    Reads (r >>= f) (fun c => enc (π c) ++ enc' c) ok' := by
  obtain ⟨s, hs, hse⟩ := hr
  have hex : ∀ v, ∃ t : Scan α γ, P v → Refines (f v) t ∧
      ∀ w c rest, t w = some (c, rest) ↔ w = enc' c ++ rest ∧ π c = v ∧ ok' c rest := by
    intro v
    by_cases hv : P v
    · obtain ⟨t, ht⟩ := hf v hv
      exact ⟨t, fun _ => ht⟩
    · exact ⟨fun _ => none, fun h => absurd h hv⟩
  choose t ht using hex
  refine ⟨s.andThen t, hs.bind fun w v rest h => (ht v ((hse _ _ _).mp h).2).1,
    fun w c rest => ?_⟩
  simp only [Scan.andThen, Option.bind_eq_some_iff, Prod.exists]
  constructor
  · rintro ⟨v, rest', h1, h2⟩
    obtain ⟨rfl, hv⟩ := (hse _ _ _).mp h1
    obtain ⟨rfl, rfl, hok'⟩ := ((ht v hv).2 _ _ _).mp h2
    exact ⟨by simp, hok'⟩
  · rintro ⟨rfl, hok'⟩
    have hv := hP c rest hok'
    exact ⟨π c, enc' c ++ rest, (hse _ _ _).mpr ⟨by simp, hv⟩,
      ((ht _ hv).2 _ _ _).mpr ⟨rfl, rfl, hok'⟩⟩

/-- `Reads.bind` for a field whose decoder accepts every encoding. -/
theorem Reads.field {r : Reader α β} {enc : β → List α} {f : β → Reader α γ}
    {enc' : γ → List α} {ok' : γ → List α → Prop} (π : γ → β)
    (hr : Reads r enc fun _ _ => True)
    (hf : ∀ v, Reads (f v) enc' (fun c rest => π c = v ∧ ok' c rest)) :
    Reads (r >>= f) (fun c => enc (π c) ++ enc' c) ok' :=
  hr.bind π (fun _ _ _ => trivial) fun v _ => hf v

/-- The last step of a structure: the fields read before determine the value. -/
theorem reads_make {ok : β → List α → Prop} (v : β) (h : ∀ u rest, u = v ↔ ok u rest) :
    Reads (pure v : Reader α β) (fun _ => []) ok :=
  ⟨_, refines_pure v, fun w u rest => by
    rw [← h, Option.some.injEq, Prod.mk.injEq, List.nil_append]
    tauto⟩

/-- The last step of a structure that must end with its window. -/
theorem reads_end {ok : β → List α → Prop} (v : β) (h : ∀ u rest, u = v ∧ rest = [] ↔ ok u rest) :
    Reads (do
      let left ← Reader.distance
      if left ≠ 0 then Reader.reject else pure v : Reader α β) (fun _ => []) ok := by
  refine ⟨fun w => if w.isEmpty then some (v, []) else none, ?_, fun w u rest => ?_⟩
  · intro buf pos stop hb
    have hlen := length_window pos hb.stop_le
    have hle := hb.le
    rw [Reader.distance_bind]
    by_cases hpos : pos = stop
    · subst hpos
      rw [show window buf pos pos = [] from List.length_eq_zero_iff.mp (by omega)]
      exact ⟨pos, le_rfl, le_rfl, by rw [if_neg (by omega)]; rfl, by simp [window]⟩
    · have hne : (window buf pos stop).isEmpty = false := by
        rw [List.isEmpty_eq_false_iff_exists_mem]
        exact List.exists_mem_of_length_pos (by omega)
      rw [if_pos (by omega)]
      simp only [hne, Bool.false_eq_true, if_false]
      rfl
  · rw [← h, List.nil_append]
    cases w with
    | nil => simp [eq_comm]
    | cons x w =>
      simp only [List.isEmpty_cons, Bool.false_eq_true, if_false, reduceCtorEq, false_iff]
      rintro ⟨rfl, -, h⟩
      cases h

/-- The last step of a declared size that must fit in the rest of the window. -/
theorem reads_fits {ok : β → List α → Prop} (v : β) (k : ℕ)
    (h : ∀ u rest, u = v ∧ k ≤ rest.length ↔ ok u rest) :
    Reads (do
      let remaining ← Reader.distance
      if (k : ℤ) > remaining then Reader.reject else pure v : Reader α β) (fun _ => []) ok := by
  refine ⟨fun w => if k ≤ w.length then some (v, w) else none, ?_, fun w u rest => ?_⟩
  · intro buf pos stop hb
    have hlen := length_window pos hb.stop_le
    have hle := hb.le
    rw [Reader.distance_bind]
    by_cases hk : k ≤ stop - pos
    · simp only [hlen, hk, if_true]
      exact ⟨pos, le_rfl, hle, by rw [if_neg (by omega)]; rfl, rfl⟩
    · simp only [hlen, hk, if_false]
      rw [if_pos (by omega)]
      rfl
  · rw [← h, List.nil_append]
    by_cases hk : k ≤ w.length
    · simp only [hk, if_true, Option.some.injEq, Prod.mk.injEq]
      constructor
      · rintro ⟨rfl, rfl⟩
        exact ⟨rfl, rfl, hk⟩
      · rintro ⟨rfl, rfl, -⟩
        exact ⟨rfl, rfl⟩
    · simp only [hk, if_false, reduceCtorEq, false_iff]
      rintro ⟨rfl, -, h⟩
      exact hk h

theorem Reads.congr {r : Reader α β} {enc enc' : β → List α} {ok ok' : β → List α → Prop}
    (h : Reads r enc ok) (hok : ∀ v rest, ok v rest ↔ ok' v rest)
    (henc : ∀ v rest, ok' v rest → enc v = enc' v) : Reads r enc' ok' := by
  obtain ⟨s, hs, hse⟩ := h
  refine ⟨s, hs, fun w v rest => ?_⟩
  rw [hse, hok]
  constructor <;> rintro ⟨rfl, h⟩ <;> exact ⟨by rw [henc v rest h], h⟩

/-- A decoder confined to the next `amount` elements: what it leaves of them is
    the part of `rest` inside the confinement. -/
theorem Reads.within {r : Reader α β} {enc : β → List α} {ok : β → List α → Prop} (amount : ℕ)
    (h : Reads r enc ok) :
    Reads
      (fun buf pos stop =>
        if ((stop : ℤ) - pos) < 0 ∨ toUnsigned ((stop : ℤ) - pos) < amount then .error .rejected
        else Reader.within amount r buf pos stop)
      enc
      (fun v rest => (enc v).length ≤ amount ∧ amount ≤ (enc v).length + rest.length ∧
        ok v (rest.take (amount - (enc v).length))) := by
  obtain ⟨s, hs, hse⟩ := h
  refine ⟨_, refines_within amount hs, fun w v rest => ?_⟩
  rw [Scan.within]
  by_cases hw : w.length < amount
  · rw [if_pos hw]
    constructor
    · intro h
      cases h
    · rintro ⟨rfl, -, h2, -⟩
      rw [List.length_append] at hw
      omega
  · rw [if_neg hw]
    simp only [Option.map_eq_some_iff, Prod.exists, Prod.mk.injEq]
    constructor
    · rintro ⟨v', rest', h1, rfl, rfl⟩
      obtain ⟨he, hok⟩ := (hse _ _ _).mp h1
      have hlen : (enc v').length + rest'.length = amount := by
        rw [← List.length_append, ← he, List.length_take]
        omega
      refine ⟨by rw [← List.append_assoc, ← he, List.take_append_drop], by omega, ?_, ?_⟩
      · rw [List.length_append]
        omega
      · rwa [show amount - (enc v').length = rest'.length by omega, List.take_left]
    · rintro ⟨rfl, h1, h2, h3⟩
      refine ⟨v, rest.take (amount - (enc v).length), (hse _ _ _).mpr ⟨?_, h3⟩, rfl, ?_⟩
      · rw [List.take_append, List.take_of_length_le h1]
      · rw [List.drop_append, List.drop_of_length_le h1, List.nil_append, List.take_append_drop]

/-- Reading `k` elements with `r`, moving back by `k` and reading on with `f`. -/
theorem Reads.peek {r : Reader α β} {s : Scan α β} {k : ℕ} (hs : Refines r s)
    (hk : ∀ w v rest, s w = some (v, rest) → w.length = k + rest.length) {f : β → Reader α γ}
    {enc' : β → γ → List α} {ok' : β → γ → List α → Prop}
    (hf : ∀ v, Reads (f v) (enc' v) (ok' v)) {enc : γ → List α} {ok : γ → List α → Prop}
    (hall : ∀ c rest w, (∃ v, (∃ rest', s w = some (v, rest')) ∧
      w = enc' v c ++ rest ∧ ok' v c rest) ↔ w = enc c ++ rest ∧ ok c rest) :
    Reads (r >>= fun v => Reader.retreat k >>= fun _ => f v) enc ok := by
  choose t ht hte using hf
  refine ⟨s.peek.andThen t, refines_peek hs hk ht, fun w c rest => ?_⟩
  rw [← hall]
  simp only [Scan.andThen, Scan.peek, Option.bind_eq_some_iff, Option.map_eq_some_iff, Prod.exists,
    Prod.mk.injEq]
  constructor
  · rintro ⟨v, w', ⟨v', rest', h1, rfl, rfl⟩, h2⟩
    exact ⟨v', ⟨rest', h1⟩, (hte _ _ _ _).mp h2⟩
  · rintro ⟨v, ⟨rest', h1⟩, h2⟩
    exact ⟨v, w, ⟨v, rest', h1, rfl, rfl⟩, (hte _ _ _ _).mpr h2⟩

/-- `r` reads exactly `k` elements whenever there are that many. -/
def Total (r : Reader α β) (k : ℕ) : Prop :=
  ∀ buf pos stop, InBuffer buf pos stop → pos + k ≤ stop →
    ∃ v, r buf pos stop = .ok (v, pos + k)

theorem total_pure (v : β) : Total (pure v : Reader α β) 0 := fun _ _ _ _ _ => ⟨v, rfl⟩

theorem Total.bind {r : Reader α β} {f : β → Reader α γ} {k l : ℕ} (hr : Total r k)
    (hf : ∀ v, Total (f v) l) : Total (r >>= f) (k + l) := by
  intro buf pos stop hb hk
  obtain ⟨v, hv⟩ := hr buf pos stop hb (by omega)
  obtain ⟨c, hc⟩ := hf v buf (pos + k) stop ⟨by omega, hb.stop_le, hb.small⟩ (by omega)
  exact ⟨c, by simp only [Bind.bind, hv, hc, Nat.add_assoc]⟩

/-- What a run from a position up to the end of the buffer returns. -/
theorem Reads.run {r : Reader α β} {enc : β → List α} {ok : β → List α → Prop}
    (h : Reads r enc ok) {buf : List α} {pos : ℕ} (hpos : pos ≤ buf.length)
    (hsmall : buf.length < 2 ^ 32) :
    (∃ v rest, buf.drop pos = enc v ++ rest ∧ ok v rest ∧
        r buf pos buf.length = .ok (v, pos + (enc v).length)) ∨
      (r buf pos buf.length = .error .rejected ∧
        ∀ v rest, buf.drop pos = enc v ++ rest → ¬ ok v rest) := by
  obtain ⟨s, hs, hse⟩ := h
  have hb : InBuffer buf pos buf.length := ⟨hpos, le_rfl, hsmall⟩
  have hrun := hs buf pos buf.length hb
  rw [window_all] at hrun
  cases hw : s (buf.drop pos) with
  | none =>
    rw [hw] at hrun
    refine Or.inr ⟨hrun, fun v rest he hok => ?_⟩
    have := (hse _ _ _).mpr ⟨he, hok⟩
    rw [hw] at this
    cases this
  | some p =>
    obtain ⟨v, rest⟩ := p
    rw [hw] at hrun
    obtain ⟨pos', h1, h2, h3, h4⟩ := hrun
    obtain ⟨he, hok⟩ := (hse _ _ _).mp hw
    refine Or.inl ⟨v, rest, he, hok, ?_⟩
    have hlen := congrArg List.length he
    rw [List.length_append, List.length_drop, h4, window_all, List.length_drop] at hlen
    rw [h3, show pos' = pos + (enc v).length by omega]

/-- A run that starts at an encoding returns its value. -/
theorem Reads.run_eq {r : Reader α β} {enc : β → List α} {ok : β → List α → Prop}
    (h : Reads r enc ok) {buf : List α} {pos : ℕ} (hpos : pos ≤ buf.length)
    (hsmall : buf.length < 2 ^ 32) {v : β} {rest : List α} (he : buf.drop pos = enc v ++ rest)
    (hok : ok v rest) : r buf pos buf.length = .ok (v, pos + (enc v).length) := by
  obtain ⟨s, hs, hse⟩ := h
  have hrun := hs buf pos buf.length ⟨hpos, le_rfl, hsmall⟩
  rw [window_all, (hse _ _ _).mpr ⟨he, hok⟩] at hrun
  obtain ⟨pos', h1, h2, h3, h4⟩ := hrun
  have hlen := congrArg List.length he
  rw [List.length_append, List.length_drop, h4, window_all, List.length_drop] at hlen
  rw [h3, show pos' = pos + (enc v).length by omega]

/-- A reader of a fixed size, run on a window of that size, returns what the window encodes. -/
theorem Reads.run_total {r : Reader α β} {enc : β → List α} {ok : β → List α → Prop} {k : ℕ}
    (h : Reads r enc ok) (ht : Total r k) (henc : ∀ v, (enc v).length = k) {buf : List α} {pos : ℕ}
    (hb : InBuffer buf pos (pos + k)) :
    ∃ v, enc v = window buf pos (pos + k) ∧ r buf pos (pos + k) = .ok (v, pos + k) := by
  obtain ⟨s, hs, hse⟩ := h
  obtain ⟨v, hv⟩ := ht buf pos (pos + k) hb le_rfl
  have hrun := hs buf pos (pos + k) hb
  cases hw : s (window buf pos (pos + k)) with
  | none =>
    rw [hw, hv] at hrun
    cases hrun
  | some p =>
    obtain ⟨v', rest⟩ := p
    rw [hw] at hrun
    obtain ⟨pos', -, -, hpos', -⟩ := hrun
    rw [hv] at hpos'
    cases hpos'
    refine ⟨v, ?_, hv⟩
    have he := ((hse _ _ _).mp hw).1
    -- the window is as long as the encoding, so nothing is left
    have hlen := congrArg List.length he
    rw [length_window _ hb.stop_le, List.length_append, henc] at hlen
    rw [he, List.length_eq_zero_iff.mp (by omega : rest.length = 0), List.append_nil]

/-- Every window of the length of the encodings is an encoding. -/
theorem Reads.surjective {r : Reader α β} {enc : β → List α} {ok : β → List α → Prop} {k : ℕ}
    (h : Reads r enc ok) (ht : Total r k) (hk : k < 2 ^ 32) (henc : ∀ v, (enc v).length = k)
    {w : List α} (hw : w.length = k) : ∃ v, enc v = w := by
  rcases h.run w.length.zero_le (by omega) with ⟨v, rest, he, -, -⟩ | ⟨hr, -⟩
  · refine ⟨v, ?_⟩
    have hlen := congrArg List.length he
    rw [List.drop_zero, List.length_append, henc, hw] at hlen
    rw [List.drop_zero, List.length_eq_zero_iff.mp (by omega : rest.length = 0),
      List.append_nil] at he
    exact he.symm
  · obtain ⟨v, hv⟩ := ht w 0 w.length ⟨Nat.zero_le _, le_rfl, by omega⟩ (by omega)
    rw [hr] at hv
    cases hv

/-- A value is determined by its encoding. -/
theorem Reads.injective {r : Reader α β} {enc : β → List α} (h : Reads r enc fun _ _ => True)
    {v v' : β} (he : enc v = enc v') : v = v' := by
  obtain ⟨s, -, hse⟩ := h
  have h1 := (hse (enc v) v []).mpr ⟨by rw [List.append_nil], trivial⟩
  have h2 := (hse (enc v) v' []).mpr ⟨by rw [he, List.append_nil], trivial⟩
  rw [h1] at h2
  cases h2
  rfl

end DcapQvl.Lib
