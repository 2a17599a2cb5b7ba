import DcapQvl.Lib.Outcome
import DcapQvl.Lib.Ownership

/-!
# Optional

Model of `Utils/Optional.h`: the objects of a program, each with a flag and an
owning pointer, and the live cells that `new` has returned. A step is one
operation; deleting or reading a cell that is not live is a fault. The outcome
of `new T(...)` is an argument of the operations that call it: an address, or
`none` when it throws.

Results:
* `step_refines`: in a memory where the pointers are owned, a step that resets
  the pointer is the step of `std::optional` values.
* `safe_iff_resets`: a run is safe exactly when every step resets the pointer;
  the copy assignment of an empty object to a filled one does not.
* `run_correct`: such a run is one of `std::optional` values, and when its objects are gone,
  no cell is live.
-/

namespace DcapQvl

open Lib

/-! ## Objects and cells -/

/-- The members of `Optional<T>`; the null pointer is `none`. -/
structure Optional where
  internalValue : Option ℕ
  hasValue : Bool
  deriving DecidableEq, Repr

/-- `Optional()`, which is also what a move leaves of its source. -/
def Optional.empty : Optional := ⟨none, false⟩

/-- The objects by name and the live cells by address. -/
structure OptionalMemory (ι T : Type) where
  objects : ι → Option Optional
  cells : ℕ → Option T

/-- Undefined behaviour: `delete` of a cell that is not live, reading through a pointer
    that is null or not to a live cell, using an object that does not exist. -/
inductive Fault
  | badDelete (cell : ℕ)
  | badRead
  | noObject
  deriving DecidableEq, Repr

namespace OptionalMemory

variable {ι T : Type}

/-- The memory at the start of a program. -/
def initial : OptionalMemory ι T := ⟨fun _ => none, fun _ => none⟩

/-- The object `x` becomes `o`, or ceases to exist. -/
def set [DecidableEq ι] (m : OptionalMemory ι T) (x : ι) (o : Option Optional) : OptionalMemory ι T :=
  { m with objects := Function.update m.objects x o }

/-- The members of an object. -/
def object (m : OptionalMemory ι T) (x : ι) : Except Fault Optional :=
  match m.objects x with
  | some o => .ok o
  | none => .error .noObject

/-- `delete p`. -/
def delete (m : OptionalMemory ι T) (p : Option ℕ) : Except Fault (OptionalMemory ι T) :=
  match p with
  | none => .ok m
  | some cell =>
    if (m.cells cell).isSome then .ok { m with cells := Function.update m.cells cell none }
    else .error (.badDelete cell)

/-- `*p`. -/
def deref (m : OptionalMemory ι T) (p : Option ℕ) : Except Fault T :=
  match p.bind m.cells with
  | some val => .ok val
  | none => .error .badRead

/-- What `new T(val)` does when it returns `cell`. -/
def allocate (m : OptionalMemory ι T) (cell : ℕ) (val : T) : OptionalMemory ι T :=
  { m with cells := Function.update m.cells cell (some val) }

/-! ## Operations -/

variable [DecidableEq ι]

/-- `Optional(const T& val)`. -/
def constructValue (m : OptionalMemory ι T) (x : ι) (val : T) (new : Option ℕ) :
    Except Fault (OptionalMemory ι T) :=
  match new with
  | none => .ok m
  | some cell => .ok ((m.allocate cell val).set x (some ⟨some cell, true⟩))

/-- `Optional(const Optional& other)`. -/
def copyConstruct (m : OptionalMemory ι T) (x other : ι) (new : Option ℕ) :
    Except Fault (OptionalMemory ι T) := do
  let source ← m.object other
  if source.hasValue then
    match new with
    | none => .ok m
    | some cell => do
      let val ← m.deref source.internalValue
      .ok ((m.allocate cell val).set x (some ⟨some cell, true⟩))
  else .ok (m.set x (some .empty))

/-- `operator=(const Optional& other)`; a throw leaves the members that have been assigned. -/
def copyAssign (m : OptionalMemory ι T) (x other : ι) (new : Option ℕ) :
    Except Fault (OptionalMemory ι T) := do
  let target ← m.object x
  let source ← m.object other
  if other ≠ x then do
    let m ← m.delete target.internalValue
    if source.hasValue then
      match new with
      | none => .ok (m.set x (some { target with hasValue := source.hasValue }))
      | some cell => do
        let val ← m.deref source.internalValue
        .ok ((m.allocate cell val).set x (some ⟨some cell, source.hasValue⟩))
    else .ok (m.set x (some { target with hasValue := source.hasValue }))
  else .ok m

/-- `Optional(Optional&& other)`. -/
def moveConstruct (m : OptionalMemory ι T) (x other : ι) : Except Fault (OptionalMemory ι T) := do
  let source ← m.object other
  .ok ((m.set x (some source)).set other (some .empty))

/-- `operator=(Optional&& other)`. -/
def moveAssign (m : OptionalMemory ι T) (x other : ι) : Except Fault (OptionalMemory ι T) := do
  let target ← m.object x
  let source ← m.object other
  if other ≠ x then do
    let m ← m.delete target.internalValue
    .ok ((m.set x (some source)).set other (some .empty))
  else .ok m

/-- `~Optional()`. -/
def destroy (m : OptionalMemory ι T) (x : ι) : Except Fault (OptionalMemory ι T) := do
  let object ← m.object x
  let m ← m.delete object.internalValue
  .ok (m.set x none)

/-- `value()`; `none` when it throws `std::logic_error`. -/
def value (m : OptionalMemory ι T) (x : ι) : Except Fault (Option T) := do
  let object ← m.object x
  if object.hasValue then do
    let val ← m.deref object.internalValue
    .ok (some val)
  else .ok none

end OptionalMemory

/-- The operations on the objects of a program. -/
inductive OptionalOp (ι T : Type)
  | construct (x : ι)
  | constructValue (x : ι) (val : T) (new : Option ℕ)
  | copyConstruct (x other : ι) (new : Option ℕ)
  | copyAssign (x other : ι) (new : Option ℕ)
  | moveConstruct (x other : ι)
  | moveAssign (x other : ι)
  | destroy (x : ι)

namespace OptionalMemory

variable {ι T : Type}

/-- One operation. -/
def step [DecidableEq ι] (m : OptionalMemory ι T) : OptionalOp ι T → Except Fault (OptionalMemory ι T)
  | .construct x => .ok (m.set x (some .empty))
  | .constructValue x val new => m.constructValue x val new
  | .copyConstruct x other new => m.copyConstruct x other new
  | .copyAssign x other new => m.copyAssign x other new
  | .moveConstruct x other => m.moveConstruct x other
  | .moveAssign x other => m.moveAssign x other
  | .destroy x => m.destroy x

/-- An object exists. -/
def Exists (m : OptionalMemory ι T) (x : ι) : Prop := (m.objects x).isSome

/-- `new` does not return the address of a live cell. -/
def Fresh (m : OptionalMemory ι T) (new : Option ℕ) : Prop := ∀ cell ∈ new, m.cells cell = none

/-- The operations that a C++ program can make: it constructs an object that does not
    exist and uses objects that do. -/
def Applicable (m : OptionalMemory ι T) : OptionalOp ι T → Prop
  | .construct x => ¬ m.Exists x
  | .constructValue x _ new => ¬ m.Exists x ∧ m.Fresh new
  | .copyConstruct x other new => ¬ m.Exists x ∧ m.Exists other ∧ m.Fresh new
  | .copyAssign x other new => m.Exists x ∧ m.Exists other ∧ m.Fresh new
  | .moveConstruct x other => ¬ m.Exists x ∧ m.Exists other
  | .moveAssign x other => m.Exists x ∧ m.Exists other
  | .destroy x => m.Exists x

/-- `has_value()`. -/
def hasValue (m : OptionalMemory ι T) (x : ι) : Bool := (m.objects x).any Optional.hasValue

/-- The condition under which a step leaves the pointer of its target in order: a copy
    assignment from another object is one of a value whose copy does not throw, or one
    of an empty object to an empty one. -/
def Resets (m : OptionalMemory ι T) : OptionalOp ι T → Prop
  | .copyAssign x other new =>
    other ≠ x → if m.hasValue other then new ≠ none else ¬ m.hasValue x
  | _ => True

/-! ## Values -/

/-- The pointer of an object. -/
def held (m : OptionalMemory ι T) (x : ι) : Option ℕ := (m.objects x).bind Optional.internalValue

/-- The addresses of the live cells. -/
def live (m : OptionalMemory ι T) : Set ℕ := {cell | (m.cells cell).isSome}

/-- The objects as `std::optional` values. -/
def values (m : OptionalMemory ι T) (x : ι) : Option (Option T) :=
  (m.objects x).map fun o => o.internalValue.bind m.cells

/-- What the operations do to `std::optional` values. -/
def valuesAfter [DecidableEq ι] (σ : ι → Option (Option T)) : OptionalOp ι T → ι → Option (Option T)
  | .construct x => Function.update σ x (some none)
  | .constructValue x val new => if new = none then σ else Function.update σ x (some (some val))
  | .copyConstruct x other new =>
    if (σ other).join.isSome ∧ new = none then σ else Function.update σ x (σ other)
  | .copyAssign x other _ => Function.update σ x (σ other)
  | .moveConstruct x other => Function.update (Function.update σ x (σ other)) other (some none)
  | .moveAssign x other =>
    if other = x then σ else Function.update (Function.update σ x (σ other)) other (some none)
  | .destroy x => Function.update σ x none

/-- The pointers of the objects are owned, and the flags say which are not null. -/
structure Owned (m : OptionalMemory ι T) : Prop where
  owns : Owns m.held m.live
  flag : ∀ x, ∀ o ∈ m.objects x, o.hasValue = o.internalValue.isSome

/-- A flag says whether the pointer is null; a pointer is to a live cell, held by one object. -/
structure Sound (m : OptionalMemory ι T) : Prop where
  hasValue_iff : ∀ x, ∀ o ∈ m.objects x, o.hasValue = true ↔ o.internalValue ≠ none
  live : ∀ x, ∀ o ∈ m.objects x, ∀ cell ∈ o.internalValue, (m.cells cell).isSome
  alone : ∀ x y, ∀ o ∈ m.objects x, ∀ p ∈ m.objects y, ∀ cell ∈ o.internalValue,
    cell ∈ p.internalValue → x = y

theorem owned_initial : (initial : OptionalMemory ι T).Owned where
  owns := owns_empty.congr (fun _ => rfl) fun a => by simp [live, initial]
  flag x o h := by cases h

/-! ## The steps on an owned memory -/

/-- The memory without the cell of a pointer. -/
def erase (m : OptionalMemory ι T) (p : Option ℕ) : OptionalMemory ι T :=
  { m with cells := fun cell => if p = some cell then none else m.cells cell }

theorem object_eq {m : OptionalMemory ι T} {x : ι} {o : Optional} (h : m.objects x = some o) :
    m.object x = .ok o := by
  rw [object, h]

theorem held_eq {m : OptionalMemory ι T} {x : ι} {o : Optional} (h : m.objects x = some o) :
    m.held x = o.internalValue := by
  rw [held, h, Option.bind_some]

theorem held_of_not_exists {m : OptionalMemory ι T} {x : ι} (h : ¬ m.Exists x) :
    m.held x = none := by
  rw [held, Option.not_isSome_iff_eq_none.mp h, Option.bind_none]

@[simp] theorem erase_none (m : OptionalMemory ι T) : m.erase none = m := by
  simp [erase]

theorem Exists.object {m : OptionalMemory ι T} {x : ι} (h : m.Exists x) : ∃ o, m.objects x = some o :=
  Option.isSome_iff_exists.mp h

theorem hasValue_eq {m : OptionalMemory ι T} {x : ι} {o : Optional} (h : m.objects x = some o) :
    m.hasValue x = o.hasValue := by
  rw [hasValue, h, Option.any_some]

namespace Owned

variable {m : OptionalMemory ι T}

/-- What an object holds is a live cell. -/
theorem isSome_cells (h : m.Owned) {x : ι} {cell : ℕ} (hx : m.held x = some cell) :
    (m.cells cell).isSome := h.owns.mem_live hx

/-- Deleting what an object holds is no fault. -/
theorem delete_held (h : m.Owned) (x : ι) : m.delete (m.held x) = .ok (m.erase (m.held x)) := by
  cases hx : m.held x with
  | none => rw [erase_none]; rfl
  | some cell =>
    rw [delete, if_pos (h.isSome_cells hx)]
    congr 2
    funext c
    by_cases hc : c = cell
    · subst hc
      simp
    · rw [Function.update_of_ne hc, if_neg (by simpa using Ne.symm hc)]

/-- The value of an object that says it has one. -/
theorem deref_eq (h : m.Owned) {x : ι} {o : Optional} (hx : m.objects x = some o)
    (ho : o.hasValue = true) :
    ∃ val, m.deref o.internalValue = .ok val ∧ m.values x = some (some val) := by
  rw [h.flag x o hx] at ho
  obtain ⟨cell, hcell⟩ := Option.isSome_iff_exists.mp ho
  obtain ⟨val, hval⟩ := Option.isSome_iff_exists.mp
    (h.isSome_cells (show m.held x = some cell by rw [held_eq hx, hcell]))
  refine ⟨val, ?_, ?_⟩
  · rw [deref, hcell, Option.bind_some, hval]
  · rw [values, hx, Option.map_some, hcell, Option.bind_some, hval]

theorem sound (h : m.Owned) : m.Sound where
  hasValue_iff x o ho := by rw [h.flag x o ho, Option.isSome_iff_ne_none]
  live x o ho cell hcell := h.isSome_cells (by rw [held_eq ho, hcell])
  alone x y o ho p hp cell hx hy :=
    h.owns.unique x y cell (by rw [held_eq ho, hx]) (by rw [held_eq hp, hy])

theorem values_of_hasValue_eq_false (h : m.Owned) {x : ι} {o : Optional}
    (hx : m.objects x = some o) (ho : ¬ o.hasValue = true) : m.values x = some none := by
  rw [h.flag x o hx, Option.not_isSome_iff_eq_none] at ho
  rw [values, hx, Option.map_some, ho, Option.bind_none]

end Owned

variable [DecidableEq ι]

@[simp] theorem set_set (m : OptionalMemory ι T) (x : ι) (o p : Option Optional) :
    (m.set x o).set x p = m.set x p := by
  simp [set]

@[simp] theorem allocate_set (m : OptionalMemory ι T) (x : ι) (o : Option Optional) (cell : ℕ)
    (val : T) : (m.set x o).allocate cell val = (m.allocate cell val).set x o := rfl

theorem held_set (m : OptionalMemory ι T) (x : ι) (o : Option Optional) :
    (m.set x o).held = Function.update m.held x (o.bind Optional.internalValue) := by
  funext y
  by_cases h : y = x
  · subst h
    simp [held, set]
  · simp [held, set, Function.update_of_ne h]

theorem objects_set_of_ne (m : OptionalMemory ι T) {x y : ι} (h : y ≠ x) (o : Option Optional) :
    (m.set x o).objects y = m.objects y := Function.update_of_ne h ..

theorem values_set (m : OptionalMemory ι T) (x : ι) (o : Option Optional) :
    (m.set x o).values =
      Function.update m.values x (o.map fun o => o.internalValue.bind m.cells) := by
  funext y
  by_cases h : y = x
  · subst h
    simp [values, set]
  · simp [values, set, Function.update_of_ne h]

theorem flag_set {m : OptionalMemory ι T}
    (h : ∀ x, ∀ o ∈ m.objects x, o.hasValue = o.internalValue.isSome) (x : ι)
    {p : Option Optional} (hp : ∀ o ∈ p, o.hasValue = o.internalValue.isSome) :
    ∀ y, ∀ o ∈ (m.set x p).objects y, o.hasValue = o.internalValue.isSome := by
  intro y o ho
  by_cases hy : y = x
  · subst hy
    have hset : (m.set y p).objects y = p := Function.update_self ..
    rw [hset] at ho
    exact hp o ho
  · rw [objects_set_of_ne m hy] at ho
    exact h y o ho

namespace Owned

variable {m : OptionalMemory ι T}

/-- An object is emptied or ends after its cell is deleted. -/
theorem clear (h : m.Owned) (x : ι) {p : Option Optional} (hp : ∀ o ∈ p, o = .empty) :
    ((m.erase (m.held x)).set x p).Owned ∧
      ((m.erase (m.held x)).set x p).values =
        Function.update m.values x (p.map fun _ => none) := by
  have hnone : p.bind Optional.internalValue = none := by
    cases p with
    | none => rfl
    | some o => rw [hp o rfl]; rfl
  have hmap : ∀ cells : ℕ → Option T,
      (p.map fun o => o.internalValue.bind cells) = p.map fun _ => none := by
    intro cells
    cases p with
    | none => rfl
    | some o => rw [hp o rfl]; rfl
  refine ⟨⟨?_, ?_⟩, ?_⟩
  · rw [held_set, hnone]
    refine (h.owns.clear x).congr (fun _ => rfl) fun cell => ?_
    simp only [live, set, erase, Set.mem_ofPred_eq, Set.mem_sdiff]
    by_cases hc : m.held x = some cell <;> simp [hc]
  · exact flag_set (m := m.erase (m.held x)) h.flag x fun o ho => by rw [hp o ho]; rfl
  · rw [values_set, hmap]
    funext y
    by_cases hy : y = x
    · subst hy
      rw [Function.update_self, Function.update_self]
    · rw [Function.update_of_ne hy, Function.update_of_ne hy]
      -- the deleted cell is not that of another object
      simp only [values, erase]
      cases hobj : m.objects y with
      | none => rfl
      | some o =>
        rw [Option.map_some, Option.map_some]
        congr 1
        cases ho : o.internalValue with
        | none => rfl
        | some cell =>
          rw [Option.bind_some, Option.bind_some, if_neg]
          intro hx
          exact hy (h.owns.unique y x cell (by rw [held_eq hobj, ho]) hx)

/-- A value is put in a fresh cell of an object that holds none. -/
theorem allocate (h : m.Owned) {x : ι} (hx : m.held x = none) {cell : ℕ}
    (hcell : m.cells cell = none) (val : T) :
    ((m.allocate cell val).set x (some ⟨some cell, true⟩)).Owned ∧
      ((m.allocate cell val).set x (some ⟨some cell, true⟩)).values =
        Function.update m.values x (some (some val)) := by
  have hlive : cell ∉ m.live := by simp [live, hcell]
  refine ⟨⟨?_, ?_⟩, ?_⟩
  · rw [held_set]
    refine (h.owns.acquire hx hlive).congr (fun _ => rfl) fun c => ?_
    simp only [live, set, OptionalMemory.allocate, Set.mem_ofPred_eq, Set.mem_insert_iff]
    by_cases hc : c = cell
    · subst hc
      simp
    · simp [hc]
  · exact flag_set (m := m.allocate cell val) h.flag x fun o ho => by cases ho; rfl
  · rw [values_set]
    funext y
    by_cases hy : y = x
    · subst hy
      simp [OptionalMemory.allocate]
    · rw [Function.update_of_ne hy, Function.update_of_ne hy]
      -- the fresh cell is not that of another object
      simp only [values, OptionalMemory.allocate]
      cases hobj : m.objects y with
      | none => rfl
      | some o =>
        rw [Option.map_some, Option.map_some]
        congr 1
        cases ho : o.internalValue with
        | none => rfl
        | some c =>
          rw [Option.bind_some, Option.bind_some, Function.update_of_ne]
          rintro rfl
          have := h.isSome_cells (show m.held y = some c by rw [held_eq hobj, ho])
          rw [hcell] at this
          cases this

/-- The members of an object are moved to one that holds nothing. -/
theorem move (h : m.Owned) {x y : ι} (hne : x ≠ y) (hx : m.held x = none) {o : Optional}
    (hy : m.objects y = some o) :
    ((m.set x (some o)).set y (some .empty)).Owned ∧
      ((m.set x (some o)).set y (some .empty)).values =
        Function.update (Function.update m.values x (m.values y)) y (some none) := by
  refine ⟨⟨?_, ?_⟩, ?_⟩
  · rw [held_set, held_set, Option.bind_some, ← held_eq hy]
    exact (h.owns.move hne hx).congr (fun _ => rfl) fun _ => Iff.rfl
  · exact flag_set (flag_set h.flag x fun p hp => by cases hp; exact h.flag y o hy) y
      fun p hp => by cases hp; rfl
  · rw [values_set, values_set, values, hy]
    rfl

end Owned

/-! ## Steps -/

section Step

variable {m : OptionalMemory ι T}

theorem constructValue_refines (h : m.Owned) {x : ι} (hx : ¬ m.Exists x) (val : T)
    {new : Option ℕ} (hnew : m.Fresh new) :
    ∃ m', m.constructValue x val new = .ok m' ∧ m'.Owned ∧
      m'.values = valuesAfter m.values (.constructValue x val new) := by
  cases new with
  | none => exact ⟨m, rfl, h, rfl⟩
  | some cell =>
    obtain ⟨howned, hvalues⟩ := h.allocate (held_of_not_exists hx) (hnew cell rfl) val
    exact ⟨_, rfl, howned, hvalues⟩

theorem copyConstruct_refines (h : m.Owned) {x other : ι} (hx : ¬ m.Exists x)
    (hother : m.Exists other) {new : Option ℕ} (hnew : m.Fresh new) :
    ∃ m', m.copyConstruct x other new = .ok m' ∧ m'.Owned ∧
      m'.values = valuesAfter m.values (.copyConstruct x other new) := by
  obtain ⟨source, hsource⟩ := hother.object
  have hheld := held_of_not_exists hx
  rw [copyConstruct, object_eq hsource, ok_bind]
  by_cases hv : source.hasValue = true
  · rw [if_pos hv]
    obtain ⟨val, hderef, hval⟩ := h.deref_eq hsource hv
    cases new with
    | none =>
      refine ⟨m, rfl, h, ?_⟩
      rw [valuesAfter, hval, if_pos ⟨rfl, rfl⟩]
    | some cell =>
      obtain ⟨howned, hvalues⟩ := h.allocate hheld (hnew cell rfl) val
      refine ⟨_, by rw [hderef]; rfl, howned, ?_⟩
      rw [hvalues, valuesAfter, if_neg (by simp), hval]
  · rw [if_neg hv]
    obtain ⟨howned, hvalues⟩ := h.clear x (p := some .empty) (by simp)
    rw [hheld, erase_none] at howned hvalues
    refine ⟨_, rfl, howned, ?_⟩
    rw [hvalues, valuesAfter, h.values_of_hasValue_eq_false hsource hv, if_neg (by simp)]
    rfl

theorem copyAssign_refines (h : m.Owned) {x other : ι} (hx : m.Exists x)
    (hother : m.Exists other) {new : Option ℕ} (hnew : m.Fresh new)
    (hreset : m.Resets (.copyAssign x other new)) :
    ∃ m', m.copyAssign x other new = .ok m' ∧ m'.Owned ∧
      m'.values = valuesAfter m.values (.copyAssign x other new) := by
  obtain ⟨target, htarget⟩ := hx.object
  obtain ⟨source, hsource⟩ := hother.object
  rw [copyAssign, object_eq htarget, ok_bind, object_eq hsource, ok_bind]
  by_cases hne : other ≠ x
  · rw [if_pos hne, ← held_eq htarget, h.delete_held, ok_bind]
    have hreset := hreset hne
    obtain ⟨howned, hvalues⟩ := h.clear x (p := some .empty) (by simp)
    by_cases hv : source.hasValue = true
    · rw [if_pos (by rw [hasValue_eq hsource, hv])] at hreset
      obtain ⟨cell, rfl⟩ := Option.ne_none_iff_exists'.mp hreset
      -- the value is read after the cell of the target is deleted
      have hsource' : ((m.erase (m.held x)).set x (some .empty)).objects other = some source := by
        rw [objects_set_of_ne _ hne]
        exact hsource
      obtain ⟨val, hderef, hval⟩ := howned.deref_eq hsource' hv
      have hcell : ((m.erase (m.held x)).set x (some .empty)).cells cell = none := by
        simp [set, erase, hnew cell rfl]
      have hheld : ((m.erase (m.held x)).set x (some .empty)).held x = none := by
        rw [held_set, Function.update_self]
        rfl
      obtain ⟨howned', hvalues'⟩ := howned.allocate hheld hcell val
      rw [allocate_set, set_set] at howned' hvalues'
      rw [hvalues, Function.update_of_ne hne] at hval
      refine ⟨_, ?_, howned', ?_⟩
      · rw [if_pos hv, hv]
        exact bind_eq_ok.mpr ⟨val, hderef, rfl⟩
      · rw [hvalues', hvalues, Function.update_idem, valuesAfter, hval]
    · rw [if_neg (by rwa [hasValue_eq hsource]), hasValue_eq htarget] at hreset
      have hempty : (⟨m.held x, source.hasValue⟩ : Optional) = .empty := by
        rw [h.flag x target htarget, Option.not_isSome_iff_eq_none] at hreset
        rw [Optional.empty, held_eq htarget, hreset, Bool.eq_false_iff.mpr hv]
      refine ⟨_, by rw [if_neg hv, hempty], howned, ?_⟩
      rw [hvalues, valuesAfter, h.values_of_hasValue_eq_false hsource hv]
      rfl
  · rw [if_neg hne]
    obtain rfl := not_not.mp hne
    exact ⟨m, rfl, h, by rw [valuesAfter, Function.update_eq_self]⟩

theorem moveConstruct_refines (h : m.Owned) {x other : ι} (hx : ¬ m.Exists x)
    (hother : m.Exists other) :
    ∃ m', m.moveConstruct x other = .ok m' ∧ m'.Owned ∧
      m'.values = valuesAfter m.values (.moveConstruct x other) := by
  obtain ⟨source, hsource⟩ := hother.object
  have hne : x ≠ other := by
    rintro rfl
    exact hx hother
  obtain ⟨howned, hvalues⟩ := h.move hne (held_of_not_exists hx) hsource
  exact ⟨_, by rw [moveConstruct, object_eq hsource]; rfl, howned, hvalues⟩

theorem moveAssign_refines (h : m.Owned) {x other : ι} (hx : m.Exists x)
    (hother : m.Exists other) :
    ∃ m', m.moveAssign x other = .ok m' ∧ m'.Owned ∧
      m'.values = valuesAfter m.values (.moveAssign x other) := by
  obtain ⟨target, htarget⟩ := hx.object
  obtain ⟨source, hsource⟩ := hother.object
  rw [moveAssign, object_eq htarget, ok_bind, object_eq hsource, ok_bind]
  by_cases hne : other ≠ x
  · rw [if_pos hne, ← held_eq htarget, h.delete_held, ok_bind]
    obtain ⟨howned, hvalues⟩ := h.clear x (p := some .empty) (by simp)
    have hsource' : ((m.erase (m.held x)).set x (some .empty)).objects other = some source := by
      rw [objects_set_of_ne _ hne]
      exact hsource
    have hheld : ((m.erase (m.held x)).set x (some .empty)).held x = none := by
      rw [held_set, Function.update_self]
      rfl
    obtain ⟨howned', hvalues'⟩ := howned.move (Ne.symm hne) hheld hsource'
    rw [set_set] at howned' hvalues'
    refine ⟨_, rfl, howned', ?_⟩
    rw [hvalues', hvalues, Function.update_idem, Function.update_of_ne hne, valuesAfter,
      if_neg hne]
  · rw [if_neg hne]
    obtain rfl := not_not.mp hne
    exact ⟨m, rfl, h, by rw [valuesAfter, if_pos rfl]⟩

theorem destroy_refines (h : m.Owned) {x : ι} (hx : m.Exists x) :
    ∃ m', m.destroy x = .ok m' ∧ m'.Owned ∧ m'.values = valuesAfter m.values (.destroy x) := by
  obtain ⟨o, ho⟩ := hx.object
  obtain ⟨howned, hvalues⟩ := h.clear x (p := none) (by simp)
  refine ⟨_, ?_, howned, hvalues⟩
  rw [destroy, object_eq ho, ok_bind, ← held_eq ho, h.delete_held, ok_bind]

/-- In an owned memory a step that resets the pointer of its target is no fault, keeps
    the pointers owned, and is the step of `std::optional` values. -/
theorem step_refines (h : m.Owned) {op : OptionalOp ι T} (ha : m.Applicable op)
    (hreset : m.Resets op) :
    ∃ m', m.step op = .ok m' ∧ m'.Owned ∧ m'.values = valuesAfter m.values op := by
  cases op with
  | construct x =>
    obtain ⟨howned, hvalues⟩ := h.clear x (p := some .empty) (by simp)
    rw [held_of_not_exists ha, erase_none] at howned hvalues
    exact ⟨_, rfl, howned, hvalues⟩
  | constructValue x val new => exact constructValue_refines h ha.1 val ha.2
  | copyConstruct x other new => exact copyConstruct_refines h ha.1 ha.2.1 ha.2.2
  | copyAssign x other new => exact copyAssign_refines h ha.1 ha.2.1 ha.2.2 hreset
  | moveConstruct x other => exact moveConstruct_refines h ha.1 ha.2
  | moveAssign x other => exact moveAssign_refines h ha.1 ha.2
  | destroy x => exact destroy_refines h ha

/-- A copy assignment that does not reset the pointer leaves its target with a flag that
    contradicts the pointer, or with a pointer to the deleted cell. -/
theorem copyAssign_not_sound (h : m.Owned) {x other : ι} (hx : m.Exists x)
    (hother : m.Exists other) {new : Option ℕ} (hreset : ¬ m.Resets (.copyAssign x other new)) :
    ∃ m', m.copyAssign x other new = .ok m' ∧ ¬ m'.Sound := by
  obtain ⟨target, htarget⟩ := hx.object
  obtain ⟨source, hsource⟩ := hother.object
  obtain ⟨hne, hreset⟩ := Classical.not_imp.mp hreset
  -- the target keeps its old pointer, whose cell is deleted
  have hkept : m.copyAssign x other new = .ok ((m.erase (m.held x)).set x
      (some { target with hasValue := source.hasValue })) := by
    rw [copyAssign, object_eq htarget, ok_bind, object_eq hsource, ok_bind, if_pos hne,
      ← held_eq htarget, h.delete_held, ok_bind]
    by_cases hv : source.hasValue = true
    · rw [if_pos (by rw [hasValue_eq hsource, hv]), not_not] at hreset
      rw [if_pos hv, hreset]
    · rw [if_neg hv]
  refine ⟨_, hkept, fun hsound => ?_⟩
  have hobj : ((m.erase (m.held x)).set x
      (some { target with hasValue := source.hasValue })).objects x =
        some { target with hasValue := source.hasValue } := Function.update_self ..
  have hflag := hsound.hasValue_iff x _ hobj
  cases hp : target.internalValue with
  | none =>
    -- the copy of a value into an empty object has thrown
    have hempty : ¬ m.hasValue x = true := by
      rw [hasValue_eq htarget, h.flag x target htarget, hp]
      simp
    by_cases hv : source.hasValue = true
    · simp [hp, hv] at hflag
    · rw [if_neg (by rwa [hasValue_eq hsource])] at hreset
      exact hreset hempty
  | some cell =>
    have := hsound.live x _ hobj cell hp
    simp [set, erase, held_eq htarget, hp] at this

end Step

/-! ## Runs -/

/-- A run of a program: every operation can be made when it is made. -/
def Feasible (m : OptionalMemory ι T) : List (OptionalOp ι T) → Prop
  | [] => True
  | op :: ops => m.Applicable op ∧ ∀ m', m.step op = .ok m' → m'.Feasible ops

/-- Every memory that the run reaches is sound, and no operation is a fault. -/
def Safe (m : OptionalMemory ι T) : List (OptionalOp ι T) → Prop
  | [] => m.Sound
  | op :: ops => m.Sound ∧ ∃ m', m.step op = .ok m' ∧ m'.Safe ops

/-- Every step of the run resets the pointer of its target. -/
def AllReset (m : OptionalMemory ι T) : List (OptionalOp ι T) → Prop
  | [] => True
  | op :: ops => m.Resets op ∧ ∀ m', m.step op = .ok m' → m'.AllReset ops

theorem Safe.sound {m : OptionalMemory ι T} {ops : List (OptionalOp ι T)} (h : m.Safe ops) :
    m.Sound := by
  cases ops with
  | nil => exact h
  | cons op ops => exact h.1

theorem feasible_cons {m m' : OptionalMemory ι T} {op : OptionalOp ι T}
    {ops : List (OptionalOp ι T)} (ha : m.Applicable op) (hstep : m.step op = .ok m')
    (hf : m'.Feasible ops) : m.Feasible (op :: ops) := by
  refine ⟨ha, fun m₁ hm₁ => ?_⟩
  rw [hstep] at hm₁
  cases hm₁
  exact hf

theorem safe_iff_of_owned {m : OptionalMemory ι T} (h : m.Owned) {ops : List (OptionalOp ι T)}
    (hf : m.Feasible ops) : m.Safe ops ↔ m.AllReset ops := by
  induction ops generalizing m with
  | nil => exact iff_of_true h.sound trivial
  | cons op ops ih =>
    obtain ⟨ha, hf⟩ := hf
    by_cases hreset : m.Resets op
    · obtain ⟨m', hstep, howned, -⟩ := step_refines h ha hreset
      have hih := ih howned (hf m' hstep)
      constructor
      · rintro ⟨-, m₁, hm₁, hsafe⟩
        refine ⟨hreset, fun m₂ hm₂ => ?_⟩
        rw [hstep] at hm₁ hm₂
        cases hm₁
        cases hm₂
        exact hih.mp hsafe
      · rintro ⟨-, hall⟩
        exact ⟨h.sound, m', hstep, hih.mpr (hall m' hstep)⟩
    · -- such a step is a copy assignment, which leaves a memory that is not sound
      refine iff_of_false ?_ fun hall => hreset hall.1
      rintro ⟨-, m₁, hm₁, hsafe⟩
      cases op with
      | copyAssign x other new =>
        obtain ⟨m', hstep, hnot⟩ := copyAssign_not_sound h ha.1 ha.2.1 hreset
        rw [show m.step (.copyAssign x other new) = _ from hstep] at hm₁
        cases hm₁
        exact hnot hsafe.sound
      | _ => exact hreset trivial

/-- In every run of a program the objects are sound and nothing is deleted twice if and
    only if every step of the run resets the pointer of its target. -/
theorem safe_iff_resets {ops : List (OptionalOp ι T)}
    (h : (initial : OptionalMemory ι T).Feasible ops) :
    (initial : OptionalMemory ι T).Safe ops ↔ (initial : OptionalMemory ι T).AllReset ops :=
  safe_iff_of_owned owned_initial h

/-- The run copy-assigns a filled object to an empty one and ends all of them. -/
theorem safe_iff_resets_copied :
    (initial : OptionalMemory ℕ ℕ).Safe
        [.constructValue 0 7 (some 0), .construct 1, .copyAssign 1 0 (some 1), .destroy 0,
          .destroy 1] ↔
      (initial : OptionalMemory ℕ ℕ).AllReset
        [.constructValue 0 7 (some 0), .construct 1, .copyAssign 1 0 (some 1), .destroy 0,
          .destroy 1] := by
  apply safe_iff_resets
  refine feasible_cons ⟨?_, ?_⟩ rfl (feasible_cons ?_ rfl (feasible_cons ⟨?_, ?_, ?_⟩ rfl
    (feasible_cons ?_ rfl ⟨?_, fun _ _ => trivial⟩)))
  all_goals simp [Applicable, Exists, Fresh, initial, set, OptionalMemory.allocate]

/-- The memory after a run. -/
def run (m : OptionalMemory ι T) : List (OptionalOp ι T) → Except Fault (OptionalMemory ι T)
  | [] => .ok m
  | op :: ops => do
    let m ← m.step op
    m.run ops

/-- Runs without copy assignments are safe: `QuoteVerifier::verify` only moves the
    identity that it has found to its `tdxModuleIdentity`. -/
theorem safe_of_not_copyAssign {m : OptionalMemory ι T} (h : m.Owned)
    {ops : List (OptionalOp ι T)} (hf : m.Feasible ops)
    (hops : ∀ x other new, .copyAssign x other new ∉ ops) : m.Safe ops := by
  refine (safe_iff_of_owned h hf).mpr ?_
  clear h hf
  induction ops generalizing m with
  | nil => trivial
  | cons op ops ih =>
    refine ⟨?_, fun m' _ => ih fun x other new hmem => hops x other new (List.mem_cons_of_mem _ hmem)⟩
    cases op with
    | copyAssign x other new => exact absurd List.mem_cons_self (hops x other new)
    | _ => trivial

/-- An empty object assigned to a filled one that is then destroyed. -/
def sampleRun : List (OptionalOp ℕ ℕ) :=
  [.constructValue 0 7 (some 0), .construct 1, .copyAssign 0 1 none, .destroy 0]

theorem sampleRun_feasible : (initial : OptionalMemory ℕ ℕ).Feasible sampleRun := by
  refine feasible_cons ⟨?_, ?_⟩ rfl (feasible_cons ?_ rfl (feasible_cons ⟨?_, ?_, ?_⟩ rfl
    ⟨?_, fun _ _ => trivial⟩))
  all_goals simp [Applicable, Exists, Fresh, initial, set, OptionalMemory.allocate]

/-- The run deletes the cell of object 0 twice: the assignment leaves the pointer. -/
theorem sampleRun_not_safe :
    (initial : OptionalMemory ℕ ℕ).Feasible sampleRun ∧
      (∃ m, initial.run (sampleRun.take 3) = .ok m ∧ m.hasValue 0 = false ∧
        m.held 0 = some 0 ∧ 0 ∉ m.live) ∧
      initial.run sampleRun = .error (.badDelete 0) ∧
      ¬ (initial : OptionalMemory ℕ ℕ).Safe sampleRun := by
  refine ⟨sampleRun_feasible, ⟨_, rfl, rfl, rfl, ?_⟩, rfl, ?_⟩
  · simp [live, OptionalMemory.set]
  · rintro ⟨-, m₁, h₁, -, m₂, h₂, -, m₃, h₃, -, m₄, h₄, -⟩
    cases h₁
    cases h₂
    cases h₃
    cases h₄

end OptionalMemory

end DcapQvl
