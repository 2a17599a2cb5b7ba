import DcapQvl.Json.Depth
import DcapQvl.Json.Dtoa

/-!
# The JSON writer

`Writer<StringBuffer>` of rapidjson's `writer.h` as a handler of `GenericValue::Accept`,
which is how the parsers serialise the signed body. The writer knows where it is from a
stack of levels with the number of values in each. An assertion that fails is recorded in
the state, so that the model shows whether one can fail.

Results:
* `writes_accept`: what a value adds to the text, wherever it is written.
* `accept_root`: a value is written from the initial state without a failed assertion; the
  writer refuses it exactly if it holds a double that is not finite.
-/

namespace DcapQvl.Rapidjson

open Lib Events

/-! ## Model -/

/-- `Type`. -/
inductive JsonType
  | null | false | true | object | array | string | number
  deriving DecidableEq, Repr

/-- `Writer::Level`. -/
structure Level where
  valueCount : ℕ
  inArray : Bool

/-- The state of a `Writer`, with the levels from the top. -/
structure Writer where
  os : Bytes
  levels : List Level
  hasRoot : Bool
  /-- Whether an assertion has failed. -/
  asserted : Bool

namespace Writer

/-- The writer before the first event. -/
def initial : Writer := ⟨[], [], false, false⟩

/-- `RAPIDJSON_ASSERT(condition)`. -/
def check (condition : Bool) (w : Writer) : Writer :=
  { w with asserted := w.asserted || !condition }

/-- `os_->Put(c)` of one character after the other. -/
def put (text : Bytes) (w : Writer) : Writer := { w with os := w.os ++ text }

/-- The separator in front of a value of a level. -/
def separator (level : Level) : Bytes :=
  if 0 < level.valueCount then
    if level.inArray then [44] else if level.valueCount % 2 = 0 then [44] else [58]
  else []

/-- `Prefix(type)`. -/
def putPrefix (type : JsonType) (w : Writer) : Writer :=
  match w.levels with
  | level :: levels =>
    let w := w.put (separator level)
    let w := if level.inArray = false ∧ level.valueCount % 2 = 0 then w.check (type = .string)
      else w
    { w with levels := { level with valueCount := level.valueCount + 1 } :: levels }
  | [] => { w.check (!w.hasRoot) with hasRoot := true }

/-- `WriteInt`, `WriteUint`, `WriteInt64` or `WriteUint64`, as `Accept` chooses among them. -/
def writeInteger (n : ℤ) : Bytes :=
  if -2 ^ 31 ≤ n ∧ n < 2 ^ 31 then i32toa n
  else if 0 ≤ n ∧ n < 2 ^ 32 then u32toa n.toNat
  else if -2 ^ 63 ≤ n ∧ n < 2 ^ 63 then i64toa n
  else u64toa n.toNat

/-- `hexDigits[d]` of `WriteString`. -/
def hexDigit (d : ℕ) : UInt8 := (str "0123456789ABCDEF").getD d 0

/-- The table `escape` of `WriteString`; 0 for a character that stands for itself. -/
def escape (c : UInt8) : UInt8 :=
  if c = 8 then 98
  else if c = 9 then 116
  else if c = 10 then 110
  else if c = 12 then 102
  else if c = 13 then 114
  else if c < 0x20 then 117
  else if c = 34 then 34
  else if c = 92 then 92
  else 0

/-- What `WriteString` puts for a character. -/
def writeChar (c : UInt8) : Bytes :=
  if escape c ≠ 0 then
    92 :: escape c ::
      (if escape c = 117 then [48, 48, hexDigit (c >>> 4).toNat, hexDigit (c &&& 0xF).toNat]
        else [])
  else [c]

/-- `WriteString`. -/
def writeString (s : Bytes) : Bytes := 34 :: (s.flatMap writeChar ++ [34])

/-- The event `String`, and `Key`, which is the same. -/
def string (s : Bytes) (w : Writer) : Writer × Bool :=
  ((w.putPrefix .string).put (writeString s), true)

/-- `EndObject`. -/
def endObject (w : Writer) : Writer × Bool :=
  match w.levels with
  | level :: levels =>
    let w := (w.check !level.inArray).check (level.valueCount % 2 = 0)
    ({ w with levels := levels }.put [125], true)
  | [] => ((w.check false).put [125], true)

/-- `EndArray`. -/
def endArray (w : Writer) : Writer × Bool :=
  match w.levels with
  | level :: levels =>
    let w := w.check level.inArray
    ({ w with levels := levels }.put [93], true)
  | [] => ((w.check false).put [93], true)

/-- `StartObject` and `StartArray`. -/
def start (type : JsonType) (inArray : Bool) (bracket : UInt8) (w : Writer) : Writer × Bool :=
  let w := w.putPrefix type
  ({ w with levels := ⟨0, inArray⟩ :: w.levels }.put [bracket], true)

/-- `Double`; `WriteDouble` puts nothing for a double that is not finite. -/
def double (wr : DoubleWriter) (maxDecimalPlaces : ℕ) (d : UInt64) (w : Writer) : Writer × Bool :=
  let w := w.putPrefix .number
  if isNanOrInf d then (w, false)
  else ((w.check (1 ≤ maxDecimalPlaces)).put (dtoa wr d maxDecimalPlaces), true)

end Writer

/-- The `Writer` as a handler. -/
def writer (wr : DoubleWriter) (maxDecimalPlaces : ℕ) : Handler Writer where
  null w := ((w.putPrefix .null).put (str "null"), true)
  bool b w :=
    ((w.putPrefix (if b then .true else .false)).put (if b then str "true" else str "false"), true)
  int n w := ((w.putPrefix .number).put (Writer.writeInteger n), true)
  double := Writer.double wr maxDecimalPlaces
  string := Writer.string
  startObject := Writer.start .object false 123
  key := Writer.string
  endObject _ := Writer.endObject
  startArray := Writer.start .array true 91
  endArray _ := Writer.endArray

/-! ## The text of a value -/

mutual
/-- The text that is written for a value. -/
def written (wr : DoubleWriter) (maxDecimalPlaces : ℕ) : Json → Bytes
  | .null => str "null"
  | .bool b => if b then str "true" else str "false"
  | .int n => Writer.writeInteger n
  | .double d => dtoa wr d maxDecimalPlaces
  | .string s => Writer.writeString s
  | .array vs => 91 :: writtenElems wr maxDecimalPlaces vs
  | .object ms => 123 :: writtenMembers wr maxDecimalPlaces ms

/-- The elements of an array and its closing bracket. -/
def writtenElems (wr : DoubleWriter) (maxDecimalPlaces : ℕ) : List Json → Bytes
  | [] => [93]
  | v :: vs => written wr maxDecimalPlaces v ++ moreElemsWritten wr maxDecimalPlaces vs

/-- The elements after an element, and the closing bracket. -/
def moreElemsWritten (wr : DoubleWriter) (maxDecimalPlaces : ℕ) : List Json → Bytes
  | [] => [93]
  | v :: vs => 44 :: (written wr maxDecimalPlaces v ++ moreElemsWritten wr maxDecimalPlaces vs)

/-- The members of an object and its closing bracket. -/
def writtenMembers (wr : DoubleWriter) (maxDecimalPlaces : ℕ) : List (Bytes × Json) → Bytes
  | [] => [125]
  | (name, v) :: ms =>
    Writer.writeString name ++
      58 :: (written wr maxDecimalPlaces v ++ moreMembersWritten wr maxDecimalPlaces ms)

/-- The members after a member, and the closing bracket. -/
def moreMembersWritten (wr : DoubleWriter) (maxDecimalPlaces : ℕ) : List (Bytes × Json) → Bytes
  | [] => [125]
  | (name, v) :: ms =>
    44 :: (Writer.writeString name ++
      58 :: (written wr maxDecimalPlaces v ++ moreMembersWritten wr maxDecimalPlaces ms))
end

mutual
/-- Every double in a value is finite. -/
def isFinite : Json → Bool
  | .double d => !isNanOrInf d
  | .array vs => elemsFinite vs
  | .object ms => membersFinite ms
  | _ => true

/-- Every double in the elements is finite. -/
def elemsFinite : List Json → Bool
  | [] => true
  | v :: vs => isFinite v && elemsFinite vs

/-- Every double in the members is finite. -/
def membersFinite : List (Bytes × Json) → Bool
  | [] => true
  | (_, v) :: ms => isFinite v && membersFinite ms
end

/-! ## Events of the writer -/

namespace Writer

/-- A value may follow: the root, an element, or the value of a member. -/
def Ready (w : Writer) : Prop :=
  match w.levels with
  | level :: _ => level.inArray = true ∨ level.valueCount % 2 = 1
  | [] => w.hasRoot = false

/-- The name of a member may follow. -/
def AtName (w : Writer) : Prop := ∃ n levels, w.levels = ⟨2 * n, false⟩ :: levels

/-- The writer after a prefix whose assertions hold. -/
def prefixed (w : Writer) : Writer :=
  match w.levels with
  | level :: levels =>
    { w with
      os := w.os ++ separator level
      levels := { level with valueCount := level.valueCount + 1 } :: levels }
  | [] => { w with hasRoot := true }

theorem check_true (w : Writer) : w.check true = w := by
  simp [check]

theorem putPrefix_of_ready (type : JsonType) {w : Writer} (h : w.Ready) :
    w.putPrefix type = w.prefixed := by
  unfold putPrefix prefixed
  unfold Ready at h
  cases hlevels : w.levels with
  | nil =>
    rw [hlevels] at h
    simp only [h, Bool.not_false, check_true]
    rw [hlevels]
  | cons level levels =>
    rw [hlevels] at h
    have hname : ¬(level.inArray = false ∧ level.valueCount % 2 = 0) := by
      rintro ⟨harray, heven⟩
      rcases h with h | h
      · rw [harray] at h
        cases h
      · omega
    simp only [if_neg hname]
    rfl

theorem putPrefix_of_name {w : Writer} (h : w.AtName) : w.putPrefix .string = w.prefixed := by
  obtain ⟨n, levels, h⟩ := h
  unfold putPrefix prefixed
  rw [h]
  simp only [Nat.mul_mod_right, and_self, if_true, decide_true, check_true]
  rfl

theorem prefixed_asserted (w : Writer) : w.prefixed.asserted = w.asserted := by
  unfold prefixed
  cases w.levels <;> rfl

/-- Events on the writer: they run to their end or to `false`, as `done` says, without a
    failed assertion, and at their end they have led to `w'`. -/
def Writes (events : Events Writer) (done : Bool) (w w' : Writer) : Prop :=
  ∃ w1, events w = some (w1, done) ∧ w1.asserted = w.asserted ∧ (done = true → w1 = w')

theorem writes_event {f : Writer → Writer × Bool} {w w' : Writer} (h : f w = (w', true))
    (hw : w'.asserted = w.asserted) : Writes (event f) true w w' :=
  ⟨w', by rw [event, h], hw, fun _ => rfl⟩

theorem Writes.andThen {a b : Events Writer} {d1 d2 : Bool} {w w' w'' : Writer}
    (ha : Writes a d1 w w') (hb : d1 = true → Writes b d2 w' w'') :
    Writes (a.andThen b) (d1 && d2) w w'' := by
  obtain ⟨w1, ha, hw1, hd1⟩ := ha
  cases d1 with
  | false => exact ⟨w1, by rw [Events.andThen, ha]; rfl, hw1, Bool.noConfusion⟩
  | true =>
    obtain rfl := hd1 rfl
    obtain ⟨w2, hb, hw2, hd2⟩ := hb rfl
    refine ⟨w2, ?_, hw2.trans hw1, hd2⟩
    rw [Events.andThen, ha]
    exact hb

theorem andThen_assoc (a b c : Events Writer) :
    (a.andThen b).andThen c = a.andThen (b.andThen c) := by
  funext w
  unfold Events.andThen
  cases a w with
  | none => rfl
  | some r =>
    obtain ⟨w1, d⟩ := r
    cases d <;> rfl

end Writer

open Writer

variable {wr : DoubleWriter} {maxDecimalPlaces : ℕ}

/-- A value without children is written after its prefix. -/
theorem writes_scalar {f : Writer → Writer × Bool} (type : JsonType) {text : Bytes} {w : Writer}
    (h : w.Ready) (hf : f w = ((w.putPrefix type).put text, true)) :
    Writes (event f) true w (w.prefixed.put text) := by
  rw [putPrefix_of_ready type h] at hf
  exact writes_event hf (prefixed_asserted w)

/-- The elements that are left and the end of an array. -/
theorem writes_elems {d : ℕ} {vs : List Json} {n : ℕ} {levels : List Level} {w : Writer}
    (hw : w.levels = ⟨n, true⟩ :: levels)
    (hv : ∀ v ∈ vs, ∀ w : Writer, w.Ready → Writes (accept (writer wr maxDecimalPlaces) d v)
      (isFinite v) w (w.prefixed.put (written wr maxDecimalPlaces v))) :
    Writes ((forEach (accept (writer wr maxDecimalPlaces) d) vs).andThen (event Writer.endArray))
      (elemsFinite vs) w
      { w with
        os := w.os ++ (if n = 0 then writtenElems wr maxDecimalPlaces vs
          else moreElemsWritten wr maxDecimalPlaces vs)
        levels := levels } := by
  induction vs generalizing n w with
  | nil =>
    have hend : Writer.endArray w = ({ w with os := w.os ++ [93], levels := levels }, true) := by
      unfold Writer.endArray
      simp only [hw, check_true]
      rfl
    refine ⟨{ w with os := w.os ++ [93], levels := levels }, ?_, rfl, ?_⟩
    · show some _ = _
      rw [hend]
      rfl
    · intro _
      split_ifs <;> rfl
  | cons v vs ih =>
    have hready : w.Ready := by
      unfold Ready
      rw [hw]
      exact .inl rfl
    rw [forEach, andThen_assoc, elemsFinite]
    apply (hv v List.mem_cons_self w hready).andThen
    intro _
    have hlevels : (w.prefixed.put (written wr maxDecimalPlaces v)).levels =
        ⟨n + 1, true⟩ :: levels := by
      unfold prefixed
      rw [hw]
      rfl
    have hrest := ih hlevels fun u hu => hv u (List.mem_cons_of_mem v hu)
    rw [if_neg (Nat.succ_ne_zero n)] at hrest
    convert hrest using 1
    unfold prefixed separator
    simp only [hw, put, writtenElems, moreElemsWritten]
    by_cases hn : n = 0
    · subst hn
      simp
    · rw [if_neg hn, if_pos (Nat.pos_of_ne_zero hn)]
      simp

/-- The members that are left and the end of an object. -/
theorem writes_members {d : ℕ} {ms : List (Bytes × Json)} {n : ℕ} {levels : List Level}
    {w : Writer} (hw : w.levels = ⟨2 * n, false⟩ :: levels)
    (hv : ∀ m ∈ ms, ∀ w : Writer, w.Ready → Writes (accept (writer wr maxDecimalPlaces) d m.2)
      (isFinite m.2) w (w.prefixed.put (written wr maxDecimalPlaces m.2))) :
    Writes ((forEach (fun m => (event (Writer.string m.1)).andThen
        (accept (writer wr maxDecimalPlaces) d m.2)) ms).andThen (event Writer.endObject))
      (membersFinite ms) w
      { w with
        os := w.os ++ (if n = 0 then writtenMembers wr maxDecimalPlaces ms
          else moreMembersWritten wr maxDecimalPlaces ms)
        levels := levels } := by
  induction ms generalizing n w with
  | nil =>
    have hend : Writer.endObject w = ({ w with os := w.os ++ [125], levels := levels }, true) := by
      unfold Writer.endObject
      simp only [hw, Nat.mul_mod_right, decide_true, Bool.not_false, check_true]
      rfl
    refine ⟨{ w with os := w.os ++ [125], levels := levels }, ?_, rfl, ?_⟩
    · show some _ = _
      rw [hend]
      rfl
    · intro _
      split_ifs <;> rfl
  | cons m ms ih =>
    obtain ⟨name, v⟩ := m
    rw [forEach, andThen_assoc, andThen_assoc, membersFinite, ← Bool.true_and (isFinite v && _)]
    -- the name
    have hname : Writer.string name w = (w.prefixed.put (writeString name), true) := by
      unfold Writer.string
      rw [putPrefix_of_name ⟨n, levels, hw⟩]
    apply (writes_event hname (prefixed_asserted w)).andThen
    intro _
    have hlevels : (w.prefixed.put (writeString name)).levels = ⟨2 * n + 1, false⟩ :: levels := by
      unfold prefixed
      rw [hw]
      rfl
    have hready : (w.prefixed.put (writeString name)).Ready := by
      unfold Ready
      rw [hlevels]
      exact .inr (by simp only; omega)
    -- the value
    apply (hv (name, v) List.mem_cons_self _ hready).andThen
    intro _
    generalize hw1 : w.prefixed.put (writeString name) = w1 at hlevels
    have hlevels2 : (w1.prefixed.put (written wr maxDecimalPlaces v)).levels =
        ⟨2 * (n + 1), false⟩ :: levels := by
      unfold prefixed
      rw [hlevels]
      rfl
    have hrest := ih hlevels2 fun u hu => hv u (List.mem_cons_of_mem _ hu)
    rw [if_neg (Nat.succ_ne_zero n)] at hrest
    convert hrest using 1
    subst hw1
    unfold prefixed at hlevels ⊢
    simp only [hw, put] at hlevels ⊢
    simp only [separator, writtenMembers, moreMembersWritten]
    have hodd : (2 * n + 1) % 2 = 1 := by omega
    by_cases hn : n = 0
    · subst hn
      simp
    · rw [if_neg hn, if_pos (by omega : 0 < 2 * n)]
      simp [hodd]

theorem writes_start (type : JsonType) (inArray : Bool) (bracket : UInt8) {w : Writer}
    (h : w.Ready) :
    Writes (event (Writer.start type inArray bracket)) true w
      { w.prefixed with
        os := w.prefixed.os ++ [bracket]
        levels := ⟨0, inArray⟩ :: w.prefixed.levels } := by
  refine writes_event ?_ (prefixed_asserted w)
  unfold Writer.start
  rw [putPrefix_of_ready type h]
  rfl

/-- What a value adds to the text, wherever a value may be written: its separator and its
    own text, unless a double in it is refused. -/
theorem writes_accept (hmax : 1 ≤ maxDecimalPlaces) {v : Json} {d : ℕ} (hd : v.nesting ≤ d)
    {w : Writer} (hw : w.Ready) :
    Writes (accept (writer wr maxDecimalPlaces) d v) (isFinite v) w
      (w.prefixed.put (written wr maxDecimalPlaces v)) := by
  induction d generalizing v w with
  | zero =>
    have := v.nesting_pos
    omega
  | succ d ih =>
    have hchild : ∀ child ∈ v.children, child.nesting ≤ d := by
      intro child hchild
      have := Json.nesting_child hchild
      omega
    cases v with
    | null => exact writes_scalar .null hw rfl
    | bool b => cases b <;> exact writes_scalar _ hw rfl
    | int n => exact writes_scalar .number hw rfl
    | string s => exact writes_scalar .string hw rfl
    | double x =>
      show Writes (event (Writer.double wr maxDecimalPlaces x)) (!isNanOrInf x) w _
      cases hx : isNanOrInf x with
      | true =>
        refine ⟨w.prefixed, ?_, prefixed_asserted w, Bool.noConfusion⟩
        rw [event, Writer.double, putPrefix_of_ready .number hw, if_pos hx]
        rfl
      | false =>
        refine writes_scalar .number hw ?_
        rw [Writer.double, if_neg (by rw [hx]; exact Bool.false_ne_true), decide_eq_true hmax,
          check_true]
        rfl
    | array vs =>
      have hlevels : (Writer.mk (w.prefixed.os ++ [91]) (⟨0, true⟩ :: w.prefixed.levels)
        w.prefixed.hasRoot w.prefixed.asserted).levels = ⟨0, true⟩ :: w.prefixed.levels := rfl
      have hdepth : ∀ u ∈ vs, u.nesting ≤ d := hchild
      have helems := writes_elems hlevels fun u hu w' hw' => ih (hdepth u hu) hw'
      have := (writes_start .array true 91 hw).andThen fun _ => helems
      rw [Bool.true_and] at this
      convert this using 1
      · rfl
      · rw [isFinite]
      · simp [put, written]
    | object ms =>
      have hlevels : (Writer.mk (w.prefixed.os ++ [123]) (⟨2 * 0, false⟩ :: w.prefixed.levels)
        w.prefixed.hasRoot w.prefixed.asserted).levels = ⟨2 * 0, false⟩ :: w.prefixed.levels := rfl
      have hdepth : ∀ m ∈ ms, m.2.nesting ≤ d := fun m hm => hchild m.2 (List.mem_map_of_mem hm)
      have hmembers := writes_members hlevels fun m hm w' hw' => ih (hdepth m hm) hw'
      have := (writes_start .object false 123 hw).andThen fun _ => hmembers
      rw [Bool.true_and] at this
      convert this using 1
      · rfl
      · rw [isFinite]
      · simp [put, written]

/-- A value is written from the initial state without a failed assertion; the writer
    refuses it if a double in it is not finite, and else its text is complete. -/
theorem accept_root (hmax : 1 ≤ maxDecimalPlaces) (v : Json) :
    ∃ w, accept (writer wr maxDecimalPlaces) v.nesting v Writer.initial = some (w, isFinite v) ∧
      w.asserted = false ∧
      (isFinite v = true → w = ⟨written wr maxDecimalPlaces v, [], true, false⟩) := by
  have hready : Writer.initial.Ready := rfl
  exact writes_accept hmax le_rfl hready

end DcapQvl.Rapidjson
