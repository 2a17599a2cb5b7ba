import DcapQvl.Common.Status
import DcapQvl.Lib.Outcome

/-!
# JSON values and their fields

The rapidjson document model, as far as the parsers look at it, and
`AttestationParsers/src/Json/JsonParser.cpp`. Reading and writing JSON text is
rapidjson's, and checking and converting dates is `TimeUtils`'; both are fields
of `JsonEnv`.

Results:
* `isWithinJsonDepthLimit_iff`: the loop with an explicit stack compares the
  height of the value with the limit.
* `getBytesFieldOf_length`: a hexadecimal field has the length asked for.
-/

namespace DcapQvl

open Lib

/-- `rapidjson::Value`; an object keeps its members in order, with duplicates. -/
inductive Json
  | null
  | bool (b : Bool)
  | int (n : ℤ)
  | double (bits : UInt64)
  | string (s : Bytes)
  | array (elems : List Json)
  | object (members : List (Bytes × Json))

/-- The functions that the parsers take from rapidjson and from `TimeUtils`. -/
structure JsonEnv where
  /-- `Document::Parse` on a C string; `none` when `HasParseError`. -/
  read : Bytes → Option Json
  /-- `Value::Accept` of a `Writer` with `SetMaxDecimalPlaces`. -/
  write : ℕ → Json → Bytes
  /-- `isValidTimeString` on a C string. -/
  isValidTimeString : Bytes → Bool
  /-- `getEpochTimeFromString` on a C string. -/
  getEpochTimeFromString : Bytes → ℤ

/-- `Value::kDefaultMaxDecimalPlaces` of the writer. -/
def defaultMaxDecimalPlaces : ℕ := 324

namespace Json

/-- `FindMember(name)` on an object: the first member of that name. -/
def member? (name : Bytes) : Json → Option Json
  | .object members => members.lookup name
  | _ => none

/-- `HasMember(name)`. -/
def hasMember (name : Bytes) (v : Json) : Bool := (v.member? name).isSome

/-- `IsObject()`. -/
def isObject : Json → Bool
  | .object _ => true
  | _ => false

/-- The characters of a string and their number; `none` unless `IsString()`. -/
def string? : Json → Option Bytes
  | .string s => some s
  | _ => none

/-- The elements of an array; `none` unless `IsArray()`. -/
def elems? : Json → Option (List Json)
  | .array elems => some elems
  | _ => none

/-- `GetUint()`; `none` unless `IsUint()`. -/
def uint? : Json → Option UInt32
  | .int n => if 0 ≤ n ∧ n < 2 ^ 32 then some (UInt32.ofNat n.toNat) else none
  | _ => none

/-- `GetInt()`; `none` unless `IsInt()`. -/
def int? : Json → Option ℤ
  | .int n => if -2 ^ 31 ≤ n ∧ n < 2 ^ 31 then some n else none
  | _ => none

/-! ## Depth -/

/-- The children of a container. -/
def children : Json → List Json
  | .array elems => elems
  | .object members => members.map Prod.snd
  | _ => []

theorem sizeOf_children (v : Json) : (v.children.map sizeOf).sum < sizeOf v := by
  cases v with
  | array elems =>
    have : (elems.map sizeOf).sum ≤ sizeOf elems := by
      induction elems with
      | nil => simp
      | cons e es ih => simp only [List.map_cons, List.sum_cons, List.cons.sizeOf_spec]; omega
    simp only [children, Json.array.sizeOf_spec]
    omega
  | object members =>
    have : ((members.map Prod.snd).map sizeOf).sum ≤ sizeOf members := by
      induction members with
      | nil => simp
      | cons m ms ih =>
        obtain ⟨name, value⟩ := m
        simp only [List.map_cons, List.sum_cons, List.cons.sizeOf_spec, Prod.mk.sizeOf_spec]
        omega
    simp only [children, Json.object.sizeOf_spec]
    omega
  | _ => simp [children]

mutual
/-- The number of containers on the longest path to a leaf, not counting empty ones. -/
def height : Json → ℕ
  | .array elems => heightElems elems
  | .object members => heightMembers members
  | _ => 0

/-- One more than the height of the highest element; 0 when there is none. -/
def heightElems : List Json → ℕ
  | [] => 0
  | v :: vs => max (v.height + 1) (heightElems vs)

/-- `heightElems` of the member values. -/
def heightMembers : List (Bytes × Json) → ℕ
  | [] => 0
  | (_, v) :: ms => max (v.height + 1) (heightMembers ms)
end

theorem heightMembers_eq (ms : List (Bytes × Json)) :
    heightMembers ms = heightElems (ms.map Prod.snd) := by
  induction ms with
  | nil => rfl
  | cons m ms ih => simp only [heightMembers, heightElems, List.map_cons, ih]

theorem height_eq (v : Json) : v.height = heightElems v.children := by
  cases v with
  | object members => rw [height, heightMembers_eq]; rfl
  | _ => simp [height, children, heightElems]

theorem heightElems_le_iff {vs : List Json} {n : ℕ} :
    heightElems vs ≤ n ↔ ∀ v ∈ vs, v.height + 1 ≤ n := by
  induction vs with
  | nil => simp [heightElems]
  | cons v vs ih => simp [heightElems, ih]

end Json

/-- The loop of `isWithinJsonDepthLimit`; the back of the vector is the head. -/
def depthLoop (maxDepth : ℕ) : List (Json × ℕ) → Bool
  | [] => true
  | (node, depth) :: stack =>
    if node.children ≠ [] ∧ maxDepth ≤ depth then false
    else depthLoop maxDepth ((node.children.map fun v => (v, depth + 1)).reverse ++ stack)
termination_by stack => (stack.map fun e => sizeOf e.1).sum
decreasing_by
  simp only [List.map_append, List.map_reverse, List.map_map, List.sum_append, List.sum_reverse,
    List.map_cons, List.sum_cons]
  exact Nat.add_lt_add_right node.sizeOf_children _

/-- `isWithinJsonDepthLimit(value, maxDepth)`. -/
def isWithinJsonDepthLimit (value : Json) (maxDepth : ℕ) : Bool := depthLoop maxDepth [(value, 1)]

theorem depthLoop_iff (maxDepth : ℕ) (stack : List (Json × ℕ)) :
    depthLoop maxDepth stack = true ↔
      ∀ e ∈ stack, e.1.height = 0 ∨ e.1.height + e.2 ≤ maxDepth := by
  induction stack using depthLoop.induct maxDepth with
  | case1 => simp [depthLoop]
  | case2 node depth stack hdeep =>
    rw [depthLoop, if_pos hdeep]
    simp only [Bool.false_eq_true, List.mem_cons, forall_eq_or_imp, false_iff, not_and_or]
    obtain ⟨v, hv⟩ := List.exists_mem_of_ne_nil _ hdeep.1
    have hpos : v.height + 1 ≤ node.height := by
      rw [node.height_eq]
      exact Json.heightElems_le_iff.mp le_rfl v hv
    left
    omega
  | case3 node depth stack hdeep ih =>
    rw [depthLoop, if_neg hdeep, ih]
    simp only [List.mem_append, List.mem_reverse, List.mem_map, List.mem_cons, or_imp, forall_and,
      forall_exists_index, and_imp, forall_apply_eq_imp_iff₂, forall_eq]
    refine and_congr_left fun _ => ?_
    have hle : ∀ n, node.height ≤ n ↔ ∀ v ∈ node.children, v.height + 1 ≤ n := fun n => by
      rw [node.height_eq, Json.heightElems_le_iff]
    constructor
    · intro h
      by_cases hempty : node.children = []
      · left
        rw [node.height_eq, hempty]
        rfl
      · right
        have hdepth : depth < maxDepth := by
          by_contra hge
          exact hdeep ⟨hempty, not_lt.mp hge⟩
        have : node.height ≤ maxDepth - depth := (hle _).mpr fun v hv => by
          have := h v hv
          omega
        omega
    · rintro (h | h) v hv
      · have := (hle 0).mp h.le v hv
        omega
      · have := (hle (maxDepth - depth)).mp (by omega) v hv
        omega

/-- The value is flat, or every container on a path into it is within the limit. -/
theorem isWithinJsonDepthLimit_iff (value : Json) (maxDepth : ℕ) :
    isWithinJsonDepthLimit value maxDepth = true ↔
      value.height = 0 ∨ value.height + 1 ≤ maxDepth := by
  rw [isWithinJsonDepthLimit, depthLoop_iff]
  simp

/-- The check depends on the height only. -/
theorem isWithinJsonDepthLimit_congr {v w : Json} (h : v.height = w.height) (maxDepth : ℕ) :
    isWithinJsonDepthLimit v maxDepth = isWithinJsonDepthLimit w maxDepth := by
  rw [Bool.eq_iff_iff, isWithinJsonDepthLimit_iff, isWithinJsonDepthLimit_iff, h]

/-! ## Fields -/

/-- `JsonParser::ParseStatus`. -/
inductive ParseStatus
  | ok
  | missing
  | invalid
  deriving DecidableEq, Repr

/-- `JsonParser::parse(json)`; `some` is the document, an object. -/
def JsonEnv.parse (env : JsonEnv) (json : Bytes) : Option Json :=
  if json.isEmpty then none
  else (env.read (cStr json)).filter Json.isObject

/-- What the `get…FieldOf` functions share: `empty` for a missing field, and
    `read` for one that is there. -/
def getFieldOf {T : Type} (empty : T) (read : Json → T × ParseStatus) (parent : Json)
    (fieldName : Bytes) : Except Exn (T × ParseStatus) :=
  if parent.isObject then
    match parent.member? fieldName with
    | none => .ok (empty, .missing)
    | some property => .ok (read property)
  else .error (.format (str "Fields can only be get from objects. Parent should be an object"))

/-- A field that is read as a whole or invalid. -/
def readField {T : Type} (empty : T) (read : Json → Option T) (property : Json) :
    T × ParseStatus :=
  match read property with
  | some value => (value, .ok)
  | none => (empty, .invalid)

/-- `getStringFieldOf`; `GetString()` ends at the first NUL. -/
def getStringFieldOf : Json → Bytes → Except Exn (Bytes × ParseStatus) :=
  getFieldOf [] (readField [] fun property => property.string?.map cStr)

/-- The loop of `getStringVecFieldOf`, which keeps what it has read. -/
def stringVec (advisoryIDs : List Bytes) : List Json → List Bytes × ParseStatus
  | [] => (advisoryIDs, .ok)
  | elem :: elems =>
    match elem.string? with
    | none => (advisoryIDs, .invalid)
    | some s => stringVec (advisoryIDs ++ [cStr s]) elems

/-- `getStringVecFieldOf`. -/
def getStringVecFieldOf : Json → Bytes → Except Exn (List Bytes × ParseStatus) :=
  getFieldOf [] fun property =>
    match property.elems? with
    | none => ([], .invalid)
    | some elems => stringVec [] elems

/-- `isValidHexstring`. -/
def isValidHexstring (hexString : Bytes) : Bool := hexString.all isxdigit

/-- `getBytesFieldOf(parent, fieldName, length)`, the length in characters. -/
def getBytesFieldOf (length : ℕ) : Json → Bytes → Except Exn (Bytes × ParseStatus) :=
  getFieldOf [] (readField [] fun property =>
    (property.string?.map cStr).bind fun s =>
      if s.length = length ∧ isValidHexstring s then some (hexStringToBytes s) else none)

/-- `getDateFieldOf`. -/
def getDateFieldOf (env : JsonEnv) : Json → Bytes → Except Exn (ℤ × ParseStatus) :=
  getFieldOf 0 (readField 0 fun property =>
    (property.string?.map cStr).bind fun s =>
      if env.isValidTimeString s then some (env.getEpochTimeFromString s) else none)

/-- `getUintFieldOf`. -/
def getUintFieldOf : Json → Bytes → Except Exn (UInt32 × ParseStatus) :=
  getFieldOf 0 (readField 0 Json.uint?)

/-- `getIntFieldOf`. -/
def getIntFieldOf : Json → Bytes → Except Exn (ℤ × ParseStatus) :=
  getFieldOf 0 (readField 0 Json.int?)

/-- `if (!condition) LOG_AND_THROW(e)`. -/
def throwUnless (condition : Prop) [Decidable condition] (e : Exn) : Except Exn Unit :=
  if condition then .ok () else .error e

/-- What `HasMember` and `operator[]` give, with an exception for a missing member. -/
def memberOrThrow (v : Json) (name : Bytes) (e : Exn) : Except Exn Json :=
  match v.member? name with
  | some value => .ok value
  | none => .error e

/-- What `JsonParser::parse` gives, with an exception for a text it does not take. -/
def documentOrThrow (env : JsonEnv) (json : Bytes) (e : Exn) : Except Exn Json :=
  match env.parse json with
  | some document => .ok document
  | none => .error e

/-- The elements of an array, with an exception for any other value. -/
def elemsOrThrow (v : Json) (e : Exn) : Except Exn (List Json) :=
  match v.elems? with
  | some elems => .ok elems
  | none => .error e

/-- `switch (status)` on a field that must be there. -/
def required {T : Type} (missing invalid : Exn) : T × ParseStatus → Except Exn T
  | (value, .ok) => .ok value
  | (_, .missing) => .error missing
  | (_, .invalid) => .error invalid

/-- `switch (status)` on a field that may be missing. -/
def optionalField {T : Type} (invalid : Exn) : T × ParseStatus → Except Exn T
  | (_, .invalid) => .error invalid
  | (value, _) => .ok value

/-- A field that must be there and well formed, with one exception for both. -/
def fieldOrThrow {T : Type} (e : Exn) (field : Except Exn (T × ParseStatus)) : Except Exn T := do
  required e e (← field)

/-- `constants::ECDSA_P256_SIGNATURE_BYTE_LEN`. -/
def ecdsaP256SignatureByteLen : ℕ := 64

/-- The `[signature]` field of a document; its length is checked before the characters
    after a NUL are dropped. -/
def parseSignature (invalid : Bytes) (signatureField : Json) : Except Exn Bytes :=
  match signatureField.string? with
  | none => .error (.invalidExtension invalid)
  | some s =>
    if s.length ≠ ecdsaP256SignatureByteLen * 2 then .error (.invalidExtension invalid)
    else .ok (hexStringToBytes (cStr s))

/-! ## What a field says -/

/-- The first byte of the text of a parser's exception. -/
inductive Exn.StartsWith : Exn → UInt8 → Prop
  | format {what : Bytes} {c : UInt8} (h : what.head? = some c) : StartsWith (.format what) c
  | invalidExtension {what : Bytes} {c : UInt8} (h : what.head? = some c) :
      StartsWith (.invalidExtension what) c
  | invalidVersion {what : Bytes} {c : UInt8} (h : what.head? = some c) :
      StartsWith (.invalidVersion what) c
  | runtimeError {what : Bytes} {c : UInt8} (h : what.head? = some c) :
      StartsWith (.runtimeError what) c

/-- Not an exception about a field. The texts that start with a `D` are those of the
    duplicated levels; the exceptions without a text that starts with a byte are not
    thrown by the parsers. -/
def Exn.NotOfField (e : Exn) : Prop := ∀ c, e.StartsWith c → c = 68

theorem Exn.StartsWith.unique {e : Exn} {c d : UInt8} (h : e.StartsWith c) (h' : e.StartsWith d) :
    c = d := by
  cases h <;> cases h' <;> simp_all

/-- A character that the texts about a field start with. -/
class FieldLetter (c : Char) : Prop where
  ne : UInt8.ofNat c.toNat ≠ 68

instance : FieldLetter 'C' := ⟨by decide⟩
instance : FieldLetter 'E' := ⟨by decide⟩
instance : FieldLetter 'F' := ⟨by decide⟩
instance : FieldLetter 'M' := ⟨by decide⟩
instance : FieldLetter 'N' := ⟨by decide⟩
instance : FieldLetter 'T' := ⟨by decide⟩
instance : FieldLetter 'U' := ⟨by decide⟩
instance : FieldLetter '[' := ⟨by decide⟩

/-- `t` spells the literal `s`. -/
class Spells (s : String) (t : outParam String) : Prop where
  eq : s = t

instance (s : String) : Spells s s := ⟨rfl⟩

/-- A text about a field starts with a letter other than `D`. -/
class FieldText (what : Bytes) : Prop where
  head : ∃ c, what.head? = some c ∧ c ≠ 68

instance {s : String} {c : Char} {cs : List Char} [h : Spells s (String.ofList (c :: cs))]
    [hc : FieldLetter c] : FieldText (str s) :=
  ⟨_, h.eq ▸ str_head c cs, hc.ne⟩

instance {xs ys : Bytes} [h : FieldText xs] : FieldText (xs ++ ys) :=
  let ⟨c, hc, hne⟩ := h.head
  ⟨c, head_append hc ys, hne⟩

/-- An exception about a field. -/
class Exn.OfField (e : Exn) : Prop where
  startsWith : ∃ c, e.StartsWith c ∧ c ≠ 68

instance {what : Bytes} [h : FieldText what] : (Exn.format what).OfField :=
  let ⟨c, hc, hne⟩ := h.head
  ⟨c, .format hc, hne⟩

instance {what : Bytes} [h : FieldText what] : (Exn.invalidExtension what).OfField :=
  let ⟨c, hc, hne⟩ := h.head
  ⟨c, .invalidExtension hc, hne⟩

instance {what : Bytes} [h : FieldText what] : (Exn.invalidVersion what).OfField :=
  let ⟨c, hc, hne⟩ := h.head
  ⟨c, .invalidVersion hc, hne⟩

instance {what : Bytes} [h : FieldText what] : (Exn.runtimeError what).OfField :=
  let ⟨c, hc, hne⟩ := h.head
  ⟨c, .runtimeError hc, hne⟩

theorem Exn.NotOfField.ne {e e' : Exn} (h : e.NotOfField) [h' : e'.OfField] : e' ≠ e := by
  obtain ⟨c, hc, hne⟩ := h'.startsWith
  rintro rfl
  exact hne (h c hc)

theorem throwUnless_eq_ok {condition : Prop} [Decidable condition] {e : Exn} {u : Unit} :
    throwUnless condition e = .ok u ↔ condition := by
  rw [throwUnless]
  split_ifs with h <;> simp [h]

theorem throwUnless_avoids {condition : Prop} [Decidable condition] {e e' : Exn} (h : e' ≠ e) :
    Avoids e (throwUnless condition e') := by
  rw [throwUnless]
  split_ifs
  · exact Avoids.pure ()
  · exact Avoids.throw h

theorem memberOrThrow_eq_ok {v : Json} {name : Bytes} {e : Exn} {value : Json} :
    memberOrThrow v name e = .ok value ↔ v.member? name = some value := by
  rw [memberOrThrow]
  cases v.member? name <;> simp

theorem memberOrThrow_avoids {v : Json} {name : Bytes} {e e' : Exn} (h : e' ≠ e) :
    Avoids e (memberOrThrow v name e') := by
  rw [memberOrThrow]
  cases v.member? name with
  | none => exact Avoids.throw h
  | some value => exact Avoids.pure value

theorem documentOrThrow_eq_ok {env : JsonEnv} {json : Bytes} {e : Exn} {document : Json} :
    documentOrThrow env json e = .ok document ↔ env.parse json = some document := by
  rw [documentOrThrow]
  cases env.parse json <;> simp

theorem documentOrThrow_avoids {env : JsonEnv} {json : Bytes} {e e' : Exn} (h : e' ≠ e) :
    Avoids e (documentOrThrow env json e') := by
  rw [documentOrThrow]
  cases env.parse json with
  | none => exact Avoids.throw h
  | some document => exact Avoids.pure document

theorem elemsOrThrow_eq_ok {v : Json} {e : Exn} {elems : List Json} :
    elemsOrThrow v e = .ok elems ↔ v.elems? = some elems := by
  rw [elemsOrThrow]
  cases v.elems? <;> simp

theorem elemsOrThrow_avoids {v : Json} {e e' : Exn} (h : e' ≠ e) :
    Avoids e (elemsOrThrow v e') := by
  rw [elemsOrThrow]
  cases v.elems? with
  | none => exact Avoids.throw h
  | some elems => exact Avoids.pure elems

theorem required_eq_ok {T : Type} {missing invalid : Exn} {r : T × ParseStatus} {value : T} :
    required missing invalid r = .ok value ↔ r = (value, .ok) := by
  rcases r with ⟨v, _ | _ | _⟩ <;> simp [required]

theorem fieldOrThrow_eq_ok {T : Type} {e : Exn} {field : Except Exn (T × ParseStatus)} {value : T} :
    fieldOrThrow e field = .ok value ↔ field = .ok (value, .ok) := by
  rw [fieldOrThrow, bind_eq_ok]
  constructor
  · rintro ⟨r, hr, h⟩
    rw [hr, required_eq_ok.mp h]
  · intro h
    exact ⟨_, h, rfl⟩

theorem required_avoids {T : Type} {e missing invalid : Exn} (hm : missing ≠ e)
    (hi : invalid ≠ e) (r : T × ParseStatus) : Avoids e (required missing invalid r) := by
  rcases r with ⟨v, _ | _ | _⟩
  · exact Avoids.pure v
  · exact Avoids.throw hm
  · exact Avoids.throw hi

theorem optionalField_avoids {T : Type} {e invalid : Exn} (hi : invalid ≠ e)
    (r : T × ParseStatus) : Avoids e (optionalField invalid r) := by
  rcases r with ⟨v, _ | _ | _⟩
  · exact Avoids.pure v
  · exact Avoids.pure v
  · exact Avoids.throw hi

/-- A field that is read as a whole. -/
theorem getFieldOf_readField_eq_ok {T : Type} {empty : T} {read : Json → Option T} {v : Json}
    {name : Bytes} {x : T} (h : getFieldOf empty (readField empty read) v name = .ok (x, .ok)) :
    ∃ property, v.member? name = some property ∧ read property = some x := by
  rw [getFieldOf] at h
  split_ifs at h
  cases hv : v.member? name with
  | none => rw [hv] at h; cases h
  | some property =>
    rw [hv] at h
    refine ⟨property, rfl, ?_⟩
    simp only [readField, Except.ok.injEq] at h
    cases hread : read property with
    | none => rw [hread] at h; cases h
    | some y => rw [hread] at h; cases h; rfl

/-- A field that is read from the characters of a string. -/
theorem readString_eq_ok {T : Type} {empty : T} {read : Bytes → Option T} {v : Json}
    {name : Bytes} {x : T}
    (h : getFieldOf empty (readField empty fun property =>
      (property.string?.map cStr).bind read) v name = .ok (x, .ok)) :
    ∃ s, (v.member? name).bind Json.string? = some s ∧ read (cStr s) = some x := by
  obtain ⟨property, hproperty, hread⟩ := getFieldOf_readField_eq_ok h
  obtain ⟨t, ht, hread⟩ := Option.bind_eq_some_iff.mp hread
  obtain ⟨s, hs, rfl⟩ := Option.map_eq_some_iff.mp ht
  exact ⟨s, by rw [hproperty, Option.bind_some, hs], hread⟩

theorem getStringFieldOf_eq_ok {v : Json} {name x : Bytes}
    (h : getStringFieldOf v name = .ok (x, .ok)) :
    ∃ s, (v.member? name).bind Json.string? = some s ∧ cStr s = x := by
  obtain ⟨property, hproperty, hread⟩ := getFieldOf_readField_eq_ok h
  obtain ⟨s, hs, rfl⟩ := Option.map_eq_some_iff.mp hread
  exact ⟨s, by rw [hproperty, Option.bind_some, hs], rfl⟩

theorem getFieldOf_avoids {T : Type} (empty : T) (read : Json → T × ParseStatus) {e : Exn}
    (hd : e.NotOfField) (v : Json) (name : Bytes) :
    Avoids e (getFieldOf empty read v name) := by
  rw [getFieldOf]
  split_ifs
  · cases v.member? name with
    | none => exact Avoids.pure _
    | some property => exact Avoids.pure _
  · exact Avoids.throw hd.ne

theorem fieldOrThrow_avoids {T : Type} {e e' : Exn} (h : e' ≠ e)
    {field : Except Exn (T × ParseStatus)} (hfield : Avoids e field) :
    Avoids e (fieldOrThrow e' field) :=
  hfield.bind fun r _ => required_avoids h h r

theorem parseSignature_avoids {e : Exn} {invalid : Bytes} (h : .invalidExtension invalid ≠ e)
    (v : Json) : Avoids e (parseSignature invalid v) := by
  rw [parseSignature]
  cases v.string? with
  | none => exact Avoids.throw h
  | some s =>
    show Avoids e (if s.length ≠ ecdsaP256SignatureByteLen * 2 then _ else _)
    split_ifs
    · exact Avoids.throw h
    · exact Avoids.pure _

theorem getBytesFieldOf_length {n : ℕ} {v : Json} {name bytes : Bytes}
    (h : getBytesFieldOf (2 * n) v name = .ok (bytes, .ok)) : bytes.length = n := by
  rw [getBytesFieldOf, getFieldOf] at h
  split_ifs at h
  cases hv : v.member? name with
  | none => rw [hv] at h; cases h
  | some property =>
    rw [hv] at h
    simp only [readField, Except.ok.injEq] at h
    cases hs : property.string?.map cStr with
    | none => rw [hs] at h; cases h
    | some s =>
      rw [hs, Option.bind_some] at h
      split_ifs at h with hok
      · cases h
        exact hexStringToBytes_length hok.2 hok.1
      · cases h

end DcapQvl
