import DcapQvl.Json.Value
import DcapQvl.Lib.Munch

/-!
# Numbers in a JSON text

`GenericReader::ParseNumber` of rapidjson's `reader.h` with the flags of `JsonParser`. The
arithmetic on doubles is the parameter `DoubleReader`, every test on it is not.

Results:
* `parseNumber_text`: on the text of a number the loops of the reader, which go from 32 to
  64 bits and to a double as the digits do not fit, return what the digits of the number
  say one after the other.
* `exists_number`: what `ParseNumber` takes is the text of a number.
* `Number.value_int`: an integer of 64 bits is read exactly.
* `parseNumber_avoids`: no assertion fails, the one on the table of powers included.
-/

namespace DcapQvl.Rapidjson

open Lib

/-! ## Results of the reader -/

/-- `ParseErrorCode`, as far as the reader sets them with these flags. -/
inductive ParseErrorCode
  | documentEmpty | documentRootNotSingular | valueInvalid | objectMissName | objectMissColon
  | objectMissCommaOrCurlyBracket | arrayMissCommaOrSquareBracket
  | stringUnicodeEscapeInvalidHex | stringUnicodeSurrogateInvalid | stringEscapeInvalid
  | stringMissQuotationMark | stringInvalidEncoding | numberTooBig | numberMissFraction
  | numberMissExponent
  deriving DecidableEq, Repr

/-- What ends the reader before it has a document. -/
inductive Failure
  /-- `SetParseError(code, offset)`. -/
  | error (code : ParseErrorCode)
  /-- A `RAPIDJSON_ASSERT` that does not hold. -/
  | assertion
  deriving DecidableEq, Repr

/-- `is.Peek()`; the NUL at the end of the string is the end of the list. -/
def peek (is : Bytes) : UInt8 := is.headD 0

/-! ## Doubles -/

/-- The bits of the infinity. -/
def infinity : UInt64 := 0x7FF0000000000000

/-- The arithmetic on doubles in `ParseNumber`; a double is its bits. On numbers that are
    not negative, of which the infinity is the greatest, no operation makes a NaN. -/
structure DoubleReader where
  /-- `static_cast<double>(i64)`. -/
  ofUint64 : ℕ → UInt64
  /-- `d * 10 + digit`. -/
  mulTenAdd : UInt64 → ℕ → UInt64
  /-- `significand * e[n]`, with the table `e` of `internal::Pow10`. -/
  mulPow10 : UInt64 → ℕ → UInt64
  /-- `significand / e[n]`. -/
  divPow10 : UInt64 → ℕ → UInt64
  ofUint64_le : ∀ n, ofUint64 n ≤ infinity
  mulTenAdd_le : ∀ d n, d ≤ infinity → mulTenAdd d n ≤ infinity
  mulPow10_le : ∀ d n, d ≤ infinity → mulPow10 d n ≤ infinity
  divPow10_le : ∀ d n, d ≤ infinity → divPow10 d n ≤ infinity

/-- `d > 0.0`. -/
def isPositive (d : UInt64) : Bool := 0 < d && d ≤ infinity

/-- `d > (std::numeric_limits<double>::max)()`. -/
def aboveMax (d : UInt64) : Bool := d == infinity

/-- `-d`. -/
def negate (d : UInt64) : UInt64 := d ^^^ 0x8000000000000000

/-- `internal::FastPath(significand, exp)`, with the assertion of `internal::Pow10` on the
    index into its table. -/
def fastPath (rd : DoubleReader) (significand : UInt64) (exp : ℤ) : Except Failure UInt64 :=
  if exp < -308 then .ok 0
  else if 0 ≤ exp then
    if exp ≤ 308 then .ok (rd.mulPow10 significand exp.toNat) else .error .assertion
  else if -exp ≤ 308 then .ok (rd.divPow10 significand (-exp).toNat)
  else .error .assertion

/-- `internal::StrtodNormalPrecision(d, p)`. -/
def strtodNormalPrecision (rd : DoubleReader) (d : UInt64) (p : ℤ) : Except Failure UInt64 :=
  if p < -308 then do
    let d ← fastPath rd d (-308)
    fastPath rd d (p + 308)
  else fastPath rd d p

/-! ## `ParseNumber` -/

/-- `c >= '0' && c <= '9'`. -/
def isDigit (c : UInt8) : Bool := 48 ≤ c && c ≤ 57

/-- `c - '0'`. -/
def digit (c : UInt8) : ℕ := c.toNat - 48

/-- The local variables of `ParseNumber`: `i64` is also `i`, which it continues, and `d` is
    there once `useDouble` is. -/
structure Accumulator where
  i64 : ℕ
  d : Option UInt64
  significandDigit : ℕ
  expFrac : ℤ

namespace Accumulator

/-- The body of the loops on the digits of an integer, which `break` when the next digit
    does not fit. -/
def intBody (limit : ℕ) (lastDigit : UInt8) (acc : Accumulator) (c : UInt8) : Option Accumulator :=
  if limit ≤ acc.i64 ∧ (acc.i64 ≠ limit ∨ lastDigit < c) then none
  else some { acc with
    i64 := acc.i64 * 10 + digit c, significandDigit := acc.significandDigit + 1 }

/-- `d = static_cast<double>(i64)` and `useDouble = true`, unless it is. -/
def toDouble (rd : DoubleReader) (acc : Accumulator) : Accumulator :=
  { acc with d := some (acc.d.getD (rd.ofUint64 acc.i64)) }

/-- The body of the loop on the digits of a big integer. -/
def bigBody (rd : DoubleReader) (acc : Accumulator) (c : UInt8) : Accumulator :=
  { acc with d := acc.d.map fun d => rd.mulTenAdd d (digit c) }

/-- The body of the loop on the digits of a fraction that keeps the significand in `i64`. -/
def fastBody (acc : Accumulator) (c : UInt8) : Option Accumulator :=
  if 0x1FFFFFFFFFFFFF < acc.i64 then none
  else
    let i64 := acc.i64 * 10 + digit c
    some { acc with
      i64 := i64, expFrac := acc.expFrac - 1,
      significandDigit := if i64 ≠ 0 then acc.significandDigit + 1 else acc.significandDigit }

/-- The body of the loop on the digits of a fraction that keeps the significand in `d`. -/
def fracBody (rd : DoubleReader) (acc : Accumulator) (c : UInt8) : Accumulator :=
  match acc.d with
  | none => acc
  | some d =>
    if acc.significandDigit < 17 then
      let d := rd.mulTenAdd d (digit c)
      { acc with
        d := some d, expFrac := acc.expFrac - 1,
        significandDigit := if isPositive d then acc.significandDigit + 1
          else acc.significandDigit }
    else acc

end Accumulator

/-- The limit of the 32-bit loop: the integer before the last digit that may fit. -/
def limit32 (minus : Bool) : ℕ := if minus then 214748364 else 429496729

/-- The limit of the 64-bit loop. -/
def limit64 (minus : Bool) : ℕ := if minus then 0x0CCCCCCCCCCCCCCC else 0x1999999999999999

/-- The greatest digit that fits after the limit. -/
def lastDigit (minus : Bool) : UInt8 := if minus then 56 else 53

/-- `Consume(s, '-')`. -/
def parseMinus : Bytes → Bool × Bytes
  | [] => (false, [])
  | c :: s => if c = 45 then (true, s) else (false, c :: s)

/-- The loops on the digits of an integer after the first: of 32 bits, of 64 bits and on a
    double. A loop has set `use64bit` or `useDouble` when a digit is left. -/
def intLoops (rd : DoubleReader) (minus : Bool) (acc : Accumulator) (s : Bytes) :
    Accumulator × Bytes :=
  let (acc, s) := scanRun isDigit (Accumulator.intBody (limit32 minus) (lastDigit minus)) acc s
  if isDigit (peek s) then
    let (acc, s) := scanRun isDigit (Accumulator.intBody (limit64 minus) (lastDigit minus)) acc s
    if isDigit (peek s) then
      scanRun isDigit (fun acc c => some (acc.bigBody rd c)) (acc.toDouble rd) s
    else (acc, s)
  else (acc, s)

/-- The part of `ParseNumber` up to the fraction. -/
def parseInt (rd : DoubleReader) (minus : Bool) : Bytes → Except Failure (Accumulator × Bytes)
  | [] => .error (.error .valueInvalid)
  | c :: s =>
    if c = 48 then .ok (⟨0, none, 0, 0⟩, s)
    else if 49 ≤ c ∧ c ≤ 57 then .ok (intLoops rd minus ⟨digit c, none, 0, 0⟩ s)
    else .error (.error .valueInvalid)

/-- The loops on the digits of a fraction. -/
def fracLoops (rd : DoubleReader) (acc : Accumulator) (s : Bytes) : Accumulator × Bytes :=
  let (acc, s) :=
    if acc.d.isNone then
      let (acc, s) := scanRun isDigit Accumulator.fastBody acc s
      (acc.toDouble rd, s)
    else (acc, s)
  scanRun isDigit (fun acc c => some (acc.fracBody rd c)) acc s

/-- `if (Consume(s, '.')) …`. -/
def parseFrac (rd : DoubleReader) (acc : Accumulator) :
    Bytes → Except Failure (Accumulator × Bytes)
  | [] => .ok (acc, [])
  | c :: s =>
    if c = 46 then
      if isDigit (peek s) then .ok (fracLoops rd acc s) else .error (.error .numberMissFraction)
    else .ok (acc, c :: s)

/-- The sign of an exponent. -/
def parseExpSign : Bytes → Bool × Bytes
  | [] => (false, [])
  | c :: s => if c = 43 then (false, s) else if c = 45 then (true, s) else (false, c :: s)

/-- The loop on the digits of a negative exponent, which ignores the digits that are left
    once `exp > maxExp`. -/
def expMinusLoop (maxExp : ℤ) : ℤ → Bytes → ℤ × Bytes
  | exp, [] => (exp, [])
  | exp, c :: s =>
    if isDigit c then
      if exp * 10 + digit c > maxExp then (exp * 10 + digit c, s.dropWhile isDigit)
      else expMinusLoop maxExp (exp * 10 + digit c) s
    else (exp, c :: s)

/-- The loop on the digits of a positive exponent. -/
def expPlusLoop (maxExp : ℤ) : ℤ → Bytes → Except Failure (ℤ × Bytes)
  | exp, [] => .ok (exp, [])
  | exp, c :: s =>
    if isDigit c then
      if exp * 10 + digit c > maxExp then .error (.error .numberTooBig)
      else expPlusLoop maxExp (exp * 10 + digit c) s
    else .ok (exp, c :: s)

/-- The digits of an exponent, the first of them `c`; the exponent has its sign. -/
def parseExpDigits (expMinus : Bool) (expFrac : ℤ) (c : UInt8) (s : Bytes) :
    Except Failure (ℤ × Bytes) :=
  if expMinus then
    if expFrac ≤ 0 then
      let (exp, s) := expMinusLoop ((expFrac + 2147483639).tdiv 10) (digit c) s
      .ok (-exp, s)
    else .error .assertion
  else expPlusLoop (308 - expFrac) (digit c) s

/-- `if (Consume(s, 'e') || Consume(s, 'E')) …`, with `exp`. -/
def parseExp (rd : DoubleReader) (acc : Accumulator) :
    Bytes → Except Failure (Accumulator × ℤ × Bytes)
  | [] => .ok (acc, 0, [])
  | c :: s =>
    if c = 101 ∨ c = 69 then
      match parseExpSign s with
      | (_, []) => .error (.error .numberMissExponent)
      | (expMinus, c :: s) =>
        if isDigit c then do
          let (exp, s) ← parseExpDigits expMinus acc.expFrac c s
          .ok (acc.toDouble rd, exp, s)
        else .error (.error .numberMissExponent)
    else .ok (acc, 0, c :: s)

/-- The end of `ParseNumber`: the event of the handler. -/
def finishNumber (rd : DoubleReader) (minus : Bool) (acc : Accumulator) (exp : ℤ) :
    Except Failure Json :=
  match acc.d with
  | some d => do
    let d ← strtodNormalPrecision rd d (exp + acc.expFrac)
    if aboveMax d then .error (.error .numberTooBig)
    else .ok (.double (if minus then negate d else d))
  | none => .ok (.int (if minus then -(acc.i64 : ℤ) else acc.i64))

/-- `ParseNumber`. -/
def parseNumber (rd : DoubleReader) (s : Bytes) : Except Failure (Json × Bytes) := do
  let (minus, s) := parseMinus s
  let (acc, s) ← parseInt rd minus s
  let (acc, s) ← parseFrac rd acc s
  let (acc, exp, s) ← parseExp rd acc s
  let v ← finishNumber rd minus acc exp
  .ok (v, s)

/-! ## Numbers -/

/-- An exponent: `e` or `E`, a sign or none, and digits. -/
structure Exponent where
  mark : UInt8
  sign : Bytes
  lead : UInt8
  tail : Bytes
  mark_eq : mark = 101 ∨ mark = 69
  sign_eq : sign = [] ∨ sign = [43] ∨ sign = [45]
  isDigit_lead : isDigit lead = true
  isDigit_tail : ∀ c ∈ tail, isDigit c = true

/-- A number of JSON: `0` or digits that do not start with it, then a fraction and an
    exponent or none. -/
structure Number where
  minus : Bool
  lead : UInt8
  tail : Bytes
  frac : Option Bytes
  exp : Option Exponent
  isDigit_lead : isDigit lead = true
  isDigit_tail : ∀ c ∈ tail, isDigit c = true
  tail_eq_nil : lead = 48 → tail = []
  isDigit_frac : ∀ ds ∈ frac, ds ≠ [] ∧ ∀ c ∈ ds, isDigit c = true

/-- The text of an exponent. -/
def Exponent.text (e : Exponent) : Bytes := e.mark :: (e.sign ++ e.lead :: e.tail)

/-- The text of a fraction. -/
def fracText : Option Bytes → Bytes
  | none => []
  | some ds => 46 :: ds

/-- The text of an exponent that may be missing. -/
def expText : Option Exponent → Bytes
  | none => []
  | some e => e.text

/-- The text of a number. -/
def Number.text (n : Number) : Bytes :=
  (if n.minus then [45] else []) ++ (n.lead :: n.tail ++ (fracText n.frac ++ expText n.exp))

/-- What a digit of the integer part adds. -/
def Accumulator.pushInt (rd : DoubleReader) (minus : Bool) (acc : Accumulator) (c : UInt8) :
    Accumulator :=
  if acc.d.isSome then acc.bigBody rd c
  else
    match acc.intBody (limit64 minus) (lastDigit minus) c with
    | some acc => acc
    | none => (acc.toDouble rd).bigBody rd c

/-- What a digit of the fraction adds. -/
def Accumulator.pushFrac (rd : DoubleReader) (acc : Accumulator) (c : UInt8) : Accumulator :=
  if acc.d.isSome then acc.fracBody rd c
  else
    match acc.fastBody c with
    | some acc => acc
    | none => (acc.toDouble rd).fracBody rd c

/-- The integer part of a number. -/
def Number.intPart (rd : DoubleReader) (n : Number) : Accumulator :=
  n.tail.foldl (Accumulator.pushInt rd n.minus) ⟨digit n.lead, none, 0, 0⟩

/-- A fraction that may be missing. -/
def Accumulator.addFrac (rd : DoubleReader) (acc : Accumulator) : Option Bytes → Accumulator
  | none => acc
  | some ds => (ds.foldl (Accumulator.pushFrac rd) acc).toDouble rd

/-- An exponent that may be missing, with its value. -/
def Accumulator.addExp (rd : DoubleReader) (acc : Accumulator) :
    Option Exponent → Except Failure (Accumulator × ℤ)
  | none => .ok (acc, 0)
  | some e => do
    let (exp, _) ← parseExpDigits (e.sign = [45]) acc.expFrac e.lead e.tail
    .ok (acc.toDouble rd, exp)

/-- The value of a number, or why it has none. -/
def Number.value (rd : DoubleReader) (n : Number) : Except Failure Json := do
  let (acc, exp) ← ((n.intPart rd).addFrac rd n.frac).addExp rd n.exp
  finishNumber rd n.minus acc exp

/-! ## Integers -/

/-- The test of the loops: the next digit does not fit. -/
theorem intBody_eq_none {minus : Bool} {acc : Accumulator} {c : UInt8} (hc : isDigit c = true) :
    acc.intBody (limit64 minus) (lastDigit minus) c = none ↔
      (if minus then 2 ^ 63 else 2 ^ 64 - 1) < acc.i64 * 10 + digit c := by
  unfold Accumulator.intBody limit64 lastDigit digit isDigit at *
  simp only [Bool.and_eq_true, decide_eq_true_eq, UInt8.le_iff_toNat_le, UInt8.lt_iff_toNat_lt] at *
  cases minus <;> simp at * <;> omega

theorem intBody_eq_some {limit : ℕ} {last c : UInt8} {acc acc' : Accumulator}
    (h : acc.intBody limit last c = some acc') :
    acc' = { acc with i64 := acc.i64 * 10 + digit c, significandDigit := acc.significandDigit + 1 } ∧
      acc.i64 ≤ limit := by
  unfold Accumulator.intBody at h
  split_ifs at h with hlimit
  cases h
  refine ⟨rfl, ?_⟩
  omega

/-- A digit that fits into 32 bits or into 64 bits continues the integer. -/
theorem pushInt_of_intBody (rd : DoubleReader) (minus : Bool) {limit : ℕ}
    (hlimit : limit = limit32 minus ∨ limit = limit64 minus) (acc : Accumulator) (c : UInt8)
    (acc' : Accumulator) (hd : acc.d = none)
    (h : acc.intBody limit (lastDigit minus) c = some acc') :
    acc.pushInt rd minus c = acc' ∧ acc'.d = none := by
  obtain ⟨rfl, hle⟩ := intBody_eq_some h
  refine ⟨?_, hd⟩
  rw [Accumulator.pushInt, hd, if_neg (by simp)]
  rcases hlimit with rfl | rfl
  · have hlt : ¬(limit64 minus ≤ acc.i64 ∧ (acc.i64 ≠ limit64 minus ∨ lastDigit minus < c)) := by
      unfold limit32 limit64 at *
      cases minus <;> simp at * <;> omega
    rw [Accumulator.intBody, if_neg hlt]
    simp only [hd]
  · rw [h]
    simp only [hd]

theorem pushInt_of_isSome (rd : DoubleReader) (minus : Bool) {acc : Accumulator}
    (hd : acc.d.isSome = true) (c : UInt8) : acc.pushInt rd minus c = acc.bigBody rd c := by
  rw [Accumulator.pushInt, if_pos hd]

theorem isSome_bigBody (rd : DoubleReader) (acc : Accumulator) (c : UInt8) :
    (acc.bigBody rd c).d.isSome = acc.d.isSome := by
  simp [Accumulator.bigBody]

theorem foldl_pushInt_of_isSome (rd : DoubleReader) (minus : Bool) {acc : Accumulator}
    (hd : acc.d.isSome = true) (ds : Bytes) :
    ds.foldl (Accumulator.pushInt rd minus) acc = ds.foldl (Accumulator.bigBody rd) acc := by
  induction ds generalizing acc with
  | nil => rfl
  | cons c ds ih =>
    rw [List.foldl_cons, List.foldl_cons, pushInt_of_isSome rd minus hd]
    exact ih (by rw [isSome_bigBody, hd])

/-- The digits from the first that does not fit. -/
theorem foldl_pushInt_big (rd : DoubleReader) {minus : Bool} {acc : Accumulator} {c : UInt8}
    (hd : acc.d = none) (h : acc.intBody (limit64 minus) (lastDigit minus) c = none) (ds : Bytes) :
    (c :: ds).foldl (Accumulator.pushInt rd minus) acc =
      (c :: ds).foldl (Accumulator.bigBody rd) (acc.toDouble rd) := by
  have hc : acc.pushInt rd minus c = (acc.toDouble rd).bigBody rd c := by
    rw [Accumulator.pushInt, hd, if_neg (by simp), h]
  rw [List.foldl_cons, List.foldl_cons, hc, foldl_pushInt_of_isSome rd minus]
  rw [isSome_bigBody]
  rfl

theorem not_isDigit_peek {s : Bytes} (h : Stops isDigit s) : ¬isDigit (peek s) = true := by
  cases s with
  | nil => decide
  | cons c s => simp [peek, stops_cons.mp h]

/-- The loops take the run of digits, and each digit adds to the integer if it fits. -/
theorem intLoops_run (rd : DoubleReader) (minus : Bool) {acc : Accumulator} (hd : acc.d = none)
    {ds rest : Bytes} (hds : ∀ c ∈ ds, isDigit c = true) (hrest : Stops isDigit rest) :
    intLoops rd minus acc (ds ++ rest) = (ds.foldl (Accumulator.pushInt rd minus) acc, rest) := by
  obtain ⟨pre, post, rfl, hscan, hd', -⟩ := scanRun_run
    (pushInt_of_intBody rd minus (.inl rfl)) hd hds hrest
  rw [intLoops, hscan, List.foldl_append]
  generalize pre.foldl (Accumulator.pushInt rd minus) acc = acc at *
  have hpost : ∀ c ∈ post, isDigit c = true := fun c hc => hds c (by simp [hc])
  dsimp only
  by_cases h32 : isDigit (peek (post ++ rest)) = true
  · rw [if_pos h32]
    obtain ⟨pre, post, rfl, hscan, hd', hbreak⟩ := scanRun_run
      (pushInt_of_intBody rd minus (.inr rfl)) hd' hpost hrest
    rw [hscan, List.foldl_append]
    generalize pre.foldl (Accumulator.pushInt rd minus) acc = acc at *
    have hpost : ∀ c ∈ post, isDigit c = true := fun c hc => hpost c (by simp [hc])
    dsimp only
    cases post with
    | nil => rw [List.nil_append, if_neg (not_isDigit_peek hrest), List.foldl_nil]
    | cons c post =>
      have hc : isDigit (peek (c :: post ++ rest)) = true := hpost c (by simp)
      rw [if_pos hc, scanRun_total _ hpost hrest, foldl_pushInt_big rd hd' (hbreak c (by simp))]
  · rw [if_neg h32]
    cases post with
    | nil => rw [List.nil_append, List.foldl_nil]
    | cons c post => exact absurd (hpost c (by simp)) h32

/-! ## Fractions -/

theorem toDouble_of_isSome (rd : DoubleReader) {acc : Accumulator} (hd : acc.d.isSome = true) :
    acc.toDouble rd = acc := by
  obtain ⟨d, hd⟩ := Option.isSome_iff_exists.mp hd
  rw [Accumulator.toDouble, hd, Option.getD_some, ← hd]

theorem isSome_toDouble (rd : DoubleReader) (acc : Accumulator) :
    (acc.toDouble rd).d.isSome = true := rfl

theorem isSome_fracBody (rd : DoubleReader) (acc : Accumulator) (c : UInt8) :
    (acc.fracBody rd c).d.isSome = acc.d.isSome := by
  unfold Accumulator.fracBody
  cases hd : acc.d with
  | none => simp [hd]
  | some d =>
    dsimp only
    split_ifs <;> simp [hd]

theorem foldl_pushFrac_of_isSome (rd : DoubleReader) {acc : Accumulator}
    (hd : acc.d.isSome = true) (ds : Bytes) :
    ds.foldl (Accumulator.pushFrac rd) acc = ds.foldl (Accumulator.fracBody rd) acc ∧
      (ds.foldl (Accumulator.fracBody rd) acc).d.isSome = true := by
  induction ds generalizing acc with
  | nil => exact ⟨rfl, hd⟩
  | cons c ds ih =>
    rw [List.foldl_cons, List.foldl_cons, Accumulator.pushFrac, if_pos hd]
    exact ih (by rw [isSome_fracBody, hd])

/-- The digits of a fraction from the first that the fast loop leaves. -/
theorem foldl_pushFrac_slow (rd : DoubleReader) {acc : Accumulator} {ds : Bytes}
    (h : ∀ c ∈ ds.head?, acc.d = none ∧ acc.fastBody c = none) :
    (ds.foldl (Accumulator.pushFrac rd) acc).toDouble rd =
      ds.foldl (Accumulator.fracBody rd) (acc.toDouble rd) := by
  cases ds with
  | nil => rfl
  | cons c ds =>
    obtain ⟨hd, hnone⟩ := h c (by simp)
    have hc : acc.pushFrac rd c = (acc.toDouble rd).fracBody rd c := by
      rw [Accumulator.pushFrac, hd, if_neg (by simp), hnone]
    have hsome : ((acc.toDouble rd).fracBody rd c).d.isSome = true := by
      rw [isSome_fracBody, isSome_toDouble]
    obtain ⟨hfold, hfold'⟩ := foldl_pushFrac_of_isSome rd hsome ds
    rw [List.foldl_cons, List.foldl_cons, hc, hfold, toDouble_of_isSome rd hfold']

theorem pushFrac_of_fastBody (rd : DoubleReader) (acc : Accumulator) (c : UInt8)
    (acc' : Accumulator) (hd : acc.d = none) (h : acc.fastBody c = some acc') :
    acc.pushFrac rd c = acc' ∧ acc'.d = none := by
  refine ⟨by rw [Accumulator.pushFrac, hd, if_neg (by simp), h], ?_⟩
  unfold Accumulator.fastBody at h
  split_ifs at h
  cases h
  exact hd

/-- The loops take the run of digits, and each digit adds to the significand if there is
    room. -/
theorem fracLoops_run (rd : DoubleReader) (acc : Accumulator) {ds rest : Bytes}
    (hds : ∀ c ∈ ds, isDigit c = true) (hrest : Stops isDigit rest) :
    fracLoops rd acc (ds ++ rest) =
      ((ds.foldl (Accumulator.pushFrac rd) acc).toDouble rd, rest) := by
  rw [fracLoops]
  cases hd : acc.d with
  | some d =>
    have hsome : acc.d.isSome = true := by rw [hd]; rfl
    obtain ⟨hfold, hfold'⟩ := foldl_pushFrac_of_isSome rd hsome ds
    rw [Option.isNone_some, if_neg (by simp), hfold, toDouble_of_isSome rd hfold']
    exact scanRun_total _ hds hrest
  | none =>
    obtain ⟨pre, post, rfl, hscan, hd', hbreak⟩ := scanRun_run (pushFrac_of_fastBody rd) hd hds hrest
    rw [Option.isNone_none, if_pos rfl, hscan, List.foldl_append,
      foldl_pushFrac_slow rd fun c hc => ⟨hd', hbreak c hc⟩]
    exact scanRun_total _ (fun c hc => hds c (by simp [hc])) hrest

/-! ## Exponents -/

theorem expMinusLoop_run (maxExp exp : ℤ) {ds rest : Bytes} (hds : ∀ c ∈ ds, isDigit c = true)
    (hrest : Stops isDigit rest) :
    expMinusLoop maxExp exp (ds ++ rest) = ((expMinusLoop maxExp exp ds).1, rest) := by
  induction ds generalizing exp with
  | nil =>
    cases rest with
    | nil => rfl
    | cons c rest => simp [expMinusLoop, stops_cons.mp hrest]
  | cons c ds ih =>
    have hds' : ∀ c ∈ ds, isDigit c = true := fun d hd => hds d (by simp [hd])
    rw [List.cons_append, expMinusLoop, expMinusLoop, if_pos (hds c (by simp)),
      if_pos (hds c (by simp))]
    split_ifs with hmax
    · rw [dropWhile_run hds' hrest]
    · exact ih _ hds'

theorem expPlusLoop_run (maxExp exp : ℤ) {ds rest : Bytes} (hds : ∀ c ∈ ds, isDigit c = true)
    (hrest : Stops isDigit rest) :
    expPlusLoop maxExp exp (ds ++ rest) =
      (expPlusLoop maxExp exp ds).map fun r => (r.1, rest) := by
  induction ds generalizing exp with
  | nil =>
    cases rest with
    | nil => rfl
    | cons c rest => simp [expPlusLoop, stops_cons.mp hrest, Except.map]
  | cons c ds ih =>
    rw [List.cons_append, expPlusLoop, expPlusLoop, if_pos (hds c (by simp)),
      if_pos (hds c (by simp))]
    split_ifs with hmax
    · rfl
    · exact ih _ fun d hd => hds d (by simp [hd])

/-- The value of an exponent is that of its digits. -/
theorem parseExpDigits_run (expMinus : Bool) (expFrac : ℤ) (c : UInt8) {ds rest : Bytes}
    (hds : ∀ c ∈ ds, isDigit c = true) (hrest : Stops isDigit rest) :
    parseExpDigits expMinus expFrac c (ds ++ rest) =
      (parseExpDigits expMinus expFrac c ds).map fun r => (r.1, rest) := by
  unfold parseExpDigits
  cases expMinus with
  | true =>
    simp only [if_true, expMinusLoop_run _ _ hds hrest]
    split_ifs <;> rfl
  | false => exact expPlusLoop_run _ _ hds hrest

theorem parseExpSign_text (e : Exponent) (s : Bytes) :
    parseExpSign (e.sign ++ e.lead :: s) = (decide (e.sign = [45]), e.lead :: s) := by
  have hlead := e.isDigit_lead
  rcases e.sign_eq with h | h | h <;> rw [h]
  · have h43 : e.lead ≠ 43 := by
      rintro h43
      rw [h43] at hlead
      exact absurd hlead (by decide)
    have h45 : e.lead ≠ 45 := by
      rintro h45
      rw [h45] at hlead
      exact absurd hlead (by decide)
    rw [List.nil_append, parseExpSign, if_neg h43, if_neg h45]
    rfl
  · rfl
  · rfl

/-- `e` or `E`. -/
def isExpMark (c : UInt8) : Bool := c = 101 || c = 69

theorem parseExp_text (rd : DoubleReader) (acc : Accumulator) (e : Option Exponent) {rest : Bytes}
    (hmark : e = none → Stops isExpMark rest) (hrest : e ≠ none → Stops isDigit rest) :
    parseExp rd acc (expText e ++ rest) =
      (acc.addExp rd e).map fun r => (r.1, r.2, rest) := by
  cases e with
  | none =>
    cases rest with
    | nil => rfl
    | cons c rest =>
      have hc := stops_cons.mp (hmark rfl)
      rw [isExpMark, Bool.or_eq_false_iff] at hc
      have : ¬(c = 101 ∨ c = 69) := by
        simpa using hc
      rw [expText, List.nil_append, parseExp, if_neg this]
      rfl
  | some e =>
    rw [expText, Exponent.text, List.cons_append, List.append_assoc, List.cons_append, parseExp,
      if_pos e.mark_eq, parseExpSign_text]
    simp only [if_pos e.isDigit_lead]
    rw [parseExpDigits_run _ _ _ e.isDigit_tail (hrest (by simp)), Accumulator.addExp]
    cases parseExpDigits (decide (e.sign = [45])) acc.expFrac e.lead e.tail <;> rfl

/-- What is taken as an exponent is one. -/
theorem parseExp_eq_ok {rd : DoubleReader} {acc acc' : Accumulator} {exp : ℤ} {s s' : Bytes}
    (h : parseExp rd acc s = .ok (acc', exp, s')) :
    ∃ e, s = expText e ++ s' ∧ acc.addExp rd e = .ok (acc', exp) := by
  cases s with
  | nil => cases h; exact ⟨none, rfl, rfl⟩
  | cons c s =>
    by_cases hc : c = 101 ∨ c = 69
    · have hsign : ∃ sign, (sign = [] ∨ sign = [43] ∨ sign = [45]) ∧
          s = sign ++ (parseExpSign s).2 := by
        cases s with
        | nil => exact ⟨[], .inl rfl, rfl⟩
        | cons d s =>
          rw [parseExpSign]
          split_ifs with h43 h45
          · exact ⟨[43], by simp, by rw [h43]; rfl⟩
          · exact ⟨[45], by simp, by rw [h45]; rfl⟩
          · exact ⟨[], by simp, rfl⟩
      obtain ⟨sign, hsign, hs⟩ := hsign
      cases hrest : (parseExpSign s).2 with
      | nil =>
        rw [parseExp, if_pos hc, ← Prod.mk.eta (p := parseExpSign s), hrest] at h
        cases h
      | cons d t =>
        by_cases hd : isDigit d = true
        · -- the exponent is as long as its run of digits
          let e : Exponent :=
            { mark := c, sign := sign, lead := d, tail := t.takeWhile isDigit, mark_eq := hc,
              sign_eq := hsign, isDigit_lead := hd,
              isDigit_tail := fun x hx => List.mem_takeWhile_imp hx }
          have htext : c :: s = expText (some e) ++ t.dropWhile isDigit := by
            rw [expText, Exponent.text, List.cons_append, List.append_assoc, List.cons_append,
              List.takeWhile_append_dropWhile, ← hrest, ← hs]
          rw [htext, parseExp_text rd acc (some e) (by simp)
            fun _ => stops_dropWhile isDigit t] at h
          obtain ⟨r, hr, h⟩ := map_eq_ok.mp h
          cases h
          exact ⟨some e, htext, hr⟩
        · rw [parseExp, if_pos hc, ← Prod.mk.eta (p := parseExpSign s), hrest] at h
          simp only [if_neg hd] at h
          cases h
    · rw [parseExp, if_neg hc] at h
      cases h
      exact ⟨none, rfl, rfl⟩

/-! ## `ParseNumber` -/

theorem parseInt_text (rd : DoubleReader) (n : Number) {rest : Bytes}
    (hrest : n.lead = 48 ∨ Stops isDigit rest) :
    parseInt rd n.minus (n.lead :: n.tail ++ rest) = .ok (n.intPart rd, rest) := by
  have hdigit := n.isDigit_lead
  rw [isDigit, Bool.and_eq_true, decide_eq_true_eq, decide_eq_true_eq] at hdigit
  rw [List.cons_append, parseInt]
  by_cases h48 : n.lead = 48
  · rw [if_pos h48, Number.intPart, n.tail_eq_nil h48, h48]
    rfl
  · have hlead : 49 ≤ n.lead ∧ n.lead ≤ 57 := by
      refine ⟨?_, hdigit.2⟩
      rw [UInt8.le_iff_toNat_le] at *
      have : n.lead.toNat ≠ 48 := fun h => h48 (UInt8.toNat_inj.mp h)
      simp at *
      omega
    rw [if_neg h48, if_pos hlead,
      intLoops_run rd n.minus rfl n.isDigit_tail (hrest.resolve_left h48)]
    rfl

/-- What is taken as the integer part is one. -/
theorem parseInt_eq_ok {rd : DoubleReader} {minus : Bool} {acc : Accumulator} {s s' : Bytes}
    (h : parseInt rd minus s = .ok (acc, s')) :
    ∃ n : Number, n.minus = minus ∧ n.frac = none ∧ n.exp = none ∧
      s = n.lead :: n.tail ++ s' ∧ acc = n.intPart rd := by
  cases s with
  | nil => cases h
  | cons c s =>
    by_cases h48 : c = 48
    · let n : Number :=
        { minus := minus, lead := 48, tail := [], frac := none, exp := none,
          isDigit_lead := by decide, isDigit_tail := by simp, tail_eq_nil := fun _ => rfl,
          isDigit_frac := by simp }
      rw [parseInt, if_pos h48] at h
      cases h
      exact ⟨n, rfl, rfl, rfl, by rw [h48]; rfl, rfl⟩
    · by_cases hlead : 49 ≤ c ∧ c ≤ 57
      · -- the integer part is as long as its run of digits
        let n : Number :=
          { minus := minus, lead := c, tail := s.takeWhile isDigit, frac := none, exp := none,
            isDigit_lead := by
              rw [isDigit, Bool.and_eq_true, decide_eq_true_eq, decide_eq_true_eq]
              exact ⟨UInt8.le_trans (show (48 : UInt8) ≤ 49 by decide) hlead.1, hlead.2⟩
            isDigit_tail := fun x hx => List.mem_takeWhile_imp hx
            tail_eq_nil := fun h => absurd h h48
            isDigit_frac := by simp }
        have htext : c :: s = n.lead :: n.tail ++ s.dropWhile isDigit := by
          rw [List.cons_append, List.takeWhile_append_dropWhile]
        have htaken := parseInt_text rd n (.inr (stops_dropWhile isDigit s))
        rw [← htext, h] at htaken
        cases htaken
        exact ⟨n, rfl, rfl, rfl, htext, rfl⟩
      · rw [parseInt, if_neg h48, if_neg hlead] at h
        cases h

theorem parseFrac_text (rd : DoubleReader) (acc : Accumulator) (frac : Option Bytes) {rest : Bytes}
    (hdigits : ∀ ds ∈ frac, ds ≠ [] ∧ ∀ c ∈ ds, isDigit c = true)
    (hdot : frac = none → rest.head? ≠ some 46) (hrest : frac ≠ none → Stops isDigit rest) :
    parseFrac rd acc (fracText frac ++ rest) = .ok (acc.addFrac rd frac, rest) := by
  cases frac with
  | none =>
    cases rest with
    | nil => rfl
    | cons c rest =>
      have hc : c ≠ 46 := fun h => hdot rfl (by rw [h]; rfl)
      rw [fracText, List.nil_append, parseFrac, if_neg hc]
      rfl
  | some ds =>
    obtain ⟨hne, hds⟩ := hdigits ds rfl
    obtain ⟨d, ds', rfl⟩ := List.exists_cons_of_ne_nil hne
    have hd : isDigit (peek (d :: ds' ++ rest)) = true := hds d (by simp)
    rw [fracText, List.cons_append, parseFrac, if_pos rfl, if_pos hd,
      fracLoops_run rd acc hds (hrest (by simp))]
    rfl

/-- What is taken as the fraction is one. -/
theorem parseFrac_eq_ok {rd : DoubleReader} {acc acc' : Accumulator} {s s' : Bytes}
    (h : parseFrac rd acc s = .ok (acc', s')) :
    ∃ frac : Option Bytes, (∀ ds ∈ frac, ds ≠ [] ∧ ∀ c ∈ ds, isDigit c = true) ∧
      s = fracText frac ++ s' ∧ acc' = acc.addFrac rd frac := by
  cases s with
  | nil => cases h; exact ⟨none, by simp, rfl, rfl⟩
  | cons c s =>
    by_cases hc : c = 46
    · by_cases hd : isDigit (peek s) = true
      · have hds : ∀ ds ∈ some (s.takeWhile isDigit), ds ≠ [] ∧ ∀ c ∈ ds, isDigit c = true := by
          rintro ds ⟨⟩
          refine ⟨?_, fun x hx => List.mem_takeWhile_imp hx⟩
          cases s with
          | nil => exact absurd hd (by decide)
          | cons d s =>
            have hd : isDigit d = true := hd
            rw [List.takeWhile_cons, if_pos hd]
            exact List.cons_ne_nil _ _
        have htext : c :: s = fracText (some (s.takeWhile isDigit)) ++ s.dropWhile isDigit := by
          rw [fracText, List.cons_append, List.takeWhile_append_dropWhile, hc]
        have htaken := parseFrac_text rd acc _ hds (by simp) fun _ => stops_dropWhile isDigit s
        rw [← htext, h] at htaken
        cases htaken
        exact ⟨_, hds, htext, rfl⟩
      · rw [parseFrac, if_pos hc, if_neg hd] at h
        cases h
    · rw [parseFrac, if_neg hc] at h
      cases h
      exact ⟨none, by simp, rfl, rfl⟩

theorem parseMinus_text (n : Number) (s : Bytes) :
    parseMinus ((if n.minus then [45] else []) ++ n.lead :: s) = (n.minus, n.lead :: s) := by
  have hlead : n.lead ≠ 45 := by
    intro h
    have := n.isDigit_lead
    rw [h] at this
    exact absurd this (by decide)
  cases n.minus with
  | true => rfl
  | false =>
    show parseMinus (n.lead :: s) = _
    rw [parseMinus, if_neg hlead]

theorem parseMinus_eq (s : Bytes) :
    s = (if (parseMinus s).1 then [45] else []) ++ (parseMinus s).2 := by
  cases s with
  | nil => rfl
  | cons c s =>
    by_cases h : c = 45
    · rw [show parseMinus (c :: s) = (true, s) from if_pos h, h]
      rfl
    · rw [show parseMinus (c :: s) = (false, c :: s) from if_neg h]
      rfl

/-- A character that may go on a number. -/
def isNumberChar (c : UInt8) : Bool := isDigit c || c = 46 || isExpMark c

theorem not_isNumberChar {c : UInt8} (h : isNumberChar c = false) :
    isDigit c = false ∧ c ≠ 46 ∧ isExpMark c = false := by
  simpa [isNumberChar, and_assoc] using h

theorem stops_expText {p : UInt8 → Bool} (hp : p 101 = false ∧ p 69 = false) (e : Option Exponent)
    {rest : Bytes} (hrest : Stops p rest) : Stops p (expText e ++ rest) := by
  cases e with
  | none => exact hrest
  | some e =>
    apply stops_cons.mpr
    rcases e.mark_eq with h | h <;> rw [h]
    · exact hp.1
    · exact hp.2

/-- On the text of a number `ParseNumber` returns its value. -/
theorem parseNumber_text (rd : DoubleReader) (n : Number) {rest : Bytes}
    (hrest : Stops isNumberChar rest) :
    parseNumber rd (n.text ++ rest) = (n.value rd).map fun v => (v, rest) := by
  have hdigit : Stops isDigit rest := hrest.mono fun c hc => (not_isNumberChar hc).1
  have hmark : Stops isExpMark rest := hrest.mono fun c hc => (not_isNumberChar hc).2.2
  have hexp : Stops isDigit (expText n.exp ++ rest) := stops_expText (by decide) n.exp hdigit
  have hfrac : Stops isDigit (fracText n.frac ++ (expText n.exp ++ rest)) := by
    cases n.frac with
    | none => exact hexp
    | some ds => exact stops_cons.mpr (by decide)
  have hdot : n.frac = none → (expText n.exp ++ rest).head? ≠ some 46 := by
    intro _ h
    have hstop : Stops (fun c => decide (c = 46)) (expText n.exp ++ rest) :=
      stops_expText (by decide) n.exp
        (hrest.mono fun c hc => by simpa using (not_isNumberChar hc).2.1)
    exact absurd (hstop 46 (by rw [h]; rfl)) (by decide)
  rw [Number.text, List.append_assoc, List.append_assoc, List.append_assoc, List.cons_append,
    parseNumber, parseMinus_text]
  dsimp only
  rw [← List.cons_append, parseInt_text rd n (.inr hfrac), ok_bind]
  dsimp only
  rw [parseFrac_text rd _ n.frac n.isDigit_frac hdot fun _ => hexp, ok_bind]
  dsimp only
  rw [parseExp_text rd _ n.exp (fun _ => hmark) fun _ => hdigit, Number.value]
  cases ((n.intPart rd).addFrac rd n.frac).addExp rd n.exp with
  | error e => rfl
  | ok r =>
    show (finishNumber rd n.minus r.1 r.2 >>= fun v => .ok (v, rest)) =
      (finishNumber rd n.minus r.1 r.2).map fun v => (v, rest)
    cases finishNumber rd n.minus r.1 r.2 <;> rfl

/-- What `ParseNumber` takes is the text of a number, and it returns its value. -/
theorem exists_number {rd : DoubleReader} {s s' : Bytes} {v : Json}
    (h : parseNumber rd s = .ok (v, s')) :
    ∃ n : Number, s = n.text ++ s' ∧ n.value rd = .ok v := by
  rw [parseNumber] at h
  obtain ⟨⟨acc, s1⟩, hint, h⟩ := bind_eq_ok.mp h
  obtain ⟨⟨acc2, s2⟩, hfrac, h⟩ := bind_eq_ok.mp h
  obtain ⟨⟨acc3, exp, s3⟩, hexp, h⟩ := bind_eq_ok.mp h
  obtain ⟨w, hfinish, h⟩ := bind_eq_ok.mp h
  cases h
  obtain ⟨n, hminus, -, -, hs, rfl⟩ := parseInt_eq_ok hint
  obtain ⟨frac, hds, rfl, rfl⟩ := parseFrac_eq_ok hfrac
  obtain ⟨e, rfl, hadd⟩ := parseExp_eq_ok hexp
  refine ⟨{ n with frac := frac, exp := e, isDigit_frac := hds }, ?_, ?_⟩
  · rw [Number.text, hminus, List.append_assoc, List.append_assoc, List.append_assoc, ← hs]
    exact parseMinus_eq s
  · show ((n.intPart rd).addFrac rd frac).addExp rd e >>= _ = _
    rw [hadd, ok_bind]
    show finishNumber rd n.minus acc3 exp = _
    rw [hminus, hfinish]

/-! ## Integers of 64 bits -/

/-- A digit after a decimal number. -/
def appendDigit (n : ℕ) (c : UInt8) : ℕ := n * 10 + digit c

theorem le_foldl_appendDigit (n : ℕ) (ds : Bytes) : n ≤ ds.foldl appendDigit n := by
  induction ds generalizing n with
  | nil => exact le_rfl
  | cons c ds ih =>
    have := ih (appendDigit n c)
    rw [List.foldl_cons]
    unfold appendDigit at *
    omega

/-- The absolute value of the integers that are read exactly. -/
def maxAbs (minus : Bool) : ℕ := if minus then 2 ^ 63 else 2 ^ 64 - 1

/-- The integer part is exact as long as it is of 64 bits, and a double from there on. -/
theorem foldl_pushInt (rd : DoubleReader) (minus : Bool) {acc : Accumulator} (hd : acc.d = none)
    {ds : Bytes} (hds : ∀ c ∈ ds, isDigit c = true) :
    if ds.foldl appendDigit acc.i64 ≤ maxAbs minus ∨ ds = [] then
      (ds.foldl (Accumulator.pushInt rd minus) acc).d = none ∧
        (ds.foldl (Accumulator.pushInt rd minus) acc).i64 = ds.foldl appendDigit acc.i64
    else (ds.foldl (Accumulator.pushInt rd minus) acc).d.isSome = true := by
  induction ds generalizing acc with
  | nil => simp [hd]
  | cons c ds ih =>
    have hc := hds c (by simp)
    have hds' : ∀ c ∈ ds, isDigit c = true := fun d hd => hds d (by simp [hd])
    rw [List.foldl_cons, List.foldl_cons]
    cases hbody : acc.intBody (limit64 minus) (lastDigit minus) c with
    | none =>
      have hlt := (intBody_eq_none hc).mp hbody
      have hle := le_foldl_appendDigit (appendDigit acc.i64 c) ds
      have hsome : (acc.pushInt rd minus c).d.isSome = true := by
        rw [Accumulator.pushInt, hd, if_neg (by simp), hbody, isSome_bigBody, isSome_toDouble]
      have hall : ∀ (es : Bytes) (acc : Accumulator), acc.d.isSome = true →
          (es.foldl (Accumulator.bigBody rd) acc).d.isSome = true := by
        intro es
        induction es with
        | nil => exact fun _ h => h
        | cons e es ih => exact fun acc h => ih _ (by rw [isSome_bigBody, h])
      have hmax : ¬(ds.foldl appendDigit (appendDigit acc.i64 c) ≤ maxAbs minus ∨
          c :: ds = []) := by
        unfold maxAbs
        unfold appendDigit at hle ⊢
        simp only [reduceCtorEq, or_false]
        omega
      rw [if_neg hmax, foldl_pushInt_of_isSome rd minus hsome]
      exact hall ds _ hsome
    | some acc' =>
      obtain ⟨hpush, hd'⟩ := pushInt_of_intBody rd minus (.inr rfl) acc c acc' hd hbody
      have hi : acc'.i64 = appendDigit acc.i64 c := by rw [(intBody_eq_some hbody).1]; rfl
      have hfits : appendDigit acc.i64 c ≤ maxAbs minus := by
        by_contra hgt
        have hnone : acc.intBody (limit64 minus) (lastDigit minus) c = none :=
          (intBody_eq_none hc).mpr (not_le.mp hgt)
        rw [hbody] at hnone
        cases hnone
      have := ih hd' hds'
      rw [hi] at this
      rw [hpush]
      cases ds with
      | nil => simpa [hfits] using ⟨hd', hi⟩
      | cons e es => simpa using this

/-- The absolute value of the integer part. -/
def Number.abs (n : Number) : ℕ := (n.lead :: n.tail).foldl appendDigit 0

theorem finishNumber_eq_int {rd : DoubleReader} {minus : Bool} {acc : Accumulator} {exp z : ℤ} :
    finishNumber rd minus acc exp = .ok (.int z) ↔
      acc.d = none ∧ z = if minus then -(acc.i64 : ℤ) else acc.i64 := by
  unfold finishNumber
  cases acc.d with
  | none => simp [eq_comm]
  | some d =>
    dsimp only
    simp only [reduceCtorEq, false_and, iff_false]
    intro h
    obtain ⟨d', -, h⟩ := bind_eq_ok.mp h
    split_ifs at h <;> cases h

/-- A number is read as an integer if it is one of 64 bits. -/
theorem Number.value_int (rd : DoubleReader) (n : Number) (z : ℤ) :
    n.value rd = .ok (.int z) ↔
      n.frac = none ∧ n.exp = none ∧ n.abs ≤ maxAbs n.minus ∧
        z = if n.minus then -(n.abs : ℤ) else n.abs := by
  have hlead : digit n.lead ≤ maxAbs n.minus := by
    have : n.lead.toNat < 256 := UInt8.toNat_lt _
    unfold digit maxAbs
    split_ifs <;> omega
  have habs : n.tail.foldl appendDigit (digit n.lead) = n.abs := by
    rw [Number.abs, List.foldl_cons]
    congr 1
    unfold appendDigit
    omega
  have hint := @foldl_pushInt rd n.minus ⟨digit n.lead, none, 0, 0⟩ rfl _ n.isDigit_tail
  have hor : n.abs ≤ maxAbs n.minus ∨ n.tail = [] ↔ n.abs ≤ maxAbs n.minus := by
    constructor
    · rintro (h | h)
      · exact h
      · rw [← habs, h]
        exact hlead
    · exact .inl
  simp only [habs, hor] at hint
  change if n.abs ≤ maxAbs n.minus then (n.intPart rd).d = none ∧ (n.intPart rd).i64 = n.abs
    else (n.intPart rd).d.isSome = true at hint
  unfold Number.value
  cases hexp : n.exp with
  | some e =>
    simp only [reduceCtorEq, false_and, and_false, iff_false]
    intro h
    obtain ⟨⟨acc, exp⟩, hadd, h⟩ := bind_eq_ok.mp h
    obtain ⟨⟨x, y⟩, hx, hadd⟩ := bind_eq_ok.mp hadd
    cases hadd
    have := (finishNumber_eq_int.mp h).1
    cases this
  | none =>
    rw [Accumulator.addExp, ok_bind]
    dsimp only
    rw [finishNumber_eq_int]
    cases hfrac : n.frac with
    | some ds => simp [Accumulator.addFrac, Accumulator.toDouble]
    | none =>
      rw [Accumulator.addFrac]
      split_ifs at hint with hle
      · simp [hint, hle]
      · simp [Option.ne_none_iff_isSome.mpr hint, hle]

/-! ## Assertions

The digits of a fraction lower `expFrac` and the exponent is bounded by what that leaves,
so that the power of ten is in the table. -/

theorem expFrac_pushInt (rd : DoubleReader) (minus : Bool) (acc : Accumulator) (c : UInt8) :
    (acc.pushInt rd minus c).expFrac = acc.expFrac := by
  unfold Accumulator.pushInt
  split_ifs with hd
  · rfl
  · cases hbody : acc.intBody (limit64 minus) (lastDigit minus) c with
    | none => rfl
    | some acc' =>
      unfold Accumulator.intBody at hbody
      split_ifs at hbody
      cases hbody
      rfl

theorem expFrac_intPart (rd : DoubleReader) (n : Number) : (n.intPart rd).expFrac = 0 := by
  have run (ds : Bytes) (acc : Accumulator) :
      (ds.foldl (Accumulator.pushInt rd n.minus) acc).expFrac = acc.expFrac := by
    induction ds generalizing acc with
    | nil => rfl
    | cons c ds ih => rw [List.foldl_cons, ih, expFrac_pushInt]
  exact run n.tail _

theorem expFrac_fracBody (rd : DoubleReader) (acc : Accumulator) (c : UInt8) :
    (acc.fracBody rd c).expFrac ≤ acc.expFrac := by
  unfold Accumulator.fracBody
  cases acc.d with
  | none => exact le_rfl
  | some d =>
    dsimp only
    by_cases h : acc.significandDigit < 17
    · rw [if_pos h]
      show acc.expFrac - 1 ≤ acc.expFrac
      omega
    · rw [if_neg h]

theorem expFrac_pushFrac (rd : DoubleReader) (acc : Accumulator) (c : UInt8) :
    (acc.pushFrac rd c).expFrac ≤ acc.expFrac := by
  unfold Accumulator.pushFrac
  split_ifs with hd
  · exact expFrac_fracBody rd acc c
  · cases hbody : acc.fastBody c with
    | none => exact expFrac_fracBody rd (acc.toDouble rd) c
    | some acc' =>
      unfold Accumulator.fastBody at hbody
      split_ifs at hbody
      cases hbody
      simp only
      omega

theorem expFrac_addFrac (rd : DoubleReader) (acc : Accumulator) (frac : Option Bytes) :
    (acc.addFrac rd frac).expFrac ≤ acc.expFrac := by
  have run (ds : Bytes) (acc : Accumulator) :
      (ds.foldl (Accumulator.pushFrac rd) acc).expFrac ≤ acc.expFrac := by
    induction ds generalizing acc with
    | nil => exact le_rfl
    | cons c ds ih => exact (ih _).trans (expFrac_pushFrac rd acc c)
  cases frac with
  | none => exact le_rfl
  | some ds => exact run ds acc

theorem expMinusLoop_nonneg {maxExp exp : ℤ} (hexp : 0 ≤ exp) (s : Bytes) :
    0 ≤ (expMinusLoop maxExp exp s).1 := by
  induction s generalizing exp with
  | nil => exact hexp
  | cons c s ih =>
    have hnext : 0 ≤ exp * 10 + digit c := by omega
    rw [expMinusLoop]
    split_ifs
    · exact hnext
    · exact ih hnext
    · exact hexp

theorem expPlusLoop_le {maxExp exp r : ℤ} {s s' : Bytes} (hexp : exp ≤ maxExp)
    (h : expPlusLoop maxExp exp s = .ok (r, s')) : r ≤ maxExp := by
  induction s generalizing exp with
  | nil => cases h; exact hexp
  | cons c s ih =>
    rw [expPlusLoop] at h
    split_ifs at h with hdigit hmax
    · exact ih (not_lt.mp hmax) h
    · cases h
      exact hexp

theorem expPlusLoop_avoids (maxExp exp : ℤ) (s : Bytes) :
    Avoids .assertion (expPlusLoop maxExp exp s) := by
  induction s generalizing exp with
  | nil => exact Avoids.pure _
  | cons c s ih =>
    rw [expPlusLoop]
    split_ifs
    · exact Avoids.throw (by decide)
    · exact ih _
    · exact Avoids.pure _

theorem parseExpDigits_avoids {minus : Bool} {expFrac : ℤ} (hfrac : expFrac ≤ 0)
    (c : UInt8) (s : Bytes) : Avoids .assertion (parseExpDigits minus expFrac c s) := by
  unfold parseExpDigits
  rw [if_pos hfrac]
  split_ifs
  · exact Avoids.pure _
  · exact expPlusLoop_avoids _ _ _

/-- The power of ten of a number is at most that of the greatest double. -/
theorem parseExpDigits_le {minus : Bool} {expFrac exp : ℤ} (hfrac : expFrac ≤ 0) {c : UInt8}
    (hc : isDigit c = true) {s s' : Bytes}
    (h : parseExpDigits minus expFrac c s = .ok (exp, s')) : exp + expFrac ≤ 308 := by
  unfold parseExpDigits at h
  rw [if_pos hfrac] at h
  split_ifs at h
  · cases h
    have := @expMinusLoop_nonneg ((expFrac + 2147483639).tdiv 10) _
      (Int.natCast_nonneg (digit c)) s
    omega
  · have hdigit : (digit c : ℤ) ≤ 308 - expFrac := by
      rw [isDigit, Bool.and_eq_true, decide_eq_true_eq, decide_eq_true_eq] at hc
      have := UInt8.le_iff_toNat_le.mp hc.2
      unfold digit
      simp only [UInt8.reduceToNat] at this
      omega
    have := expPlusLoop_le hdigit h
    omega

theorem fastPath_isOk (rd : DoubleReader) (d : UInt64) {exp : ℤ} (h : exp ≤ 308) :
    ∃ d', fastPath rd d exp = .ok d' := by
  unfold fastPath
  split_ifs with hlow hnonneg hneg
  · exact ⟨_, rfl⟩
  · exact ⟨_, rfl⟩
  · exact ⟨_, rfl⟩
  · omega

theorem strtodNormalPrecision_isOk (rd : DoubleReader) (d : UInt64) {p : ℤ} (h : p ≤ 308) :
    ∃ d', strtodNormalPrecision rd d p = .ok d' := by
  unfold strtodNormalPrecision
  split_ifs
  · obtain ⟨d', hd'⟩ := fastPath_isOk rd d (show (-308 : ℤ) ≤ 308 by omega)
    rw [hd', ok_bind]
    exact fastPath_isOk rd d' (by omega)
  · exact fastPath_isOk rd d h

theorem finishNumber_avoids (rd : DoubleReader) (minus : Bool) {acc : Accumulator} {exp : ℤ}
    (h : exp + acc.expFrac ≤ 308) : Avoids .assertion (finishNumber rd minus acc exp) := by
  unfold finishNumber
  cases acc.d with
  | none => exact Avoids.pure _
  | some d =>
    obtain ⟨d', hd'⟩ := strtodNormalPrecision_isOk rd d h
    dsimp only
    rw [hd', ok_bind]
    by_cases hmax : aboveMax d' = true
    · rw [if_pos hmax]
      exact Avoids.throw (by decide)
    · rw [if_neg hmax]
      exact Avoids.pure _

/-- An exponent that is taken fits what the fraction leaves. -/
theorem parseExp_assertions (rd : DoubleReader) {acc : Accumulator} (hfrac : acc.expFrac ≤ 0)
    (s : Bytes) : Avoids .assertion (parseExp rd acc s) ∧
      ∀ acc' exp s', parseExp rd acc s = .ok (acc', exp, s') → exp + acc'.expFrac ≤ 308 := by
  constructor
  · cases s with
    | nil => exact Avoids.pure _
    | cons c s =>
      rw [parseExp]
      split_ifs
      · rcases parseExpSign s with ⟨minus, _ | ⟨d, t⟩⟩
        · exact Avoids.throw (by decide)
        · dsimp only
          split_ifs
          · exact (parseExpDigits_avoids hfrac d t).bind fun r _ => Avoids.pure _
          · exact Avoids.throw (by decide)
      · exact Avoids.pure _
  · intro acc' exp s' h
    obtain ⟨e, -, hadd⟩ := parseExp_eq_ok h
    cases e with
    | none =>
      cases hadd
      omega
    | some e =>
      obtain ⟨⟨exp, t⟩, hdigits, hadd⟩ := bind_eq_ok.mp hadd
      cases hadd
      exact parseExpDigits_le hfrac e.isDigit_lead hdigits

theorem parseInt_avoids (rd : DoubleReader) (minus : Bool) (s : Bytes) :
    Avoids .assertion (parseInt rd minus s) := by
  intro h
  cases s with
  | nil => cases h
  | cons c s =>
    rw [parseInt] at h
    split_ifs at h
    cases h

theorem parseFrac_avoids (rd : DoubleReader) (acc : Accumulator) (s : Bytes) :
    Avoids .assertion (parseFrac rd acc s) := by
  intro h
  cases s with
  | nil => cases h
  | cons c s =>
    rw [parseFrac] at h
    split_ifs at h
    cases h

/-- No assertion fails on what might be a number. -/
theorem parseNumber_avoids (rd : DoubleReader) (s : Bytes) :
    Avoids .assertion (parseNumber rd s) := by
  rw [parseNumber]
  apply (parseInt_avoids rd _ _).bind
  rintro ⟨acc, s1⟩ hint
  obtain ⟨n, -, -, -, -, rfl⟩ := parseInt_eq_ok hint
  apply (parseFrac_avoids rd _ _).bind
  rintro ⟨acc, s2⟩ hfrac
  obtain ⟨frac, -, -, rfl⟩ := parseFrac_eq_ok hfrac
  have hle : ((n.intPart rd).addFrac rd frac).expFrac ≤ 0 :=
    (expFrac_addFrac rd _ frac).trans (expFrac_intPart rd n).le
  obtain ⟨hexp, hmax⟩ := parseExp_assertions rd hle s2
  apply Avoids.bind hexp
  rintro ⟨acc, exp, s3⟩ hread
  exact (finishNumber_avoids rd _ (hmax _ _ _ hread)).bind fun v _ => Avoids.pure _

end DcapQvl.Rapidjson
