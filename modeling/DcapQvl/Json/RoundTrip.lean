import DcapQvl.Json.Parse
import DcapQvl.Json.Writer

/-!
# What is written is read

The text of a value in the grammar of the reader. A double is written with at most 17
digits and read with normal precision, so it may come back as another one; the other
scalars come back as they were.

Results:
* `chars_writeString`: a string is written as a text of itself, whatever its bytes.
* `integer_text`: an integer of 64 bits is written as a text of itself.
* `written_mem_texts`: a value is written as a text of the value that its scalars make.
* `written_injective`: two values of the same text are the same up to their doubles.
-/

namespace DcapQvl.Rapidjson

open Lib Writer

/-! ## Strings -/

/-- How a character is written: as itself, with an escape of its own or with its number. -/
theorem escape_cases : ∀ n < 256,
    escape (UInt8.ofNat n) = 0 ∧ UInt8.ofNat n ≠ 34 ∧ UInt8.ofNat n ≠ 92 ∧ 0x20 ≤ UInt8.ofNat n ∨
    escape (UInt8.ofNat n) ≠ 0 ∧ escape (UInt8.ofNat n) ≠ 117 ∧
      unescape (escape (UInt8.ofNat n)) = UInt8.ofNat n ∧ UInt8.ofNat n ≠ 0 ∨
    escape (UInt8.ofNat n) = 117 ∧ n < 0x20 := by
  decide +kernel

/-- The four digits of a control character are its number, and it is one byte of UTF-8. -/
theorem control_digits : ∀ n < 0x20,
    hexNumber 0 [48, 48, Writer.hexDigit (UInt8.ofNat n >>> 4).toNat,
      Writer.hexDigit (UInt8.ofNat n &&& 0xF).toNat] = some n ∧ (Char.ofNat n).toNat = n ∧
    String.utf8EncodeChar (Char.ofNat n) = [UInt8.ofNat n] := by
  decide +kernel

/-- The text between the quotation marks is one of the string. -/
theorem chars_writeString (s : Bytes) : Chars s (s.flatMap writeChar) := by
  induction s with
  | nil => exact .nil
  | cons c s ih =>
    rw [List.flatMap_cons]
    have hc := escape_cases c.toNat c.toNat_lt
    rw [UInt8.ofNat_toNat] at hc
    unfold writeChar
    rcases hc with ⟨hc, hquote, hescape, hcontrol⟩ | ⟨hc, hu, hback, hne⟩ | ⟨hc, hlt⟩
    · rw [if_neg (not_not.mpr hc)]
      exact .plain hquote hescape hcontrol ih
    · rw [if_pos hc, if_neg hu]
      have := Chars.escape (e := escape c) (by rw [hback]; exact hne) ih
      rw [hback] at this
      exact this
    · obtain ⟨hdigits, hchar, hbyte⟩ := control_digits c.toNat hlt
      rw [UInt8.ofNat_toNat] at hdigits hbyte
      rw [hc, if_pos (by decide), if_pos rfl]
      have hescape : UnicodeEscape (Char.ofNat c.toNat)
          [48, 48, Writer.hexDigit (c >>> 4).toNat, Writer.hexDigit (c &&& 0xF).toNat] :=
        .single ⟨rfl, by rw [hchar]; exact hdigits⟩
      have := Chars.unicode hescape ih
      rw [hbyte] at this
      exact this

theorem string_text (s : Bytes) : writeString s ∈ stringTexts s :=
  ⟨_, chars_writeString s, rfl⟩

/-! ## Integers -/

theorem writeInteger_eq {n : ℤ} (hlow : -2 ^ 63 ≤ n) (hhigh : n < 2 ^ 64) :
    writeInteger n = signed n := by
  unfold writeInteger
  split_ifs with h32 hu32 h64
  · exact i32toa_eq h32.1 h32.2
  · rw [u32toa_eq (by omega), signed, if_neg (by omega)]
    congr 1
    omega
  · exact i64toa_eq h64.1 h64.2
  · rw [u64toa_eq (by omega), signed, if_neg (by omega)]
    congr 1
    omega

/-- An integer of 64 bits is written as a text of itself. -/
theorem integer_text (rd : DoubleReader) {n : ℤ} (hlow : -2 ^ 63 ≤ n) (hhigh : n < 2 ^ 64) :
    writeInteger n ∈ numberTexts rd (.int n) := by
  obtain ⟨lead, tail, hdecimal⟩ := List.exists_cons_of_ne_nil (decimal_ne_nil n.natAbs)
  have hdigits : ∀ b ∈ lead :: tail, isDigit b = true := by
    intro b hb
    rw [← hdecimal] at hb
    obtain ⟨d, hd, rfl⟩ := mem_decimal hb
    exact isDigit_digitByte hd
  have hzero : lead = 48 → tail = [] := by
    intro h48
    by_cases hn : n.natAbs = 0
    · rw [hn, decimal_of_lt (by omega)] at hdecimal
      cases hdecimal
      rfl
    · exact absurd h48 (head_decimal hdecimal (Nat.pos_of_ne_zero hn))
  let number : Number :=
    { minus := decide (n < 0), lead := lead, tail := tail, frac := none, exp := none,
      isDigit_lead := hdigits lead List.mem_cons_self,
      isDigit_tail := fun b hb => hdigits b (List.mem_cons_of_mem _ hb),
      tail_eq_nil := hzero, isDigit_frac := by simp }
  have habs : number.abs = n.natAbs := by
    show (lead :: tail).foldl appendDigit 0 = _
    rw [← decimalValue_decimal n.natAbs, hdecimal]
    rfl
  refine ⟨number, (number.value_int rd n).mpr ⟨rfl, rfl, ?_, ?_⟩, ?_⟩
  · rw [habs]
    show _ ≤ maxAbs (decide (n < 0))
    by_cases hn : n < 0
    · rw [decide_eq_true hn, maxAbs, if_pos rfl]
      omega
    · rw [decide_eq_false hn, maxAbs, if_neg Bool.false_ne_true]
      omega
  · rw [habs]
    show n = if decide (n < 0) = true then _ else _
    by_cases hn : n < 0
    · rw [decide_eq_true hn, if_pos rfl]
      omega
    · rw [decide_eq_false hn, if_neg Bool.false_ne_true]
      omega
  · rw [writeInteger_eq hlow hhigh, signed, hdecimal]
    simp only [Number.text, number, fracText, expText, List.append_nil, decide_eq_true_eq]
    split_ifs <;> rfl

/-! ## Doubles -/

/-- A reader that takes the digits of a double for zeros. It shows what a text is a text
    of, apart from the value of its doubles. -/
def zeroReader : DoubleReader where
  ofUint64 _ := 0
  mulTenAdd _ _ := 0
  mulPow10 _ _ := 0
  divPow10 _ _ := 0
  ofUint64_le _ := by decide
  mulTenAdd_le _ _ _ := by decide
  mulPow10_le _ _ _ := by decide
  divPow10_le _ _ _ := by decide

/-- The zero with a sign. -/
def signedZero (minus : Bool) : UInt64 := if minus then negate 0 else 0

theorem fastPath_zero (d : UInt64) {exp : ℤ} (h : exp ≤ 308) :
    fastPath zeroReader d exp = .ok 0 := by
  unfold fastPath
  split_ifs
  · rfl
  · rfl
  · rfl
  · omega

theorem strtodNormalPrecision_zero (d : UInt64) {p : ℤ} (h : p ≤ 308) :
    strtodNormalPrecision zeroReader d p = .ok 0 := by
  unfold strtodNormalPrecision
  split_ifs
  · rw [fastPath_zero d (by omega), ok_bind]
    exact fastPath_zero 0 (by omega)
  · exact fastPath_zero d h

theorem expPlusLoop_isOk {maxExp : ℤ} {ds : Bytes} (hds : ∀ c ∈ ds, isDigit c = true) {exp : ℕ}
    (h : ((ds.foldl appendDigit exp : ℕ) : ℤ) ≤ maxExp) : ∃ r, expPlusLoop maxExp exp ds = .ok r := by
  induction ds generalizing exp with
  | nil => exact ⟨_, rfl⟩
  | cons c ds ih =>
    have hle := le_foldl_appendDigit (appendDigit exp c) ds
    rw [List.foldl_cons] at h
    have hnext : ((exp : ℤ) * 10 + digit c) = (appendDigit exp c : ℕ) := by
      unfold appendDigit
      push_cast
      rfl
    rw [expPlusLoop, if_pos (hds c List.mem_cons_self), hnext, if_neg (by omega)]
    exact ih (fun b hb => hds b (List.mem_cons_of_mem _ hb)) h

/-- The exponent of a written double is read. -/
theorem addExp_isOk {rd : DoubleReader} {minus : Bool} {n : Number} (h : IsFloat minus n)
    {acc : Accumulator} (hfrac : acc.expFrac ≤ 0) :
    ∃ acc' exp, acc.addExp rd n.exp = .ok (acc', exp) ∧ exp + acc'.expFrac ≤ 308 ∧
      (n.exp ≠ none ∨ acc.d.isSome = true → acc'.d.isSome = true) := by
  cases hexp : n.exp with
  | none => exact ⟨acc, 0, rfl, by omega, by simp⟩
  | some e =>
    have hok : ∃ r, parseExpDigits (e.sign = [45]) acc.expFrac e.lead e.tail = .ok r := by
      unfold parseExpDigits
      rcases h.exp_le e hexp with hsign | ⟨hsign, hvalue⟩
      · rw [decide_eq_true hsign, if_pos rfl, if_pos hfrac]
        exact ⟨_, rfl⟩
      · rw [hsign, if_neg (by decide)]
        apply expPlusLoop_isOk e.isDigit_tail
        have : decimalValue (e.lead :: e.tail) = e.tail.foldl appendDigit (digit e.lead) := by
          unfold decimalValue
          rw [List.foldl_cons, Nat.zero_mul, Nat.zero_add]
          rfl
        omega
    obtain ⟨⟨exp, s⟩, hok⟩ := hok
    refine ⟨acc.toDouble rd, exp, by rw [Accumulator.addExp, hok]; rfl, ?_, ?_⟩
    · exact parseExpDigits_le hfrac e.isDigit_lead hok
    · intro _
      exact isSome_toDouble rd acc

/-- Without the values of its digits a written double is the zero of its sign. -/
theorem value_float {minus : Bool} {n : Number} (h : IsFloat minus n) :
    n.value zeroReader = .ok (.double (signedZero minus)) := by
  unfold Number.value
  generalize hacc : (n.intPart zeroReader).addFrac zeroReader n.frac = acc
  have hfrac : acc.expFrac ≤ 0 := by
    rw [← hacc]
    exact (expFrac_addFrac _ _ _).trans (expFrac_intPart zeroReader n).le
  obtain ⟨acc', exp, hadd, hle, hsome⟩ := @addExp_isOk zeroReader _ _ h _ hfrac
  have hd : acc'.d.isSome = true := by
    apply hsome
    rcases h.float with hfloat | hfloat
    · obtain ⟨fs, hfs⟩ := Option.ne_none_iff_exists'.mp hfloat
      refine .inr ?_
      rw [← hacc, hfs]
      exact isSome_toDouble _ _
    · exact .inl hfloat
  obtain ⟨d, hd⟩ := Option.isSome_iff_exists.mp hd
  rw [hadd, ok_bind]
  dsimp only
  unfold finishNumber
  rw [hd]
  dsimp only
  rw [strtodNormalPrecision_zero d hle, ok_bind, if_neg (by decide), h.minus_eq]
  rfl

/-! ## Values -/

mutual
/-- `P` holds of every scalar in a value. -/
def AllScalars (P : Json → Prop) : Json → Prop
  | .array vs => AllElems P vs
  | .object ms => AllMembers P ms
  | v => P v

/-- `P` holds of every scalar in the elements. -/
def AllElems (P : Json → Prop) : List Json → Prop
  | [] => True
  | v :: vs => AllScalars P v ∧ AllElems P vs

/-- `P` holds of every scalar in the members. -/
def AllMembers (P : Json → Prop) : List (Bytes × Json) → Prop
  | [] => True
  | (_, v) :: ms => AllScalars P v ∧ AllMembers P ms
end

mutual
/-- A value with `f` applied to its doubles. -/
def mapDoubles (f : UInt64 → UInt64) : Json → Json
  | .double d => .double (f d)
  | .array vs => .array (mapElems f vs)
  | .object ms => .object (mapMembers f ms)
  | v => v

/-- `mapDoubles` of the elements. -/
def mapElems (f : UInt64 → UInt64) : List Json → List Json
  | [] => []
  | v :: vs => mapDoubles f v :: mapElems f vs

/-- `mapDoubles` of the members. -/
def mapMembers (f : UInt64 → UInt64) : List (Bytes × Json) → List (Bytes × Json)
  | [] => []
  | (name, v) :: ms => (name, mapDoubles f v) :: mapMembers f ms
end

/-- The text of a scalar is one of the scalar that `f` makes of it: an integer is one of 64
    bits, and a double is read as `f` has it. -/
def Rereads (rd : DoubleReader) (wr : DoubleWriter) (maxDecimalPlaces : ℕ)
    (f : UInt64 → UInt64) : Json → Prop
  | .int n => -2 ^ 63 ≤ n ∧ n < 2 ^ 64
  | .double d => dtoa wr d maxDecimalPlaces ∈ numberTexts rd (.double (f d))
  | _ => True

theorem exists_right {L M : Language UInt8} {t : Bytes} (h : t ∈ L * M) : ∃ u, u ∈ M := by
  obtain ⟨_, _, u, hu, _⟩ := Language.mem_mul.mp h
  exact ⟨u, hu⟩

theorem mem_ws_mul {L : Language UInt8} {t : Bytes} (h : t ∈ L) : t ∈ ws * L := by
  have hnil : [] ∈ ws := by
    intro c hc
    cases hc
  exact Language.append_mem_mul hnil h

theorem cons_mem_token {c : UInt8} {t : Bytes} {L : Language UInt8} (h : t ∈ L) :
    c :: t ∈ token c * (ws * L) :=
  cons_mem_token_mul.mpr ⟨rfl, mem_ws_mul h⟩

mutual
/-- A value is written as a text of itself, up to its doubles. -/
theorem written_mem_texts {rd : DoubleReader} {wr : DoubleWriter} {max : ℕ}
    {f : UInt64 → UInt64} :
    ∀ {v : Json}, AllScalars (Rereads rd wr max f) v → written wr max v ∈ texts rd (mapDoubles f v)
  | .null, _ => rfl
  | .bool true, _ => rfl
  | .bool false, _ => rfl
  | .int _, h => integer_text rd h.1 h.2
  | .double _, h => h
  | .string s, _ => string_text s
  | .array _, h => cons_mem_token (writtenElems_mem h)
  | .object _, h => cons_mem_token (writtenMembers_mem h)

theorem writtenElems_mem {rd : DoubleReader} {wr : DoubleWriter} {max : ℕ}
    {f : UInt64 → UInt64} :
    ∀ {vs : List Json}, AllElems (Rereads rd wr max f) vs →
      writtenElems wr max vs ∈ elemTexts rd (mapElems f vs)
  | [], _ => rfl
  | _ :: _, h => Language.append_mem_mul (written_mem_texts h.1) (mem_ws_mul (moreElems_mem h.2))

theorem moreElems_mem {rd : DoubleReader} {wr : DoubleWriter} {max : ℕ}
    {f : UInt64 → UInt64} :
    ∀ {vs : List Json}, AllElems (Rereads rd wr max f) vs →
      moreElemsWritten wr max vs ∈ moreElems rd (mapElems f vs)
  | [], _ => rfl
  | _ :: _, h => cons_mem_token
      (Language.append_mem_mul (written_mem_texts h.1) (mem_ws_mul (moreElems_mem h.2)))

theorem writtenMembers_mem {rd : DoubleReader} {wr : DoubleWriter} {max : ℕ}
    {f : UInt64 → UInt64} :
    ∀ {ms : List (Bytes × Json)}, AllMembers (Rereads rd wr max f) ms →
      writtenMembers wr max ms ∈ memberTexts rd (mapMembers f ms)
  | [], _ => rfl
  | (name, _) :: _, h => Language.append_mem_mul (string_text name) (mem_ws_mul (cons_mem_token
      (Language.append_mem_mul (written_mem_texts h.1) (mem_ws_mul (moreMembers_mem h.2)))))

theorem moreMembers_mem {rd : DoubleReader} {wr : DoubleWriter} {max : ℕ}
    {f : UInt64 → UInt64} :
    ∀ {ms : List (Bytes × Json)}, AllMembers (Rereads rd wr max f) ms →
      moreMembersWritten wr max ms ∈ moreMembers rd (mapMembers f ms)
  | [], _ => rfl
  | (name, _) :: _, h => cons_mem_token
      (Language.append_mem_mul (string_text name) (mem_ws_mul (cons_mem_token
        (Language.append_mem_mul (written_mem_texts h.1) (mem_ws_mul (moreMembers_mem h.2))))))
end

/-- The reader reads what is written. -/
theorem parse_written {rd : DoubleReader} {wr : DoubleWriter} {max : ℕ} {f : UInt64 → UInt64}
    {v : Json} (h : AllScalars (Rereads rd wr max f) v) :
    parse rd (written wr max v) = .ok (mapDoubles f v) := by
  rw [parse_eq_ok_iff]
  have hnil : [] ∈ ws := by
    intro c hc
    cases hc
  have := Language.append_mem_mul (written_mem_texts h) hnil
  rw [List.append_nil] at this
  exact mem_ws_mul this

/-! ## What is read -/

/-- The double of the accumulator is not negative and no NaN. -/
def Accumulator.InRange (acc : Accumulator) : Prop := ∀ d ∈ acc.d, d ≤ infinity

theorem inRange_toDouble (rd : DoubleReader) {acc : Accumulator} (h : acc.InRange) :
    (acc.toDouble rd).InRange := by
  rintro d ⟨⟩
  cases hd : acc.d with
  | none => exact rd.ofUint64_le _
  | some d => exact h d hd

theorem inRange_bigBody (rd : DoubleReader) {acc : Accumulator} (h : acc.InRange) (c : UInt8) :
    (acc.bigBody rd c).InRange := by
  intro d hd
  obtain ⟨d', hd', rfl⟩ := Option.mem_map.mp hd
  exact rd.mulTenAdd_le _ _ (h d' hd')

theorem inRange_pushInt (rd : DoubleReader) (minus : Bool) {acc : Accumulator} (h : acc.InRange)
    (c : UInt8) : (acc.pushInt rd minus c).InRange := by
  unfold Accumulator.pushInt
  split_ifs with hd
  · exact inRange_bigBody rd h c
  · cases hbody : acc.intBody (limit64 minus) (lastDigit minus) c with
    | none => exact inRange_bigBody rd (inRange_toDouble rd h) c
    | some acc' =>
      unfold Accumulator.intBody at hbody
      split_ifs at hbody
      cases hbody
      exact h

theorem inRange_fracBody (rd : DoubleReader) {acc : Accumulator} (h : acc.InRange) (c : UInt8) :
    (acc.fracBody rd c).InRange := by
  unfold Accumulator.fracBody
  cases hd : acc.d with
  | none => exact h
  | some d =>
    dsimp only
    split_ifs
    · rintro d' ⟨⟩
      exact rd.mulTenAdd_le _ _ (h d hd)
    · rintro d' ⟨⟩
      exact rd.mulTenAdd_le _ _ (h d hd)
    · exact h

theorem inRange_pushFrac (rd : DoubleReader) {acc : Accumulator} (h : acc.InRange) (c : UInt8) :
    (acc.pushFrac rd c).InRange := by
  unfold Accumulator.pushFrac
  split_ifs with hd
  · exact inRange_fracBody rd h c
  · cases hbody : acc.fastBody c with
    | none => exact inRange_fracBody rd (inRange_toDouble rd h) c
    | some acc' =>
      unfold Accumulator.fastBody at hbody
      split_ifs at hbody
      cases hbody
      exact h

theorem inRange_foldl {push : Accumulator → UInt8 → Accumulator}
    (hpush : ∀ acc : Accumulator, acc.InRange → ∀ c, (push acc c).InRange) {acc : Accumulator}
    (h : acc.InRange) (ds : Bytes) : (ds.foldl push acc).InRange := by
  induction ds generalizing acc with
  | nil => exact h
  | cons c ds ih => exact ih (hpush acc h c)

theorem strtodNormalPrecision_le {rd : DoubleReader} {d d' : UInt64} {p : ℤ} (hd : d ≤ infinity)
    (h : strtodNormalPrecision rd d p = .ok d') : d' ≤ infinity := by
  have fast {d d' : UInt64} {p : ℤ} (hd : d ≤ infinity) (h : fastPath rd d p = .ok d') :
      d' ≤ infinity := by
    unfold fastPath at h
    split_ifs at h
    · cases h
      decide
    · cases h
      exact rd.mulPow10_le _ _ hd
    · cases h
      exact rd.divPow10_le _ _ hd
  unfold strtodNormalPrecision at h
  split_ifs at h
  · obtain ⟨d1, hd1, h⟩ := bind_eq_ok.mp h
    exact fast (fast hd hd1) h
  · exact fast hd h

/-- A double below the infinity is finite, with either sign. -/
theorem finite_of_lt {d : UInt64} (hle : d ≤ infinity) (hmax : aboveMax d = false) :
    isNanOrInf d = false ∧ isNanOrInf (negate d) = false := by
  have hlt : d.toNat < 0x7FF0000000000000 := by
    have hle : d.toNat ≤ 0x7FF0000000000000 := UInt64.le_iff_toNat_le.mp hle
    have hne : d.toNat ≠ 0x7FF0000000000000 := fun h => by
      rw [(aboveMax_iff d).mpr h] at hmax
      cases hmax
    omega
  have hand : d.toNat &&& 0x7FF0000000000000 ≠ 0x7FF0000000000000 := by
    have := Nat.and_le_left (n := d.toNat) (m := 0x7FF0000000000000)
    omega
  constructor
  · rw [isNanOrInf, beq_eq_false_iff_ne, Ne, ← UInt64.toNat_inj, UInt64.toNat_and]
    exact hand
  · rw [isNanOrInf, beq_eq_false_iff_ne, Ne, ← UInt64.toNat_inj, UInt64.toNat_and, toNat_negate,
      Nat.and_xor_distrib_right, show 2 ^ 63 &&& infinity.toNat = 0 by decide, Nat.xor_zero]
    exact hand

/-- A double that is read is finite. -/
theorem value_finite {rd : DoubleReader} {n : Number} {d : UInt64}
    (h : n.value rd = .ok (.double d)) : isNanOrInf d = false := by
  have hlead : (⟨digit n.lead, none, 0, 0⟩ : Accumulator).InRange := by rintro d ⟨⟩
  have hint : (n.intPart rd).InRange :=
    inRange_foldl (fun acc hacc c => inRange_pushInt rd n.minus hacc c) hlead n.tail
  have hfrac : ((n.intPart rd).addFrac rd n.frac).InRange := by
    cases n.frac with
    | none => exact hint
    | some ds =>
      exact inRange_toDouble rd (inRange_foldl (fun acc hacc c => inRange_pushFrac rd hacc c) hint ds)
  obtain ⟨⟨acc, exp⟩, hadd, h⟩ := bind_eq_ok.mp h
  have hexp : acc.InRange := by
    cases he : n.exp with
    | none =>
      rw [he] at hadd
      cases hadd
      exact hfrac
    | some e =>
      rw [he] at hadd
      obtain ⟨⟨x, s⟩, -, hadd⟩ := bind_eq_ok.mp hadd
      cases hadd
      exact inRange_toDouble rd hfrac
  dsimp only at h
  unfold finishNumber at h
  cases hd : acc.d with
  | none =>
    rw [hd] at h
    cases h
  | some x =>
    rw [hd] at h
    obtain ⟨y, hy, h⟩ := bind_eq_ok.mp h
    have hle := strtodNormalPrecision_le (hexp x hd) hy
    cases hmax : aboveMax y with
    | true =>
      rw [if_pos hmax] at h
      cases h
    | false =>
      rw [if_neg (by rw [hmax]; exact Bool.false_ne_true)] at h
      have hfinite := finite_of_lt hle hmax
      split_ifs at h
      · cases h
        exact hfinite.2
      · cases h
        exact hfinite.1

/-- A scalar that can be read: an integer is one of 64 bits, and a double is finite. -/
def Readable : Json → Prop
  | .int n => -2 ^ 63 ≤ n ∧ n < 2 ^ 64
  | .double d => isNanOrInf d = false
  | _ => True

theorem readable_of_text {rd : DoubleReader} {v : Json} {t : Bytes} (h : t ∈ scalarTexts rd v) :
    Readable v := by
  cases v with
  | int z =>
    obtain ⟨n, hn, -⟩ := h
    obtain ⟨-, -, hle, rfl⟩ := (n.value_int rd z).mp hn
    unfold maxAbs at hle
    show -2 ^ 63 ≤ (if n.minus = true then -(n.abs : ℤ) else n.abs) ∧ _
    split_ifs at hle ⊢ <;> omega
  | double d =>
    obtain ⟨n, hn, -⟩ := h
    exact value_finite hn
  | _ => trivial

mutual
/-- A value that has a text has readable scalars. -/
theorem readable_of_mem_texts {rd : DoubleReader} :
    ∀ {v : Json} {t : Bytes}, t ∈ texts rd v → AllScalars Readable v
  | .null, _, _ => trivial
  | .bool _, _, _ => trivial
  | .int _, _, h => readable_of_text (v := .int _) h
  | .double _, _, h => readable_of_text (v := .double _) h
  | .string _, _, _ => trivial
  | .array _, _, h => by
    obtain ⟨_, h⟩ := exists_right h
    obtain ⟨_, h⟩ := exists_right h
    exact readable_of_mem_elems h
  | .object _, _, h => by
    obtain ⟨_, h⟩ := exists_right h
    obtain ⟨_, h⟩ := exists_right h
    exact readable_of_mem_members h

theorem readable_of_mem_elems {rd : DoubleReader} :
    ∀ {vs : List Json} {t : Bytes}, t ∈ elemTexts rd vs → AllElems Readable vs
  | [], _, _ => trivial
  | _ :: _, _, h => by
    obtain ⟨_, hv, _, h, _⟩ := Language.mem_mul.mp h
    obtain ⟨_, h⟩ := exists_right h
    exact ⟨readable_of_mem_texts hv, readable_of_mem_moreElems h⟩

theorem readable_of_mem_moreElems {rd : DoubleReader} :
    ∀ {vs : List Json} {t : Bytes}, t ∈ moreElems rd vs → AllElems Readable vs
  | [], _, _ => trivial
  | _ :: _, _, h => by
    obtain ⟨_, h⟩ := exists_right h
    obtain ⟨_, h⟩ := exists_right h
    obtain ⟨_, hv, _, h, _⟩ := Language.mem_mul.mp h
    obtain ⟨_, h⟩ := exists_right h
    exact ⟨readable_of_mem_texts hv, readable_of_mem_moreElems h⟩

theorem readable_of_mem_members {rd : DoubleReader} :
    ∀ {ms : List (Bytes × Json)} {t : Bytes}, t ∈ memberTexts rd ms → AllMembers Readable ms
  | [], _, _ => trivial
  | (_, _) :: _, _, h => by
    -- the name and the colon
    obtain ⟨_, h⟩ := exists_right h
    obtain ⟨_, h⟩ := exists_right h
    obtain ⟨_, h⟩ := exists_right h
    obtain ⟨_, h⟩ := exists_right h
    obtain ⟨_, hv, _, h, _⟩ := Language.mem_mul.mp h
    obtain ⟨_, h⟩ := exists_right h
    exact ⟨readable_of_mem_texts hv, readable_of_mem_moreMembers h⟩

theorem readable_of_mem_moreMembers {rd : DoubleReader} :
    ∀ {ms : List (Bytes × Json)} {t : Bytes}, t ∈ moreMembers rd ms → AllMembers Readable ms
  | [], _, _ => trivial
  | (_, _) :: _, _, h => by
    -- the comma, the name and the colon
    obtain ⟨_, h⟩ := exists_right h
    obtain ⟨_, h⟩ := exists_right h
    obtain ⟨_, h⟩ := exists_right h
    obtain ⟨_, h⟩ := exists_right h
    obtain ⟨_, h⟩ := exists_right h
    obtain ⟨_, h⟩ := exists_right h
    obtain ⟨_, hv, _, h, _⟩ := Language.mem_mul.mp h
    obtain ⟨_, h⟩ := exists_right h
    exact ⟨readable_of_mem_texts hv, readable_of_mem_moreMembers h⟩
end

/-- A value that is read has readable scalars. -/
theorem readable_of_parse {rd : DoubleReader} {text : Bytes} {v : Json}
    (h : parse rd text = .ok v) : AllScalars Readable v := by
  obtain ⟨_, h⟩ := exists_right ((parse_eq_ok_iff rd text v).mp h)
  obtain ⟨_, hv, -⟩ := Language.mem_mul.mp h
  exact readable_of_mem_texts hv

/-! ## The same text -/

mutual
theorem AllScalars.mono {P Q : Json → Prop} (hPQ : ∀ v, P v → Q v) :
    ∀ {v : Json}, AllScalars P v → AllScalars Q v
  | .null, h => hPQ _ h
  | .bool _, h => hPQ _ h
  | .int _, h => hPQ _ h
  | .double _, h => hPQ _ h
  | .string _, h => hPQ _ h
  | .array _, h => AllElems.mono hPQ h
  | .object _, h => AllMembers.mono hPQ h

theorem AllElems.mono {P Q : Json → Prop} (hPQ : ∀ v, P v → Q v) :
    ∀ {vs : List Json}, AllElems P vs → AllElems Q vs
  | [], _ => trivial
  | _ :: _, h => ⟨AllScalars.mono hPQ h.1, AllElems.mono hPQ h.2⟩

theorem AllMembers.mono {P Q : Json → Prop} (hPQ : ∀ v, P v → Q v) :
    ∀ {ms : List (Bytes × Json)}, AllMembers P ms → AllMembers Q ms
  | [], _ => trivial
  | (_, _) :: _, h => ⟨AllScalars.mono hPQ h.1, AllMembers.mono hPQ h.2⟩
end

mutual
/-- A value with readable scalars is not refused by the writer. -/
theorem isFinite_of_readable : ∀ {v : Json}, AllScalars Readable v → isFinite v = true
  | .null, _ => rfl
  | .bool _, _ => rfl
  | .int _, _ => rfl
  | .double _, h => by
    rw [isFinite, show isNanOrInf _ = false from h]
    rfl
  | .string _, _ => rfl
  | .array _, h => elemsFinite_of_readable h
  | .object _, h => membersFinite_of_readable h

theorem elemsFinite_of_readable : ∀ {vs : List Json}, AllElems Readable vs → elemsFinite vs = true
  | [], _ => rfl
  | _ :: _, h => by
    rw [elemsFinite, isFinite_of_readable h.1, elemsFinite_of_readable h.2]
    rfl

theorem membersFinite_of_readable :
    ∀ {ms : List (Bytes × Json)}, AllMembers Readable ms → membersFinite ms = true
  | [], _ => rfl
  | (_, _) :: _, h => by
    rw [membersFinite, isFinite_of_readable h.1, membersFinite_of_readable h.2]
    rfl
end

/-- A value with the zeros of their sign for its doubles. -/
def eraseDoubles (v : Json) : Json := mapDoubles (fun d => signedZero (sign d)) v

/-- The reader that takes digits for zeros reads what is written for a readable scalar. -/
theorem rereads_zeroReader (wr : DoubleWriter) (max : ℕ) (v : Json) (hv : Readable v) :
    Rereads zeroReader wr max (fun d => signedZero (sign d)) v := by
  cases v with
  | int n => exact hv
  | double d =>
    obtain ⟨n, hn, -, htext⟩ := dtoa_number wr hv max
    exact ⟨n, value_float hn, htext.symm⟩
  | _ => trivial

/-- Readable values of the same text are the same up to their doubles. -/
theorem written_injective {wr : DoubleWriter} {max : ℕ} {v w : Json} (hv : AllScalars Readable v)
    (hw : AllScalars Readable w) (h : written wr max v = written wr max w) :
    eraseDoubles v = eraseDoubles w := by
  have hread := parse_written (hv.mono (rereads_zeroReader wr max))
  rw [h, parse_written (hw.mono (rereads_zeroReader wr max))] at hread
  exact (Except.ok.inj hread).symm

end DcapQvl.Rapidjson
