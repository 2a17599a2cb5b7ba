import DcapQvl.Json.Number

/-!
# Strings in a JSON text

`GenericReader::ParseString` of rapidjson's `reader.h` with `UTF8::Encode` of
`encodings.h`. Bytes from 0x80 on are copied without a check of their encoding.

Results:
* `encode_char`: the reader encodes a character as UTF-8.
* `parseString_eq_ok_iff`: what is read as a string is a text between quotation marks in
  which every character stands for itself or is escaped.
* `parseString_avoids`: no assertion fails, the one of `UTF8::Encode` included.
-/

namespace DcapQvl.Rapidjson

open Lib

/-! ## Model -/

/-- The table `escape` of `ParseStringToStream`; 0 for a character without an escape. -/
def unescape (e : UInt8) : UInt8 :=
  if e = 34 then 34
  else if e = 47 then 47
  else if e = 92 then 92
  else if e = 98 then 8
  else if e = 102 then 12
  else if e = 110 then 10
  else if e = 114 then 13
  else if e = 116 then 9
  else 0

/-- What `ParseHex4` adds for a character; `none` unless it is a hexadecimal digit. -/
def hexValue (c : UInt8) : Option ℕ :=
  if 48 ≤ c ∧ c ≤ 57 then some (c.toNat - 48)
  else if 65 ≤ c ∧ c ≤ 70 then some (c.toNat - (65 - 10))
  else if 97 ≤ c ∧ c ≤ 102 then some (c.toNat - (97 - 10))
  else none

/-- The loop of `ParseHex4`, for the digits that are left. -/
def parseHex : ℕ → ℕ → Bytes → Except Failure (ℕ × Bytes)
  | 0, codepoint, is => .ok (codepoint, is)
  | _ + 1, _, [] => .error (.error .stringUnicodeEscapeInvalidHex)
  | n + 1, codepoint, c :: is =>
    match hexValue c with
    | none => .error (.error .stringUnicodeEscapeInvalidHex)
    | some v => parseHex n (codepoint * 16 + v) is

/-- `ParseHex4`. -/
def parseHex4 (is : Bytes) : Except Failure (ℕ × Bytes) := parseHex 4 0 is

/-- `UTF8::Encode`. -/
def encode (codepoint : ℕ) : Except Failure Bytes :=
  if codepoint ≤ 0x7F then .ok [UInt8.ofNat (codepoint &&& 0xFF)]
  else if codepoint ≤ 0x7FF then
    .ok [UInt8.ofNat (0xC0 ||| ((codepoint >>> 6) &&& 0xFF)),
      UInt8.ofNat (0x80 ||| (codepoint &&& 0x3F))]
  else if codepoint ≤ 0xFFFF then
    .ok [UInt8.ofNat (0xE0 ||| ((codepoint >>> 12) &&& 0xFF)),
      UInt8.ofNat (0x80 ||| ((codepoint >>> 6) &&& 0x3F)),
      UInt8.ofNat (0x80 ||| (codepoint &&& 0x3F))]
  else if codepoint ≤ 0x10FFFF then
    .ok [UInt8.ofNat (0xF0 ||| ((codepoint >>> 18) &&& 0xFF)),
      UInt8.ofNat (0x80 ||| ((codepoint >>> 12) &&& 0x3F)),
      UInt8.ofNat (0x80 ||| ((codepoint >>> 6) &&& 0x3F)),
      UInt8.ofNat (0x80 ||| (codepoint &&& 0x3F))]
  else .error .assertion

/-- The second half of a surrogate pair, from its `\u` on. -/
def parseSurrogate (codepoint : ℕ) : Bytes → Except Failure (ℕ × Bytes)
  | 92 :: 117 :: is => do
    let (codepoint2, is) ← parseHex4 is
    if codepoint2 < 0xDC00 ∨ codepoint2 > 0xDFFF then
      .error (.error .stringUnicodeSurrogateInvalid)
    else .ok ((((codepoint - 0xD800) <<< 10) ||| (codepoint2 - 0xDC00)) + 0x10000, is)
  | _ => .error (.error .stringUnicodeSurrogateInvalid)

/-- `if (codepoint >= 0xD800 && codepoint <= 0xDFFF) …`. -/
def parsePair (codepoint : ℕ) (is : Bytes) : Except Failure (ℕ × Bytes) :=
  if 0xD800 ≤ codepoint ∧ codepoint ≤ 0xDFFF then
    if codepoint ≤ 0xDBFF then parseSurrogate codepoint is
    else .error (.error .stringUnicodeSurrogateInvalid)
  else .ok (codepoint, is)

/-- An escape `\uXXXX` after the `u`, with the bytes that are put. -/
def parseUnicode (is : Bytes) : Except Failure (Bytes × Bytes) := do
  let (codepoint, is) ← parseHex4 is
  let (codepoint, is) ← parsePair codepoint is
  let bytes ← encode codepoint
  .ok (bytes, is)

/-- An escape after the backslash, with the bytes that are put. -/
def parseEscape : Bytes → Except Failure (Bytes × Bytes)
  | [] => .error (.error .stringEscapeInvalid)
  | e :: is =>
    if unescape e ≠ 0 then .ok ([unescape e], is)
    else if e = 117 then parseUnicode is
    else .error (.error .stringEscapeInvalid)

theorem parseHex_length {n codepoint v : ℕ} {is is' : Bytes}
    (h : parseHex n codepoint is = .ok (v, is')) : is'.length ≤ is.length := by
  induction n generalizing codepoint is with
  | zero => cases h; exact le_rfl
  | succ n ih =>
    cases is with
    | nil => cases h
    | cons c is =>
      rw [parseHex] at h
      cases hc : hexValue c with
      | none => rw [hc] at h; cases h
      | some v =>
        rw [hc] at h
        exact (ih h).trans (Nat.le_succ _)

theorem parseSurrogate_length {codepoint v : ℕ} {is is' : Bytes}
    (h : parseSurrogate codepoint is = .ok (v, is')) : is'.length ≤ is.length := by
  unfold parseSurrogate at h
  split at h
  · obtain ⟨⟨codepoint2, is2⟩, hhex, h⟩ := bind_eq_ok.mp h
    dsimp only at h
    split_ifs at h
    cases h
    have := parseHex_length hhex
    simp only [List.length_cons]
    omega
  · cases h

theorem parsePair_length {codepoint v : ℕ} {is is' : Bytes}
    (h : parsePair codepoint is = .ok (v, is')) : is'.length ≤ is.length := by
  unfold parsePair at h
  split_ifs at h
  · exact parseSurrogate_length h
  · cases h
    exact le_rfl

theorem parseEscape_length {bytes is is' : Bytes} (h : parseEscape is = .ok (bytes, is')) :
    is'.length ≤ is.length := by
  cases is with
  | nil => cases h
  | cons e is =>
    rw [parseEscape] at h
    split_ifs at h
    · cases h
      exact Nat.le_succ _
    · obtain ⟨⟨codepoint, is1⟩, hhex, h⟩ := bind_eq_ok.mp h
      obtain ⟨⟨codepoint2, is2⟩, hpair, h⟩ := bind_eq_ok.mp h
      obtain ⟨b, -, h⟩ := bind_eq_ok.mp h
      cases h
      have h1 := parseHex_length hhex
      have h2 := parsePair_length hpair
      simp only [List.length_cons]
      omega

/-- The loop of `ParseStringToStream`; `os` is what it has put. -/
def parseStringToStream (os : Bytes) (is : Bytes) : Except Failure (Bytes × Bytes) :=
  match is with
  | [] => .error (.error .stringMissQuotationMark)
  | c :: is =>
    if c = 92 then
      match _h : parseEscape is with
      | .error e => .error e
      | .ok (bytes, is') => parseStringToStream (os ++ bytes) is'
    else if c = 34 then .ok (os, is)
    else if c < 0x20 then
      if c = 0 then .error (.error .stringMissQuotationMark)
      else .error (.error .stringInvalidEncoding)
    else parseStringToStream (os ++ [c]) is
termination_by is.length
decreasing_by
  · have := parseEscape_length _h
    simp only [List.length_cons]
    omega
  · simp

/-- `ParseString`. -/
def parseString : Bytes → Except Failure (Bytes × Bytes)
  | 34 :: is => parseStringToStream [] is
  | _ => .error .assertion

/-! ## UTF-8 -/

theorem or_high {x k : ℕ} (y : ℕ) (h : x < 2 ^ k) : y * 2 ^ k ||| x = x + y * 2 ^ k := by
  rw [Nat.or_comm, or_mul_two_pow y h]

theorem char_lt (c : Char) : c.toNat < 0x110000 ∧ ¬(0xD800 ≤ c.toNat ∧ c.toNat ≤ 0xDFFF) := by
  have h := c.valid
  unfold UInt32.isValidChar Nat.isValidChar at h
  change c.toNat < _ ∨ _ < c.toNat ∧ c.toNat < _ at h
  omega

/-- A continuation byte. -/
theorem tail_byte (n k : ℕ) : 0x80 ||| ((n >>> k) &&& 0x3F) = n / 2 ^ k % 0x40 + 0x80 := by
  have hmod : (n >>> k) &&& 0x3F = n / 2 ^ k % 64 := by
    rw [Nat.shiftRight_eq_div_pow]
    exact Nat.and_two_pow_sub_one_eq_mod _ 6
  rw [hmod]
  exact or_high (k := 6) 2 (Nat.mod_lt _ (by norm_num))

/-- The first byte of a character of several bytes. -/
theorem lead_byte {n k j : ℕ} (y : ℕ) (hj : j ≤ 8) (h : n / 2 ^ k < 2 ^ j) :
    y * 2 ^ j ||| ((n >>> k) &&& 0xFF) = n / 2 ^ k % 2 ^ j + y * 2 ^ j := by
  have h256 : n / 2 ^ k < 256 := h.trans_le (Nat.pow_le_pow_right (by norm_num) hj)
  have hmod : (n >>> k) &&& 0xFF = n / 2 ^ k := by
    rw [Nat.shiftRight_eq_div_pow]
    exact (Nat.and_two_pow_sub_one_eq_mod _ 8).trans (Nat.mod_eq_of_lt h256)
  rw [hmod, Nat.mod_eq_of_lt h]
  exact or_high y h

/-- The reader encodes a character as UTF-8. -/
theorem encode_char (c : Char) : encode c.toNat = .ok (String.utf8EncodeChar c) := by
  have hmax := (char_lt c).1
  unfold encode String.utf8EncodeChar
  generalize hv : c.toNat = v at *
  have hval : c.val.toNat = v := hv
  have h0 : v &&& 0x3F = (v >>> 0) &&& 0x3F := rfl
  dsimp only
  rw [hval, h0]
  by_cases h1 : v ≤ 0x7F
  · rw [if_pos h1, if_pos h1, and_255, Nat.mod_eq_of_lt (by omega)]
  rw [if_neg h1, if_neg h1]
  by_cases h2 : v ≤ 0x7FF
  · have hlead : 0xC0 ||| ((v >>> 6) &&& 0xFF) = v / 64 % 0x20 + 0xC0 :=
      lead_byte (n := v) (k := 6) (j := 5) 6 (by norm_num) (by omega)
    rw [if_pos h2, if_pos h2, tail_byte v 0, hlead]
    simp
  rw [if_neg h2, if_neg h2]
  by_cases h3 : v ≤ 0xFFFF
  · have hlead : 0xE0 ||| ((v >>> 12) &&& 0xFF) = v / 4096 % 0x10 + 0xE0 :=
      lead_byte (n := v) (k := 12) (j := 4) 14 (by norm_num) (by omega)
    rw [if_pos h3, if_pos h3, tail_byte v 0, tail_byte v 6, hlead]
    simp
  · have hlead : 0xF0 ||| ((v >>> 18) &&& 0xFF) = v / 262144 % 8 + 0xF0 :=
      lead_byte (n := v) (k := 18) (j := 3) 30 (by norm_num) (by omega)
    rw [if_neg h3, if_neg h3, if_pos (by omega), tail_byte v 0, tail_byte v 6, tail_byte v 12,
      hlead]
    simp

/-! ## Strings -/

/-- The number of hexadecimal digits after those of `n`. -/
def hexNumber (n : ℕ) : Bytes → Option ℕ
  | [] => some n
  | c :: ds => (hexValue c).bind fun v => hexNumber (n * 16 + v) ds

/-- Four hexadecimal digits. -/
structure Hex4 (ds : Bytes) (n : ℕ) : Prop where
  length : ds.length = 4
  number : hexNumber 0 ds = some n

/-- The part of an escape after `\u`: one code unit of UTF-16 or two. -/
inductive UnicodeEscape (c : Char) : Bytes → Prop
  | single {ds : Bytes} (h : Hex4 ds c.toNat) : UnicodeEscape c ds
  | pair {high low : Bytes} (hc : 0x10000 ≤ c.toNat)
      (hhigh : Hex4 high (0xD800 + (c.toNat - 0x10000) / 0x400))
      (hlow : Hex4 low (0xDC00 + (c.toNat - 0x10000) % 0x400)) :
      UnicodeEscape c (high ++ 92 :: 117 :: low)

/-- The characters of a string and the text between its quotation marks. -/
inductive Chars : Bytes → Bytes → Prop
  | nil : Chars [] []
  | plain {c : UInt8} {s t : Bytes} (hquote : c ≠ 34) (hescape : c ≠ 92) (hcontrol : 0x20 ≤ c)
      (h : Chars s t) : Chars (c :: s) (c :: t)
  | escape {e : UInt8} {s t : Bytes} (he : unescape e ≠ 0) (h : Chars s t) :
      Chars (unescape e :: s) (92 :: e :: t)
  | unicode {c : Char} {u s t : Bytes} (hu : UnicodeEscape c u) (h : Chars s t) :
      Chars (String.utf8EncodeChar c ++ s) (92 :: 117 :: (u ++ t))

theorem parseHex_eq_ok_iff {k n v : ℕ} {is is' : Bytes} :
    parseHex k n is = .ok (v, is') ↔
      ∃ ds, ds.length = k ∧ hexNumber n ds = some v ∧ is = ds ++ is' := by
  induction k generalizing n is with
  | zero =>
    constructor
    · rintro ⟨⟩
      exact ⟨[], rfl, rfl, rfl⟩
    · rintro ⟨ds, hlen, hv, rfl⟩
      obtain rfl := List.length_eq_zero_iff.mp hlen
      cases hv
      rfl
  | succ k ih =>
    constructor
    · intro h
      cases is with
      | nil => cases h
      | cons c is =>
        rw [parseHex] at h
        cases hc : hexValue c with
        | none => rw [hc] at h; cases h
        | some w =>
          rw [hc] at h
          obtain ⟨ds, hlen, hv, rfl⟩ := ih.mp h
          exact ⟨c :: ds, by rw [List.length_cons, hlen], by rw [hexNumber, hc]; exact hv, rfl⟩
    · rintro ⟨ds, hlen, hv, rfl⟩
      obtain ⟨c, ds, rfl⟩ := List.exists_cons_of_length_eq_add_one hlen
      rw [hexNumber] at hv
      obtain ⟨w, hc, hv⟩ := Option.bind_eq_some_iff.mp hv
      rw [List.cons_append, parseHex, hc]
      exact ih.mpr ⟨ds, by simpa using hlen, hv, rfl⟩

theorem parseHex4_eq_ok_iff {v : ℕ} {is is' : Bytes} :
    parseHex4 is = .ok (v, is') ↔ ∃ ds, Hex4 ds v ∧ is = ds ++ is' := by
  rw [parseHex4, parseHex_eq_ok_iff]
  constructor
  · rintro ⟨ds, hlen, hv, his⟩
    exact ⟨ds, ⟨hlen, hv⟩, his⟩
  · rintro ⟨ds, h, his⟩
    exact ⟨ds, h.length, h.number, his⟩

theorem hexValue_lt {c : UInt8} {v : ℕ} (h : hexValue c = some v) : v < 16 := by
  unfold hexValue at h
  simp only [UInt8.le_iff_toNat_le] at h
  split_ifs at h with h1 h2 h3
  all_goals
    cases h
    simp at *
    omega

theorem hexNumber_lt {n v : ℕ} {ds : Bytes} (h : hexNumber n ds = some v) :
    v < (n + 1) * 16 ^ ds.length := by
  induction ds generalizing n with
  | nil =>
    cases h
    simp
  | cons c ds ih =>
    rw [hexNumber] at h
    obtain ⟨w, hw, h⟩ := Option.bind_eq_some_iff.mp h
    have hlt := hexValue_lt hw
    calc v < (n * 16 + w + 1) * 16 ^ ds.length := ih h
      _ ≤ ((n + 1) * 16) * 16 ^ ds.length := Nat.mul_le_mul_right _ (by omega)
      _ = (n + 1) * 16 ^ (c :: ds).length := by rw [List.length_cons, pow_succ]; ring

theorem Hex4.lt {ds : Bytes} {n : ℕ} (h : Hex4 ds n) : n < 0x10000 := by
  have := hexNumber_lt h.number
  rwa [h.length] at this

theorem exists_char {n : ℕ} (hn : n < 0x110000) (hs : ¬(0xD800 ≤ n ∧ n ≤ 0xDFFF)) :
    ∃ c : Char, c.toNat = n := by
  have hvalid : n.isValidChar := by
    unfold Nat.isValidChar
    omega
  exact ⟨Char.ofNat n, by rw [Char.toNat_ofNat, if_pos hvalid]⟩

/-- The codepoint of a pair of surrogates. -/
theorem surrogates_eq (h : ℕ) {l : ℕ} (hl : 0xDC00 ≤ l ∧ l ≤ 0xDFFF) :
    (((h - 0xD800) <<< 10) ||| (l - 0xDC00)) + 0x10000 =
      (h - 0xD800) * 0x400 + (l - 0xDC00) + 0x10000 := by
  have hlt : l - 0xDC00 < 2 ^ 10 := by omega
  rw [Nat.shiftLeft_eq, or_high _ hlt]
  omega

theorem parseSurrogate_eq_ok_iff {codepoint v : ℕ} {is is' : Bytes} :
    parseSurrogate codepoint is = .ok (v, is') ↔
      ∃ ds low, Hex4 ds low ∧ (0xDC00 ≤ low ∧ low ≤ 0xDFFF) ∧ is = 92 :: 117 :: (ds ++ is') ∧
        v = (codepoint - 0xD800) * 0x400 + (low - 0xDC00) + 0x10000 := by
  constructor
  · intro h
    unfold parseSurrogate at h
    split at h
    · obtain ⟨⟨low, is2⟩, hhex, hlow⟩ := bind_eq_ok.mp h
      obtain ⟨ds, hds, rfl⟩ := parseHex4_eq_ok_iff.mp hhex
      dsimp only at hlow
      split_ifs at hlow
      cases hlow
      exact ⟨ds, low, hds, by omega, rfl, surrogates_eq _ (by omega)⟩
    · cases h
  · rintro ⟨ds, low, hds, hlow, rfl, rfl⟩
    rw [parseSurrogate, parseHex4_eq_ok_iff.mpr ⟨ds, hds, rfl⟩, ok_bind]
    dsimp only
    rw [if_neg (by omega), surrogates_eq _ hlow]

theorem parseUnicode_eq_ok_iff {bytes is is' : Bytes} :
    parseUnicode is = .ok (bytes, is') ↔
      ∃ c u, UnicodeEscape c u ∧ is = u ++ is' ∧ bytes = String.utf8EncodeChar c := by
  constructor
  · intro h
    obtain ⟨⟨codepoint, is1⟩, hhex, h⟩ := bind_eq_ok.mp h
    obtain ⟨⟨codepoint2, is2⟩, hpair, h⟩ := bind_eq_ok.mp h
    obtain ⟨b, henc, h⟩ := bind_eq_ok.mp h
    cases h
    obtain ⟨ds, hds, rfl⟩ := parseHex4_eq_ok_iff.mp hhex
    have hlt := hds.lt
    unfold parsePair at hpair
    split_ifs at hpair with hs hhigh
    · obtain ⟨es, low, hes, hlow, rfl, rfl⟩ := parseSurrogate_eq_ok_iff.mp hpair
      obtain ⟨c, hc⟩ := exists_char (n := (codepoint - 0xD800) * 0x400 + (low - 0xDC00) + 0x10000)
        (by omega) (by omega)
      rw [← hc, encode_char] at henc
      cases henc
      refine ⟨c, ds ++ 92 :: 117 :: es, .pair (by omega) ?_ ?_, by simp, rfl⟩
      · rw [show 0xD800 + (c.toNat - 0x10000) / 0x400 = codepoint by omega]
        exact hds
      · rw [show 0xDC00 + (c.toNat - 0x10000) % 0x400 = low by omega]
        exact hes
    · cases hpair
      obtain ⟨c, rfl⟩ := exists_char (by omega) hs
      rw [encode_char] at henc
      cases henc
      exact ⟨c, ds, .single hds, rfl, rfl⟩
  · rintro ⟨c, u, hu, rfl, rfl⟩
    obtain ⟨hmax, hs⟩ := char_lt c
    cases hu with
    | single h =>
      rw [parseUnicode, parseHex4_eq_ok_iff.mpr ⟨u, h, rfl⟩, ok_bind]
      dsimp only
      rw [parsePair, if_neg hs, ok_bind, encode_char, ok_bind]
    | @pair high low hc hhigh hlow =>
      rw [parseUnicode, List.append_assoc, parseHex4_eq_ok_iff.mpr ⟨high, hhigh, rfl⟩, ok_bind]
      dsimp only
      have hpair : parseSurrogate (0xD800 + (c.toNat - 0x10000) / 0x400)
          (92 :: 117 :: (low ++ is')) = .ok (_, is') :=
        parseSurrogate_eq_ok_iff.mpr ⟨low, _, hlow, by omega, rfl, rfl⟩
      rw [parsePair, if_pos (by omega), if_pos (by omega), List.cons_append, List.cons_append,
        hpair, ok_bind]
      dsimp only
      rw [show (0xD800 + (c.toNat - 0x10000) / 0x400 - 0xD800) * 0x400 +
        (0xDC00 + (c.toNat - 0x10000) % 0x400 - 0xDC00) + 0x10000 = c.toNat by omega,
        encode_char, ok_bind]

theorem parseEscape_eq_ok_iff {bytes is is' : Bytes} :
    parseEscape is = .ok (bytes, is') ↔
      (∃ e, unescape e ≠ 0 ∧ is = e :: is' ∧ bytes = [unescape e]) ∨
        ∃ c u, UnicodeEscape c u ∧ is = 117 :: (u ++ is') ∧ bytes = String.utf8EncodeChar c := by
  constructor
  · intro h
    cases is with
    | nil => cases h
    | cons e is =>
      rw [parseEscape] at h
      split_ifs at h with he hu
      · cases h
        exact .inl ⟨e, he, rfl, rfl⟩
      · obtain ⟨c, u, hc, rfl, rfl⟩ := parseUnicode_eq_ok_iff.mp h
        exact .inr ⟨c, u, hc, by rw [hu], rfl⟩
  · rintro (⟨e, he, rfl, rfl⟩ | ⟨c, u, hc, rfl, rfl⟩)
    · rw [parseEscape, if_pos he]
    · rw [parseEscape, if_neg (by decide), if_pos rfl]
      exact parseUnicode_eq_ok_iff.mpr ⟨c, u, hc, rfl, rfl⟩

/-- The loop takes the characters up to the quotation mark. -/
theorem parseStringToStream_of_chars {s t : Bytes} (h : Chars s t) (os is : Bytes) :
    parseStringToStream os (t ++ 34 :: is) = .ok (os ++ s, is) := by
  induction h generalizing os with
  | nil => rw [List.nil_append, parseStringToStream, if_neg (by decide), if_pos rfl, List.append_nil]
  | @plain c s t hquote hescape hcontrol _ ih =>
    rw [List.cons_append, parseStringToStream, if_neg hescape, if_neg hquote,
      if_neg (UInt8.not_lt.mpr hcontrol), ih, List.append_assoc]
    rfl
  | @escape e s t he _ ih =>
    have hread : parseEscape (e :: (t ++ 34 :: is)) = .ok ([unescape e], t ++ 34 :: is) :=
      parseEscape_eq_ok_iff.mpr (.inl ⟨e, he, rfl, rfl⟩)
    rw [List.cons_append, List.cons_append, parseStringToStream, if_pos rfl]
    split
    · rename_i hparse
      rw [hread] at hparse
      cases hparse
    · rename_i hparse
      rw [hread] at hparse
      cases hparse
      rw [ih, List.append_assoc]
      rfl
  | @unicode c u s t hu _ ih =>
    have hread : parseEscape (117 :: (u ++ (t ++ 34 :: is))) =
        .ok (String.utf8EncodeChar c, t ++ 34 :: is) :=
      parseEscape_eq_ok_iff.mpr (.inr ⟨c, u, hu, rfl, rfl⟩)
    rw [List.cons_append, List.cons_append, List.append_assoc, parseStringToStream, if_pos rfl]
    split
    · rename_i hparse
      rw [hread] at hparse
      cases hparse
    · rename_i hparse
      rw [hread] at hparse
      cases hparse
      rw [ih, List.append_assoc]

theorem chars_of_parseStringToStream {os is bytes is' : Bytes}
    (h : parseStringToStream os is = .ok (bytes, is')) :
    ∃ s t, Chars s t ∧ is = t ++ 34 :: is' ∧ bytes = os ++ s := by
  fun_induction parseStringToStream os is with
  | case1 os => cases h
  | case2 os is e hparse => cases h
  | case3 os is escaped is1 hparse ih =>
    obtain ⟨s, t, hchars, rfl, rfl⟩ := ih h
    rcases parseEscape_eq_ok_iff.mp hparse with ⟨e, he, rfl, rfl⟩ | ⟨c, u, hu, rfl, rfl⟩
    · exact ⟨_, _, .escape he hchars, rfl, by simp⟩
    · exact ⟨_, _, .unicode hu hchars, by simp, by simp⟩
  | case4 os is hescape =>
    cases h
    exact ⟨[], [], .nil, rfl, by simp⟩
  | case5 => cases h
  | case6 => cases h
  | case7 os c is hescape hquote hcontrol ih =>
    obtain ⟨s, t, hchars, rfl, rfl⟩ := ih h
    exact ⟨_, _, .plain hquote hescape (UInt8.not_lt.mp hcontrol) hchars, rfl, by simp⟩

/-- What is read as a string is the text of its characters between quotation marks. -/
theorem parseString_eq_ok_iff {is s is' : Bytes} :
    parseString is = .ok (s, is') ↔ ∃ t, Chars s t ∧ is = 34 :: (t ++ 34 :: is') := by
  constructor
  · intro h
    unfold parseString at h
    split at h
    · obtain ⟨s', t, hchars, rfl, rfl⟩ := chars_of_parseStringToStream h
      exact ⟨t, hchars, rfl⟩
    · cases h
  · rintro ⟨t, hchars, rfl⟩
    exact parseStringToStream_of_chars hchars [] is'

/-! ## Assertions -/

theorem parseHex_avoids (k n : ℕ) (is : Bytes) : Avoids .assertion (parseHex k n is) := by
  induction k generalizing n is with
  | zero => exact Avoids.pure _
  | succ k ih =>
    cases is with
    | nil => exact Avoids.throw (by decide)
    | cons c is =>
      rw [parseHex]
      cases hexValue c with
      | none => exact Avoids.throw (by decide)
      | some v => exact ih _ _

theorem parseSurrogate_avoids (codepoint : ℕ) (is : Bytes) :
    Avoids .assertion (parseSurrogate codepoint is) := by
  unfold parseSurrogate
  split
  · apply (parseHex_avoids 4 0 _).bind
    rintro ⟨low, is⟩ -
    dsimp only
    split_ifs
    · exact Avoids.throw (by decide)
    · exact Avoids.pure _
  · exact Avoids.throw (by decide)

theorem parsePair_avoids (codepoint : ℕ) (is : Bytes) :
    Avoids .assertion (parsePair codepoint is) := by
  unfold parsePair
  split_ifs
  · exact parseSurrogate_avoids _ _
  · exact Avoids.throw (by decide)
  · exact Avoids.pure _

/-- A code unit or a pair of them is below the end of Unicode. -/
theorem parsePair_le {codepoint v : ℕ} (h : codepoint < 0x10000) {is is' : Bytes}
    (hpair : parsePair codepoint is = .ok (v, is')) : v ≤ 0x10FFFF := by
  unfold parsePair at hpair
  split_ifs at hpair
  · obtain ⟨ds, low, -, hlow, -, rfl⟩ := parseSurrogate_eq_ok_iff.mp hpair
    omega
  · cases hpair
    omega

theorem encode_avoids {codepoint : ℕ} (h : codepoint ≤ 0x10FFFF) :
    Avoids .assertion (encode codepoint) := by
  unfold encode
  rw [if_pos h]
  split_ifs <;> exact Avoids.pure _

theorem parseEscape_avoids (is : Bytes) : Avoids .assertion (parseEscape is) := by
  cases is with
  | nil => exact Avoids.throw (by decide)
  | cons e is =>
    rw [parseEscape]
    split_ifs
    · exact Avoids.pure _
    · apply (parseHex_avoids 4 0 is).bind
      rintro ⟨codepoint, is1⟩ hhex
      obtain ⟨ds, hds, -⟩ := parseHex4_eq_ok_iff.mp hhex
      apply (parsePair_avoids codepoint is1).bind
      rintro ⟨codepoint2, is2⟩ hpair
      exact (encode_avoids (parsePair_le hds.lt hpair)).bind fun bytes _ => Avoids.pure _
    · exact Avoids.throw (by decide)

/-- No assertion fails on what might be a string. -/
theorem parseString_avoids (is : Bytes) : Avoids .assertion (parseString (34 :: is)) := by
  have loop (os is : Bytes) : Avoids .assertion (parseStringToStream os is) := by
    fun_induction parseStringToStream os is with
    | case1 => exact Avoids.throw (by decide)
    | case2 os is e hparse =>
      have hescape := parseEscape_avoids is
      rw [hparse] at hescape
      intro h
      cases h
      exact hescape rfl
    | case3 os is bytes is1 hparse ih => exact ih
    | case4 => exact Avoids.pure _
    | case5 => exact Avoids.throw (by decide)
    | case6 => exact Avoids.throw (by decide)
    | case7 os c is _ _ _ ih => exact ih
  exact loop [] is

end DcapQvl.Rapidjson
