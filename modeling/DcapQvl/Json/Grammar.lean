import DcapQvl.Json.Strings

/-!
# The grammar of JSON

The texts of a value, as a language over bytes for each value. White space may stand
between any two tokens, an array or an object has no comma after its last element, and
a number or a string has the texts that `Number` and `Chars` describe.

Results:
* `anyValue_eq`: a value is a scalar or starts with a bracket, as an equation between
  languages; what follows the value is arbitrary and may depend on it.
* `restElems_eq`, `restMembers_eq`: an array or an object is closed or goes on with a comma.
-/

namespace DcapQvl.Rapidjson

open Lib

/-! ## Texts -/

/-- The characters that `SkipWhitespace` skips. -/
def isSpace (c : UInt8) : Bool := c = 32 || c = 10 || c = 13 || c = 9

/-- White space between tokens. -/
def ws : Language UInt8 := runs isSpace

/-- The texts of a string. -/
def stringTexts (s : Bytes) : Language UInt8 := {t | ∃ u, Chars s u ∧ t = 34 :: (u ++ [34])}

/-- The texts of a number. -/
def numberTexts (rd : DoubleReader) (v : Json) : Language UInt8 :=
  {t | ∃ n : Number, n.value rd = .ok v ∧ t = n.text}

/-- The texts of a value that is not a container. -/
def scalarTexts (rd : DoubleReader) : Json → Language UInt8
  | .null => {str "null"}
  | .bool true => {str "true"}
  | .bool false => {str "false"}
  | .int n => numberTexts rd (.int n)
  | .double bits => numberTexts rd (.double bits)
  | .string s => stringTexts s
  | .array _ => 0
  | .object _ => 0

mutual
/-- The texts of a value. -/
def texts (rd : DoubleReader) : Json → Language UInt8
  | .array vs => token 91 * (ws * elemTexts rd vs)
  | .object ms => token 123 * (ws * memberTexts rd ms)
  | v => scalarTexts rd v

/-- The elements of an array and its closing bracket. -/
def elemTexts (rd : DoubleReader) : List Json → Language UInt8
  | [] => token 93
  | v :: vs => texts rd v * (ws * moreElems rd vs)

/-- The elements after an element, and the closing bracket. -/
def moreElems (rd : DoubleReader) : List Json → Language UInt8
  | [] => token 93
  | v :: vs => token 44 * (ws * (texts rd v * (ws * moreElems rd vs)))

/-- The members of an object and its closing bracket. -/
def memberTexts (rd : DoubleReader) : List (Bytes × Json) → Language UInt8
  | [] => token 125
  | (name, v) :: ms =>
    stringTexts name * (ws * (token 58 * (ws * (texts rd v * (ws * moreMembers rd ms)))))

/-- The members after a member, and the closing bracket. -/
def moreMembers (rd : DoubleReader) : List (Bytes × Json) → Language UInt8
  | [] => token 125
  | (name, v) :: ms =>
    token 44 * (ws * (stringTexts name *
      (ws * (token 58 * (ws * (texts rd v * (ws * moreMembers rd ms)))))))
end

/-- The texts of a document. -/
def documentTexts (rd : DoubleReader) (v : Json) : Language UInt8 := ws * (texts rd v * ws)

/-! ## Equations

What follows a part of a document depends on what has been read, so it is a function `K`
of it. -/

/-- A value and what follows it. -/
def anyValue (rd : DoubleReader) (K : Json → Language UInt8) : Language UInt8 :=
  ⨆ v, texts rd v * (ws * K v)

/-- A scalar and what follows it. -/
def anyScalar (rd : DoubleReader) (K : Json → Language UInt8) : Language UInt8 :=
  ⨆ v, scalarTexts rd v * (ws * K v)

/-- The rest of an array after an element, and what follows the array. -/
def restElems (rd : DoubleReader) (K : List Json → Language UInt8) : Language UInt8 :=
  ⨆ vs, moreElems rd vs * (ws * K vs)

/-- A member after its name, and what follows it. -/
def namedMember (rd : DoubleReader) (K : Json → Language UInt8) : Language UInt8 :=
  token 58 * (ws * anyValue rd K)

/-- A member and what follows it. -/
def anyMember (rd : DoubleReader) (K : Bytes × Json → Language UInt8) : Language UInt8 :=
  ⨆ name, stringTexts name * (ws * namedMember rd fun v => K (name, v))

/-- The rest of an object after a member, and what follows the object. -/
def restMembers (rd : DoubleReader) (K : List (Bytes × Json) → Language UInt8) :
    Language UInt8 :=
  ⨆ ms, moreMembers rd ms * (ws * K ms)

theorem iSup_list {α : Type} (f : List α → Language UInt8) :
    ⨆ xs, f xs = f [] + ⨆ x, ⨆ xs, f (x :: xs) := by
  ext s
  simp only [Language.mem_iSup, Language.mem_add]
  constructor
  · rintro ⟨_ | ⟨x, xs⟩, h⟩
    · exact .inl h
    · exact .inr ⟨x, xs, h⟩
  · rintro (h | ⟨x, xs, h⟩)
    · exact ⟨[], h⟩
    · exact ⟨x :: xs, h⟩

theorem restElems_eq (rd : DoubleReader) (K : List Json → Language UInt8) :
    restElems rd K = token 93 * (ws * K []) +
      token 44 * (ws * anyValue rd fun v => restElems rd fun vs => K (v :: vs)) := by
  simp only [restElems, anyValue]
  rw [iSup_list]
  simp only [moreElems, mul_assoc, Language.mul_iSup]

theorem iSup_prod {α β : Type} (f : α × β → Language UInt8) :
    ⨆ p, f p = ⨆ x, ⨆ y, f (x, y) := by
  ext s
  simp only [Language.mem_iSup, Prod.exists]

theorem restMembers_eq (rd : DoubleReader) (K : List (Bytes × Json) → Language UInt8) :
    restMembers rd K = token 125 * (ws * K []) +
      token 44 * (ws * anyMember rd fun m => restMembers rd fun ms => K (m :: ms)) := by
  simp only [restMembers, anyMember, namedMember, anyValue]
  rw [iSup_list, iSup_prod]
  simp only [moreMembers, mul_assoc, Language.mul_iSup]

/-- The inside of an array after its bracket, and what follows the array. -/
theorem iSup_elemTexts (rd : DoubleReader) (K : List Json → Language UInt8) :
    ⨆ vs, elemTexts rd vs * (ws * K vs) = token 93 * (ws * K []) +
      anyValue rd fun v => restElems rd fun vs => K (v :: vs) := by
  simp only [restElems, anyValue]
  rw [iSup_list]
  simp only [elemTexts, mul_assoc, Language.mul_iSup]

/-- The inside of an object after its bracket, and what follows the object. -/
theorem iSup_memberTexts (rd : DoubleReader) (K : List (Bytes × Json) → Language UInt8) :
    ⨆ ms, memberTexts rd ms * (ws * K ms) = token 125 * (ws * K []) +
      anyMember rd fun m => restMembers rd fun ms => K (m :: ms) := by
  simp only [restMembers, anyMember, namedMember, anyValue]
  rw [iSup_list, iSup_prod]
  simp only [memberTexts, mul_assoc, Language.mul_iSup]

theorem texts_of_scalar (rd : DoubleReader) {v : Json} (ha : ∀ vs, v ≠ .array vs)
    (ho : ∀ ms, v ≠ .object ms) : texts rd v = scalarTexts rd v := by
  cases v with
  | array vs => exact absurd rfl (ha vs)
  | object ms => exact absurd rfl (ho ms)
  | _ => simp only [texts]

/-- A value is a scalar, an array or an object. -/
theorem anyValue_eq (rd : DoubleReader) (K : Json → Language UInt8) :
    anyValue rd K = anyScalar rd K +
      (token 91 * (ws * (token 93 * (ws * K (.array [])) +
          anyValue rd fun v => restElems rd fun vs => K (.array (v :: vs)))) +
        token 123 * (ws * (token 125 * (ws * K (.object [])) +
          anyMember rd fun m => restMembers rd fun ms => K (.object (m :: ms))))) := by
  rw [← iSup_elemTexts rd fun vs => K (.array vs),
    ← iSup_memberTexts rd fun ms => K (.object ms)]
  simp only [Language.mul_iSup]
  ext s
  simp only [anyValue, anyScalar, Language.mem_iSup, Language.mem_add]
  constructor
  · rintro ⟨v, h⟩
    cases v with
    | array vs => exact .inr (.inl ⟨vs, by simpa [texts, mul_assoc] using h⟩)
    | object ms => exact .inr (.inr ⟨ms, by simpa [texts, mul_assoc] using h⟩)
    | _ =>
      rw [texts_of_scalar rd (by simp) (by simp)] at h
      exact .inl ⟨_, h⟩
  · rintro (⟨v, h⟩ | ⟨vs, h⟩ | ⟨ms, h⟩)
    · cases v with
      | array vs =>
        rw [scalarTexts, zero_mul] at h
        exact absurd h (Language.notMem_zero s)
      | object ms =>
        rw [scalarTexts, zero_mul] at h
        exact absurd h (Language.notMem_zero s)
      | _ =>
        rw [← texts_of_scalar rd (by simp) (by simp)] at h
        exact ⟨_, h⟩
    · exact ⟨.array vs, by simpa [texts, mul_assoc] using h⟩
    · exact ⟨.object ms, by simpa [texts, mul_assoc] using h⟩

end DcapQvl.Rapidjson
