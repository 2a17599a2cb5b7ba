import Mathlib

/-!
# Records of fixed size

A record is a buffer of zero bytes into which fields are copied one after the
other; the position moves by the size of the field, which may be more than what
was copied.

Results:
* `Written.putField`: what has been written after a field is its bytes, padded.
* `fieldAt_flatten`: where a field of a record is.
* `HoldsString.takeWhile_eq`: a string is read up to its terminator.
-/

namespace DcapQvl.Lib

/-- `memcpy(&buffer[offset], src, src.size())`. -/
def copyInto (buffer : List UInt8) (offset : ℕ) (src : List UInt8) : List UInt8 :=
  buffer.take offset ++ src ++ buffer.drop (offset + src.length)

/-- A record that is being written and the position of the next field. -/
structure RecordWriter where
  buffer : List UInt8
  offset : ℕ

/-- A field is copied and the position moves by the field's size. -/
def RecordWriter.putField (size : ℕ) (src : List UInt8) (w : RecordWriter) : RecordWriter :=
  { buffer := copyInto w.buffer w.offset src, offset := w.offset + size }

/-- A field with zero bytes up to its size. -/
def padded (size : ℕ) (src : List UInt8) : List UInt8 := src ++ List.replicate (size - src.length) 0

theorem padded_length {size : ℕ} {src : List UInt8} (h : src.length ≤ size) :
    (padded size src).length = size := by
  rw [padded, List.length_append, List.length_replicate]
  omega

theorem padded_of_length_eq {size : ℕ} {src : List UInt8} (h : src.length = size) :
    padded size src = src := by
  rw [padded, h, Nat.sub_self, List.replicate_zero, List.append_nil]

/-- Some fields have been written into a record of a size, and the rest is zero. -/
structure Written (size : ℕ) (done : List UInt8) (w : RecordWriter) : Prop where
  offset_eq : w.offset = done.length
  buffer_eq : w.buffer = done ++ List.replicate (size - done.length) 0

theorem Written.empty (size : ℕ) : Written size [] ⟨List.replicate size 0, 0⟩ :=
  ⟨rfl, rfl⟩

theorem Written.putField {size fieldSize : ℕ} {done src : List UInt8} {w : RecordWriter}
    (h : Written size done w) (hsrc : src.length ≤ fieldSize)
    (hfits : done.length + fieldSize ≤ size) :
    Written size (done ++ padded fieldSize src) (w.putField fieldSize src) := by
  have hlen := padded_length hsrc
  constructor
  · rw [RecordWriter.putField, List.length_append, hlen, h.offset_eq]
  · have hrest : size - (done ++ padded fieldSize src).length =
        size - done.length - fieldSize := by
      rw [List.length_append, hlen]
      omega
    have hsplit : size - done.length - src.length =
        (fieldSize - src.length) + (size - done.length - fieldSize) := by
      omega
    rw [RecordWriter.putField, copyInto, h.offset_eq, h.buffer_eq, hrest, List.take_left,
      ← List.drop_drop, List.drop_left, List.drop_replicate, hsplit, List.replicate_add, padded]
    simp only [List.append_assoc]

/-! ## Slices -/

/-- The bytes of a field. -/
def fieldAt (offset size : ℕ) (record : List UInt8) : List UInt8 := (record.drop offset).take size

theorem fieldAt_append_right {xs ys : List UInt8} {offset size : ℕ} (h : xs.length ≤ offset) :
    fieldAt offset size (xs ++ ys) = fieldAt (offset - xs.length) size ys := by
  rw [fieldAt, fieldAt, List.drop_append, List.drop_eq_nil_of_le h, List.nil_append]

theorem fieldAt_zero_append {xs ys : List UInt8} {size : ℕ} (h : xs.length = size) :
    fieldAt 0 size (xs ++ ys) = xs := by
  rw [fieldAt, List.drop_zero, ← h, List.take_left]

/-- A field of a record of fields of known sizes. -/
theorem fieldAt_flatten {fields : List (List UInt8)} {sizes : List ℕ}
    (hsizes : fields.map List.length = sizes) {n : ℕ} {field : List UInt8}
    (h : fields[n]? = some field) :
    fieldAt (sizes.take n).sum (sizes.getD n 0) fields.flatten = field := by
  obtain ⟨hn, rfl⟩ := List.getElem?_eq_some_iff.mp h
  have hsize : sizes.getD n 0 = fields[n].length := by
    rw [← hsizes, List.getD_eq_getElem?_getD, List.getElem?_map, List.getElem?_eq_getElem hn]
    rfl
  have hsplit : fields.flatten =
      (fields.take n).flatten ++ (fields[n] ++ (fields.drop (n + 1)).flatten) := by
    rw [← List.flatten_cons, ← List.flatten_append, ← List.drop_eq_getElem_cons,
      List.take_append_drop]
  have hoffset : (sizes.take n).sum = (fields.take n).flatten.length := by
    rw [List.length_flatten, ← hsizes, List.map_take]
  rw [hsplit, hoffset, hsize, fieldAt_append_right le_rfl, Nat.sub_self, fieldAt_zero_append rfl]

/-! ## Strings with a terminator -/

/-- A string in a field, with a zero byte after it and only zero bytes from there. -/
structure HoldsString (field s : List UInt8) : Prop where
  field_eq : field = padded field.length s
  length_lt : s.length < field.length
  noNul : 0 ∉ s

/-- The bytes before the first zero byte are the string. -/
theorem HoldsString.takeWhile_eq {field s : List UInt8} (h : HoldsString field s) :
    field.takeWhile (· ≠ 0) = s := by
  have hpos : field.length - s.length = field.length - s.length - 1 + 1 := by
    have := h.length_lt
    omega
  have hall : ∀ b ∈ s, decide (b ≠ 0) = true := by
    intro b hb
    exact decide_eq_true fun hzero => h.noNul (hzero ▸ hb)
  rw [h.field_eq, padded, hpos, List.replicate_succ, List.takeWhile_append_of_pos hall]
  simp

theorem holdsString_padded {size : ℕ} {s : List UInt8} (hlength : s.length < size)
    (hnoNul : 0 ∉ s) : HoldsString (padded size s) s := by
  have hsize := padded_length hlength.le
  exact ⟨by rw [hsize], by rw [hsize]; exact hlength, hnoNul⟩

end DcapQvl.Lib
