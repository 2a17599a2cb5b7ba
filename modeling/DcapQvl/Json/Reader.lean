import DcapQvl.Json.Grammar

/-!
# The iterative JSON reader

`GenericReader::IterativeParse` of rapidjson's `reader.h`, with the `GenericDocument` of
`document.h` as its handler: `Document::Parse<kParseIterativeFlag>` on a C string, which is
how `JsonParser::parse` reads. A state machine with a stack of its own stands for the
recursion over the nesting. An assertion of rapidjson that fails is a failure of its own
here, so that the model shows whether one can fail.

Results:
* `parseValue_of_text`, `text_of_parseValue`: the scalars that are read are those of the
  grammar.
* `parseValue_avoids`: no assertion fails on a scalar.
* `step_length`: every round of the loop takes a character, so the loop ends.
-/

namespace DcapQvl.Rapidjson

open Lib

/-! ## Scalars -/

/-- `Consume` of one character after the other. -/
def consumeAll : Bytes → Bytes → Option Bytes
  | [], is => some is
  | _ :: _, [] => none
  | c :: expect, d :: is => if d = c then consumeAll expect is else none

/-- `ParseNull`, `ParseTrue` and `ParseFalse`: the text after its first character and the
    value of the event. -/
def parseWord (word : Bytes) (v : Json) (is : Bytes) : Except Failure (Json × Bytes) :=
  match consumeAll word is with
  | some is => .ok (v, is)
  | none => .error (.error .valueInvalid)

/-- `ParseValue`, as far as `Transit` calls it: not at the start of a container. -/
def parseValue (rd : DoubleReader) : Bytes → Except Failure (Json × Bytes)
  | 110 :: is => parseWord (str "ull") .null is
  | 116 :: is => parseWord (str "rue") (.bool true) is
  | 102 :: is => parseWord (str "alse") (.bool false) is
  | 34 :: is => (parseString (34 :: is)).map fun r => (.string r.1, r.2)
  | 123 :: _ => .error .assertion
  | 91 :: _ => .error .assertion
  | is => parseNumber rd is

theorem consumeAll_eq_some_iff {word is is' : Bytes} :
    consumeAll word is = some is' ↔ is = word ++ is' := by
  induction word generalizing is with
  | nil => simp [consumeAll]
  | cons c word ih =>
    cases is with
    | nil => simp [consumeAll]
    | cons d is =>
      rw [consumeAll]
      split_ifs with h
      · rw [ih, h]
        simp
      · simp [h]

theorem parseWord_eq_ok_iff {word is is' : Bytes} {v w : Json} :
    parseWord word v is = .ok (w, is') ↔ w = v ∧ is = word ++ is' := by
  rw [parseWord, ← consumeAll_eq_some_iff]
  cases consumeAll word is with
  | none => simp
  | some rest => simp [eq_comm]

theorem text_of_value {rd : DoubleReader} {n : Number} {v : Json} (h : n.value rd = .ok v) :
    n.text ∈ scalarTexts rd v := by
  obtain ⟨⟨acc, exp⟩, -, hfinish⟩ := bind_eq_ok.mp h
  dsimp only at hfinish
  unfold finishNumber at hfinish
  cases hd : acc.d with
  | none =>
    rw [hd] at hfinish
    cases hfinish
    exact ⟨n, h, rfl⟩
  | some d =>
    rw [hd] at hfinish
    obtain ⟨d', -, hfinish⟩ := bind_eq_ok.mp hfinish
    split_ifs at hfinish
    all_goals
      cases hfinish
      exact ⟨n, h, rfl⟩

/-- What is read as a scalar is one of its texts. -/
theorem text_of_parseValue {rd : DoubleReader} {s rest : Bytes} {v : Json}
    (h : parseValue rd s = .ok (v, rest)) : ∃ t ∈ scalarTexts rd v, s = t ++ rest := by
  unfold parseValue at h
  split at h
  · obtain ⟨rfl, rfl⟩ := parseWord_eq_ok_iff.mp h
    exact ⟨str "null", rfl, rfl⟩
  · obtain ⟨rfl, rfl⟩ := parseWord_eq_ok_iff.mp h
    exact ⟨str "true", rfl, rfl⟩
  · obtain ⟨rfl, rfl⟩ := parseWord_eq_ok_iff.mp h
    exact ⟨str "false", rfl, rfl⟩
  · obtain ⟨⟨name, is⟩, hstring, h⟩ := map_eq_ok.mp h
    cases h
    obtain ⟨u, hu, hs⟩ := parseString_eq_ok_iff.mp hstring
    exact ⟨34 :: (u ++ [34]), ⟨u, hu, rfl⟩, by rw [hs]; simp⟩
  · cases h
  · cases h
  · obtain ⟨n, rfl, hv⟩ := exists_number h
    exact ⟨n.text, text_of_value hv, rfl⟩

/-- A character that a number starts with. -/
def isNumberStart (c : UInt8) : Bool := c = 45 || isDigit c

theorem Number.text_start (n : Number) : ∃ c t, n.text = c :: t ∧ isNumberStart c = true := by
  unfold Number.text
  cases n.minus with
  | true => exact ⟨45, _, rfl, rfl⟩
  | false => exact ⟨n.lead, _, rfl, by simp [isNumberStart, n.isDigit_lead]⟩

theorem parseValue_number (rd : DoubleReader) {c : UInt8} (hc : isNumberStart c = true)
    (is : Bytes) : parseValue rd (c :: is) = parseNumber rd (c :: is) := by
  unfold parseValue
  split
  case h_7 => rfl
  all_goals
    rename_i heq
    cases heq
    exact absurd hc (by decide)

/-- A text of a scalar is read as the scalar, up to a character that ends a number. -/
theorem parseValue_of_text {rd : DoubleReader} {t rest : Bytes} {v : Json}
    (ht : t ∈ scalarTexts rd v) (hrest : Stops isNumberChar rest) :
    parseValue rd (t ++ rest) = .ok (v, rest) := by
  have number (w : Json) (hw : t ∈ numberTexts rd w) : parseValue rd (t ++ rest) = .ok (w, rest) := by
    obtain ⟨n, hn, rfl⟩ := hw
    obtain ⟨c, u, hu, hc⟩ := n.text_start
    have hread := parseNumber_text rd n hrest
    rw [hn, hu, List.cons_append] at hread
    rw [hu, List.cons_append, parseValue_number rd hc, hread]
    rfl
  cases v with
  | null =>
    obtain rfl : t = str "null" := ht
    show parseWord (str "ull") .null (str "ull" ++ rest) = _
    exact parseWord_eq_ok_iff.mpr ⟨rfl, rfl⟩
  | bool b =>
    cases b with
    | true =>
      obtain rfl : t = str "true" := ht
      show parseWord (str "rue") (.bool true) (str "rue" ++ rest) = _
      exact parseWord_eq_ok_iff.mpr ⟨rfl, rfl⟩
    | false =>
      obtain rfl : t = str "false" := ht
      show parseWord (str "alse") (.bool false) (str "alse" ++ rest) = _
      exact parseWord_eq_ok_iff.mpr ⟨rfl, rfl⟩
  | int n => exact number _ ht
  | double bits => exact number _ ht
  | string s =>
    obtain ⟨u, hu, rfl⟩ := ht
    have hread : parseString (34 :: (u ++ 34 :: rest)) = .ok (s, rest) :=
      parseString_eq_ok_iff.mpr ⟨u, hu, rfl⟩
    rw [List.cons_append, List.append_assoc]
    show (parseString (34 :: (u ++ 34 :: rest))).map _ = _
    rw [hread]
    rfl
  | array vs => exact absurd ht (Language.notMem_zero t)
  | object ms => exact absurd ht (Language.notMem_zero t)

/-- A character that a scalar starts with. -/
def isScalarStart (c : UInt8) : Bool := c = 110 || c = 116 || c = 102 || c = 34 || isNumberStart c

theorem scalar_start {rd : DoubleReader} {v : Json} {t : Bytes} (h : t ∈ scalarTexts rd v) :
    ∃ c u, t = c :: u ∧ isScalarStart c = true := by
  have number (w : Json) (hw : t ∈ numberTexts rd w) :
      ∃ c u, t = c :: u ∧ isScalarStart c = true := by
    obtain ⟨n, -, rfl⟩ := hw
    obtain ⟨c, u, hu, hc⟩ := n.text_start
    exact ⟨c, u, hu, by simp [isScalarStart, hc]⟩
  cases v with
  | null => exact ⟨110, str "ull", h, by decide⟩
  | bool b =>
    cases b with
    | true => exact ⟨116, str "rue", h, by decide⟩
    | false => exact ⟨102, str "alse", h, by decide⟩
  | int n => exact number _ h
  | double bits => exact number _ h
  | string s =>
    obtain ⟨u, -, rfl⟩ := h
    exact ⟨34, _, rfl, by decide⟩
  | array vs => exact absurd h (Language.notMem_zero t)
  | object ms => exact absurd h (Language.notMem_zero t)

theorem parseWord_avoids (word : Bytes) (v : Json) (is : Bytes) :
    Avoids .assertion (parseWord word v is) := by
  unfold parseWord
  cases consumeAll word is with
  | none => exact Avoids.throw (by decide)
  | some rest => exact Avoids.pure _

/-- No assertion fails on what might be a scalar. -/
theorem parseValue_avoids (rd : DoubleReader) {c : UInt8} (h91 : c ≠ 91) (h123 : c ≠ 123)
    (is : Bytes) : Avoids .assertion (parseValue rd (c :: is)) := by
  unfold parseValue
  split
  case h_4 =>
    rename_i heq
    cases heq
    exact (parseString_avoids is).map _
  case h_5 =>
    rename_i heq
    cases heq
    exact absurd rfl h123
  case h_6 =>
    rename_i heq
    cases heq
    exact absurd rfl h91
  case h_7 => exact parseNumber_avoids rd _
  all_goals exact parseWord_avoids _ _ _

/-! ## The state machine -/

/-- `IterativeParsingState`. -/
inductive ParsingState
  | finish | error | start
  | objectInitial | memberKey | memberValue | objectFinish
  | arrayInitial | element | arrayFinish
  | value
  | elementDelimiter | memberDelimiter | keyValueDelimiter
  deriving DecidableEq, Repr

/-- `Token`. -/
inductive Token
  | leftBracket | rightBracket | leftCurlyBracket | rightCurlyBracket | comma | colon
  | string | false | true | null | number
  deriving DecidableEq, Repr

/-- `Tokenize`. -/
def tokenize (c : UInt8) : Token :=
  if c = 91 then .leftBracket
  else if c = 93 then .rightBracket
  else if c = 123 then .leftCurlyBracket
  else if c = 125 then .rightCurlyBracket
  else if c = 44 then .comma
  else if c = 58 then .colon
  else if c = 34 then .string
  else if c = 102 then .false
  else if c = 116 then .true
  else if c = 110 then .null
  else .number

/-- A row of the table of `Predict` in which a value may start; `v` is the state after a
    scalar. -/
def predictValue (v : ParsingState) : Token → ParsingState
  | .leftBracket => .arrayInitial
  | .leftCurlyBracket => .objectInitial
  | .string | .false | .true | .null | .number => v
  | _ => .error

/-- `Predict`, the table of the states by row. -/
def predict : ParsingState → Token → ParsingState
  | .start, t => predictValue .value t
  | .objectInitial, .rightCurlyBracket => .objectFinish
  | .objectInitial, .string => .memberKey
  | .memberKey, .colon => .keyValueDelimiter
  | .memberValue, .rightCurlyBracket => .objectFinish
  | .memberValue, .comma => .memberDelimiter
  | .arrayInitial, .rightBracket => .arrayFinish
  | .arrayInitial, t => predictValue .element t
  | .element, .rightBracket => .arrayFinish
  | .element, .comma => .elementDelimiter
  | .elementDelimiter, .rightBracket => .arrayFinish
  | .elementDelimiter, t => predictValue .element t
  | .memberDelimiter, .rightCurlyBracket => .objectFinish
  | .memberDelimiter, .string => .memberKey
  | .keyValueDelimiter, t => predictValue .memberValue t
  | _, _ => .error

/-- The reader and its document: the state, the saved states with the counts of their
    containers (`GenericReader::stack_`), the values that are not in a container yet
    (`GenericDocument::stack_`), both from the top, and the rest of the text. -/
structure Config where
  state : ParsingState
  stack : List (ParsingState × ℕ)
  values : List Json
  is : Bytes

/-- The names and values of members, as they are on the stack of the document. -/
def membersOf : List Json → Option (List (Bytes × Json))
  | [] => some []
  | .string name :: v :: rest => (membersOf rest).map fun ms => (name, v) :: ms
  | _ => none

/-- `GenericDocument::EndArray`. -/
def endArray (elementCount : ℕ) (values : List Json) : Except Failure (List Json) :=
  match values.drop elementCount with
  | [] => .error .assertion
  | _ :: below => .ok (.array (values.take elementCount).reverse :: below)

/-- `GenericDocument::EndObject`; a member whose name is no string breaks the assertion of
    `Accept`. -/
def endObject (memberCount : ℕ) (values : List Json) : Except Failure (List Json) :=
  match membersOf (values.take (2 * memberCount)).reverse, values.drop (2 * memberCount) with
  | some members, _ :: below => .ok (.object members :: below)
  | _, _ => .error .assertion

/-- The end of a container in `Transit`: the count, the saved state and the event. -/
def closeContainer (last : ParsingState) (finish : ℕ → List Json → Except Failure (List Json))
    (c : Config) : Except Failure Config :=
  match c.stack with
  | [] => .error .assertion
  | (n, count) :: stack => do
    let values ← finish (if c.state = last then count + 1 else count) c.values
    .ok ⟨if n = .start then .finish else n, stack, values, c.is.tail⟩

/-- The state that `Transit` pushes at the start of a container. -/
def savedState (src : ParsingState) : ParsingState :=
  if src = .arrayInitial ∨ src = .elementDelimiter then .element
  else if src = .keyValueDelimiter then .memberValue
  else src

/-- `Transit(src, token, dst, is, handler)`, the state `src` in the configuration. -/
def transit (rd : DoubleReader) (token : Token) (dst : ParsingState) (c : Config) :
    Except Failure Config :=
  match dst with
  | .error => .ok { c with state := .error }
  | .objectInitial =>
    .ok ⟨dst, (savedState c.state, 0) :: c.stack, .object [] :: c.values, c.is.tail⟩
  | .arrayInitial =>
    .ok ⟨dst, (savedState c.state, 0) :: c.stack, .array [] :: c.values, c.is.tail⟩
  | .memberKey => do
    let (name, is) ← parseString c.is
    .ok ⟨dst, c.stack, .string name :: c.values, is⟩
  | .keyValueDelimiter =>
    if token = .colon then .ok { c with state := dst, is := c.is.tail } else .error .assertion
  | .memberValue | .element => do
    let (v, is) ← parseValue rd c.is
    .ok ⟨dst, c.stack, v :: c.values, is⟩
  | .memberDelimiter | .elementDelimiter =>
    match c.stack with
    | [] => .error .assertion
    | (n, count) :: stack => .ok ⟨dst, (n, count + 1) :: stack, c.values, c.is.tail⟩
  | .objectFinish =>
    if c.state = .memberDelimiter then .error (.error .objectMissName)
    else closeContainer .memberValue endObject c
  | .arrayFinish =>
    if c.state = .elementDelimiter then .error (.error .valueInvalid)
    else closeContainer .element endArray c
  | .value => do
    let (v, is) ← parseValue rd c.is
    .ok ⟨.finish, c.stack, v :: c.values, is⟩
  | .start | .finish => .error .assertion

/-- `HandleError(src, is)`, when no error is set yet. -/
def handleError : ParsingState → Failure
  | .start => .error .documentEmpty
  | .finish => .error .documentRootNotSingular
  | .objectInitial | .memberDelimiter => .error .objectMissName
  | .memberKey => .error .objectMissColon
  | .memberValue => .error .objectMissCommaOrCurlyBracket
  | .keyValueDelimiter | .arrayInitial | .elementDelimiter => .error .valueInvalid
  | .element => .error .arrayMissCommaOrSquareBracket
  | _ => .assertion

/-- A round of the loop of `IterativeParse`. -/
def step (rd : DoubleReader) (c : Config) : Except Failure Config := do
  let t := tokenize (peek c.is)
  let d ← transit rd t (predict c.state t) c
  if d.state = .error then .error (handleError c.state)
  else .ok { d with is := d.is.dropWhile isSpace }

theorem tail_length {is : Bytes} (h : is ≠ []) : is.tail.length < is.length := by
  have := List.length_pos_of_ne_nil h
  rw [List.length_tail]
  omega

theorem parseValue_length {rd : DoubleReader} {is is' : Bytes} {v : Json}
    (h : parseValue rd is = .ok (v, is')) : is'.length < is.length := by
  obtain ⟨t, ht, rfl⟩ := text_of_parseValue h
  obtain ⟨c, u, rfl, -⟩ := scalar_start ht
  simp

theorem parseString_length {is is' s : Bytes} (h : parseString is = .ok (s, is')) :
    is'.length < is.length := by
  obtain ⟨t, -, rfl⟩ := parseString_eq_ok_iff.mp h
  simp
  omega

theorem closeContainer_is {last : ParsingState} {finish : ℕ → List Json → Except Failure (List Json)}
    {c d : Config} (h : closeContainer last finish c = .ok d) : d.is = c.is.tail := by
  unfold closeContainer at h
  split at h
  · cases h
  · obtain ⟨values, -, h⟩ := bind_eq_ok.mp h
    cases h
    rfl

/-- `Transit` takes a character unless it goes to the state of an error. -/
theorem transit_length {rd : DoubleReader} {token : Token} {dst : ParsingState} {c d : Config}
    (h : transit rd token dst c = .ok d) (hc : c.is ≠ []) :
    d.state = .error ∨ d.is.length < c.is.length := by
  have htail := tail_length hc
  cases dst with
  | error => cases h; exact .inl rfl
  | start => cases h
  | finish => cases h
  | objectInitial => cases h; exact .inr htail
  | arrayInitial => cases h; exact .inr htail
  | keyValueDelimiter =>
    rw [transit] at h
    split_ifs at h
    cases h
    exact .inr htail
  | memberKey =>
    obtain ⟨⟨name, is⟩, hread, h⟩ := bind_eq_ok.mp h
    cases h
    exact .inr (parseString_length hread)
  | memberValue | element | value =>
    obtain ⟨⟨v, is⟩, hread, h⟩ := bind_eq_ok.mp h
    cases h
    exact .inr (parseValue_length hread)
  | memberDelimiter | elementDelimiter =>
    rw [transit] at h
    split at h
    · cases h
    · cases h
      exact .inr htail
  | objectFinish =>
    rw [transit] at h
    split_ifs at h
    exact .inr (by rw [closeContainer_is h]; exact htail)
  | arrayFinish =>
    rw [transit] at h
    split_ifs at h
    exact .inr (by rw [closeContainer_is h]; exact htail)

theorem length_dropWhile_le (p : UInt8 → Bool) (s : Bytes) : (s.dropWhile p).length ≤ s.length :=
  (List.dropWhile_sublist p).length_le

/-- A round of the loop takes a character. -/
theorem step_length {rd : DoubleReader} {c d : Config} (h : step rd c = .ok d) (hc : c.is ≠ []) :
    d.is.length < c.is.length := by
  obtain ⟨e, htransit, h⟩ := bind_eq_ok.mp h
  split_ifs at h with herror
  cases h
  exact (length_dropWhile_le _ _).trans_lt ((transit_length htransit hc).resolve_left herror)

/-- The loop of `IterativeParse` and the end of the text. -/
def iterate (rd : DoubleReader) (c : Config) : Except Failure Config :=
  if _hc : c.is = [] then
    if c.state = .finish then .ok c else .error (handleError c.state)
  else
    match _h : step rd c with
    | .error e => .error e
    | .ok d => iterate rd d
termination_by c.is.length
decreasing_by exact step_length _h _hc

/-- `IterativeParse` and the end of `ParseStream`, which takes the root off the stack. -/
def parse (rd : DoubleReader) (text : Bytes) : Except Failure Json := do
  let c ← iterate rd ⟨.start, [], [], text.dropWhile isSpace⟩
  match c.values with
  | [v] => .ok v
  | _ => .error .assertion

/-- `Document::Parse<kParseIterativeFlag>` on a C string. -/
def parseDocument (rd : DoubleReader) (json : Bytes) : Except Failure Json := parse rd (cStr json)

end DcapQvl.Rapidjson
