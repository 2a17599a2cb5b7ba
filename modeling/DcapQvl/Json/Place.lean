import DcapQvl.Json.Reader

/-!
# Places in an unfinished document

A configuration of the reader stands for a place in an unfinished document: the open
containers with what they hold so far, and what is to come next. The texts that finish a
document from a place are a language.

Results:
* `endArray_eq`, `endObject_eq`: the document takes the values of a container off its stack.
* `rest_stops`: a text that finishes a document does not start with white space.
-/

namespace DcapQvl.Rapidjson

open Lib

/-! ## Places in a document -/

/-- An open container around a place: what it holds before the value of the place. -/
inductive Frame
  /-- An array. -/
  | elements (done : List Json)
  /-- An object with the name of the member whose value the place is in. -/
  | members (done : List (Bytes × Json)) (name : Bytes)

/-- A place in an unfinished document. The open containers are given from the inside. -/
inductive Place
  /-- Before a value, or before the end of an empty array. -/
  | value (frames : List Frame)
  /-- After the value `v`. -/
  | closed (frames : List Frame) (v : Json)
  /-- Before the name of a member of an object, or before the end of an empty object. -/
  | key (frames : List Frame) (done : List (Bytes × Json))
  /-- After the name of a member. -/
  | colon (frames : List Frame) (done : List (Bytes × Json)) (name : Bytes)

/-- The state in which the reader goes on after a container. -/
def returnState : List Frame → ParsingState
  | [] => .start
  | .elements _ :: _ => .element
  | .members _ _ :: _ => .memberValue

/-- The number of values that a container holds. -/
def Frame.count : Frame → ℕ
  | .elements done => done.length
  | .members done _ => done.length

/-- The stack of the reader. -/
def stackOf : List Frame → List (ParsingState × ℕ)
  | [] => []
  | f :: frames => (returnState frames, f.count) :: stackOf frames

/-- The members of an object on the stack of the document. -/
def flatten (members : List (Bytes × Json)) : List Json :=
  (members.flatMap fun m => [.string m.1, m.2]).reverse

/-- The stack of the document. -/
def valuesOf : List Frame → List Json
  | [] => []
  | .elements done :: frames => done.reverse ++ .array [] :: valuesOf frames
  | .members done name :: frames =>
    .string name :: (flatten done ++ .object [] :: valuesOf frames)

/-- The state before a value. -/
def valueState : List Frame → ParsingState
  | [] => .start
  | .elements [] :: _ => .arrayInitial
  | .elements (_ :: _) :: _ => .elementDelimiter
  | .members _ _ :: _ => .keyValueDelimiter

/-- The state after a value. -/
def closedState : List Frame → ParsingState
  | [] => .finish
  | .elements _ :: _ => .element
  | .members _ _ :: _ => .memberValue

/-- The state before a name. -/
def keyState : List (Bytes × Json) → ParsingState
  | [] => .objectInitial
  | _ :: _ => .memberDelimiter

/-- The configuration of the reader at a place, with the rest of the text. -/
def Place.config : Place → Bytes → Config
  | .value frames, is => ⟨valueState frames, stackOf frames, valuesOf frames, is⟩
  | .closed frames v, is => ⟨closedState frames, stackOf frames, v :: valuesOf frames, is⟩
  | .key frames done, is =>
    ⟨keyState done, (returnState frames, done.length) :: stackOf frames,
      flatten done ++ .object [] :: valuesOf frames, is⟩
  | .colon frames done name, is =>
    ⟨.memberKey, (returnState frames, done.length) :: stackOf frames,
      .string name :: (flatten done ++ .object [] :: valuesOf frames), is⟩

/-! ## Texts that finish a document -/

/-- What may follow the value `w` and finish the document as `v`. -/
def closing (rd : DoubleReader) (v : Json) : List Frame → Json → Language UInt8
  | [], w => {t | t = [] ∧ w = v}
  | .elements done :: frames, w =>
    restElems rd fun vs => closing rd v frames (.array (done ++ w :: vs))
  | .members done name :: frames, w =>
    restMembers rd fun ms => closing rd v frames (.object (done ++ (name, w) :: ms))

/-- The end of an array in which nothing has been read. -/
def emptyEnd (rd : DoubleReader) (v : Json) : List Frame → Language UInt8
  | .elements [] :: frames => token 93 * (ws * closing rd v frames (.array []))
  | _ => 0

/-- The end of an object in which nothing has been read. -/
def noMembersEnd (rd : DoubleReader) (v : Json) (frames : List Frame) :
    List (Bytes × Json) → Language UInt8
  | [] => token 125 * (ws * closing rd v frames (.object []))
  | _ :: _ => 0

/-- The texts that finish the document as `v`, without white space before. -/
def Place.rest (rd : DoubleReader) (v : Json) : Place → Language UInt8
  | .value frames => emptyEnd rd v frames + anyValue rd (closing rd v frames)
  | .closed frames w => closing rd v frames w
  | .key frames done => noMembersEnd rd v frames done +
      anyMember rd fun m => closing rd v (.members done m.1 :: frames) m.2
  | .colon frames done name => namedMember rd (closing rd v (.members done name :: frames))

/-! ## Stacks -/

theorem length_flatten (ms : List (Bytes × Json)) : (flatten ms).length = 2 * ms.length := by
  unfold flatten
  induction ms with
  | nil => rfl
  | cons m ms ih =>
    simp only [List.flatMap_cons, List.length_reverse, List.length_append, List.length_cons,
      List.length_nil] at *
    omega

theorem flatten_snoc (ms : List (Bytes × Json)) (name : Bytes) (v : Json) :
    flatten (ms ++ [(name, v)]) = v :: .string name :: flatten ms := by
  simp [flatten]

theorem membersOf_flatten (ms : List (Bytes × Json)) :
    membersOf (flatten ms).reverse = some ms := by
  unfold flatten
  rw [List.reverse_reverse]
  induction ms with
  | nil => rfl
  | cons m ms ih =>
    show (membersOf (ms.flatMap fun m => [.string m.1, m.2])).map _ = _
    rw [ih]
    rfl

theorem endArray_eq (vs below : List Json) :
    endArray vs.length (vs.reverse ++ .array [] :: below) = .ok (.array vs :: below) := by
  unfold endArray
  rw [List.drop_left' vs.length_reverse, List.take_left' vs.length_reverse, List.reverse_reverse]

theorem endObject_eq (ms : List (Bytes × Json)) (below : List Json) :
    endObject ms.length (flatten ms ++ .object [] :: below) = .ok (.object ms :: below) := by
  unfold endObject
  rw [List.drop_left' (length_flatten ms), List.take_left' (length_flatten ms),
    membersOf_flatten]

theorem savedState_valueState (frames : List Frame) :
    savedState (valueState frames) = returnState frames := by
  rcases frames with _ | ⟨_ | _, frames⟩
  · rfl
  · rename_i done
    cases done <;> rfl
  · rfl

theorem returnState_closed (frames : List Frame) :
    (if returnState frames = .start then .finish else returnState frames) =
      closedState frames := by
  rcases frames with _ | ⟨_ | _, frames⟩ <;> rfl

/-! ## How texts start -/

theorem closing_start {rd : DoubleReader} {v w : Json} {frames : List Frame} {t : Bytes}
    (h : t ∈ closing rd v frames w) : t = [] ∨ ∃ c u, t = c :: u ∧ (c = 44 ∨ c = 93 ∨ c = 125) := by
  rcases frames with _ | ⟨_ | _, frames⟩
  · exact .inl h.1
  · rw [closing, restElems_eq] at h
    rcases h with h | h
    · obtain ⟨u, -, rfl⟩ := exists_of_mem_token_mul h
      exact .inr ⟨93, u, rfl, by simp⟩
    · obtain ⟨u, -, rfl⟩ := exists_of_mem_token_mul h
      exact .inr ⟨44, u, rfl, by simp⟩
  · rw [closing, restMembers_eq] at h
    rcases h with h | h
    · obtain ⟨u, -, rfl⟩ := exists_of_mem_token_mul h
      exact .inr ⟨125, u, rfl, by simp⟩
    · obtain ⟨u, -, rfl⟩ := exists_of_mem_token_mul h
      exact .inr ⟨44, u, rfl, by simp⟩

/-- A character that ends a value is no part of it. -/
theorem closing_stops {p : UInt8 → Bool} (hp : p 44 = false ∧ p 93 = false ∧ p 125 = false)
    {rd : DoubleReader} {v w : Json} {frames : List Frame} {t : Bytes}
    (h : t ∈ closing rd v frames w) : Stops p t := by
  rcases closing_start h with rfl | ⟨c, u, rfl, rfl | rfl | rfl⟩
  · exact stops_nil p
  · exact stops_cons.mpr hp.1
  · exact stops_cons.mpr hp.2.1
  · exact stops_cons.mpr hp.2.2

theorem ws_closing_stops {rd : DoubleReader} {v w : Json} {frames : List Frame} {t : Bytes}
    (h : t ∈ ws * closing rd v frames w) : Stops isNumberChar t := by
  obtain ⟨r, hr, u, hu, rfl⟩ := Language.mem_mul.mp h
  cases r with
  | nil => exact closing_stops (by decide) hu
  | cons c r =>
    apply stops_cons.mpr
    have hc := hr c (by simp)
    simp only [isSpace, Bool.or_eq_true, decide_eq_true_eq] at hc
    rcases hc with ((rfl | rfl) | rfl) | rfl <;> decide

theorem anyScalar_start {rd : DoubleReader} {K : Json → Language UInt8} {t : Bytes}
    (h : t ∈ anyScalar rd K) : ∃ c u, t = c :: u ∧ isScalarStart c = true := by
  obtain ⟨v, h⟩ := Language.mem_iSup.mp h
  obtain ⟨s, hs, r, -, rfl⟩ := Language.mem_mul.mp h
  obtain ⟨c, u, rfl, hc⟩ := scalar_start hs
  exact ⟨c, u ++ r, rfl, hc⟩

/-- A character that a value starts with. -/
def isValueStart (c : UInt8) : Bool := isScalarStart c || c = 91 || c = 123

theorem anyValue_start {rd : DoubleReader} {K : Json → Language UInt8} {t : Bytes}
    (h : t ∈ anyValue rd K) : ∃ c u, t = c :: u ∧ isValueStart c = true := by
  rw [anyValue_eq] at h
  rcases h with h | h | h
  · obtain ⟨c, u, rfl, hc⟩ := anyScalar_start h
    exact ⟨c, u, rfl, by simp [isValueStart, hc]⟩
  · obtain ⟨u, -, rfl⟩ := exists_of_mem_token_mul h
    exact ⟨91, u, rfl, by decide⟩
  · obtain ⟨u, -, rfl⟩ := exists_of_mem_token_mul h
    exact ⟨123, u, rfl, by decide⟩

theorem anyMember_start {rd : DoubleReader} {K : Bytes × Json → Language UInt8} {t : Bytes}
    (h : t ∈ anyMember rd K) : ∃ u, t = 34 :: u := by
  obtain ⟨name, h⟩ := Language.mem_iSup.mp h
  obtain ⟨s, ⟨u, -, rfl⟩, r, -, rfl⟩ := Language.mem_mul.mp h
  exact ⟨_, rfl⟩

theorem emptyEnd_start {rd : DoubleReader} {v : Json} {frames : List Frame} {t : Bytes}
    (h : t ∈ emptyEnd rd v frames) : ∃ u, t = 93 :: u := by
  unfold emptyEnd at h
  split at h
  · obtain ⟨u, -, rfl⟩ := exists_of_mem_token_mul h
    exact ⟨u, rfl⟩
  · exact absurd h (Language.notMem_zero t)

theorem noMembersEnd_start {rd : DoubleReader} {v : Json} {frames : List Frame}
    {done : List (Bytes × Json)} {t : Bytes} (h : t ∈ noMembersEnd rd v frames done) :
    ∃ u, t = 125 :: u := by
  cases done with
  | nil =>
    obtain ⟨u, -, rfl⟩ := exists_of_mem_token_mul h
    exact ⟨u, rfl⟩
  | cons m done => exact absurd h (Language.notMem_zero t)

theorem not_isSpace {c : UInt8} (h : isValueStart c = true) : isSpace c = false := by
  apply Bool.eq_false_iff.mpr
  intro hspace
  simp only [isSpace, Bool.or_eq_true, decide_eq_true_eq] at hspace
  rcases hspace with ((rfl | rfl) | rfl) | rfl <;> exact absurd h (by decide)

/-- The text from a place on does not start with white space. -/
theorem rest_stops {rd : DoubleReader} {v : Json} {z : Place} {t : Bytes}
    (h : t ∈ z.rest rd v) : Stops isSpace t := by
  cases z with
  | value frames =>
    rcases h with h | h
    · obtain ⟨u, rfl⟩ := emptyEnd_start h
      exact stops_cons.mpr (by decide)
    · obtain ⟨c, u, rfl, hc⟩ := anyValue_start h
      exact stops_cons.mpr (not_isSpace hc)
  | closed frames w => exact closing_stops (by decide) h
  | key frames done =>
    rcases h with h | h
    · obtain ⟨u, rfl⟩ := noMembersEnd_start h
      exact stops_cons.mpr (by decide)
    · obtain ⟨u, rfl⟩ := anyMember_start h
      exact stops_cons.mpr (by decide)
  | colon frames done name =>
    obtain ⟨u, -, rfl⟩ := exists_of_mem_token_mul h
    exact stops_cons.mpr (by decide)

/-! ## The table of the states -/

/-- The state that the table has for a scalar. -/
def scalarState : List Frame → ParsingState
  | [] => .value
  | f :: frames => closedState (f :: frames)

theorem predict_valueState (frames : List Frame) {t : Token} (ht : t ≠ .rightBracket) :
    predict (valueState frames) t = predictValue (scalarState frames) t := by
  rcases frames with _ | ⟨_ | _, frames⟩
  · rfl
  · rename_i done
    cases done <;> cases t <;> first | rfl | exact absurd rfl ht
  · rfl

theorem predictValue_scalar {s : ParsingState} {c : UInt8} (h91 : c ≠ 91) (h93 : c ≠ 93)
    (h123 : c ≠ 123) (h125 : c ≠ 125) (h44 : c ≠ 44) (h58 : c ≠ 58) :
    predictValue s (tokenize c) = s := by
  rw [tokenize, if_neg h91, if_neg h93, if_neg h123, if_neg h125, if_neg h44, if_neg h58]
  split_ifs <;> rfl

theorem tokenize_ne_rightBracket {c : UInt8} (h93 : c ≠ 93) : tokenize c ≠ .rightBracket := by
  unfold tokenize
  split_ifs <;> decide

theorem predict_element {c : UInt8} (h93 : c ≠ 93) (h44 : c ≠ 44) :
    predict .element (tokenize c) = .error := by
  unfold tokenize
  split_ifs <;> rfl

theorem predict_memberValue {c : UInt8} (h125 : c ≠ 125) (h44 : c ≠ 44) :
    predict .memberValue (tokenize c) = .error := by
  unfold tokenize
  split_ifs <;> rfl

theorem predict_key {done : List (Bytes × Json)} {c : UInt8} (h125 : c ≠ 125) (h34 : c ≠ 34) :
    predict (keyState done) (tokenize c) = .error := by
  unfold tokenize
  cases done <;> split_ifs <;> rfl

theorem predict_memberKey {c : UInt8} (h58 : c ≠ 58) :
    predict .memberKey (tokenize c) = .error := by
  unfold tokenize
  split_ifs <;> rfl

end DcapQvl.Rapidjson
