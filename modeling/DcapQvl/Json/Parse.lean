import DcapQvl.Json.Place

/-!
# The reader accepts the grammar

A round of the reader goes from place to place and takes a character or more off the text,
in step with the texts that finish a document, or it fails and no text finishes the
document.

Results:
* `step_place`: a round of the loop, in both directions.
* `iterate_place`: a run from a place ends with the value that the text finishes, or with
  an error.
* `parse_eq_ok_iff`: what is read as a value is one of its texts, with white space around.
-/

namespace DcapQvl.Rapidjson

open Lib

/-! ## A round of the loop -/

/-- What a round from the place does: it goes on to a place with the same finished
    documents, or it fails with an error and the text finishes no document. -/
def Follows (rd : DoubleReader) (z : Place) (text : Bytes) : Prop :=
  (∃ (z' : Place) (is : Bytes), step rd (z.config text) = .ok (z'.config is) ∧
    ∀ v, text ∈ z.rest rd v ↔ is ∈ z'.rest rd v) ∨
  ∃ code, step rd (z.config text) = .error (.error code) ∧ ∀ v, text ∉ z.rest rd v

/-- The step of `Transit` at a place. -/
def Place.transit (rd : DoubleReader) (z : Place) (text : Bytes) : Except Failure Config :=
  Rapidjson.transit rd (tokenize (peek text))
    (predict (z.config text).state (tokenize (peek text))) (z.config text)

theorem config_state (z : Place) (is : Bytes) : (z.config is).state ≠ .error := by
  rcases z with ⟨_ | ⟨_ | _, frames⟩⟩ | ⟨_ | ⟨_ | _, frames⟩, v⟩ | ⟨frames, _ | _⟩ | _
  case value.cons.elements done =>
    cases done <;> exact ParsingState.noConfusion
  all_goals exact ParsingState.noConfusion

@[simp]
theorem config_is (z : Place) (is : Bytes) : (z.config is).is = is := by
  cases z <;> rfl

theorem config_with_is (z : Place) (is is' : Bytes) :
    { z.config is with is := is' } = z.config is' := by
  cases z <;> rfl

theorem follows_of_transit {rd : DoubleReader} {z : Place} (z' : Place) {text : Bytes} (is : Bytes)
    (h : z.transit rd text = .ok (z'.config is))
    (hrest : ∀ v, text ∈ z.rest rd v ↔ is ∈ ws * z'.rest rd v) : Follows rd z text := by
  refine Or.inl ⟨z', is.dropWhile isSpace, ?_, ?_⟩
  · unfold step
    unfold Place.transit at h
    dsimp only
    rw [config_is, h, ok_bind, if_neg (config_state z' is), config_is, config_with_is]
  · intro v
    rw [hrest v]
    exact mem_run_mul fun t ht => rest_stops ht

theorem follows_of_error {rd : DoubleReader} {z : Place} {text : Bytes} (code : ParseErrorCode)
    (h : z.transit rd text = .error (.error code)) (hrest : ∀ v, text ∉ z.rest rd v) :
    Follows rd z text := by
  refine Or.inr ⟨code, ?_, hrest⟩
  unfold step
  unfold Place.transit at h
  dsimp only
  rw [config_is, h, error_bind]

/-- The states of the table in which a text may end or go wrong have an error of their own. -/
theorem handleError_place (z : Place) (is : Bytes) :
    ∃ code, handleError (z.config is).state = .error code := by
  rcases z with ⟨_ | ⟨_ | _, frames⟩⟩ | ⟨_ | ⟨_ | _, frames⟩, v⟩ | ⟨frames, _ | _⟩ | _
  case value.cons.elements done =>
    cases done <;> exact ⟨_, rfl⟩
  all_goals exact ⟨_, rfl⟩

theorem follows_of_predict {rd : DoubleReader} {z : Place} {c : UInt8} {is : Bytes}
    (h : predict (z.config (c :: is)).state (tokenize c) = .error)
    (hrest : ∀ v, c :: is ∉ z.rest rd v) : Follows rd z (c :: is) := by
  obtain ⟨code, hcode⟩ := handleError_place z (c :: is)
  refine Or.inr ⟨code, ?_, hrest⟩
  unfold step
  dsimp only
  rw [config_is]
  change (transit rd (tokenize c) (predict (z.config (c :: is)).state (tokenize c)) _ >>= _) = _
  rw [h, transit, ok_bind, if_pos rfl, hcode]

/-- The reader takes a scalar as the grammar has it. -/
theorem mem_anyScalar {rd : DoubleReader} {K : Json → Language UInt8} {s rest : Bytes} {w : Json}
    (hK : ∀ v, ∀ t ∈ ws * K v, Stops isNumberChar t) (h : parseValue rd s = .ok (w, rest)) :
    s ∈ anyScalar rd K ↔ rest ∈ ws * K w := by
  constructor
  · intro hs
    obtain ⟨v, hs⟩ := Language.mem_iSup.mp hs
    obtain ⟨t, ht, r, hr, rfl⟩ := Language.mem_mul.mp hs
    rw [parseValue_of_text ht (hK v r hr)] at h
    cases h
    exact hr
  · intro hrest
    obtain ⟨t, ht, rfl⟩ := text_of_parseValue h
    exact Language.mem_iSup.mpr ⟨w, Language.append_mem_mul ht hrest⟩

theorem not_mem_anyScalar {rd : DoubleReader} {K : Json → Language UInt8} {s : Bytes} {e : Failure}
    (hK : ∀ v, ∀ t ∈ ws * K v, Stops isNumberChar t) (h : parseValue rd s = .error e) :
    s ∉ anyScalar rd K := by
  intro hs
  obtain ⟨v, hs⟩ := Language.mem_iSup.mp hs
  obtain ⟨t, ht, r, hr, rfl⟩ := Language.mem_mul.mp hs
  rw [parseValue_of_text ht (hK v r hr)] at h
  cases h

/-- The reader takes the name of a member as the grammar has it. -/
theorem mem_anyMember {rd : DoubleReader} {K : Bytes × Json → Language UInt8} {s rest name : Bytes}
    (h : parseString s = .ok (name, rest)) :
    s ∈ anyMember rd K ↔ rest ∈ ws * namedMember rd fun v => K (name, v) := by
  constructor
  · intro hs
    obtain ⟨name', hs⟩ := Language.mem_iSup.mp hs
    obtain ⟨t, ⟨u, hu, rfl⟩, r, hr, rfl⟩ := Language.mem_mul.mp hs
    rw [List.cons_append, List.append_assoc, List.singleton_append,
      parseString_eq_ok_iff.mpr ⟨u, hu, rfl⟩] at h
    cases h
    exact hr
  · intro hrest
    obtain ⟨u, hu, rfl⟩ := parseString_eq_ok_iff.mp h
    have hname : 34 :: (u ++ [34]) ∈ stringTexts name := ⟨u, hu, rfl⟩
    refine Language.mem_iSup.mpr ⟨name, ?_⟩
    have := Language.append_mem_mul hname hrest
    rwa [List.cons_append, List.append_assoc] at this

theorem not_mem_anyMember {rd : DoubleReader} {K : Bytes × Json → Language UInt8} {s : Bytes}
    {e : Failure} (h : parseString s = .error e) : s ∉ anyMember rd K := by
  intro hs
  obtain ⟨name', hs⟩ := Language.mem_iSup.mp hs
  obtain ⟨t, ⟨u, hu, rfl⟩, r, hr, rfl⟩ := Language.mem_mul.mp hs
  rw [List.cons_append, List.append_assoc, List.singleton_append,
    parseString_eq_ok_iff.mpr ⟨u, hu, rfl⟩] at h
  cases h

/-- The text of an array. -/
theorem mem_anyValue_array {rd : DoubleReader} {K : Json → Language UInt8} {is : Bytes} :
    91 :: is ∈ anyValue rd K ↔
      is ∈ ws * (token 93 * (ws * K (.array [])) +
        anyValue rd fun v => restElems rd fun vs => K (.array (v :: vs))) := by
  have hscalar : 91 :: is ∉ anyScalar rd K := by
    intro h
    obtain ⟨d, u, heq, hd⟩ := anyScalar_start h
    cases heq
    exact absurd hd (by decide)
  rw [anyValue_eq, Language.mem_add, or_iff_right hscalar, Language.mem_add, cons_mem_token_mul,
    cons_mem_token_mul]
  simp

/-- The text of an object. -/
theorem mem_anyValue_object {rd : DoubleReader} {K : Json → Language UInt8} {is : Bytes} :
    123 :: is ∈ anyValue rd K ↔
      is ∈ ws * (token 125 * (ws * K (.object [])) +
        anyMember rd fun m => restMembers rd fun ms => K (.object (m :: ms))) := by
  have hscalar : 123 :: is ∉ anyScalar rd K := by
    intro h
    obtain ⟨d, u, heq, hd⟩ := anyScalar_start h
    cases heq
    exact absurd hd (by decide)
  rw [anyValue_eq, Language.mem_add, or_iff_right hscalar, Language.mem_add, cons_mem_token_mul,
    cons_mem_token_mul]
  simp

/-- The text of a value that starts with no bracket. -/
theorem mem_anyValue_scalar {rd : DoubleReader} {K : Json → Language UInt8} {c : UInt8}
    {is : Bytes} (h91 : c ≠ 91) (h123 : c ≠ 123) :
    c :: is ∈ anyValue rd K ↔ c :: is ∈ anyScalar rd K := by
  rw [anyValue_eq, Language.mem_add, Language.mem_add,
    cons_mem_token_mul, cons_mem_token_mul]
  simp [h91, h123]

theorem not_mem_anyValue {rd : DoubleReader} {K : Json → Language UInt8} {c : UInt8} {is : Bytes}
    (hc : isValueStart c = false) : c :: is ∉ anyValue rd K := by
  intro h
  obtain ⟨d, u, heq, hd⟩ := anyValue_start h
  cases heq
  rw [hc] at hd
  cases hd

theorem cons_not_mem_emptyEnd {rd : DoubleReader} {v : Json} {frames : List Frame} {c : UInt8}
    {is : Bytes} (hc : c ≠ 93) : c :: is ∉ emptyEnd rd v frames := by
  intro h
  obtain ⟨u, heq⟩ := emptyEnd_start h
  cases heq
  exact hc rfl

/-- A container is closed where the place after it is. -/
theorem closeContainer_place {last state : ParsingState}
    {finish : ℕ → List Json → Except Failure (List Json)} {frames : List Frame} {count : ℕ}
    {values : List Json} {v : Json}
    (h : finish (if state = last then count + 1 else count) values = .ok (v :: valuesOf frames))
    (c : UInt8) (is : Bytes) :
    closeContainer last finish
        ⟨state, (returnState frames, count) :: stackOf frames, values, c :: is⟩ =
      .ok (Place.config (.closed frames v) is) := by
  unfold closeContainer
  dsimp only
  rw [h, ok_bind, returnState_closed]
  rfl

/-- A round at the end of an array before any value. -/
theorem step_value_end (rd : DoubleReader) (frames : List Frame) (is : Bytes) :
    Follows rd (.value frames) (93 :: is) := by
  have hvalue (v : Json) : 93 :: is ∉ anyValue rd (closing rd v frames) :=
    not_mem_anyValue (by decide)
  rcases frames with _ | ⟨done | ⟨done, name⟩, frames⟩
  · apply follows_of_predict rfl
    rintro v (h | h)
    · exact Language.notMem_zero _ h
    · exact hvalue v h
  · cases done with
    | nil =>
      apply follows_of_transit (.closed frames (.array [])) is
      · show transit rd .rightBracket .arrayFinish ⟨.arrayInitial, _, _, _⟩ = _
        rw [transit, if_neg (by simp)]
        apply closeContainer_place
        exact endArray_eq [] (valuesOf frames)
      · intro v
        show 93 :: is ∈ token 93 * (ws * closing rd v frames (.array [])) + _ ↔ _
        rw [Language.mem_add, or_iff_left (hvalue v), cons_mem_token_mul, and_iff_right rfl]
        rfl
    | cons w done =>
      apply follows_of_error .valueInvalid
      · rfl
      · rintro v (h | h)
        · exact Language.notMem_zero _ h
        · exact hvalue v h
  · apply follows_of_predict rfl
    rintro v (h | h)
    · exact Language.notMem_zero _ h
    · exact hvalue v h

/-- A round on a scalar. -/
theorem step_value_scalar (rd : DoubleReader) (frames : List Frame) {c : UInt8} (is : Bytes)
    (h91 : c ≠ 91) (h93 : c ≠ 93) (h123 : c ≠ 123) (h125 : c ≠ 125) (h44 : c ≠ 44)
    (h58 : c ≠ 58) : Follows rd (.value frames) (c :: is) := by
  have htransit : Place.transit rd (.value frames) (c :: is) =
      (parseValue rd (c :: is)).bind fun r => .ok (Place.config (.closed frames r.1) r.2) := by
    show transit rd (tokenize c) (predict (valueState frames) (tokenize c)) _ = _
    rw [predict_valueState frames (tokenize_ne_rightBracket h93),
      predictValue_scalar h91 h93 h123 h125 h44 h58]
    rcases frames with _ | ⟨_ | _, frames⟩ <;> rfl
  have hrest (v : Json) : c :: is ∈ (Place.value frames).rest rd v ↔
      c :: is ∈ anyScalar rd (closing rd v frames) := by
    show c :: is ∈ emptyEnd rd v frames + anyValue rd (closing rd v frames) ↔ _
    rw [Language.mem_add, or_iff_right (cons_not_mem_emptyEnd h93), mem_anyValue_scalar h91 h123]
  have hstop (v w : Json) : ∀ t ∈ ws * closing rd v frames w, Stops isNumberChar t :=
    fun t ht => ws_closing_stops ht
  cases hread : parseValue rd (c :: is) with
  | ok r =>
    apply follows_of_transit (.closed frames r.1) r.2
    · rw [htransit, hread]
      rfl
    · intro v
      rw [hrest]
      exact mem_anyScalar (hstop v) hread
  | error e =>
    cases e with
    | error code =>
      apply follows_of_error code
      · rw [htransit, hread]
        rfl
      · intro v h
        exact not_mem_anyScalar (hstop v) hread ((hrest v).mp h)
    | assertion => exact absurd hread (parseValue_avoids rd h91 h123 is)

theorem step_value (rd : DoubleReader) (frames : List Frame) (c : UInt8) (is : Bytes) :
    Follows rd (.value frames) (c :: is) := by
  by_cases h91 : c = 91
  · subst h91
    apply follows_of_transit (.value (.elements [] :: frames)) is
    · show transit rd .leftBracket (predict (valueState frames) .leftBracket) _ = _
      rw [predict_valueState frames (by decide), predictValue, transit]
      show Except.ok (Config.mk .arrayInitial ((savedState (valueState frames), 0) :: _) _ _) = _
      rw [savedState_valueState]
      rfl
    · intro v
      show 91 :: is ∈ emptyEnd rd v frames + anyValue rd (closing rd v frames) ↔ _
      rw [Language.mem_add, or_iff_right (cons_not_mem_emptyEnd (by decide)), mem_anyValue_array]
      rfl
  by_cases h123 : c = 123
  · subst h123
    apply follows_of_transit (.key frames []) is
    · show transit rd .leftCurlyBracket (predict (valueState frames) .leftCurlyBracket) _ = _
      rw [predict_valueState frames (by decide), predictValue, transit]
      show Except.ok (Config.mk .objectInitial ((savedState (valueState frames), 0) :: _) _ _) = _
      rw [savedState_valueState]
      rfl
    · intro v
      show 123 :: is ∈ emptyEnd rd v frames + anyValue rd (closing rd v frames) ↔ _
      rw [Language.mem_add, or_iff_right (cons_not_mem_emptyEnd (by decide)), mem_anyValue_object]
      rfl
  by_cases h93 : c = 93
  · subst h93
    exact step_value_end rd frames is
  by_cases hend : c = 125 ∨ c = 44 ∨ c = 58
  · apply follows_of_predict
    · show predict (valueState frames) (tokenize c) = .error
      rw [predict_valueState frames (tokenize_ne_rightBracket h93)]
      rcases hend with rfl | rfl | rfl <;> rfl
    · rintro v (h | h)
      · exact cons_not_mem_emptyEnd h93 h
      · refine not_mem_anyValue ?_ h
        rcases hend with rfl | rfl | rfl <;> decide
  · simp only [not_or] at hend
    exact step_value_scalar rd frames is h91 h93 h123 hend.1 hend.2.1 hend.2.2

/-- A round after an element of an array. -/
theorem step_element (rd : DoubleReader) (done : List Json) (frames : List Frame) (w : Json)
    (c : UInt8) (is : Bytes) : Follows rd (.closed (.elements done :: frames) w) (c :: is) := by
  have hrest (v : Json) : c :: is ∈ (Place.closed (.elements done :: frames) w).rest rd v ↔
      c = 93 ∧ is ∈ ws * closing rd v frames (.array (done ++ [w])) ∨
        c = 44 ∧ is ∈ ws * anyValue rd fun x =>
          restElems rd fun vs => closing rd v frames (.array (done ++ w :: x :: vs)) := by
    show c :: is ∈ restElems rd _ ↔ _
    rw [restElems_eq, Language.mem_add, cons_mem_token_mul, cons_mem_token_mul]
  by_cases h93 : c = 93
  · subst h93
    apply follows_of_transit (.closed frames (.array (done ++ [w]))) is
    · show transit rd .rightBracket .arrayFinish ⟨.element, _, _, _⟩ = _
      rw [transit, if_neg (by simp)]
      apply closeContainer_place
      have hend := endArray_eq (done ++ [w]) (valuesOf frames)
      rw [List.length_append, List.reverse_append] at hend
      exact hend
    · intro v
      rw [hrest v]
      simp [Place.rest]
  by_cases h44 : c = 44
  · subst h44
    apply follows_of_transit (.value (.elements (done ++ [w]) :: frames)) is
    · show Except.ok (Config.mk .elementDelimiter ((returnState frames, done.length + 1) ::
        stackOf frames) (w :: (done.reverse ++ .array [] :: valuesOf frames)) is) = _
      simp only [Place.config, stackOf, Frame.count, valuesOf, List.length_append,
        List.reverse_append]
      cases done <;> rfl
    · intro v
      have hsnoc : (Place.value (.elements (done ++ [w]) :: frames)).rest rd v =
          anyValue rd fun x =>
            restElems rd fun vs => closing rd v frames (.array (done ++ w :: x :: vs)) := by
        have hempty : emptyEnd rd v (.elements (done ++ [w]) :: frames) = 0 := by
          cases done <;> rfl
        simp only [Place.rest, hempty, zero_add, closing, List.append_assoc, List.singleton_append]
      rw [hrest v, hsnoc]
      simp
  · apply follows_of_predict
    · exact predict_element h93 h44
    · intro v h
      rcases (hrest v).mp h with ⟨h, -⟩ | ⟨h, -⟩
      · exact h93 h
      · exact h44 h

/-- A round after a member of an object. -/
theorem step_member (rd : DoubleReader) (done : List (Bytes × Json)) (name : Bytes)
    (frames : List Frame) (w : Json) (c : UInt8) (is : Bytes) :
    Follows rd (.closed (.members done name :: frames) w) (c :: is) := by
  have hrest (v : Json) : c :: is ∈ (Place.closed (.members done name :: frames) w).rest rd v ↔
      c = 125 ∧ is ∈ ws * closing rd v frames (.object (done ++ [(name, w)])) ∨
        c = 44 ∧ is ∈ ws * anyMember rd fun m =>
          restMembers rd fun ms => closing rd v frames (.object (done ++ (name, w) :: m :: ms)) := by
    show c :: is ∈ restMembers rd _ ↔ _
    rw [restMembers_eq, Language.mem_add, cons_mem_token_mul, cons_mem_token_mul]
  by_cases h125 : c = 125
  · subst h125
    apply follows_of_transit (.closed frames (.object (done ++ [(name, w)]))) is
    · show transit rd .rightCurlyBracket .objectFinish ⟨.memberValue, _, _, _⟩ = _
      rw [transit, if_neg (by simp)]
      apply closeContainer_place
      have hend := endObject_eq (done ++ [(name, w)]) (valuesOf frames)
      rw [List.length_append, flatten_snoc] at hend
      exact hend
    · intro v
      rw [hrest v]
      simp [Place.rest]
  by_cases h44 : c = 44
  · subst h44
    apply follows_of_transit (.key frames (done ++ [(name, w)])) is
    · show Except.ok (Config.mk .memberDelimiter ((returnState frames, done.length + 1) ::
        stackOf frames) (w :: .string name :: (flatten done ++ .object [] :: valuesOf frames)) is) = _
      simp only [Place.config, List.length_append, flatten_snoc]
      cases done <;> rfl
    · intro v
      have hsnoc : (Place.key frames (done ++ [(name, w)])).rest rd v =
          anyMember rd fun m =>
            restMembers rd fun ms => closing rd v frames (.object (done ++ (name, w) :: m :: ms)) := by
        have hempty : noMembersEnd rd v frames (done ++ [(name, w)]) = 0 := by
          cases done <;> rfl
        simp only [Place.rest, hempty, zero_add, closing, List.append_assoc, List.singleton_append]
      rw [hrest v, hsnoc]
      simp
  · apply follows_of_predict
    · exact predict_memberValue h125 h44
    · intro v h
      rcases (hrest v).mp h with ⟨h, -⟩ | ⟨h, -⟩
      · exact h125 h
      · exact h44 h

/-- A round before the name of a member or the end of an object. -/
theorem step_key (rd : DoubleReader) (frames : List Frame) (done : List (Bytes × Json)) (c : UInt8)
    (is : Bytes) : Follows rd (.key frames done) (c :: is) := by
  by_cases h34 : c = 34
  · subst h34
    have hmember (v : Json) : 34 :: is ∈ (Place.key frames done).rest rd v ↔
        34 :: is ∈ anyMember rd fun m => closing rd v (.members done m.1 :: frames) m.2 := by
      show 34 :: is ∈ noMembersEnd rd v frames done + anyMember rd _ ↔ _
      rw [Language.mem_add, or_iff_right]
      intro h
      obtain ⟨u, heq⟩ := noMembersEnd_start h
      cases heq
    have htransit : Place.transit rd (.key frames done) (34 :: is) =
        (parseString (34 :: is)).bind fun r => .ok (Place.config (.colon frames done r.1) r.2) := by
      cases done <;> rfl
    cases hread : parseString (34 :: is) with
    | ok r =>
      apply follows_of_transit (.colon frames done r.1) r.2
      · rw [htransit, hread]
        rfl
      · intro v
        rw [hmember]
        exact mem_anyMember hread
    | error e =>
      cases e with
      | error code =>
        apply follows_of_error code
        · rw [htransit, hread]
          rfl
        · intro v h
          exact not_mem_anyMember hread ((hmember v).mp h)
      | assertion => exact absurd hread (parseString_avoids is)
  have hmember (v : Json) :
      c :: is ∉ anyMember rd fun m => closing rd v (.members done m.1 :: frames) m.2 := by
    intro h
    obtain ⟨u, heq⟩ := anyMember_start h
    cases heq
    exact h34 rfl
  by_cases h125 : c = 125
  · subst h125
    cases done with
    | nil =>
      apply follows_of_transit (.closed frames (.object [])) is
      · show transit rd .rightCurlyBracket .objectFinish ⟨.objectInitial, _, _, _⟩ = _
        rw [transit, if_neg (by simp)]
        apply closeContainer_place
        exact endObject_eq [] (valuesOf frames)
      · intro v
        show 125 :: is ∈ token 125 * (ws * closing rd v frames (.object [])) + _ ↔ _
        rw [Language.mem_add, or_iff_left (hmember v), cons_mem_token_mul, and_iff_right rfl]
        rfl
    | cons m done =>
      apply follows_of_error .objectMissName
      · rfl
      · rintro v (h | h)
        · exact Language.notMem_zero _ h
        · exact hmember v h
  · apply follows_of_predict
    · exact predict_key h125 h34
    · rintro v (h | h)
      · obtain ⟨u, heq⟩ := noMembersEnd_start h
        cases heq
        exact h125 rfl
      · exact hmember v h

/-- A round after the name of a member. -/
theorem step_colon (rd : DoubleReader) (frames : List Frame) (done : List (Bytes × Json))
    (name : Bytes) (c : UInt8) (is : Bytes) : Follows rd (.colon frames done name) (c :: is) := by
  have hrest (v : Json) : c :: is ∈ (Place.colon frames done name).rest rd v ↔
      c = 58 ∧ is ∈ ws * anyValue rd (closing rd v (.members done name :: frames)) :=
    cons_mem_token_mul
  by_cases h58 : c = 58
  · subst h58
    apply follows_of_transit (.value (.members done name :: frames)) is rfl
    intro v
    rw [hrest v, and_iff_right rfl]
    show _ ↔ is ∈ ws * (0 + anyValue rd _)
    rw [zero_add]
  · apply follows_of_predict
    · exact predict_memberKey h58
    · intro v h
      exact h58 ((hrest v).mp h).1

/-- A round of the loop goes from place to place in step with the texts that finish a
    document, or it fails and no document can be finished. -/
theorem step_place (rd : DoubleReader) (z : Place) (c : UInt8) (is : Bytes) :
    Follows rd z (c :: is) := by
  cases z with
  | value frames => exact step_value rd frames c is
  | closed frames w =>
    rcases frames with _ | ⟨done | ⟨done, name⟩, frames⟩
    · apply follows_of_predict
      · rfl
      · rintro v ⟨h, -⟩
        cases h
    · exact step_element rd done frames w c is
    · exact step_member rd done name frames w c is
  | key frames done => exact step_key rd frames done c is
  | colon frames done name => exact step_colon rd frames done name c is

/-! ## Runs -/

theorem iterate_of_step {rd : DoubleReader} {c d : Config} (hc : c.is ≠ [])
    (h : step rd c = .ok d) : iterate rd c = iterate rd d := by
  rw [iterate, dif_neg hc]
  split
  · rename_i hstep
    rw [h] at hstep
    cases hstep
  · rename_i hstep
    rw [h] at hstep
    cases hstep
    rfl

theorem iterate_of_error {rd : DoubleReader} {c : Config} {e : Failure} (hc : c.is ≠ [])
    (h : step rd c = .error e) : iterate rd c = .error e := by
  rw [iterate, dif_neg hc]
  split
  · rename_i hstep
    rw [h] at hstep
    exact hstep.symm
  · rename_i hstep
    rw [h] at hstep
    cases hstep

/-- Only after the root may the text end. -/
theorem nil_mem_rest {rd : DoubleReader} {v : Json} {z : Place} (h : [] ∈ z.rest rd v) :
    z = .closed [] v := by
  cases z with
  | value frames =>
    rcases h with h | h
    · obtain ⟨u, heq⟩ := emptyEnd_start h
      cases heq
    · obtain ⟨c, u, heq, -⟩ := anyValue_start h
      cases heq
  | closed frames w =>
    rcases frames with _ | ⟨done | ⟨done, name⟩, frames⟩
    · obtain ⟨-, rfl⟩ := h
      rfl
    · change [] ∈ restElems rd _ at h
      rw [restElems_eq] at h
      rcases h with h | h
      all_goals
        obtain ⟨u, -, heq⟩ := exists_of_mem_token_mul h
        cases heq
    · change [] ∈ restMembers rd _ at h
      rw [restMembers_eq] at h
      rcases h with h | h
      all_goals
        obtain ⟨u, -, heq⟩ := exists_of_mem_token_mul h
        cases heq
  | key frames done =>
    rcases h with h | h
    · obtain ⟨u, heq⟩ := noMembersEnd_start h
      cases heq
    · obtain ⟨u, heq⟩ := anyMember_start h
      cases heq
  | colon frames done name =>
    obtain ⟨u, -, heq⟩ := exists_of_mem_token_mul h
    cases heq

/-- A run from a place ends after the root with the one value that the text finishes, or
    with an error, and then the text finishes no document. -/
theorem iterate_place (rd : DoubleReader) (z : Place) (is : Bytes) :
    (∃ v, iterate rd (z.config is) = .ok (Place.config (.closed [] v) []) ∧
      ∀ w, is ∈ z.rest rd w ↔ w = v) ∨
    ∃ code, iterate rd (z.config is) = .error (.error code) ∧ ∀ w, is ∉ z.rest rd w := by
  induction hn : is.length using Nat.strong_induction_on generalizing z is with
  | _ n ih =>
  cases is with
  | nil =>
    by_cases hz : ∃ v, z = .closed [] v
    · obtain ⟨v, rfl⟩ := hz
      refine .inl ⟨v, ?_, ?_⟩
      · have hfinish : (Place.config (.closed [] v) []).state = .finish := rfl
        rw [iterate, dif_pos (config_is _ []), if_pos hfinish]
      · intro w
        exact ⟨fun h => h.2.symm, fun h => ⟨rfl, h.symm⟩⟩
    · obtain ⟨code, hcode⟩ := handleError_place z []
      have hfinish : (z.config []).state ≠ .finish := by
        rcases z with ⟨_ | ⟨done | _, frames⟩⟩ | ⟨_ | ⟨_ | _, frames⟩, v⟩ | ⟨frames, _ | _⟩ | _
        case value.cons.elements => cases done <;> exact ParsingState.noConfusion
        case closed.nil => exact absurd ⟨v, rfl⟩ hz
        all_goals exact ParsingState.noConfusion
      refine .inr ⟨code, ?_, fun w h => hz ⟨w, nil_mem_rest h⟩⟩
      rw [iterate, dif_pos (config_is z []), if_neg hfinish, hcode]
  | cons c is =>
    have hne : (z.config (c :: is)).is ≠ [] := by
      rw [config_is]
      exact List.cons_ne_nil c is
    rcases step_place rd z c is with ⟨z', is', hstep, hrest⟩ | ⟨code, hstep, hrest⟩
    · have hlt := step_length hstep hne
      rw [config_is, config_is, hn] at hlt
      rw [iterate_of_step hne hstep]
      simp only [hrest]
      exact ih is'.length hlt z' is' rfl
    · exact .inr ⟨code, iterate_of_error hne hstep, hrest⟩

/-! ## Documents -/

theorem rest_start (rd : DoubleReader) (v : Json) :
    (Place.value []).rest rd v = texts rd v * ws := by
  show 0 + anyValue rd (closing rd v []) = _
  rw [zero_add]
  ext s
  simp only [anyValue, Language.mem_iSup, Language.mem_mul]
  constructor
  · rintro ⟨w, t, ht, r, ⟨r', hr, u, ⟨rfl, rfl⟩, rfl⟩, rfl⟩
    exact ⟨t, ht, r', hr, by rw [List.append_nil]⟩
  · rintro ⟨t, ht, r, hr, rfl⟩
    exact ⟨v, t, ht, r, ⟨r, hr, [], ⟨rfl, rfl⟩, List.append_nil r⟩, rfl⟩

theorem mem_documentTexts {rd : DoubleReader} {v : Json} {text : Bytes} :
    text ∈ documentTexts rd v ↔ text.dropWhile isSpace ∈ (Place.value []).rest rd v := by
  rw [documentTexts, ← rest_start]
  exact mem_run_mul fun t ht => rest_stops ht

/-- The reader reads a text as a value if it is a text of that value and of no other. -/
theorem parse_cases (rd : DoubleReader) (text : Bytes) :
    (∃ v, parse rd text = .ok v ∧ ∀ w, text ∈ documentTexts rd w ↔ w = v) ∨
    ∃ code, parse rd text = .error (.error code) ∧ ∀ w, text ∉ documentTexts rd w := by
  unfold parse
  simp only [mem_documentTexts]
  rcases iterate_place rd (.value []) (text.dropWhile isSpace) with
    ⟨v, hrun, hrest⟩ | ⟨code, hrun, hrest⟩
  · refine .inl ⟨v, ?_, hrest⟩
    show (iterate rd (Place.config (.value []) _) >>= _) = _
    rw [hrun]
    rfl
  · refine .inr ⟨code, ?_, hrest⟩
    show (iterate rd (Place.config (.value []) _) >>= _) = _
    rw [hrun]
    rfl

/-- The reader accepts the grammar: it reads a text as a value exactly if the text is one
    of the value. -/
theorem parse_eq_ok_iff (rd : DoubleReader) (text : Bytes) (v : Json) :
    parse rd text = .ok v ↔ text ∈ documentTexts rd v := by
  rcases parse_cases rd text with ⟨w, hparse, htexts⟩ | ⟨code, hparse, htexts⟩
  · rw [hparse, htexts, Except.ok.injEq, eq_comm]
  · rw [hparse]
    exact iff_of_false (by simp) (htexts v)

end DcapQvl.Rapidjson
