import FunctionConsole.Proofs.FieldErrors

/-!
# What a failure keeps of an answer

An answer with a status other than success becomes one of two failures. The plain one has the status
as it is; the one about a field has none, and counts as a 400, although it may also come from a 422.
What the console decides by the status is not touched by that: an unknown session and an unknown
resource are told by other numbers, and are told for every answer.

The message is empty only where there is nothing to say: if the body says nothing and the reason is
an empty text.
-/

namespace FunctionConsole.ApiError

variable {status : UInt16} {reason : Option String} {body : String}

-- ==================================================== what is said

/-- The body has a field with a text that is not blank. -/
def Says (body key text : String) : Prop :=
  ∃ v, Json.parse body = .ok v ∧ v.field? key = some (.string text) ∧ Text.isAllBlank text = false

theorem field_says_iff (v : Json) (key message : String) :
    ((v.field? key).bind fun f => f.string?.bind fun s => Text.nonBlank? (Text.trim s)) =
        some message ↔
      ∃ text, v.field? key = some (.string text) ∧ Text.isAllBlank text = false ∧
        message = Text.trim text := by
  cases v.field? key with
  | none => simp
  | some f =>
      cases f with
      | string s =>
          by_cases hblank : Text.isAllBlank s = true
          · simp [Json.string?, Text.nonBlank?, Text.isAllBlank_trim, hblank]
          · simp only [Option.bind_some, Json.string?, Text.nonBlank?, Text.isAllBlank_trim, hblank,
              Bool.false_eq_true, if_false, Option.some.injEq, Json.string.injEq, exists_eq_left']
            simp [eq_comm]
      | _ => simp [Json.string?]

theorem bodyMessage?_eq_none_iff :
    bodyMessage? body = none ↔ ∀ key ∈ ["error", "message"], ∀ text, ¬ Says body key text := by
  unfold bodyMessage? Says
  split
  · next hparse => simp [hparse]
  · next v hparse =>
      rw [List.findSome?_eq_none_iff, hparse]
      refine forall₂_congr fun key _ => ?_
      rw [Option.eq_none_iff_forall_ne_some]
      simp only [ne_eq, field_says_iff]
      constructor
      · rintro hnone text ⟨w, hw, hfield, hvisible⟩
        cases hw
        exact hnone _ ⟨text, hfield, hvisible, rfl⟩
      · rintro hnone message ⟨text, hfield, hvisible, -⟩
        exact hnone text ⟨v, rfl, hfield, hvisible⟩

theorem ne_empty_of_bodyMessage? {message : String} (h : bodyMessage? body = some message) :
    message ≠ "" := by
  unfold bodyMessage? at h
  split at h
  · cases h
  · obtain ⟨key, -, hfound⟩ := List.exists_of_findSome?_eq_some h
    obtain ⟨text, -, hvisible, rfl⟩ := (field_says_iff _ _ _).mp hfound
    exact Text.trim_ne_empty hvisible

theorem answerText_eq_empty_iff :
    answerText status reason body = "" ↔ bodyMessage? body = none ∧ reason = some "" := by
  unfold answerText
  cases hbody : bodyMessage? body with
  | some message => simpa using ne_empty_of_bodyMessage? hbody
  | none =>
      cases reason with
      | some text => simp
      | none => simp

theorem message_validation_ne_empty (field text : String) :
    (validation field text).message ≠ "" := by
  intro hempty
  have hparts : field ++ ": " ++ text = "" := hempty
  have hfront : field ++ ": " = "" := (String.append_eq_empty_iff.mp hparts).1
  have hcolon : ": " = "" := (String.append_eq_empty_iff.mp hfront).2
  exact absurd hcolon (by decide)

/-- A text that is taken apart is not empty, and neither is what it is put together to. -/
theorem message_ofResponse_eq_empty_iff :
    (ofResponse status reason body).message = "" ↔ answerText status reason body = "" := by
  rcases ofResponse_cases status reason body with ⟨-, field, text, hsplit, hrefusal⟩ | ⟨-, hrefusal⟩
  · have hfull : answerText status reason body ≠ "" := by
      intro hempty
      have hnone : splitFieldError "" = none := rfl
      rw [hempty, hnone] at hsplit
      cases hsplit
    rw [hrefusal]
    exact iff_of_false (message_validation_ne_empty field text) hfull
  · rw [hrefusal]
    exact Iff.rfl

-- ==================================================== what is kept

/-- Every failure keeps the status of the answer, but for one about a field that comes from a 422
and counts as a 400. An unknown session and an unknown resource are told by the status alone, and
the message is empty exactly if the body says nothing and the reason is an empty text. -/
theorem refusals_keep_status (status : UInt16) (reason : Option String) (body : String) :
    ((ofResponse status reason body).code? = some status ↔
      ¬ (status = 422 ∧ (splitFieldError (answerText status reason body)).isSome = true)) ∧
    (status = 422 → (splitFieldError (answerText status reason body)).isSome = true →
      (ofResponse status reason body).code? = some 400) ∧
    ((ofResponse status reason body).isUnauthorized = true ↔ status = 401) ∧
    ((ofResponse status reason body).isNotFound = true ↔ status = 404) ∧
    ((ofResponse status reason body).message = "" ↔
      (∀ key ∈ ["error", "message"], ∀ text, ¬ Says body key text) ∧ reason = some "") := by
  rw [message_ofResponse_eq_empty_iff, answerText_eq_empty_iff, bodyMessage?_eq_none_iff]
  rcases ofResponse_cases status reason body with
    ⟨rfl | rfl, field, text, hsplit, hrefusal⟩ | ⟨hwhole, hrefusal⟩
  · rw [hrefusal, hsplit]
    simp [code?, isUnauthorized, isNotFound]
  · rw [hrefusal, hsplit]
    simp [code?, isUnauthorized, isNotFound]
  · have hkept : ¬ (status = 422 ∧
        (splitFieldError (answerText status reason body)).isSome = true) := by
      rintro ⟨hstatus, hsplit⟩
      rw [hwhole (.inr hstatus)] at hsplit
      cases hsplit
    have hcode : (ofResponse status reason body).code? = some status := by rw [hrefusal]; rfl
    refine ⟨iff_of_true hcode hkept, fun hstatus hsplit => absurd ⟨hstatus, hsplit⟩ hkept, ?_, ?_,
      Iff.rfl⟩
    · simp [isUnauthorized, hcode]
    · simp [isNotFound, hcode]

/-- A name that is taken, told with the status 422: the failure has another status. -/
theorem status_of_refused_field_is_lost :
    (ofResponse 422 (some "Unprocessable Entity") "\x7b\"error\":\"name: taken\"\x7d").code? =
        some 400 ∧
      ¬ ∀ status reason body, (ofResponse status reason body).code? = some status := by
  have hlost : (ofResponse 422 (some "Unprocessable Entity")
      "\x7b\"error\":\"name: taken\"\x7d").code? = some 400 := by decide +kernel
  refine ⟨hlost, fun hall => ?_⟩
  rw [hall] at hlost
  exact absurd hlost (by decide)

end FunctionConsole.ApiError
