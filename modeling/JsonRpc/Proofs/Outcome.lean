/-
What a reply reports of an outcome.

A handler comes to a value or fails, and the reply to its request depends on nothing else but the id of
that request.  `Outcome.ReportedAs` is the table: a value that JSON text can hold is the result, and
everything else an error, of a code that says whose fault it is.  One failure has no row in it, that of an
error which cannot be put into words.
-/
import JsonRpc.Dispatcher
import JsonRpc.Proofs.Json.Bounds

namespace JsonRpc

open Json

/-- The error of a handler that has no JSON value. -/
def internalError (cause : Text) : ErrorObject :=
  ⟨-32603, Text.of "Internal error", .obj [(Text.of "details", .str cause)]⟩

/-- A value that a reply can have for a result. -/
structure Json.IsResult (v : Json) : Prop where
  isFinite : v.isFinite = true
  hasShortInts : v.HasShortInts
  nesting_le : v.nesting ≤ resultLimit

theorem Json.hasText_iff_isResult {v : Json} : v.HasText resultLimit ↔ v.IsResult := by
  rw [hasText_iff_isFinite]
  constructor
  · rintro ⟨hnesting, hfinite, hshort⟩
    exact ⟨hfinite, hshort, hnesting⟩
  · intro h
    exact ⟨h.nesting_le, h.isFinite, h.hasShortInts⟩

/-- What a reply reports of what a handler came to. -/
inductive Outcome.ReportedAs : Outcome → Report → Prop
  | result {v : Json} : v.IsResult → ReportedAs (.value v) (.result v)
  | refused {v : Json} {e : WriteError} : ¬ v.IsResult →
      v.writeNested .finite resultLimit = .error e →
      ReportedAs (.value v) (.error (internalError e.message))
  | unwritable {reason : Text} :
      ReportedAs (.unwritable reason) (.error (internalError reason))
  | rpc {e : RpcError} :
      ReportedAs (.failed (.rpc e)) (.error ⟨e.kind.code, e.message, e.data⟩)
  | badValue {message : Text} :
      ReportedAs (.failed (.badValue message)) (.error ⟨-32602, message, .null⟩)
  | other {message : Text} :
      ReportedAs (.failed (.other message)) (.error (internalError message))

/-- Every outcome is reported, but for an error that has no text. -/
theorem Outcome.exists_reportedAs (o : Outcome) :
    (∃ x, o.ReportedAs x) ∨ ∃ message, o = .failed (.unreportable message) := by
  cases o with
  | value v =>
      cases hv : v.writeNested .finite resultLimit with
      | ok t => exact .inl ⟨_, .result (Json.hasText_iff_isResult.mp ⟨t, hv⟩)⟩
      | error e =>
          have hresult : ¬ v.IsResult := by
            intro h
            obtain ⟨t, ht⟩ := Json.hasText_iff_isResult.mpr h
            exact absurd (hv.symm.trans ht) (by simp)
          exact .inl ⟨_, .refused hresult hv⟩
  | unwritable reason => exact .inl ⟨_, .unwritable⟩
  | failed f =>
      cases f with
      | rpc e => exact .inl ⟨_, .rpc⟩
      | badValue message => exact .inl ⟨_, .badValue⟩
      | other message => exact .inl ⟨_, .other⟩
      | unreportable message => exact .inr ⟨message, rfl⟩

/-- A value that has a text is the result. -/
theorem Request.finish_of_hasText {v : Json} (r : Request) (h : v.HasText resultLimit) :
    r.finish (.value v) = .ok ⟨⟨some r.id, .result v⟩, []⟩ := by
  obtain ⟨t, ht⟩ := h
  rw [Request.finish, ht]

theorem Request.finish_of_reportedAs (r : Request) {o : Outcome} {x : Report}
    (h : o.ReportedAs x) : ∃ log, r.finish o = .ok ⟨⟨some r.id, x⟩, log⟩ := by
  cases h with
  | result hv => exact ⟨[], r.finish_of_hasText (Json.hasText_iff_isResult.mpr hv)⟩
  | @refused v e _ hv =>
      rw [finish, hv]
      -- a value that is too deep is reported like any other, and logged in other words
      cases e <;> exact ⟨_, rfl⟩
  | unwritable | rpc | badValue | other => exact ⟨_, rfl⟩

/-- A reply that there is reports the outcome. -/
theorem Request.reportedAs_of_finish {r : Request} {o : Outcome} {a : Answer}
    (h : r.finish o = .ok a) : ∃ x, o.ReportedAs x ∧ a.response = ⟨some r.id, x⟩ := by
  rcases o.exists_reportedAs with ⟨x, hx⟩ | ⟨message, rfl⟩
  · obtain ⟨log, hlog⟩ := r.finish_of_reportedAs hx
    obtain rfl := Except.ok.inj (h.symm.trans hlog)
    exact ⟨x, hx, rfl⟩
  · exact absurd h (by simp [finish])

/-- An outcome without a reply is a failure that cannot be reported. -/
theorem Request.finish_eq_error_iff {r : Request} {o : Outcome} {b : Abort} :
    r.finish o = .error b ↔ ∃ message, o = .failed (.unreportable message) ∧
      b = .unreportable message := by
  constructor
  · intro h
    rcases o.exists_reportedAs with ⟨x, hx⟩ | ⟨message, rfl⟩
    · obtain ⟨log, hlog⟩ := r.finish_of_reportedAs hx
      exact absurd (h.symm.trans hlog) (by simp)
    · exact ⟨message, rfl, (Except.error.inj h).symm⟩
  · rintro ⟨message, rfl, rfl⟩
    rfl

end JsonRpc
