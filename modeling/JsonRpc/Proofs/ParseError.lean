/-
Messages that are not JSON.

A text is answered with a parse error, and no id, exactly if it is no document of the grammar proper or
has a whole number that is too long; a text that is nested too deep has no reply at all and is left out.
No other reply is taken for one of these: a reply to a request has the id of the request, and the reply
to any other document has another code.

A document is dispatched as the value that the grammar gives it.  That of two members of one name the
last one counts, and that whole numbers are exact, is part of the grammar at every level; for a whole
document it is spelled out in `Dispatcher.parse_error_iff`.
-/
import JsonRpc.Proofs.Correlation
import JsonRpc.Proofs.Json.Admission

namespace JsonRpc

open Json.Grammar

/-- The response has no id and reports that a message is not JSON. -/
def Response.IsParseError (r : Response) : Prop :=
  r.id = none ∧ ∃ message data, r.report = .error ⟨-32700, message, data⟩

theorem MessageError.isParseError (e : MessageError) : e.answer.response.IsParseError :=
  ⟨rfl, _, _, rfl⟩

namespace Json.Grammar

/-- The text is a document of a number. -/
def NumberDocument (t : Text) (n : Numeral) : Prop :=
  ∃ t₁ t₂, Spaces t t₁ ∧ Number t₁ n t₂ ∧ Spaces t₂ []

theorem NumberDocument.denotes {t : Text} {n : Numeral} (h : NumberDocument t n) :
    Denotes t (denoted n) := by
  obtain ⟨t₁, t₂, hs, hn, hs'⟩ := h
  exact ⟨0, t₁, t₂, hs, .number hn (.inl rfl), hs'⟩

theorem ObjectDocument.denotes {n : Nat} {t : Text} {pairs : List (Text × Json)}
    (h : ObjectDocument .proper n t pairs) : Denotes t (.obj (Json.ofPairs pairs)) :=
  ⟨n + 1, h.document⟩

end Json.Grammar

namespace Dispatcher

variable {H : Type} {d : Dispatcher H} {invoke : H → List Json → Outcome} {t : Text}

/-- A parse error is the reply to a text that is not read, and to no other. -/
theorem answers_parseError_iff (hdeep : ∀ kind, ¬ OverNested false messageLimit kind t) :
    (∃ a, d.answerMessage invoke (.text t) = .ok a ∧ a.response.IsParseError) ↔
      ∀ v, Json.readStrict messageLimit t ≠ .ok v := by
  constructor
  · rintro ⟨a, ha, hid, message, data, hreport⟩ v hv
    cases answersMessage_of_answerMessage ha with
    | unreadable hdoc =>
        rw [Message.document_eq_ok_iff.mpr ⟨rfl, hv⟩] at hdoc
        exact absurd hdoc (by simp)
    | invalid _ _ _ =>
        have hcode : (-32600 : Int) = -32700 :=
          congrArg ErrorObject.code (Report.error.inj hreport)
        exact absurd hcode (by decide)
    | request _ hanswer =>
        rw [id_of_answer hanswer] at hid
        exact absurd hid (by simp)
  · intro hnone
    cases hv : Json.readStrict messageLimit t with
    | ok v => exact absurd hv (hnone v)
    | error e =>
        have hdoc : (Message.text t).document = .error (.document e) := by
          rw [Message.document, Message.decode, mapError_ok, ok_bind, hv]
          rfl
        have hflat (kind : Json.Container) :
            MessageError.document e ≠ .document (.tooDeep kind) := by
          intro he
          rw [MessageError.document.inj he] at hv
          exact hdeep kind (readWith_eq_tooDeep_iff.mp hv)
        exact ⟨_, answerMessage_of_answered (Received.unreadable hdoc hflat).eq,
          MessageError.isParseError _⟩

/-- The text is answered as a document of this value. -/
def AnswersAs (d : Dispatcher H) (invoke : H → List Json → Outcome) (t : Text) (v : Json) : Prop :=
  (∀ ps, Request.check v = .error ps →
    d.answerMessage invoke (.text t) =
      .ok ⟨(RpcError.invalidRequest ps).response (RequestId.salvage v),
        [⟨.warning, .dispatcher, Text.of "Invalid JSON-RPC request: " ++ t⟩]⟩) ∧
  ∀ r, Request.check v = .ok r → d.answerMessage invoke (.text t) = d.answer invoke r

theorem answersAs_of_readStrict {v : Json} (hv : Json.readStrict messageLimit t = .ok v) :
    d.AnswersAs invoke t v := by
  constructor
  · intro ps hps
    exact answerMessage_of_answered (Received.invalid rfl hv hps).eq
  · intro r hr
    exact answerMessage_of_carries ⟨t, v, rfl, hv, hr⟩

/-- A text is answered with a parse error exactly if it is no document, or one with a whole number that
is too long.  Otherwise it is answered as the one value that it is a document of; of an object's
members of one name the last one counts, and a whole number is exact. -/
theorem parse_error_iff (d : Dispatcher H) (invoke : H → List Json → Outcome) (t : Text)
    (hdeep : ∀ kind, ¬ OverNested false messageLimit kind t) :
    ((∃ a, d.answerMessage invoke (.text t) = .ok a ∧ a.response.IsParseError) ↔
      (∀ v, ¬ Denotes t v) ∨ HasLongNumber t) ∧
    (¬ HasLongNumber t →
      (∀ v, Denotes t v → d.AnswersAs invoke t v ∧ ∀ v', Denotes t v' → v' = v) ∧
      (∀ n pairs, ObjectDocument .proper n t pairs →
        ∃ ms, d.AnswersAs invoke t (.obj ms) ∧
          ∀ name, Json.member? name ms = Json.member? name pairs.reverse) ∧
      ∀ n, NumberDocument t n → IsWhole n →
        d.AnswersAs invoke t (.int (Text.signed n.negative (ofDigits n.whole)))) := by
  have hread (v : Json) : Json.readStrict messageLimit t = .ok v ↔ Denotes t v ∧ ¬ HasLongNumber t :=
    readStrict_eq_ok_iff.trans ⟨fun h => ⟨h.1, h.2.1⟩, fun h => ⟨h.1, h.2, hdeep⟩⟩
  refine ⟨?_, fun hshort => ⟨?_, ?_, ?_⟩⟩
  · rw [answers_parseError_iff hdeep]
    constructor
    · intro hnone
      by_cases hlong : HasLongNumber t
      · exact .inr hlong
      · exact .inl fun v hv => hnone v ((hread v).mpr ⟨hv, hlong⟩)
    · rintro (hnone | hlong) v hv
      · exact hnone v ((hread v).mp hv).1
      · exact ((hread v).mp hv).2 hlong
  · intro v hv
    have hv := (hread v).mpr ⟨hv, hshort⟩
    refine ⟨answersAs_of_readStrict hv, fun v' hv' => ?_⟩
    exact Except.ok.inj (((hread v').mpr ⟨hv', hshort⟩).symm.trans hv)
  · intro n pairs hpairs
    have hv := (hread _).mpr ⟨hpairs.denotes, hshort⟩
    exact ⟨_, answersAs_of_readStrict hv, fun name => Json.member?_ofPairs name pairs⟩
  · intro n hn hwhole
    have hv := (hread _).mpr ⟨hn.denotes, hshort⟩
    rw [denoted, if_pos hwhole] at hv
    exact answersAs_of_readStrict hv

/-- The text of an array with a comma too many. -/
def trailingComma : Text := Text.of "[1,]"

theorem parse_error_trailingComma :
    let d : Dispatcher Unit := {}
    let invoke (_ : Unit) (_ : List Json) : Outcome := .value .null
    (∃ a, d.answerMessage invoke (.text trailingComma) = .ok a ∧ a.response.IsParseError) ∧
      ∀ v, ¬ Denotes trailingComma v := by
  intro d invoke
  have hread : Json.readStrict messageLimit trailingComma = .error (.malformed .value ⟨1, 4, 3⟩) := by rfl
  have hflat (kind : Json.Container) : ¬ OverNested false messageLimit kind trailingComma := by
    intro h
    exact absurd (hread.symm.trans (readWith_eq_tooDeep_iff.mpr h)) (by simp)
  have hreply : ∃ a, d.answerMessage invoke (.text trailingComma) = .ok a ∧
      a.response.IsParseError := by
    rw [answers_parseError_iff hflat, hread]
    simp
  have hshort : ¬ HasLongNumber trailingComma := fun h => absurd h.lt_length (by decide)
  exact ⟨hreply, ((parse_error_iff d invoke trailingComma hflat).1.mp hreply).resolve_right hshort⟩

end Dispatcher

end JsonRpc
