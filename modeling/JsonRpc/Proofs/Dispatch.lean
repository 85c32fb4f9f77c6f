/-
What the dispatch of a message comes to.

Each half of the dispatcher has its cases: a message is answered at once, ends for its depth, or
leads to the run of a handler, and what that came to is turned into a reply unless it cannot be put
into words.  What a reply can be is in `AnswersMessage` and, for a request, in `Answers`; whoever asks
about replies goes through their cases.

`answered_iff` says that every message has one reply, but for two things.  A document that is nested too
deep is not among the errors that the dispatcher expects of a reader, and a failure that cannot be
reported fails once more where it is reported.
-/
import JsonRpc.Proofs.Json.Refusal
import JsonRpc.Proofs.Outcome
import Mathlib.Logic.ExistsUnique

namespace JsonRpc

open Json.Grammar

namespace Message

theorem document_eq_ok_iff {m : Message} {t : Text} {v : Json} :
    m.document = .ok (t, v) ↔ m.decode = .ok t ∧ Json.readStrict messageLimit t = .ok v := by
  rw [document]
  constructor
  · intro h
    obtain ⟨t', ht, h⟩ := bind_eq_ok_iff.mp h
    obtain ⟨v', hv, h⟩ := bind_eq_ok_iff.mp h
    obtain ⟨rfl, rfl⟩ := Prod.mk.inj (Except.ok.inj h)
    exact ⟨mapError_eq_ok_iff.mp ht, mapError_eq_ok_iff.mp hv⟩
  · rintro ⟨ht, hv⟩
    rw [ht, mapError_ok, ok_bind, hv]
    rfl

theorem document_eq_tooDeep_iff {m : Message} {kind : Json.Container} :
    m.document = .error (.document (.tooDeep kind)) ↔
      ∃ t, m.decode = .ok t ∧ OverNested false messageLimit kind t := by
  rw [document]
  constructor
  · intro h
    rcases bind_eq_error_iff.mp h with h | ⟨t, ht, h⟩
    · obtain ⟨e, _, he⟩ := mapError_eq_error_iff.mp h
      exact absurd he (by simp)
    · rcases bind_eq_error_iff.mp h with h | ⟨v, _, h⟩
      · obtain ⟨e, hv, he⟩ := mapError_eq_error_iff.mp h
        obtain rfl := MessageError.document.inj he
        exact ⟨t, mapError_eq_ok_iff.mp ht, readWith_eq_tooDeep_iff.mp hv⟩
      · exact absurd h (by simp)
  · rintro ⟨t, ht, hdeep⟩
    have hv : Json.readStrict messageLimit t = .error (.tooDeep kind) := readWith_eq_tooDeep_iff.mpr hdeep
    rw [ht, mapError_ok, ok_bind, hv]
    rfl

/-- The message is JSON, and the document a request. -/
def Carries (m : Message) (r : Request) : Prop :=
  ∃ t v, m.decode = .ok t ∧ Json.readStrict messageLimit t = .ok v ∧ Request.check v = .ok r

end Message

namespace Dispatcher

variable {H : Type} {d : Dispatcher H} {invoke : H → List Json → Outcome} {m : Message}

/-! ## Requests and messages -/

/-- The request is for this method, and with as many parameters as a strict dispatcher wants. -/
def Admits (d : Dispatcher H) (r : Request) (method : Method H) : Prop :=
  d.catalog.resolve r.method = .ok method ∧
    ¬ (d.strictArity ∧ (r.params.length : Int) ≠ method.arity)

/-- What a request is taken to. -/
inductive Requested (d : Dispatcher H) (r : Request) : Dispatched H → Prop
  | notFound {name : Text} : d.catalog.resolve r.method = .error (.notFound name) →
      Requested d r (.answered (r.refuse (.methodNotFound name)))
  | longVersion {e : LongNumber} : d.catalog.resolve r.method = .error (.longVersion e) →
      Requested d r (.answered (r.reject e.message))
  | mismatch {method : Method H} : d.catalog.resolve r.method = .ok method → d.strictArity →
      (r.params.length : Int) ≠ method.arity → Requested d r (.answered (r.mismatch method.arity))
  | admitted {method : Method H} : d.Admits r method → Requested d r (.invoking method r)

theorem requested (d : Dispatcher H) (r : Request) : Requested d r (d.request r) := by
  rw [request]
  cases hmethod : d.catalog.resolve r.method with
  | error e =>
      cases e with
      | notFound name => exact .notFound hmethod
      | longVersion e => exact .longVersion hmethod
  | ok method =>
      simp only
      split
      · rename_i harity
        exact .mismatch hmethod harity.1 harity.2
      · rename_i harity
        exact .admitted ⟨hmethod, harity⟩

theorem Requested.eq {r : Request} {x : Dispatched H} (h : Requested d r x) :
    d.request r = x := by
  rw [request]
  cases h with
  | notFound hmethod => rw [hmethod]
  | longVersion hmethod => rw [hmethod]
  | mismatch hmethod hstrict harity =>
      rw [hmethod]
      exact if_pos ⟨hstrict, harity⟩
  | admitted hadmits =>
      rw [hadmits.1]
      exact if_neg hadmits.2

/-- What a message is taken to. -/
inductive Received (d : Dispatcher H) (m : Message) : Except Abort (Dispatched H) → Prop
  | tooDeep {t : Text} {kind : Json.Container} : m.decode = .ok t → OverNested false messageLimit kind t →
      Received d m (.error (.tooDeep kind))
  | unreadable {e : MessageError} : m.document = .error e →
      (∀ kind, e ≠ .document (.tooDeep kind)) → Received d m (.ok (.answered e.answer))
  | invalid {t : Text} {v : Json} {ps : List Problem} : m.decode = .ok t →
      Json.readStrict messageLimit t = .ok v → Request.check v = .error ps →
      Received d m (.ok (.answered
        ⟨(RpcError.invalidRequest ps).response (RequestId.salvage v),
          [⟨.warning, .dispatcher, Text.of "Invalid JSON-RPC request: " ++ t⟩]⟩))
  | request {r : Request} : m.Carries r → Received d m (.ok (d.request r))

theorem received (d : Dispatcher H) (m : Message) : Received d m (d.receive m) := by
  rw [receive]
  split
  · rename_i kind hdoc
    obtain ⟨t, ht, hdeep⟩ := Message.document_eq_tooDeep_iff.mp hdoc
    exact .tooDeep ht hdeep
  · rename_i e hdeep hdoc
    exact .unreadable hdoc fun kind he => hdeep kind he
  · rename_i t v hdoc
    obtain ⟨ht, hv⟩ := Message.document_eq_ok_iff.mp hdoc
    split
    · rename_i ps hps
      exact .invalid ht hv hps
    · rename_i r hr
      exact .request ⟨t, v, ht, hv, hr⟩

theorem Received.eq {x : Except Abort (Dispatched H)} (h : Received d m x) :
    d.receive m = x := by
  rw [receive]
  cases h with
  | tooDeep ht hdeep => rw [Message.document_eq_tooDeep_iff.mpr ⟨_, ht, hdeep⟩]
  | unreadable hdoc hdeep =>
      rw [hdoc]
      split
      · rename_i kind he
        exact absurd (Except.error.inj he) (hdeep kind)
      · rename_i he
        rw [Except.error.inj he]
      · rename_i he
        exact absurd he (by simp)
  | invalid ht hv hps =>
      rw [Message.document_eq_ok_iff.mpr ⟨ht, hv⟩]
      simp only [hps]
  | request hcarries =>
      obtain ⟨t, v, ht, hv, hr⟩ := hcarries
      rw [Message.document_eq_ok_iff.mpr ⟨ht, hv⟩]
      simp only [hr]

theorem answerMessage_of_carries {r : Request} (h : m.Carries r) :
    d.answerMessage invoke m = d.answer invoke r := by
  rw [answerMessage, (Received.request h).eq, answer]
  rfl

theorem answerMessage_of_answered {a : Answer} (h : d.receive m = .ok (.answered a)) :
    d.answerMessage invoke m = .ok a := by
  rw [answerMessage, h]
  rfl

theorem answer_of_admits {r : Request} {method : Method H} (h : d.Admits r method) :
    d.answer invoke r = r.finish (invoke method.handler r.params) := by
  rw [answer, (Requested.admitted h).eq]
  rfl

theorem answerMessage_of_admits {r : Request} {method : Method H} (hcarries : m.Carries r)
    (hadmits : d.Admits r method) :
    d.answerMessage invoke m = r.finish (invoke method.handler r.params) :=
  (answerMessage_of_carries hcarries).trans (answer_of_admits hadmits)

/-! ## Replies -/

/-- What a reply to a request is. -/
inductive Answers (d : Dispatcher H) (invoke : H → List Json → Outcome) (r : Request) :
    Answer → Prop
  | notFound {name : Text} : d.catalog.resolve r.method = .error (.notFound name) →
      Answers d invoke r (r.refuse (.methodNotFound name))
  | longVersion {e : LongNumber} : d.catalog.resolve r.method = .error (.longVersion e) →
      Answers d invoke r (r.reject e.message)
  | mismatch {method : Method H} : d.catalog.resolve r.method = .ok method → d.strictArity →
      (r.params.length : Int) ≠ method.arity → Answers d invoke r (r.mismatch method.arity)
  | finished {method : Method H} {a : Answer} : d.Admits r method →
      r.finish (invoke method.handler r.params) = .ok a → Answers d invoke r a

theorem answers_of_answer {r : Request} {a : Answer} (h : d.answer invoke r = .ok a) :
    Answers d invoke r a := by
  have hq := requested d r
  generalize hx : d.request r = x at hq
  rw [answer, hx] at h
  cases hq with
  | notFound hmethod =>
      obtain rfl := Except.ok.inj h
      exact .notFound hmethod
  | longVersion hmethod =>
      obtain rfl := Except.ok.inj h
      exact .longVersion hmethod
  | mismatch hmethod hstrict harity =>
      obtain rfl := Except.ok.inj h
      exact .mismatch hmethod hstrict harity
  | admitted hadmits => exact .finished hadmits h

/-- What a reply to a message is. -/
inductive AnswersMessage (d : Dispatcher H) (invoke : H → List Json → Outcome) (m : Message) :
    Answer → Prop
  | unreadable {e : MessageError} : m.document = .error e → AnswersMessage d invoke m e.answer
  | invalid {t : Text} {v : Json} {ps : List Problem} : m.decode = .ok t →
      Json.readStrict messageLimit t = .ok v → Request.check v = .error ps →
      AnswersMessage d invoke m
        ⟨(RpcError.invalidRequest ps).response (RequestId.salvage v),
          [⟨.warning, .dispatcher, Text.of "Invalid JSON-RPC request: " ++ t⟩]⟩
  | request {r : Request} {a : Answer} : m.Carries r → d.answer invoke r = .ok a →
      AnswersMessage d invoke m a

theorem answersMessage_of_answerMessage {a : Answer} (h : d.answerMessage invoke m = .ok a) :
    AnswersMessage d invoke m a := by
  have hr := received d m
  generalize hx : d.receive m = x at hr
  cases hr with
  | tooDeep _ _ =>
      rw [answerMessage, hx] at h
      exact absurd h (by simp)
  | unreadable hdoc _ =>
      obtain rfl := Except.ok.inj ((answerMessage_of_answered hx).symm.trans h)
      exact .unreadable hdoc
  | invalid ht hv hps =>
      obtain rfl := Except.ok.inj ((answerMessage_of_answered hx).symm.trans h)
      exact .invalid ht hv hps
  | request hcarries =>
      rw [answerMessage_of_carries hcarries] at h
      exact .request hcarries h

/-! ## Messages without a reply -/

/-- What ends the dispatch of a message without a reply: its depth, or a failure of the handler that
it leads to. -/
inductive Aborts (d : Dispatcher H) (invoke : H → List Json → Outcome) (m : Message) :
    Abort → Prop
  | tooDeep {t : Text} {kind : Json.Container} :
      m.decode = .ok t → OverNested false messageLimit kind t → Aborts d invoke m (.tooDeep kind)
  | unreportable {r : Request} {method : Method H} {message : Text} :
      m.Carries r → d.Admits r method →
      invoke method.handler r.params = .failed (.unreportable message) →
      Aborts d invoke m (.unreportable message)

theorem aborts_of_answerMessage {b : Abort} (h : d.answerMessage invoke m = .error b) :
    Aborts d invoke m b := by
  have hr := received d m
  generalize hx : d.receive m = x at hr
  cases hr with
  | tooDeep ht hdeep =>
      rw [answerMessage, hx] at h
      obtain rfl := Except.error.inj h
      exact .tooDeep ht hdeep
  | unreadable _ _ =>
      rw [answerMessage_of_answered hx] at h
      exact absurd h (by simp)
  | invalid _ _ _ =>
      rw [answerMessage_of_answered hx] at h
      exact absurd h (by simp)
  | @request r hcarries =>
      have hq := requested d r
      generalize hy : d.request r = y at hq hx
      cases hq with
      | notFound _ | longVersion _ | mismatch _ _ _ =>
          rw [answerMessage_of_answered hx] at h
          exact absurd h (by simp)
      | admitted hadmits =>
          rw [answerMessage_of_admits hcarries hadmits] at h
          obtain ⟨message, ho, rfl⟩ := Request.finish_eq_error_iff.mp h
          exact .unreportable hcarries hadmits ho

theorem answerMessage_eq_error_iff {b : Abort} :
    d.answerMessage invoke m = .error b ↔ Aborts d invoke m b := by
  refine ⟨aborts_of_answerMessage, ?_⟩
  intro h
  cases h with
  | tooDeep ht hdeep =>
      rw [answerMessage, (Received.tooDeep ht hdeep).eq]
      rfl
  | unreportable hcarries hadmits ho =>
      rw [answerMessage_of_admits hcarries hadmits, ho]
      rfl

/-- Every message has exactly one reply, unless it is nested too deep or a handler fails with an
error that cannot be reported; then it has none. -/
theorem answered_iff (d : Dispatcher H) (invoke : H → List Json → Outcome) (m : Message) :
    ((∃! a, d.answerMessage invoke m = .ok a) ↔ ∀ b, ¬ Aborts d invoke m b) ∧
      ∀ b, d.answerMessage invoke m = .error b ↔ Aborts d invoke m b := by
  refine ⟨?_, fun b => answerMessage_eq_error_iff⟩
  constructor
  · rintro ⟨a, ha, _⟩ b hb
    rw [answerMessage_eq_error_iff.mpr hb] at ha
    exact absurd ha (by simp)
  · intro h
    cases ha : d.answerMessage invoke m with
    | ok a => exact ⟨a, rfl, fun a' ha' => (Except.ok.inj ha').symm⟩
    | error b => exact absurd (answerMessage_eq_error_iff.mp ha) (h b)

/-- A message that opens more arrays than may be nested has no reply, whoever is registered. -/
theorem not_answered_of_brackets {n : Nat} (h : messageLimit < n) (rest : Text) :
    d.answerMessage invoke (.text (List.replicate n (.ofChar '[') ++ rest))
      = .error (.tooDeep .array) :=
  answerMessage_eq_error_iff.mpr (.tooDeep rfl (overNested_brackets h rest))

end Dispatcher

end JsonRpc
