/-
Which replies are strict JSON.

A reply is strict if it can be written and the strict reader takes what is written.  The dispatcher
looks after that for the value of a handler alone: it is written once, without constants, before the
reply is made.  The data of an error is not looked at, be it the handler's or the report on a
document that is no request, which repeats parts of that document.  A number that is read can
overflow to an infinity, so it gets into such a report by a message alone.

`strict_iff` says exactly when a reply is not strict (`Spoils`).
-/
import JsonRpc.Proofs.Dispatch
import JsonRpc.Proofs.Envelope.Request
import JsonRpc.Proofs.Json.Bounds

namespace JsonRpc

open Json

/-! ## Replies on the wire -/

/-- The response can be written, and the strict reader takes its text. -/
def Response.IsStrict (r : Response) : Prop :=
  ∃ t v, r.write = .ok t ∧ Json.readStrict nestingLimit t = .ok v

/-- The members of an error but for its message are written two levels down. -/
def ErrorObject.IsStrict (e : ErrorObject) : Prop :=
  (Json.int e.code).HasText (nestingLimit - 2) ∧ e.data.HasText (nestingLimit - 2)

theorem ErrorObject.hasText_wire {e : ErrorObject} :
    e.wire.HasText (nestingLimit - 1) ↔ e.IsStrict := by
  have hlimit : nestingLimit - 1 = nestingLimit - 2 + 1 := rfl
  rw [wire, hlimit, hasText_obj, ErrorObject.IsStrict]
  split
  · rename_i hdata
    simp [hdata]
  · simp

/-- The id of a response has a text. -/
def RequestId.IsShort (id : Option RequestId) : Prop :=
  (orNull id).HasText (nestingLimit - 1)

theorem Response.isStrict_result {id : Option RequestId} {v : Json} (hid : RequestId.IsShort id) :
    (Response.mk id (.result v)).IsStrict ↔ v.HasText (nestingLimit - 1) := by
  have hlimit : nestingLimit = nestingLimit - 1 + 1 := rfl
  rw [IsStrict]
  refine readStrict_write_iff_hasText.trans ?_
  rw [wire, hlimit, hasText_obj]
  have hid : (RequestId.orNull id).HasText (nestingLimit - 1) := hid
  simp [hid]

theorem Response.isStrict_error {id : Option RequestId} {e : ErrorObject}
    (hid : RequestId.IsShort id) : (Response.mk id (.error e)).IsStrict ↔ e.IsStrict := by
  have hlimit : nestingLimit = nestingLimit - 1 + 1 := rfl
  rw [IsStrict]
  refine readStrict_write_iff_hasText.trans ?_
  rw [wire, hlimit, hasText_obj, ← ErrorObject.hasText_wire]
  have hid : (RequestId.orNull id).HasText (nestingLimit - 1) := hid
  simp [hid]

/-! ## Ids -/

theorem Json.mem_of_member? {name : Text} {ms : List (Text × Json)} {v : Json}
    (h : Json.member? name ms = some v) : ∃ m ∈ ms, m.2 = v := by
  obtain ⟨m, hm, hv⟩ := Option.map_eq_some_iff.mp h
  exact ⟨m, List.mem_of_find?_eq_some hm, hv⟩

theorem RequestId.isShort_none : IsShort none := hasText_null _

/-- An id that was read has a text. -/
theorem RequestId.isShort_of_member? {ms : List (Text × Json)} {name : Text} {i : RequestId}
    (hms : (Json.obj ms).HasShortInts) (h : Json.member? name ms = some i.toJson) :
    IsShort (some i) := by
  cases i with
  | str t => exact hasText_str _ t
  | int n =>
      obtain ⟨m, hm, hv⟩ := Json.mem_of_member? h
      obtain ⟨_, hatoms⟩ := forall_atoms_obj.mp hms m hm
      rw [hv] at hatoms
      exact hasText_int.mpr (hatoms (.int n) List.mem_cons_self n rfl)

theorem RequestId.isShort_salvage {t : Text} {v : Json} (h : Json.readStrict messageLimit t = .ok v) :
    IsShort (salvage v) := by
  have hshort := hasShortInts_of_readWith h
  cases v with
  | obj ms =>
      rw [salvage]
      cases hid : Json.member? (Text.of "id") ms with
      | none => exact isShort_none
      | some j =>
          cases hj : ofJson? j with
          | none =>
              rw [Option.bind_some, hj]
              exact isShort_none
          | some i =>
              rw [Option.bind_some, hj]
              have hi : j = i.toJson := check_eq_ok_iff.mp (by rw [RequestId.check, hj])
              exact isShort_of_member? hshort (hi ▸ hid)
  | _ => exact isShort_none

theorem Message.Carries.isShort {m : Message} {r : Request} (h : m.Carries r) :
    RequestId.IsShort (some r.id) := by
  obtain ⟨t, v, _, hv, hr⟩ := h
  obtain ⟨ms, rfl, _, _, _, hid⟩ := Request.check_eq_ok_iff.mp hr
  exact RequestId.isShort_of_member? (hasShortInts_of_readWith hv) hid

/-! ## Errors of the dispatcher -/

/-- A kind of error that no handler brings along. -/
def RpcErrorKind.IsStock : RpcErrorKind → Prop
  | .custom _ => False
  | _ => True

theorem RpcErrorKind.IsStock.short_code {k : RpcErrorKind} (h : k.IsStock) :
    (digits k.code.natAbs).length ≤ digitLimit := by
  have hlimit : 5 ≤ digitLimit := by decide
  refine Nat.le_trans (length_digits_le (by decide) ?_) hlimit
  cases k with
  | custom c => exact False.elim h
  | parse | invalidRequest | methodNotFound | invalidParams | internal => decide

/-- A reply that reports an error of a stock kind is strict if the data is. -/
theorem RpcError.isStrict_response (e : RpcError) (hk : e.kind.IsStock) {id : Option RequestId}
    (hid : RequestId.IsShort id) :
    (e.response id).IsStrict ↔ e.data.HasText (nestingLimit - 2) := by
  refine (Response.isStrict_error hid).trans ?_
  constructor
  · intro h
    exact h.2
  · intro h
    exact ⟨hasText_int.mpr hk.short_code, h⟩

theorem hasText_details (cause : Text) : (RpcError.details cause).HasText (nestingLimit - 2) := by
  have hlimit : nestingLimit - 2 = nestingLimit - 3 + 1 := rfl
  rw [RpcError.details, hlimit, hasText_obj]
  simp

theorem hasText_report {ps : List Problem} :
    (RpcError.invalidRequest ps).data.HasText (nestingLimit - 2) ↔
      (Problem.report ps).HasText (nestingLimit - 3) := by
  have hlimit : nestingLimit - 2 = nestingLimit - 3 + 1 := rfl
  rw [RpcError.invalidRequest, hlimit, hasText_obj]
  simp

theorem hasText_counts {r : Request} {arity : Int} :
    (r.arityError arity).data.HasText (nestingLimit - 2) ↔
      (digits arity.natAbs).length ≤ digitLimit ∧ (digits r.params.length).length ≤ digitLimit := by
  have hlimit : nestingLimit - 2 = nestingLimit - 3 + 1 := rfl
  rw [Request.arityError, hlimit, hasText_obj]
  simp [hasText_int]

theorem Request.isStrict_reject {r : Request} (message : Text)
    (hid : RequestId.IsShort (some r.id)) : (r.reject message).response.IsStrict :=
  (RpcError.isStrict_response ⟨.invalidParams, message, .null⟩ trivial hid).mpr (hasText_null _)

theorem isStrict_ofCause {id : Option RequestId} (cause : Text) (hid : RequestId.IsShort id) :
    ((RpcError.ofCause cause).response id).IsStrict :=
  ((RpcError.ofCause cause).isStrict_response trivial hid).mpr (hasText_details cause)

/-! ## Replies to messages -/

namespace Dispatcher

variable {H : Type}

/-- What keeps the reply to a message from being strict: a report on a document with an infinity in
it or too deep for the report, or an error of a handler with a code or data that strict JSON does not
have. The number of parameters is reported too, as a whole number. -/
inductive Spoils (d : Dispatcher H) (invoke : H → List Json → Outcome) (m : Message) : Prop
  | report {t : Text} {v : Json} {ps : List Problem} :
      m.decode = .ok t → Json.readStrict messageLimit t = .ok v → Request.check v = .error ps →
      ¬ (Problem.report ps).HasText (nestingLimit - 3) → Spoils d invoke m
  | count {r : Request} {method : Method H} :
      m.Carries r → d.catalog.resolve r.method = .ok method → d.strictArity →
      (r.params.length : Int) ≠ method.arity → (digits method.arity.natAbs).length ≤ digitLimit →
      digitLimit < (digits r.params.length).length → Spoils d invoke m
  | error {r : Request} {method : Method H} {e : RpcError} :
      m.Carries r → d.Admits r method → invoke method.handler r.params = .failed (.rpc e) →
      ¬ e.toErrorObject.IsStrict → Spoils d invoke m

variable {d : Dispatcher H} {invoke : H → List Json → Outcome} {m : Message}

theorem isStrict_report {v : Json} {t : Text} (hv : Json.readStrict messageLimit t = .ok v)
    (ps : List Problem) :
    ((RpcError.invalidRequest ps).response (RequestId.salvage v)).IsStrict ↔
      (Problem.report ps).HasText (nestingLimit - 3) :=
  ((RpcError.invalidRequest ps).isStrict_response trivial (RequestId.isShort_salvage hv)).trans
    hasText_report

theorem isStrict_mismatch {r : Request} (hid : RequestId.IsShort (some r.id)) (arity : Int) :
    (r.mismatch arity).response.IsStrict ↔
      ((digits arity.natAbs).length ≤ digitLimit →
        (digits r.params.length).length ≤ digitLimit) := by
  rw [Request.mismatch]
  split
  · rename_i t harity
    have hshort := (writeInt_eq_ok_iff.mp harity).1
    refine ((r.arityError arity).isStrict_response trivial hid).trans ?_
    rw [hasText_counts]
    constructor
    · rintro ⟨_, hcount⟩ _
      exact hcount
    · intro hcount
      exact ⟨hshort, hcount hshort⟩
  · rename_i e harity
    have hlong : ¬ (digits arity.natAbs).length ≤ digitLimit := by
      intro hshort
      rw [writeInt_eq_ok_iff.mpr ⟨hshort, rfl⟩] at harity
      exact absurd harity (by simp)
    refine iff_of_true (r.isStrict_reject _ hid) ?_
    intro hshort
    exact absurd hshort hlong

/-- The reply to what a handler came to, if there is one, is strict but for the last cause. There is room
for a value in the reply, since it was tried out further down. -/
theorem isStrict_finish {r : Request} (hid : RequestId.IsShort (some r.id)) {o : Outcome}
    {a : Answer} (h : r.finish o = .ok a) :
    a.response.IsStrict ↔ ∀ e, o = .failed (.rpc e) → e.toErrorObject.IsStrict := by
  obtain ⟨x, hx, ha⟩ := Request.reportedAs_of_finish h
  rw [ha]
  cases hx with
  | result hv =>
      have hlimit : resultLimit ≤ nestingLimit - 1 := by decide
      have htext := (Json.hasText_iff_isResult.mpr hv).mono hlimit
      exact iff_of_true ((Response.isStrict_result hid).mpr htext) (by simp)
  | refused | unwritable | other => exact iff_of_true (isStrict_ofCause _ hid) (by simp)
  | rpc =>
      refine (Response.isStrict_error hid).trans ?_
      simp [RpcError.toErrorObject]
  | badValue => exact iff_of_true (r.isStrict_reject _ hid) (by simp)

theorem isStrict_parse (e : MessageError) : e.answer.response.IsStrict :=
  ((RpcError.parse e.message).isStrict_response trivial RequestId.isShort_none).mpr
    (hasText_details e.message)

theorem isStrict_methodNotFound {r : Request} (hid : RequestId.IsShort (some r.id)) (name : Text) :
    (r.refuse (.methodNotFound name)).response.IsStrict :=
  ((RpcError.methodNotFound name).isStrict_response trivial hid).mpr (hasText_null _)

theorem isStrict_of_not_spoils {a : Answer} (h : d.answerMessage invoke m = .ok a)
    (hs : ¬ Spoils d invoke m) : a.response.IsStrict := by
  cases answersMessage_of_answerMessage h with
  | @unreadable e _ => exact isStrict_parse e
  | invalid ht hv hps =>
      refine (isStrict_report hv _).mpr ?_
      by_contra hreport
      exact hs (.report ht hv hps hreport)
  | @request r _ hcarries hanswer =>
      have hid := hcarries.isShort
      cases answers_of_answer hanswer with
      | @notFound name _ => exact isStrict_methodNotFound hid name
      | longVersion _ => exact r.isStrict_reject _ hid
      | @mismatch method hmethod hstrict harity =>
          refine (isStrict_mismatch hid method.arity).mpr fun hshort => ?_
          by_contra hcount
          exact hs (.count hcarries hmethod hstrict harity hshort (Nat.lt_of_not_le hcount))
      | finished hadmits hfinish =>
          refine (isStrict_finish hid hfinish).mpr fun e he => ?_
          by_contra hdata
          exact hs (.error hcarries hadmits he hdata)

theorem not_isStrict_of_spoils {a : Answer} (h : d.answerMessage invoke m = .ok a)
    (hs : Spoils d invoke m) : ¬ a.response.IsStrict := by
  intro hstrict
  cases hs with
  | report ht hv hps hreport =>
      have hr := (Received.invalid (d := d) ht hv hps).eq
      obtain rfl := Except.ok.inj ((answerMessage_of_answered hr).symm.trans h)
      exact hreport ((isStrict_report hv _).mp hstrict)
  | @count r method hcarries hmethod hsome harity hshort hlong =>
      have hr := (Received.request (d := d) hcarries).eq
      rw [(Requested.mismatch hmethod hsome harity).eq] at hr
      obtain rfl := Except.ok.inj ((answerMessage_of_answered hr).symm.trans h)
      have hcount := (isStrict_mismatch hcarries.isShort method.arity).mp hstrict hshort
      exact absurd hcount (Nat.not_le_of_lt hlong)
  | error hcarries hadmits he hdata =>
      rw [answerMessage_of_admits hcarries hadmits] at h
      exact hdata ((isStrict_finish hcarries.isShort h).mp hstrict _ he)

/-- The reply to a message is strict JSON exactly if nothing spoils it. -/
theorem strict_iff {a : Answer} (h : d.answerMessage invoke m = .ok a) :
    a.response.IsStrict ↔ ¬ Spoils d invoke m := by
  constructor
  · intro hstrict hs
    exact not_isStrict_of_spoils h hs hstrict
  · exact isStrict_of_not_spoils h

/-- A number that overflows makes a message whose reply is not strict. -/
theorem not_isStrict_overflow :
    ∃ a, ({} : Dispatcher Unit).answerMessage (fun _ _ => .value .null) (.text (Text.of "1e400"))
      = .ok a ∧ ¬ a.response.IsStrict := by
  have hread : Json.readStrict messageLimit (Text.of "1e400") = .ok (.float (.infinite false)) := rfl
  have hcheck : Request.check (.float (.infinite false)) = .error
      [⟨.notObject (Text.of "JSONRPCRequest"), [], .float (.infinite false)⟩] := rfl
  have hreport : ¬ (Problem.report
      [⟨.notObject (Text.of "JSONRPCRequest"), [], .float (.infinite false)⟩]).HasText
        (nestingLimit - 3) := by
    intro h
    have hinput := (hasText_iff.mp h).2 (.float (.infinite false)) (by decide)
    exact absurd hinput (by decide)
  have hreply : ({} : Dispatcher Unit).answerMessage (fun _ _ => .value .null)
      (.text (Text.of "1e400")) = .ok _ :=
    answerMessage_of_answered (Received.invalid rfl hread hcheck).eq
  refine ⟨_, hreply, ?_⟩
  intro hstrict
  exact (strict_iff hreply).mp hstrict (.report rfl hread hcheck hreport)

end Dispatcher

end JsonRpc
