/-
A call over the wire is a call.

A client writes a request, the dispatcher reads it, runs the handler and writes the reply, and the
client reads that.  `call_transparent` says that nothing is lost on the way: the dispatcher comes to
what it would have come to for the request itself, and the client has the document of that reply.

The request and what the handler comes to have to be portable.  Then the reply is, too
(`Dispatcher.isPortable_answer`), since all that the dispatcher adds are numbers and texts without
surrogates.  The parameters have to be finite, since the dispatcher reads no constants; the reply need
not be, since the client does.
-/
import JsonRpc.Proofs.Catalog
import JsonRpc.Proofs.Client.Stream
import JsonRpc.Proofs.StrictReply

namespace JsonRpc

open Json

/-! ## Portable replies -/

/-- An error can be carried two levels down, where a response has it. -/
structure RpcError.IsPortable (e : RpcError) : Prop where
  code : (digits e.kind.code.natAbs).length ≤ digitLimit
  message : e.message.hasPair = false
  data : e.data.IsPortable (nestingLimit - 2)

/-- What the run of a handler comes to can be carried in a response. -/
def Outcome.IsPortable : Outcome → Prop
  | .value v => v.IsPortable (nestingLimit - 1)
  | .unwritable reason => reason.hasPair = false
  | .failed (.rpc e) => e.IsPortable
  | .failed (.badValue message) => message.hasPair = false
  | .failed (.other message) => message.hasPair = false
  | .failed (.unreportable _) => True

section Responses

variable {id : Option RequestId}

/-- The document of a response, whatever its third member is. -/
theorem isPortable_envelope {name : Text} {v : Json}
    (hnames : List.Nodup [Text.of "jsonrpc", Text.of "id", name]) (hname : name.hasPair = false)
    (hid : (RequestId.orNull id).IsPortable (nestingLimit - 1))
    (hv : v.IsPortable (nestingLimit - 1)) :
    (Json.obj [(Text.of "jsonrpc", .str protocolVersion), (Text.of "id", RequestId.orNull id),
      (name, v)]).IsPortable nestingLimit := by
  have hlimit : nestingLimit = nestingLimit - 1 + 1 := rfl
  have hversion : (str protocolVersion).IsPortable (nestingLimit - 1) :=
    isPortable_str.mpr (Text.hasPair_of _)
  rw [hlimit, isPortable_obj]
  refine ⟨hnames, ?_⟩
  simp only [List.forall_mem_cons]
  exact ⟨⟨Text.hasPair_of _, hversion⟩, ⟨Text.hasPair_of _, hid⟩, ⟨hname, hv⟩, by simp⟩

theorem Response.isPortable_result {v : Json}
    (hid : (RequestId.orNull id).IsPortable (nestingLimit - 1))
    (hv : v.IsPortable (nestingLimit - 1)) :
    (Response.mk id (.result v)).wire.IsPortable nestingLimit :=
  isPortable_envelope (by decide) (Text.hasPair_of _) hid hv

theorem RpcError.IsPortable.wire {e : RpcError} (h : e.IsPortable) :
    e.toErrorObject.wire.IsPortable (nestingLimit - 1) := by
  have hlimit : nestingLimit - 1 = nestingLimit - 2 + 1 := rfl
  have hcode : (Json.int e.kind.code).IsPortable (nestingLimit - 2) := isPortable_int.mpr h.code
  have hmessage : (str e.message).IsPortable (nestingLimit - 2) := isPortable_str.mpr h.message
  rw [ErrorObject.wire, hlimit, isPortable_obj]
  split
  · have hnames : List.Nodup [Text.of "code", Text.of "message"] := by decide
    refine ⟨hnames, ?_⟩
    simp only [List.append_nil, List.forall_mem_cons]
    exact ⟨⟨Text.hasPair_of _, hcode⟩, ⟨Text.hasPair_of _, hmessage⟩, by simp⟩
  · have hnames : List.Nodup [Text.of "code", Text.of "message", Text.of "data"] := by decide
    refine ⟨hnames, ?_⟩
    simp only [List.cons_append, List.nil_append, List.forall_mem_cons]
    exact ⟨⟨Text.hasPair_of _, hcode⟩, ⟨Text.hasPair_of _, hmessage⟩, ⟨Text.hasPair_of _, h.data⟩,
      by simp⟩

theorem RpcError.IsPortable.response {e : RpcError} (h : e.IsPortable)
    (hid : (RequestId.orNull id).IsPortable (nestingLimit - 1)) :
    (e.response id).wire.IsPortable nestingLimit :=
  isPortable_envelope (by decide) (Text.hasPair_of _) hid h.wire

end Responses

/-! ## Errors of the dispatcher -/

theorem RpcError.isPortable_ofCause {cause : Text} (h : cause.hasPair = false) :
    (RpcError.ofCause cause).IsPortable := by
  have hlimit : nestingLimit - 2 = nestingLimit - 3 + 1 := rfl
  refine ⟨RpcErrorKind.IsStock.short_code trivial,
    Text.hasPair_of "Internal error", ?_⟩
  rw [ofCause, details, hlimit, isPortable_obj]
  refine ⟨by simp, ?_⟩
  simp only [List.forall_mem_cons]
  exact ⟨⟨Text.hasPair_of _, isPortable_str.mpr h⟩, by simp⟩

theorem RpcError.isPortable_invalidParams {message : Text} (h : message.hasPair = false) :
    RpcError.IsPortable ⟨.invalidParams, message, .null⟩ :=
  ⟨RpcErrorKind.IsStock.short_code trivial, h, isPortable_null _⟩

theorem RpcError.isPortable_methodNotFound {name : Text} (h : name.hasPair = false) :
    (RpcError.methodNotFound name).IsPortable := by
  refine ⟨RpcErrorKind.IsStock.short_code trivial, ?_, isPortable_null _⟩
  show (Text.of "Method not found: " ++ name).hasPair = false
  rw [Text.hasPair_append_left (Text.hasSurrogate_of _)]
  exact h

theorem Request.isPortable_arityError {r : Request} {arity : Int}
    (hmethod : r.method.hasPair = false)
    (harity : (digits arity.natAbs).length ≤ digitLimit)
    (hcount : (digits r.params.length).length ≤ digitLimit) : (r.arityError arity).IsPortable := by
  have hlimit : nestingLimit - 2 = nestingLimit - 3 + 1 := rfl
  refine ⟨RpcErrorKind.IsStock.short_code trivial, ?_, ?_⟩
  · show (r.method ++ Text.of " expects " ++ Text.ofInt arity ++ Text.of " params, got "
      ++ Text.ofInt r.params.length).hasPair = false
    rw [Text.hasPair_append_right _ (Text.hasSurrogate_ofInt _),
      Text.hasPair_append_right _ (Text.hasSurrogate_of _),
      Text.hasPair_append_right _ (Text.hasSurrogate_ofInt _),
      Text.hasPair_append_right _ (Text.hasSurrogate_of _)]
    exact hmethod
  · show (Json.obj [(Text.of "expected", .int arity),
      (Text.of "received", .int r.params.length)]).IsPortable (nestingLimit - 2)
    rw [hlimit, isPortable_obj]
    have hnames : List.Nodup [Text.of "expected", Text.of "received"] := by decide
    refine ⟨hnames, ?_⟩
    simp only [List.forall_mem_cons]
    exact ⟨⟨Text.hasPair_of _, isPortable_int.mpr harity⟩,
      ⟨Text.hasPair_of _, isPortable_int.mpr hcount⟩, by simp⟩

/-! ## Answers -/

section Answers

variable {r : Request} {a : Answer}

theorem Request.isPortable_mismatch {arity : Int}
    (hid : r.id.toJson.IsPortable (nestingLimit - 1)) (hmethod : r.method.hasPair = false)
    (hcount : (digits r.params.length).length ≤ digitLimit) :
    (r.mismatch arity).response.wire.IsPortable nestingLimit := by
  rw [mismatch]
  split
  · rename_i t harity
    have hshort := (writeInt_eq_ok_iff.mp harity).1
    exact (isPortable_arityError hmethod hshort hcount).response hid
  · rename_i e _
    have hmessage := Text.hasPair_of_hasSurrogate e.hasSurrogate_message
    exact (RpcError.isPortable_invalidParams hmessage).response hid

/-- What the dispatcher makes of a portable outcome is portable. -/
theorem Request.isPortable_finish {o : Outcome} (hid : r.id.toJson.IsPortable (nestingLimit - 1))
    (ho : o.IsPortable) (h : r.finish o = .ok a) : a.response.wire.IsPortable nestingLimit := by
  have hcause {cause : Text} (hc : cause.hasPair = false) :
      ((RpcError.ofCause cause).response (some r.id)).wire.IsPortable nestingLimit :=
    (RpcError.isPortable_ofCause hc).response hid
  obtain ⟨x, hx, ha⟩ := reportedAs_of_finish h
  rw [ha]
  cases hx with
  | result _ => exact Response.isPortable_result hid ho
  | @refused _ e _ _ => exact hcause (Text.hasPair_of_hasSurrogate e.hasSurrogate_message)
  | unwritable | other => exact hcause ho
  | rpc => exact RpcError.IsPortable.response ho hid
  | badValue => exact (RpcError.isPortable_invalidParams ho).response hid

variable {H : Type} {d : Dispatcher H} {invoke : H → List Json → Outcome}

/-- A portable request has a portable reply, if it has one. -/
theorem Dispatcher.isPortable_answer (hid : r.id.toJson.IsPortable (nestingLimit - 1))
    (hmethod : r.method.hasPair = false) (hcount : (digits r.params.length).length ≤ digitLimit)
    (ho : ∀ method, d.Admits r method → (invoke method.handler r.params).IsPortable)
    (h : d.answer invoke r = .ok a) : a.response.wire.IsPortable nestingLimit := by
  cases answers_of_answer h with
  | notFound hresolve =>
      obtain rfl := Catalog.eq_of_resolve_eq_notFound hresolve
      exact (RpcError.isPortable_methodNotFound hmethod).response hid
  | @longVersion e _ =>
      have hmessage := Text.hasPair_of_hasSurrogate e.hasSurrogate_message
      exact (RpcError.isPortable_invalidParams hmessage).response hid
  | mismatch _ _ _ => exact Request.isPortable_mismatch hid hmethod hcount
  | finished hadmits hfinish => exact Request.isPortable_finish hid (ho _ hadmits) hfinish

end Answers

/-! ## Calls -/

theorem Request.isFinite_document {r : Request} (h : ∀ p ∈ r.params, p.isFinite = true) :
    (Json.request r.method (.arr r.params) r.id.toJson).isFinite = true := by
  have hid : r.id.toJson.isFinite = true := by
    cases r.id <;> simp [RequestId.toJson, Json.isFinite, Json.atoms]
  have hparams := Json.isFinite_arr.mpr h
  have hstr (t : Text) : (Json.str t).isFinite = true := by simp [Json.isFinite, Json.atoms]
  rw [document_eq, Json.isFinite_obj]
  simp [hid, hparams, hstr]

/-- The members of a portable request document. -/
theorem Request.isPortable_parts {r : Request}
    (h : (Json.request r.method (.arr r.params) r.id.toJson).IsPortable messageLimit) :
    r.id.toJson.IsPortable (nestingLimit - 1) ∧ r.method.hasPair = false := by
  have hlimit : messageLimit ≤ nestingLimit - 1 + 1 := by decide
  have h := h.mono hlimit
  rw [document_eq, isPortable_obj] at h
  obtain ⟨-, hms⟩ := h
  simp only [List.forall_mem_cons] at hms
  obtain ⟨-, ⟨-, hid⟩, ⟨-, hmethod⟩, -⟩ := hms
  exact ⟨hid, isPortable_str.mp hmethod⟩

/-- The reply that a client has to a request it wrote is the reply to that request, whatever else there is to
be said of the client and its peer. -/
theorem call_transparent {H : Type} (d : Dispatcher H) (invoke : H → List Json → Outcome)
    (r : Request) (hfinite : ∀ p ∈ r.params, p.isFinite = true)
    (hrequest : (Json.request r.method (.arr r.params) r.id.toJson).IsPortable messageLimit)
    (hcount : (digits r.params.length).length ≤ digitLimit)
    (houtcome : ∀ method, d.Admits r method → (invoke method.handler r.params).IsPortable) :
    ∃ t, (Json.request r.method (.arr r.params) r.id.toJson).write = .ok t ∧
      d.answerMessage invoke (.text t) = d.answer invoke r ∧
      ∀ a, d.answer invoke r = .ok a →
        ∃ u, a.response.write = .ok u ∧
          ∀ x, (Client.exec (Client.onMessage (.text u)) x).1 = .ok a.response.wire := by
  have hlimit : messageLimit ≤ nestingLimit := by decide
  obtain ⟨t, ht, hread⟩ := hrequest.readStrict_write hlimit (Request.isFinite_document hfinite)
  have hcarries : (Message.text t).Carries r := ⟨t, _, rfl, hread, Request.check_request r⟩
  obtain ⟨hid, hmethod⟩ := Request.isPortable_parts hrequest
  refine ⟨t, ht, Dispatcher.answerMessage_of_carries hcarries, ?_⟩
  intro a ha
  have hreply := Dispatcher.isPortable_answer hid hmethod hcount houtcome ha
  obtain ⟨u, hu, hback⟩ := hreply.read_write
  have hreadback : (Message.text u).read = .ok a.response.wire := mapError_eq_ok_iff.mpr hback
  refine ⟨u, hu, fun x => ?_⟩
  rw [Client.exec_onMessage_of_read hreadback hu]

/-- A dispatcher with one service, `a`, and one method, `f`. -/
def Dispatcher.single (arity : Int) : Dispatcher Unit :=
  { catalog :=
      { services := [⟨⟨Text.of "a", by decide⟩, [(⟨Text.of "f", by decide⟩, ⟨arity, (), false⟩)]⟩]
        published := [(⟨Text.of "a", by decide⟩, 0)] } }

theorem call_transparent_echo :
    let r : Request := ⟨Text.of "a.1.f", [.null, .arr [.int (-7), .bool true],
      .obj [(Text.of "é", .float (.finite true ⟨1022 * 2 ^ 52, by decide⟩))]], .str (Text.of "x")⟩
    ∃ t, (Json.request r.method (.arr r.params) r.id.toJson).write = .ok t ∧
      (Dispatcher.single 3).answerMessage (fun _ ps => .value (.arr ps)) (.text t)
        = .ok ⟨⟨some r.id, .result (.arr r.params)⟩, []⟩ ∧
      ∃ u, (Response.mk (some r.id) (.result (.arr r.params))).write = .ok u ∧
        ∀ x, (Client.exec (Client.onMessage (.text u)) x).1 =
          .ok (Response.mk (some r.id) (.result (.arr r.params))).wire := by
  intro r
  have hdigits : (digits 7).length ≤ digitLimit := by
    rw [digits_of_lt (by decide)]
    decide
  have hshort (v : Json) (h : ∀ a ∈ v.atoms, ∀ n, a = .int n → n = -7) : v.HasShortInts := by
    intro a ha n hn
    rw [h a ha n hn]
    exact hdigits
  have hrequest : (Json.request r.method (.arr r.params) r.id.toJson).IsPortable messageLimit := by
    refine ⟨by decide, hshort _ ?_, by decide⟩
    simp [r, Json.request, RequestId.toJson, Json.isEmpty, Json.atoms, Json.atomsOfItems,
      Json.atomsOfMembers]
  have hvalue : (Json.arr r.params).IsPortable (nestingLimit - 1) := by
    refine ⟨by decide, hshort _ ?_, by decide⟩
    simp [r, Json.atoms, Json.atomsOfItems, Json.atomsOfMembers]
  have hcount : (digits r.params.length).length ≤ digitLimit := by
    rw [digits_of_lt (by decide)]
    decide
  have htext : (Json.arr r.params).HasText resultLimit := by
    rw [Json.hasText_iff]
    refine ⟨by decide, ?_⟩
    simpa [r, Json.atoms, Json.atomsOfItems, Json.atomsOfMembers, Json.Style.writes,
      Binary64.isFinite] using hdigits
  have hanswer : (Dispatcher.single 3).answer (fun _ ps => .value (.arr ps)) r
      = .ok ⟨⟨some r.id, .result (.arr r.params)⟩, []⟩ := by
    have hadmits : (Dispatcher.single 3).Admits r ⟨3, (), false⟩ := ⟨rfl, by decide⟩
    rw [Dispatcher.answer_of_admits hadmits]
    exact r.finish_of_hasText htext
  obtain ⟨t, ht, hmessage, hback⟩ := call_transparent (Dispatcher.single 3)
    (fun _ ps => .value (.arr ps)) r (by decide) hrequest hcount fun _ _ => hvalue
  exact ⟨t, ht, hmessage.trans hanswer, hback _ hanswer⟩

end JsonRpc
