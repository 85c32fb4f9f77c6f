/-
Which documents are responses, and that the wire keeps them.

A document is a response exactly if it is an object with an id or null, no version other than the one
there is, and at most one of a result and an error that are not null (`Response.check_eq_ok_iff`).  On
the wire a response has a member for the one of the two that it reports and none for the other, and an
error none for data that it does not have; what is left out is null when it is looked for, so the
response is read as it was.  `Response.readable_wire` puts this together with what a text can carry.
-/
import JsonRpc.Envelope.Response
import JsonRpc.Proofs.Envelope.Request
import JsonRpc.Proofs.Json.Portable

namespace JsonRpc

open Json

theorem RequestId.checkOrNull_eq_ok_iff {v : Json} {id : Option RequestId} :
    RequestId.checkOrNull v = .ok id ↔ v = RequestId.orNull id := by
  cases id with
  | none =>
      cases v <;> simp [checkOrNull, orNull, check, ofJson?, Except.map]
  | some i =>
      cases v <;> cases i <;> simp [checkOrNull, orNull, check, ofJson?, Except.map, toJson]

/-! ## Errors -/

namespace ErrorObject

theorem check_eq_ok_iff {v : Json} {e : ErrorObject} :
    check v = .ok e ↔ ∃ ms, v = .obj ms ∧
      (∃ w, Json.member? (Text.of "code") ms = some w ∧ Checked.lenientInteger w = .ok e.code) ∧
      Json.member? (Text.of "message") ms = some (.str e.message) ∧
      (Json.member? (Text.of "data") ms).getD .null = e.data := by
  cases v with
  | obj ms =>
      rw [check]
      constructor
      · intro h
        obtain ⟨⟨code, message⟩, hparts, h⟩ := bind_eq_ok_iff.mp h
        obtain rfl := Except.ok.inj h
        obtain ⟨hcode, hmessage⟩ := Checked.both_eq_ok_iff.mp hparts
        obtain ⟨w, hw, hmessage⟩ := Checked.required_eq_ok_iff.mp hmessage
        obtain rfl := Checked.string_eq_ok_iff.mp hmessage
        exact ⟨ms, rfl, Checked.required_eq_ok_iff.mp hcode, hw, rfl⟩
      · rintro ⟨ms', hms, hcode, hmessage, hdata⟩
        obtain rfl := Json.obj.inj hms
        have h₁ : Checked.required ms (Text.of "code") Checked.lenientInteger = .ok e.code :=
          Checked.required_eq_ok_iff.mpr hcode
        have h₂ : Checked.required ms (Text.of "message") Checked.string = .ok e.message :=
          Checked.required_eq_ok_iff.mpr ⟨_, hmessage, rfl⟩
        rw [h₁, h₂]
        show Except.ok (ErrorObject.mk e.code e.message
          ((Json.member? (Text.of "data") ms).getD .null)) = .ok e
        rw [hdata]
  | _ => simp [check, Checked.fail]

/-- Data that is not there is left out, and is null where it is looked for. -/
theorem member?_data (e : ErrorObject) :
    ∃ ms, e.wire = .obj ms ∧ Json.member? (Text.of "code") ms = some (.int e.code) ∧
      Json.member? (Text.of "message") ms = some (.str e.message) ∧
      Json.member? (Text.of "data") ms = if e.data = .null then none else some e.data := by
  refine ⟨_, rfl, ?_⟩
  by_cases hdata : e.data = .null
  · rw [if_pos hdata, if_pos hdata]
    exact ⟨rfl, rfl, rfl⟩
  · rw [if_neg hdata, if_neg hdata]
    exact ⟨rfl, rfl, rfl⟩

theorem check_wire (e : ErrorObject) : check e.wire = .ok e := by
  obtain ⟨ms, hms, hcode, hmessage, hdata⟩ := e.member?_data
  refine check_eq_ok_iff.mpr ⟨ms, hms, ⟨_, hcode, rfl⟩, hmessage, ?_⟩
  rw [hdata]
  split
  · rename_i hnull
    exact hnull.symm
  · rfl

theorem wire_ne_null (e : ErrorObject) : e.wire ≠ .null := by
  rw [wire]
  exact Json.noConfusion

end ErrorObject

/-! ## Responses -/

namespace Response

/-- The members of an object report this: of a result and an error at most one is not null. -/
def Reports (ms : List (Text × Json)) : Report → Prop
  | .result v => (Json.member? (Text.of "result") ms).getD .null = v ∧
      (Json.member? (Text.of "error") ms).getD .null = .null
  | .error e => (Json.member? (Text.of "result") ms).getD .null = .null ∧
      ∃ w, Json.member? (Text.of "error") ms = some w ∧ w ≠ .null ∧ ErrorObject.check w = .ok e

/-- An error object or null. -/
def errorOrNull (v : Json) : Checked (Option ErrorObject) :=
  if v = .null then .ok none else (ErrorObject.check v).map some

theorem optional_errorOrNull_eq_ok_iff {ms : List (Text × Json)} {error : Option ErrorObject} :
    Checked.optional ms (Text.of "error") none errorOrNull = .ok error ↔
      match error with
      | none => (Json.member? (Text.of "error") ms).getD .null = .null
      | some e => ∃ w, Json.member? (Text.of "error") ms = some w ∧ w ≠ .null ∧
          ErrorObject.check w = .ok e := by
  rw [Checked.optional_eq_ok_iff]
  cases hw : Json.member? (Text.of "error") ms with
  | none => cases error <;> simp
  | some w =>
      by_cases hnull : w = .null
      · cases error <;> simp [errorOrNull, hnull]
      · cases hcheck : ErrorObject.check w <;> cases error <;>
          simp [errorOrNull, hnull, hcheck, Except.map]

theorem check_obj (ms : List (Text × Json)) :
    check (.obj ms) = do
      let (_, id, error) ←
        (Checked.optional ms (Text.of "jsonrpc") () checkVersion).both
          ((Checked.required ms (Text.of "id") RequestId.checkOrNull).both
            (Checked.optional ms (Text.of "error") none errorOrNull))
      let report ← reportOf ms ((Json.member? (Text.of "result") ms).getD .null) error
      return ⟨id, report⟩ := rfl

theorem reportOf_eq_ok_iff {ms : List (Text × Json)} {result : Json}
    {error : Option ErrorObject} {report : Report} :
    reportOf ms result error = .ok report ↔
      error = none ∧ report = .result result ∨
        ∃ e, error = some e ∧ result = .null ∧ report = .error e := by
  cases error with
  | none => simp [reportOf, eq_comm]
  | some e => cases result <;> simp [reportOf, Checked.fail, eq_comm]

theorem check_eq_ok_iff {v : Json} {r : Response} :
    check v = .ok r ↔ ∃ ms, v = .obj ms ∧
      (∀ w, Json.member? (Text.of "jsonrpc") ms = some w → w = .str protocolVersion) ∧
      Json.member? (Text.of "id") ms = some (RequestId.orNull r.id) ∧ Reports ms r.report := by
  cases v with
  | obj ms =>
      rw [check_obj]
      constructor
      · intro h
        obtain ⟨⟨u, id, error⟩, hparts, h⟩ := bind_eq_ok_iff.mp h
        obtain ⟨report, hreport, h⟩ := bind_eq_ok_iff.mp h
        obtain rfl := Except.ok.inj h
        obtain ⟨hversion, hparts⟩ := Checked.both_eq_ok_iff.mp hparts
        obtain ⟨hid, herror⟩ := Checked.both_eq_ok_iff.mp hparts
        obtain ⟨w, hw, hid⟩ := Checked.required_eq_ok_iff.mp hid
        obtain rfl := RequestId.checkOrNull_eq_ok_iff.mp hid
        refine ⟨ms, rfl, Checked.optional_version_eq_ok_iff.mp hversion, hw, ?_⟩
        have herror := optional_errorOrNull_eq_ok_iff.mp herror
        rcases reportOf_eq_ok_iff.mp hreport with ⟨rfl, rfl⟩ | ⟨e, rfl, hresult, rfl⟩
        · exact ⟨rfl, herror⟩
        · exact ⟨hresult, herror⟩
      · rintro ⟨ms', hms, hversion, hid, hreport⟩
        obtain rfl := Json.obj.inj hms
        have h₁ : Checked.optional ms (Text.of "jsonrpc") () checkVersion = .ok () :=
          Checked.optional_version_eq_ok_iff.mpr hversion
        have h₂ : Checked.required ms (Text.of "id") RequestId.checkOrNull = .ok r.id :=
          Checked.required_eq_ok_iff.mpr ⟨_, hid, RequestId.checkOrNull_eq_ok_iff.mpr rfl⟩
        cases r with
        | mk id report =>
            cases report with
            | result v =>
                obtain ⟨hresult, herror⟩ := hreport
                have h₃ : Checked.optional ms (Text.of "error") none errorOrNull = .ok none :=
                  optional_errorOrNull_eq_ok_iff.mpr herror
                rw [h₁, h₂, h₃, hresult]
                rfl
            | error e =>
                obtain ⟨hresult, herror⟩ := hreport
                have h₃ : Checked.optional ms (Text.of "error") none errorOrNull = .ok (some e) :=
                  optional_errorOrNull_eq_ok_iff.mpr herror
                rw [h₁, h₂, h₃, hresult]
                rfl
  | _ => simp [check, Checked.fail]

/-- The members of a response on the wire. -/
theorem wire_eq (r : Response) :
    ∃ ms, r.wire = .obj ms ∧
      ms.map Prod.fst = [Text.of "jsonrpc", Text.of "id", match r.report with
        | .result _ => Text.of "result"
        | .error _ => Text.of "error"] := by
  cases r with
  | mk id report => cases report <;> exact ⟨_, rfl, rfl⟩

/-- A response is read off its document on the wire. -/
theorem check_wire (r : Response) : check r.wire = .ok r := by
  have hversion {name : Text} {v : Json} (w : Json)
      (hw : Json.member? (Text.of "jsonrpc") [(Text.of "jsonrpc", .str protocolVersion),
        (Text.of "id", RequestId.orNull r.id), (name, v)] = some w) :
      w = .str protocolVersion := (Option.some.inj hw).symm
  cases r with
  | mk id report =>
      cases report with
      | result v => exact check_eq_ok_iff.mpr ⟨_, rfl, hversion, rfl, rfl, rfl⟩
      | error e =>
          refine check_eq_ok_iff.mpr ⟨_, rfl, hversion, rfl, rfl, e.wire, rfl, e.wire_ne_null, ?_⟩
          exact e.check_wire

/-- A response comes back from the wire as it was.  That is not to be seen by comparing if it has a
NaN, which is not the same as itself. -/
theorem readable_wire (r : Response) (h : r.wire.IsPortable nestingLimit) :
    (∃ ms, r.wire = .obj ms ∧
      ms.map Prod.fst = [Text.of "jsonrpc", Text.of "id", match r.report with
        | .result _ => Text.of "result"
        | .error _ => Text.of "error"]) ∧
    ∃ t v, r.write = .ok t ∧ Json.read t = .ok v ∧ check v = .ok r ∧
      (r.isReadFrom v = true ↔ r.wire.hasNaN = false) := by
  obtain ⟨t, ht, hread⟩ := h.read_write
  have hcheck := r.check_wire
  refine ⟨r.wire_eq, t, r.wire, ht, hread, hcheck, ?_⟩
  rw [isReadFrom, hcheck]
  simp [Except.toOption]

/-- An error without a message, whose data has nothing in it but what counts as empty. -/
def hollow : Response :=
  ⟨none, .error ⟨0, [], .obj [(Text.of "a", .null), ([], .arr [.int 0, .bool false, .str []])]⟩⟩

theorem readable_wire_hollow :
    hollow.wire.IsPortable nestingLimit ∧
      ∃ t v, hollow.write = .ok t ∧ Json.read t = .ok v ∧ check v = .ok hollow ∧
        hollow.isReadFrom v = true := by
  have hshort : hollow.wire.HasShortInts := by
    have hzero : ∀ a ∈ hollow.wire.atoms, ∀ n, a = .int n → n = 0 := by
      simp [hollow, wire, ErrorObject.wire, RequestId.orNull, Json.atoms, Json.atomsOfItems,
        Json.atomsOfMembers]
    intro a ha n hn
    rw [hzero a ha n hn]
    show (digits 0).length ≤ digitLimit
    rw [digits_of_lt (by decide)]
    decide
  have hportable : hollow.wire.IsPortable nestingLimit := ⟨by decide, hshort, by decide⟩
  obtain ⟨-, t, v, ht, hread, hcheck, hsame⟩ := readable_wire hollow hportable
  exact ⟨hportable, t, v, ht, hread, hcheck, hsame.mpr (by decide)⟩

end Response

end JsonRpc
