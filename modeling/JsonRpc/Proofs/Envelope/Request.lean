/-
Which documents are requests.

Checks combine like the parts of a form: a form is read if all its parts are.  A document is a request
exactly if it is an object with a string for a method, an id, an array for parameters or none, and no
version other than the one there is (`Request.check_eq_ok_iff`); and the document that a client makes
of a method, parameters and an id is read as these.
-/
import JsonRpc.Envelope.Request
import JsonRpc.Proofs.Chain

namespace JsonRpc

namespace Checked

variable {α β : Type} {ms : List (Text × Json)} {name : Text}

theorem both_eq_ok_iff {a : Checked α} {b : Checked β} {x : α} {y : β} :
    a.both b = .ok (x, y) ↔ a = .ok x ∧ b = .ok y := by
  cases a <;> cases b <;> simp [both]

theorem under_eq_ok_iff {a : Checked α} {x : α} : under name a = .ok x ↔ a = .ok x :=
  mapError_eq_ok_iff

theorem required_eq_ok_iff {check : Json → Checked α} {x : α} :
    required ms name check = .ok x ↔ ∃ v, Json.member? name ms = some v ∧ check v = .ok x := by
  rw [required]
  cases Json.member? name ms with
  | none => simp [under, fail]
  | some v => simp [under_eq_ok_iff]

theorem optional_eq_ok_iff {absent : α} {check : Json → Checked α} {x : α} :
    optional ms name absent check = .ok x ↔
      Json.member? name ms = none ∧ x = absent ∨
        ∃ v, Json.member? name ms = some v ∧ check v = .ok x := by
  rw [optional]
  cases Json.member? name ms with
  | none => simp [eq_comm]
  | some v => simp [under_eq_ok_iff]

theorem string_eq_ok_iff {v : Json} {t : Text} : string v = .ok t ↔ v = .str t := by
  cases v <;> simp [string, fail]

theorem list_eq_ok_iff {v : Json} {vs : List Json} : list v = .ok vs ↔ v = .arr vs := by
  cases v <;> simp [list, fail]

end Checked

theorem checkVersion_eq_ok_iff {v : Json} {u : Unit} :
    checkVersion v = .ok u ↔ v = .str protocolVersion := by
  cases v with
  | str t =>
      rw [checkVersion]
      constructor
      · intro h
        obtain ⟨t', ht, h⟩ := bind_eq_ok_iff.mp h
        rw [Checked.unicode] at ht
        split at ht
        · exact absurd ht (by simp [Checked.fail])
        · obtain rfl := Except.ok.inj ht
          split at h
          · rename_i ht
            rw [ht]
          · exact absurd h (by simp [Checked.fail])
      · intro h
        rw [Json.str.inj h]
        rfl
  | _ => simp [checkVersion, Checked.fail]

/-- A form has the version that there is, if it has one. -/
theorem Checked.optional_version_eq_ok_iff {ms : List (Text × Json)} {u : Unit} :
    Checked.optional ms (Text.of "jsonrpc") () checkVersion = .ok u ↔
      ∀ w, Json.member? (Text.of "jsonrpc") ms = some w → w = .str protocolVersion := by
  rw [Checked.optional_eq_ok_iff]
  cases Json.member? (Text.of "jsonrpc") ms with
  | none => simp
  | some w => simp [checkVersion_eq_ok_iff]

theorem RequestId.check_eq_ok_iff {v : Json} {i : RequestId} :
    RequestId.check v = .ok i ↔ v = i.toJson := by
  cases v <;> cases i <;> simp [RequestId.check, RequestId.ofJson?, RequestId.toJson]

namespace Request

theorem check_eq_ok_iff {v : Json} {r : Request} :
    check v = .ok r ↔ ∃ ms, v = .obj ms ∧
      (∀ w, Json.member? (Text.of "jsonrpc") ms = some w → w = .str protocolVersion) ∧
      Json.member? (Text.of "method") ms = some (.str r.method) ∧
      (Json.member? (Text.of "params") ms = none ∧ r.params = [] ∨
        Json.member? (Text.of "params") ms = some (.arr r.params)) ∧
      Json.member? (Text.of "id") ms = some r.id.toJson := by
  cases v with
  | obj ms =>
      rw [check]
      constructor
      · intro h
        obtain ⟨⟨u, method, params, id⟩, hparts, h⟩ := bind_eq_ok_iff.mp h
        obtain rfl := Except.ok.inj h
        obtain ⟨hversion, hparts⟩ := Checked.both_eq_ok_iff.mp hparts
        obtain ⟨hmethod, hparts⟩ := Checked.both_eq_ok_iff.mp hparts
        obtain ⟨hparams, hid⟩ := Checked.both_eq_ok_iff.mp hparts
        obtain ⟨w, hw, hmethod⟩ := Checked.required_eq_ok_iff.mp hmethod
        obtain rfl := Checked.string_eq_ok_iff.mp hmethod
        obtain ⟨i, hi, hid⟩ := Checked.required_eq_ok_iff.mp hid
        obtain rfl := RequestId.check_eq_ok_iff.mp hid
        refine ⟨ms, rfl, Checked.optional_version_eq_ok_iff.mp hversion, hw, ?_, hi⟩
        rcases Checked.optional_eq_ok_iff.mp hparams with h | ⟨ps, hps, hlist⟩
        · exact .inl h
        · obtain rfl := Checked.list_eq_ok_iff.mp hlist
          exact .inr hps
      · rintro ⟨ms', hms, hversion, hmethod, hparams, hid⟩
        obtain rfl := Json.obj.inj hms
        have h₁ : Checked.optional ms (Text.of "jsonrpc") () checkVersion = .ok () :=
          Checked.optional_version_eq_ok_iff.mpr hversion
        have h₂ : Checked.required ms (Text.of "method") Checked.string = .ok r.method :=
          Checked.required_eq_ok_iff.mpr ⟨_, hmethod, rfl⟩
        have h₃ : Checked.optional ms (Text.of "params") [] Checked.list = .ok r.params :=
          Checked.optional_eq_ok_iff.mpr (hparams.imp_right fun h => ⟨_, h, rfl⟩)
        have h₄ : Checked.required ms (Text.of "id") RequestId.check = .ok r.id :=
          Checked.required_eq_ok_iff.mpr ⟨_, hid, RequestId.check_eq_ok_iff.mpr rfl⟩
        rw [h₁, h₂, h₃, h₄]
        rfl
  | _ => simp [check, Checked.fail]

/-- The document that a client makes of a request. -/
theorem document_eq (r : Request) :
    Json.request r.method (.arr r.params) r.id.toJson =
      .obj [(Text.of "jsonrpc", .str protocolVersion), (Text.of "id", r.id.toJson),
        (Text.of "method", .str r.method), (Text.of "params", .arr r.params)] := by
  have hparams : (if (Json.arr r.params).isEmpty then .arr [] else .arr r.params)
      = Json.arr r.params := by
    cases r.params <;> rfl
  rw [Json.request, hparams]

/-- The request of a client is read as what it was made of. -/
theorem check_request (r : Request) :
    check (Json.request r.method (.arr r.params) r.id.toJson) = .ok r := by
  rw [check_eq_ok_iff, document_eq]
  refine ⟨_, rfl, ?_, rfl, .inr rfl, rfl⟩
  intro w hw
  exact (Option.some.inj hw).symm

end Request

end JsonRpc
