/-
The id of a reply.

A reply carries an id on one of two ways: that of the request if the document is one, and otherwise what
can be saved of the document.  Both come to the same (`RequestId.salvage_of_check`), so the id of a
reply is a matter of the document alone, whatever becomes of the request.  `Dispatcher.correlated` says
which id that is, in terms of the document and, where a name stands twice, of its text.
-/
import JsonRpc.Proofs.Dispatch
import JsonRpc.Proofs.Envelope.Request
import JsonRpc.Proofs.Json.Value

namespace JsonRpc

/-! ## Ids of documents -/

namespace RequestId

theorem ofJson?_eq_some_iff {v : Json} {i : RequestId} : ofJson? v = some i ↔ v = i.toJson := by
  cases v <;> cases i <;> simp [ofJson?, toJson]

theorem salvage_eq_some_iff {v : Json} {i : RequestId} :
    salvage v = some i ↔
      ∃ ms, v = .obj ms ∧ Json.member? (Text.of "id") ms = some i.toJson := by
  cases v with
  | obj ms =>
      rw [salvage, Option.bind_eq_some_iff]
      simp only [ofJson?_eq_some_iff]
      constructor
      · rintro ⟨w, hw, rfl⟩
        exact ⟨ms, rfl, hw⟩
      · rintro ⟨ms', hms, hid⟩
        obtain rfl := Json.obj.inj hms
        exact ⟨_, hid, rfl⟩
  | _ => simp [salvage]

/-- The id of a request is the one that would have been saved. -/
theorem salvage_of_check {v : Json} {r : Request} (h : Request.check v = .ok r) :
    salvage v = some r.id := by
  obtain ⟨ms, hv, -, -, -, hid⟩ := Request.check_eq_ok_iff.mp h
  exact salvage_eq_some_iff.mpr ⟨ms, hv, hid⟩

end RequestId

/-! ## Replies to requests -/

section

variable {r : Request} {a : Answer}

theorem Request.id_of_finish {o : Outcome} (h : r.finish o = .ok a) :
    a.response.id = some r.id := by
  obtain ⟨x, -, ha⟩ := reportedAs_of_finish h
  rw [ha]

theorem Request.id_mismatch (r : Request) (arity : Int) :
    (r.mismatch arity).response.id = some r.id := by
  rw [mismatch]
  split <;> rfl

namespace Dispatcher

variable {H : Type} {d : Dispatcher H} {invoke : H → List Json → Outcome} {m : Message}

theorem id_of_answer (h : d.answer invoke r = .ok a) : a.response.id = some r.id := by
  cases answers_of_answer h with
  | notFound _ | longVersion _ => rfl
  | @mismatch method _ _ _ => exact r.id_mismatch method.arity
  | finished _ hfinish => exact Request.id_of_finish hfinish

/-! ## Replies to messages -/

/-- The id that can be saved of a document is that of the reply, whatever else the document is. -/
theorem id_of_answerMessage (h : d.answerMessage invoke m = .ok a) :
    a.response.id = m.document.toOption.bind fun (_, v) => RequestId.salvage v := by
  cases answersMessage_of_answerMessage h with
  | unreadable hdoc =>
      rw [hdoc]
      rfl
  | invalid ht hv _ =>
      rw [Message.document_eq_ok_iff.mpr ⟨ht, hv⟩]
      rfl
  | request hcarries hanswer =>
      obtain ⟨t, v, ht, hv, hr⟩ := hcarries
      rw [Message.document_eq_ok_iff.mpr ⟨ht, hv⟩]
      exact (id_of_answer hanswer).trans (RequestId.salvage_of_check hr).symm

end Dispatcher

end

/-! ## Documents with names that stand twice -/

open Json.Grammar

/-- The text is a document of an object that has these members written down, one after the other. -/
def Json.Grammar.ObjectDocument (d : Dialect) (n : Nat) (t : Text) (pairs : List (Text × Json)) :
    Prop :=
  ∃ t₁ t₂ rest, Spaces t (.ofChar '{' :: t₁) ∧ Spaces t₁ t₂ ∧
    Members (Value d n) t₂ pairs rest ∧ Spaces rest []

theorem Json.Grammar.ObjectDocument.document {d : Dialect} {n : Nat} {t : Text}
    {pairs : List (Text × Json)} (h : ObjectDocument d n t pairs) :
    Document d (n + 1) t (.obj (Json.ofPairs pairs)) := by
  obtain ⟨t₁, t₂, rest, hopen, hspaces, hmembers, hclose⟩ := h
  exact ⟨_, _, hopen, .inr (.object hspaces hmembers), hclose⟩

namespace Dispatcher

variable {H : Type}

/-- The reply to a message that is no document has no id, and the reply to a document the id in the
member of that name, if the document is an object and its member an id.  Of two members of that name
the last one counts. -/
theorem correlated (d : Dispatcher H) (invoke : H → List Json → Outcome) (m : Message) {a : Answer}
    (h : d.answerMessage invoke m = .ok a) :
    (∀ e, m.document = .error e → a.response.id = none) ∧
    (∀ t v, m.document = .ok (t, v) → ∀ i, a.response.id = some i ↔
      ∃ ms, v = .obj ms ∧ Json.member? (Text.of "id") ms = some i.toJson) ∧
    ∀ t pairs, m.decode = .ok t →
      ObjectDocument (.read false) (messageLimit - 1) t pairs →
      ∀ i, a.response.id = some i ↔
        Json.member? (Text.of "id") pairs.reverse = some i.toJson := by
  have hid := id_of_answerMessage h
  have hdocument (t : Text) (v : Json) (hv : m.document = .ok (t, v)) (i : RequestId) :
      a.response.id = some i ↔
        ∃ ms, v = .obj ms ∧ Json.member? (Text.of "id") ms = some i.toJson := by
    rw [hid, hv]
    exact RequestId.salvage_eq_some_iff
  refine ⟨?_, hdocument, ?_⟩
  · intro e he
    rw [hid, he]
    rfl
  · intro t pairs ht hpairs i
    have hv : Json.readStrict messageLimit t = .ok (.obj (Json.ofPairs pairs)) :=
      readWith_eq_ok_iff.mpr hpairs.document
    rw [hdocument _ _ (Message.document_eq_ok_iff.mpr ⟨ht, hv⟩) i, ← Json.member?_ofPairs]
    constructor
    · rintro ⟨ms, hms, hi⟩
      exact Json.obj.inj hms ▸ hi
    · intro hi
      exact ⟨_, rfl, hi⟩

/-- The text of a request with two ids, of which the first would not do. -/
def twoIds : Text :=
  Text.of "\x7b\"id\": true, \"method\": \"m\", \"id\": \"x\"\x7d"

theorem correlated_twoIds :
    ∃ a, ({} : Dispatcher Unit).answerMessage (fun _ _ => .value .null) (.text twoIds) = .ok a ∧
      a.response.id = some (.str (Text.of "x")) := by
  have hread : Json.readStrict messageLimit twoIds = .ok (.obj [(Text.of "id", .str (Text.of "x")),
      (Text.of "method", .str (Text.of "m"))]) := eq_ok_of_toOption (by decide +kernel)
  have hcarries : (Message.text twoIds).Carries ⟨Text.of "m", [], .str (Text.of "x")⟩ :=
    ⟨_, _, rfl, hread, rfl⟩
  have hreply : ({} : Dispatcher Unit).answerMessage (fun _ _ => .value .null) (.text twoIds) =
      .ok _ := answerMessage_of_carries hcarries
  have hdocument : (Message.text twoIds).document = .ok (twoIds, _) :=
    Message.document_eq_ok_iff.mpr ⟨rfl, hread⟩
  exact ⟨_, hreply, ((correlated _ _ _ hreply).2.1 _ _ hdocument _).mpr ⟨_, rfl, rfl⟩⟩

end Dispatcher

end JsonRpc
