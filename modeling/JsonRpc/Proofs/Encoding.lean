/-
Text and bytes.

A message that comes as bytes is the text that they encode.  Dispatching asks for that text and for
nothing else of a message, so bytes have the reply of their text, and bytes that no text encodes to
have the reply of a message that is no document.  The same goes for frames: whatever has happened at all
connections, it does not matter for any of them which of its frames were text and which were bytes
(`Transport.run_congr`).  `Dispatcher.encoding_irrelevant` puts this together.
-/
import JsonRpc.Proofs.Dispatch
import JsonRpc.Proofs.Text.Utf8
import JsonRpc.Transport

namespace JsonRpc

/-! ## Messages -/

namespace Message

/-- The message is this text, or the bytes that encode it. -/
inductive Holds (t : Text) : Message → Prop
  | text : Holds t (.text t)
  | bytes {b : Bytes} : Utf8.encodeStrict t = .ok b → Holds t (.bytes b)

theorem decode_eq_ok_iff {m : Message} {t : Text} : m.decode = .ok t ↔ m.Holds t := by
  cases m with
  | text t' =>
      rw [decode, Except.ok.injEq]
      constructor
      · rintro rfl
        exact .text
      · intro h
        cases h
        rfl
  | bytes b =>
      rw [decode, Utf8.decode_eq_ok_iff]
      constructor
      · exact .bytes
      · intro h
        cases h with
        | bytes hb => exact hb

end Message

namespace Dispatcher

variable {H : Type}

/-- The reply to a message where handlers have effects of any kind. -/
def reply {m : Type → Type} [Monad m] (d : Dispatcher H) (invoke : H → List Json → m Outcome)
    (message : Message) : m (Except Abort Answer) :=
  match d.receive message with
  | .error a => pure (.error a)
  | .ok dispatched => dispatched.run invoke

/-- Where handlers are functions of the parameters, this is the reply that they have. -/
theorem answerMessage_eq_reply (d : Dispatcher H) (invoke : H → List Json → Outcome)
    (message : Message) :
    d.answerMessage invoke message = Id.run (d.reply (fun h ps => pure (invoke h ps)) message) := by
  rw [answerMessage, reply]
  cases d.receive message <;> rfl

theorem receive_congr (d : Dispatcher H) {m m' : Message} (h : m.decode = m'.decode) :
    d.receive m = d.receive m' := by
  rw [receive, receive, Message.document, Message.document, h]

theorem receive_of_holds (d : Dispatcher H) {m m' : Message} {t : Text} (h : m.Holds t)
    (h' : m'.Holds t) : d.receive m = d.receive m' :=
  d.receive_congr ((Message.decode_eq_ok_iff.mpr h).trans (Message.decode_eq_ok_iff.mpr h').symm)

/-- Bytes that cannot be read are answered at once. -/
theorem receive_of_decode_eq_error (d : Dispatcher H) {b : Bytes} {e : DecodeError}
    (h : Utf8.decode b = .error e) :
    d.receive (.bytes b) = .ok (.answered (MessageError.encoding e).answer) := by
  have hdocument : (Message.bytes b).document = .error (.encoding e) := by
    rw [Message.document, Message.decode, h]
    rfl
  exact (Received.unreadable hdocument (by simp)).eq

end Dispatcher

/-! ## Frames -/

/-- The events are the same but for the encoding of a frame. -/
inductive Event.Agrees : Event → Event → Prop
  | frame {f g : Frame} {t : Text} : f.message.Holds t → g.message.Holds t →
      Agrees (.frame f) (.frame g)
  | refl (e : Event) : Agrees e e

section

variable {H : Type} {d : Dispatcher H} {e e' : Event}

theorem Phase.step_congr (h : e.Agrees e') (p : Phase H) : p.step d e = p.step d e' := by
  cases h with
  | frame hf hg =>
      cases p with
      | receiving => rw [step, step, onFrame, onFrame, d.receive_of_holds hf hg]
      | _ => rfl
  | refl => rfl

namespace Transport

theorem sentAfter_congr (h : e.Agrees e') (l : Link H) : sentAfter l e = sentAfter l e' := by
  cases h <;> rfl

theorem step_congr (h : e.Agrees e') (t : Transport H) (number : Nat) :
    t.step d number e = t.step d number e' := by
  simp only [step, Phase.step_congr h, sentAfter_congr h]

/-- However the frames at all connections are encoded, the same is sent and logged. -/
theorem run_congr {events events' : List (Nat × Event)} (t : Transport H)
    (h : List.Forall₂ (fun x y => x.1 = y.1 ∧ x.2.Agrees y.2) events events') :
    t.run d events = t.run d events' := by
  rw [run, run]
  generalize (t, ([] : Log)) = start
  induction h generalizing start with
  | nil => rfl
  | @cons x y events events' hxy _ ih =>
      obtain ⟨number, e⟩ := x
      obtain ⟨number', e'⟩ := y
      obtain ⟨rfl, hevent⟩ := hxy
      rw [List.foldl_cons, List.foldl_cons, ih]
      simp only [step_congr hevent]

end Transport

end

/-! ## The result -/

namespace Dispatcher

variable {H : Type}

/-- Bytes that encode a text have the reply of the text, with the same lines in the log, and all other
bytes the reply of a message that is no document, for which no handler is run.  What the connections
send and log does not depend on how their frames are encoded. -/
theorem encoding_irrelevant (d : Dispatcher H) (b : Bytes) :
    (∀ t, Utf8.encodeStrict t = .ok b →
      ∀ (m : Type → Type) [Monad m] (invoke : H → List Json → m Outcome),
        d.reply invoke (.bytes b) = d.reply invoke (.text t)) ∧
    ((∀ t, Utf8.encodeStrict t ≠ .ok b) →
      ∃ (e : DecodeError) (log : Log),
        ∀ (m : Type → Type) [Monad m] (invoke : H → List Json → m Outcome),
          d.reply invoke (.bytes b) = pure (.ok ⟨⟨none, .error ⟨-32700, Text.of "Parse error",
            .obj [(Text.of "details", .str e.message)]⟩⟩, log⟩)) ∧
    ∀ (transport : Transport H) (events events' : List (Nat × Event)),
      List.Forall₂ (fun x y => x.1 = y.1 ∧ x.2.Agrees y.2) events events' →
        transport.run d events = transport.run d events' := by
  refine ⟨?_, ?_, fun transport events events' h => transport.run_congr h⟩
  · intro t ht m _ invoke
    rw [reply, reply, d.receive_of_holds (.bytes ht) .text]
  · intro hnone
    cases hb : Utf8.decode b with
    | ok t => exact absurd (Utf8.decode_eq_ok_iff.mp hb) (hnone t)
    | error e =>
        refine ⟨e, (MessageError.encoding e).answer.log, fun m _ invoke => ?_⟩
        rw [reply, d.receive_of_decode_eq_error hb]
        rfl

/-- A byte order mark and a digit. -/
def marked : Text := [Json.byteOrderMark, .ofChar '1']

/-- A document with a mark in front of it, and bytes that end inside the mark. -/
theorem encoding_irrelevant_mark :
    let d : Dispatcher Unit := {}
    let invoke (_ : Unit) (_ : List Json) : Id Outcome := .value .null
    d.reply invoke (.bytes [0xEF, 0xBB, 0xBF, 0x31]) = d.reply invoke (.text marked) ∧
      (∃ (e : DecodeError) (log : Log), d.reply invoke (.bytes [0xEF, 0xBB]) =
        pure (.ok ⟨⟨none, .error ⟨-32700, Text.of "Parse error",
          .obj [(Text.of "details", .str e.message)]⟩⟩, log⟩)) ∧
      ∀ transport : Transport Unit,
        transport.run d [(0, .frame ⟨some marked, none⟩)] =
          transport.run d [(0, .frame ⟨none, some [0xEF, 0xBB, 0xBF, 0x31]⟩)] := by
  intro d invoke
  have hmarked : Utf8.encodeStrict marked = .ok [0xEF, 0xBB, 0xBF, 0x31] := by rfl
  have hcut (t : Text) : Utf8.encodeStrict t ≠ .ok [0xEF, 0xBB] := by
    intro ht
    have herror : Utf8.decode [0xEF, 0xBB] = .error ⟨.utf8, .endOfData, 0, 2, 0xEF⟩ := rfl
    exact absurd (herror.symm.trans (Utf8.decode_eq_ok_iff.mpr ht)) (by simp)
  obtain ⟨htext, -, -⟩ := d.encoding_irrelevant [0xEF, 0xBB, 0xBF, 0x31]
  obtain ⟨-, hbroken, hframes⟩ := d.encoding_irrelevant [0xEF, 0xBB]
  obtain ⟨e, log, hreply⟩ := hbroken hcut
  refine ⟨htext marked hmarked Id invoke, ⟨e, log, hreply Id invoke⟩, fun transport => ?_⟩
  exact hframes transport _ _ (.cons ⟨rfl, .frame .text (.bytes hmarked)⟩ .nil)

end Dispatcher

end JsonRpc
