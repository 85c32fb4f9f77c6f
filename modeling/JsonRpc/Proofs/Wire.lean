/-
What goes over the wire.

The text of a response can be taken for bytes, and bytes for a text.  It is one line of ASCII, so it can
always be encoded; and it begins with the name of its first member, so no byte order mark and no pattern of
zeros is found in its bytes.  Hence a client makes the same document of the text and of its bytes
(`Response.readsAs_write`).

Connections send nothing else.  A connection that has a reply to send has the text of a response, and no
event gives it any other (`Link.RepliesOnly.after`); so whatever has happened at all connections, only such
texts have been sent (`Transport.repliesOnly_history`).
-/
import JsonRpc.Proofs.Client.Stream
import JsonRpc.Proofs.Json.Line
import JsonRpc.Proofs.Presence
import JsonRpc.Proofs.Text.Detection

namespace JsonRpc

/-! ## Text or bytes -/

/-- The text is one line of printable ASCII.  It can be encoded, its bytes are taken for the UTF-8 that they
are, and a client that gets the bytes does as if it had got the text and makes this document of it. -/
structure Text.ReadsAs (t : Text) (v : Json) : Prop where
  line : ∀ c ∈ t, 0x20 ≤ c.val ∧ c.val < 0x7F
  alike : ∃ bytes, Utf8.encodeStrict t = .ok bytes ∧ Encoding.detect bytes = (.utf8, 0) ∧
    ∀ x : Client.Scene, (Client.exec (Client.onMessage (.text t)) x).1 = .ok v ∧
      Client.exec (Client.onMessage (.bytes bytes)) x = Client.exec (Client.onMessage (.text t)) x

theorem Text.IsLine.hasSurrogate {t : Text} (h : t.IsLine) : t.hasSurrogate = false := by
  rw [Text.hasSurrogate, List.any_eq_false]
  intro c hc
  obtain ⟨-, hhigh⟩ := h c hc
  rw [Bool.not_eq_true, Utf8.isSurrogate_eq_false_iff]
  exact .inl (Nat.lt_trans hhigh (by decide))

namespace Response

variable {r : Response} {t : Text}

/-- A response begins with the name of its first member. -/
theorem exists_eq_append_of_write (h : r.write = .ok t) :
    ∃ rest, t = Text.of "\x7b\"jsonrpc\"" ++ rest := by
  have hnested : Json.writeNested (.wire true) (Json.nestingLimit - 1 + 1) r.wire = .ok t := h
  obtain ⟨first, others, -, -, htext⟩ := Json.writeNested_obj_cons hnested
  rw [← List.append_nil t, htext]
  exact ⟨_, rfl⟩

/-- No byte order mark and no pattern of zeros is found in its bytes. -/
theorem detect_of_write (h : r.write = .ok t) : Encoding.detect (Utf8.encode t) = (.utf8, 0) := by
  obtain ⟨rest, rfl⟩ := exists_eq_append_of_write h
  rfl

theorem document_of_write (h : r.write = .ok t) :
    Json.Grammar.Document (.read true) Json.nestingLimit t r.wire.settled := by
  have hwritten : r.wire.writeWith (.wire true) = .ok t := h
  exact Json.Grammar.readWith_eq_ok_iff.mp (Json.readWith_write hwritten)

/-- A response that was written is read off its text and off its bytes. -/
theorem readsAs_write (h : r.write = .ok t) : t.ReadsAs r.wire.settled := by
  have hline : t.IsLine := Json.isLine_write h
  have hdetect := detect_of_write h
  have hdocument := document_of_write h
  obtain ⟨u, hu⟩ := Json.exists_write_of_document hdocument
  have htext : (Message.text t).read = .ok r.wire.settled := by
    rw [Message.read, mapError_eq_ok_iff]
    exact Json.Grammar.readWith_eq_ok_iff.mpr hdocument
  have hbytes : (Message.bytes (Utf8.encode t)).read = .ok r.wire.settled := by
    rw [Message.read, Text.ofBytes_encode hline.hasSurrogate hdetect, mapError_ok, ok_bind,
      mapError_eq_ok_iff]
    exact Json.Grammar.readUnmarked_eq_ok_iff.mpr hdocument
  refine ⟨hline, Utf8.encode t, ?_, hdetect, fun x => ⟨?_, ?_⟩⟩
  · exact Utf8.encodeStrict_eq_ok_iff.mpr ⟨hline.hasSurrogate, rfl⟩
  · rw [Client.exec_onMessage_of_read htext hu]
  · rw [Client.exec_onMessage_of_read htext hu, Client.exec_onMessage_of_read hbytes hu]

end Response

/-! ## Replies -/

/-- The text is that of a response. -/
def Text.IsReply (t : Text) : Prop := ∃ r : Response, r.write = .ok t

theorem Text.IsReply.readsAs {t : Text} (h : t.IsReply) :
    ∃ r : Response, r.write = .ok t ∧ t.ReadsAs r.wire.settled := by
  obtain ⟨r, hr⟩ := h
  exact ⟨r, hr, Response.readsAs_write hr⟩

variable {H : Type}

namespace Phase

/-- If there is something to send in this phase, it is a reply. -/
def RepliesOnly (p : Phase H) : Prop := ∀ t, p = .sending t → t.IsReply

/-- Nothing is to be sent. -/
theorem repliesOnly_of_ne {p : Phase H} (h : ∀ t, p ≠ .sending t) : p.RepliesOnly :=
  fun t ht => absurd ht (h t)

theorem repliesOnly_reply (a : Answer) : (reply a : Phase H × Log).1.RepliesOnly := by
  intro t ht
  rcases reply_cases (H := H) a with ⟨t', hwrite, hreply⟩ | ⟨w, ending, -, hreply⟩
  · obtain rfl := Phase.sending.inj (hreply.symm.trans ht)
    exact ⟨a.response, hwrite⟩
  · exact absurd (hreply.symm.trans ht) (by simp)

theorem repliesOnly_onFrame (d : Dispatcher H) (f : Frame) : (onFrame d f).1.RepliesOnly := by
  rw [onFrame]
  cases d.receive f.message with
  | error b => exact repliesOnly_of_ne (by simp)
  | ok x =>
      cases x with
      | answered a => exact repliesOnly_reply a
      | invoking m r => exact repliesOnly_of_ne (by simp)

theorem repliesOnly_onHandled (r : Request) (o : Outcome) :
    (onHandled r o : Phase H × Log).1.RepliesOnly := by
  rw [onHandled]
  cases r.finish o with
  | error b => exact repliesOnly_of_ne (by simp)
  | ok a => exact repliesOnly_reply a

theorem repliesOnly_onUnsent (fault : SendFault) :
    (onUnsent fault : Phase H × Log).1.RepliesOnly := by
  obtain ⟨ending, hending⟩ := exists_onUnsent (H := H) fault
  rw [hending]
  exact repliesOnly_of_ne (by simp)

/-- A phase that has nothing to send is followed by one with a reply, if by any with something to send. -/
theorem RepliesOnly.after {p : Phase H} (h : p.RepliesOnly) (d : Dispatcher H) (e : Event) :
    (p.after d e).RepliesOnly := by
  cases p with
  | opening =>
      cases e with
      | accepted | broken => exact repliesOnly_of_ne nofun
      | frame | departed | handled | sent | unsent => exact h
  | receiving =>
      cases e with
      | frame f => exact repliesOnly_onFrame d f
      | departed | broken => exact repliesOnly_of_ne nofun
      | accepted | handled | sent | unsent => exact h
  | handling m r =>
      cases e with
      | handled o => exact repliesOnly_onHandled r o
      | accepted | frame | departed | sent | unsent | broken => exact h
  | sending reply =>
      cases e with
      | sent => exact repliesOnly_of_ne nofun
      | unsent fault => exact repliesOnly_onUnsent fault
      | accepted | frame | departed | handled | broken => exact h
  | ended => exact h

end Phase

namespace Link

/-- What was sent on the connection are replies, and so is what it has to send, if anything. -/
structure RepliesOnly (l : Link H) : Prop where
  sent : ∀ t ∈ l.sent, t.IsReply
  phase : l.phase.RepliesOnly

theorem RepliesOnly.sentAfter {l : Link H} (h : l.RepliesOnly) (e : Event) :
    ∀ t ∈ Transport.sentAfter l e, t.IsReply := by
  cases e with
  | sent =>
      rw [Transport.sentAfter]
      cases hphase : l.phase with
      | sending reply =>
          intro t ht
          rcases List.mem_append.mp ht with ht | ht
          · exact h.sent t ht
          · obtain rfl := List.mem_singleton.mp ht
            exact h.phase t hphase
      | opening | receiving | handling | ended => exact h.sent
  | accepted | frame | departed | handled | unsent | broken => exact h.sent

theorem RepliesOnly.after {l : Link H} (h : l.RepliesOnly) (d : Dispatcher H) (e : Event) :
    (l.after d e).RepliesOnly := by
  have hphase := h.phase.after d e
  rw [Phase.after] at hphase
  rw [Link.after]
  cases hstep : l.phase.step d e with
  | none => exact h
  | some x =>
      rw [hstep] at hphase
      exact ⟨h.sentAfter e, hphase⟩

end Link

namespace Transport

/-- Nothing but replies was sent on any connection. -/
def RepliesOnly (t : Transport H) : Prop := ∀ l ∈ t.links, l.RepliesOnly

theorem RepliesOnly.occur {t : Transport H} (h : t.RepliesOnly) (o : Occurrence H) :
    (t.occur o).RepliesOnly := by
  cases o with
  | arrival peer offered =>
      intro l hl
      rcases List.mem_append.mp hl with hl | hl
      · exact h l hl
      · obtain rfl := List.mem_singleton.mp hl
        exact ⟨by simp, Phase.repliesOnly_of_ne (by simp)⟩
  | event d n e =>
      intro l hl
      obtain ⟨k, hk⟩ := List.mem_iff_getElem?.mp hl
      rw [Transport.occur, links_after] at hk
      split at hk
      · obtain ⟨l', hl', rfl⟩ := Option.map_eq_some_iff.mp hk
        exact (h l' (List.mem_of_getElem? hl')).after d e
      · exact h l (List.mem_of_getElem? hk)

theorem repliesOnly_history (subprotocol : Text) (os : List (Occurrence H)) :
    (history subprotocol os).RepliesOnly := by
  induction os using List.reverseRecOn with
  | nil => exact fun l hl => absurd hl List.not_mem_nil
  | append_singleton os o ih =>
      rw [history_concat]
      exact ih.occur o

end Transport

/-- A reply that has a text is one line of printable ASCII, whatever the message and the services put into
it.  It can be encoded, and the client makes the same document of the text and of its bytes: that of the
response, in which two surrogates may have come together.  Whatever has happened at all connections, nothing
else has been sent. -/
theorem Dispatcher.replies_read_alike (d : Dispatcher H) (invoke : H → List Json → Outcome)
    (m : Message) :
    (∀ a t, d.answerMessage invoke m = .ok a → a.response.write = .ok t →
      t.ReadsAs a.response.wire.settled) ∧
    ∀ (subprotocol : Text) (os : List (Occurrence H)) (l : Link H),
      l ∈ (Transport.history subprotocol os).links → ∀ t ∈ l.sent,
        ∃ r : Response, r.write = .ok t ∧ t.ReadsAs r.wire.settled := by
  constructor
  · intro a t _ ht
    exact Response.readsAs_write ht
  · intro subprotocol os l hl t ht
    have hreply : t.IsReply := (Transport.repliesOnly_history subprotocol os l hl).sent t ht
    exact hreply.readsAs

/-- A call with a lone surrogate and a control character for an id, of a method that is not in ASCII. -/
def strangeCall : Text :=
  Text.of "\x7b\"jsonrpc\": \"2.0\", \"method\": \"\\u00e9\", \"id\": \"\\ud800\\u0001\"\x7d"

def strangeReply : Text :=
  Text.of "\x7b\"jsonrpc\": \"2.0\", \"id\": \"\\ud800\\u0001\", \"error\": "
    ++ Text.of "\x7b\"code\": -32601, \"message\": \"Method not found: \\u00e9\"\x7d\x7d"

theorem Dispatcher.replies_read_alike_strangeCall :
    let os : List (Occurrence Unit) :=
      [.arrival ⟨Text.of "a", 1⟩ [], .event {} 0 .accepted,
        .event {} 0 (.frame ⟨some strangeCall, none⟩), .event {} 0 .sent]
    (∃ v, strangeReply.ReadsAs v) ∧ ∃ l ∈ (Transport.history [] os).links, l.sent = [strangeReply] ∧
      ∃ r : Response, r.write = .ok strangeReply ∧ strangeReply.ReadsAs r.wire.settled := by
  intro os
  let invoke : Unit → List Json → Outcome := fun _ _ => .value .null
  obtain ⟨hreplies, hsent⟩ := replies_read_alike {} invoke (.text strangeCall)
  have hreply : ({} : Dispatcher Unit).replyTo invoke ⟨some strangeCall, none⟩ = some strangeReply := by
    decide +kernel
  have hlink : (Transport.history [] os).links[0]?.map Link.sent = some [strangeReply] := by
    decide +kernel
  rw [replyTo] at hreply
  obtain ⟨a, ha, ht⟩ := Option.bind_eq_some_iff.mp hreply
  obtain ⟨l, hl, hlt⟩ := Option.map_eq_some_iff.mp hlink
  have hmem : l ∈ (Transport.history [] os).links := List.mem_of_getElem? hl
  refine ⟨⟨_, hreplies a _ (eq_ok_of_toOption ha) (eq_ok_of_toOption ht)⟩, l, hmem, hlt, ?_⟩
  exact hsent [] os l hmem strangeReply (hlt ▸ List.mem_singleton_self _)

end JsonRpc
