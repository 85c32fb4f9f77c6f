/-
What is heard.

A client that runs reads messages as they come, up to the first that it cannot read, or up to the end of
the connection.  However that goes, it closes the connection behind it.  `stream_exact` says what such a
run sends, which messages it reads, what it fails with and what it leaves.

Which messages are read depends on the messages alone, and `Hears` says which, message by message.  The
run follows it by induction (`exec_drain`).  What was read can be written, so the line that is logged for
a message is never in the way.
-/
import JsonRpc.Proofs.Client.Connecting
import JsonRpc.Proofs.Json.Portable

namespace JsonRpc

/-- What was read of a message can be written. -/
theorem Message.exists_write_of_read {m : Message} {v : Json} (h : m.read = .ok v) :
    ∃ t, v.write = .ok t := by
  cases m with
  | text t =>
      have ht : Json.read t = .ok v := mapError_eq_ok_iff.mp h
      exact Json.exists_write_of_document (Json.Grammar.readWith_eq_ok_iff.mp ht)
  | bytes b =>
      obtain ⟨t, -, ht⟩ := bind_eq_ok_iff.mp h
      have ht : Json.readUnmarked true Json.nestingLimit t = .ok v := mapError_eq_ok_iff.mp ht
      exact Json.exists_write_of_document (Json.Grammar.readUnmarked_eq_ok_iff.mp ht)

namespace Client

/-! ## Messages in their order -/

/-- The line for a message that was read. -/
def Heard (m : Message) (l : LogLine) : Prop :=
  ∃ v t, m.read = .ok v ∧ v.write = .ok t ∧ l = line (Text.of "recv:" ++ t)

/-- Messages are read one after another; what that comes to, the messages behind the one that could not be
read, and the lines for those that could. -/
inductive Hears : List Message → Except ClientError Unit → List Message → Log → Prop
  | silence : Hears [] (.ok ()) [] []
  | stop {m : Message} {ms : List Message} {e : ClientError} : m.read = .error e →
      Hears (m :: ms) (.error e) ms []
  | next {m : Message} {ms rest : List Message} {l : LogLine} {r : Except ClientError Unit}
      {lines : Log} : Heard m l → Hears ms r rest lines → Hears (m :: ms) r rest (l :: lines)

theorem exists_hears (ms : List Message) : ∃ r rest lines, Hears ms r rest lines := by
  induction ms with
  | nil => exact ⟨_, _, _, .silence⟩
  | cons m ms ih =>
      cases hm : m.read with
      | error e => exact ⟨_, _, _, .stop hm⟩
      | ok v =>
          obtain ⟨t, ht⟩ := Message.exists_write_of_read hm
          obtain ⟨r, rest, lines, h⟩ := ih
          exact ⟨r, rest, _, .next ⟨v, t, hm, ht, rfl⟩ h⟩

/-- There is an error if some message cannot be read; it is the error of the first one. -/
theorem Hears.error_iff {ms rest : List Message} {r : Except ClientError Unit} {lines : Log}
    (h : Hears ms r rest lines) (e : ClientError) :
    r = .error e ↔
      ∃ before m after, ms = before ++ m :: after ∧ (∀ b ∈ before, ∃ v, b.read = .ok v) ∧
        m.read = .error e := by
  induction h with
  | silence => exact iff_of_false (by simp) (by simp)
  | @stop m ms e' hm =>
      constructor
      · rintro ⟨⟩
        exact ⟨[], m, ms, rfl, by simp, hm⟩
      · rintro ⟨before, n, after, hsplit, hbefore, hn⟩
        cases before with
        | nil =>
            obtain ⟨rfl, -⟩ := List.cons.inj hsplit
            exact congrArg _ (Except.error.inj (hm.symm.trans hn))
        | cons b before =>
            obtain ⟨rfl, -⟩ := List.cons.inj hsplit
            obtain ⟨v, hv⟩ := hbefore m List.mem_cons_self
            exact absurd (hm.symm.trans hv) (by simp)
  | @next m ms rest l r lines hm _ ih =>
      obtain ⟨v, _, hv, -⟩ := hm
      rw [ih]
      constructor
      · rintro ⟨before, n, after, hsplit, hbefore, hn⟩
        have hall : ∀ b ∈ m :: before, ∃ v, b.read = .ok v :=
          List.forall_mem_cons.mpr ⟨⟨v, hv⟩, hbefore⟩
        exact ⟨m :: before, n, after, congrArg _ hsplit, hall, hn⟩
      · rintro ⟨before, n, after, hsplit, hbefore, hn⟩
        cases before with
        | nil =>
            obtain ⟨rfl, -⟩ := List.cons.inj hsplit
            exact absurd (hv.symm.trans hn) (by simp)
        | cons b before =>
            obtain ⟨-, hms⟩ := List.cons.inj hsplit
            exact ⟨before, n, after, hms, (List.forall_mem_cons.mp hbefore).2, hn⟩

/-! ## Reading them -/

section

variable {x : Scene}

theorem exec_onMessage_of_error {m : Message} {e : ClientError} (h : m.read = .error e) :
    exec (onMessage m) x = (.error e, x) := by
  rw [onMessage, h, exec_throw]

theorem exec_onMessage_of_read {m : Message} {v : Json} {t : Text} (hread : m.read = .ok v)
    (hwrite : v.write = .ok t) :
    exec (onMessage m) x = (.ok v, x.saying [line (Text.of "recv:" ++ t)]) := by
  rw [onMessage, hread]
  simp only [hwrite, exec_bind_of_ok (exec_written_ok _), exec_bind_of_ok (exec_log _), exec_pure]

theorem exec_onMessage_of_heard {m : Message} {l : LogLine} (h : Heard m l) :
    ∃ v, exec (onMessage m) x = (.ok v, x.saying [l]) := by
  obtain ⟨v, t, hread, hwrite, rfl⟩ := h
  exact ⟨v, exec_onMessage_of_read hread hwrite⟩

theorem saying_saying (lines others : Log) :
    (x.saying lines).saying others = x.saying (lines ++ others) := by
  simp only [Scene.saying, List.append_assoc]

theorem saying_nil : x.saying [] = x := by
  simp only [Scene.saying, List.append_nil]

/-- The lines for the end of a connection, when it is met. -/
def ending : Except ClientError Unit → Closing → Log
  | .ok (), .abrupt => [line (Text.of "Connection closed by server: " ++ Closing.abrupt.message)]
  | _, _ => []

theorem exec_drain {ms rest : List Message} {r : Except ClientError Unit} {lines : Log}
    (h : Hears ms r rest lines) (hx : x.pair.peer.inbound = ms) :
    exec (drain ms) x = (r, (x.queueing rest).saying (lines ++ ending r x.pair.peer.closing)) := by
  induction h generalizing x with
  | silence =>
      have hqueue : x.queueing [] = x := by
        rw [← hx]
        rfl
      rw [drain, exec_bind_of_ok exec_get, hqueue]
      cases x.pair.peer.closing with
      | clean => exact congrArg _ saying_nil.symm
      | abrupt => exact exec_log _
  | @stop m ms e hm =>
      rw [drain, exec_bind_of_ok (exec_modify _), exec_bind_of_error (exec_onMessage_of_error hm)]
      exact congrArg _ saying_nil.symm
  | @next m ms rest l r lines hm _ ih =>
      obtain ⟨v, hv⟩ := exec_onMessage_of_heard (x := x.queueing ms) hm
      have hrest := ih (x := (x.queueing ms).saying [l]) rfl
      rw [drain, exec_bind_of_ok (exec_modify _)]
      refine (exec_bind_of_ok hv _).trans (hrest.trans ?_)
      exact congrArg _ (saying_saying (x := x.queueing rest) [l] _)

/-! ## Runs -/

/-- What there is once connecting has succeeded: the request was sent, and a peer that dispatches what it is
sent may have added to its messages and moved on in its world. -/
theorem connected_of_connect_eq_ok {y : Scene} (h : exec connect x = (.ok (), y)) :
    ∃ t replies w, sentText x.pair.client.request = .ok t ∧
      (x.pair.peer.dispatcher = none → replies = []) ∧
      y =
        { ((x.connected.sending t).signalling (.message t)).queueing
            (x.pair.peer.inbound ++ replies) with world := w } := by
  have hconnects := connects x
  rw [h] at hconnects
  cases hconnects with
  | @sent t _ _ _ htext htransmits =>
      cases htransmits with
      | taken hgone hdispatcher =>
          refine ⟨t, [], (x.connected.sending t).world, htext, fun _ => rfl, ?_⟩
          rw [List.append_nil]
          rfl
      | @answered d _ w reply hgone hdispatcher _ _ =>
          refine ⟨t, [.text reply], w, htext, fun hnone => ?_, rfl⟩
          exact absurd (hdispatcher.symm.trans hnone) (by simp)

/-- A run reads what a connection brings and closes it. -/
theorem exec_run_of_hears {y : Scene} (h : exec connect x = (.ok (), y)) {r : Except ClientError Unit}
    {rest : List Message} {lines : Log} (hhears : Hears y.pair.peer.inbound r rest lines) :
    exec run x =
      (r, ((y.queueing rest).saying
        (lines ++ ending r y.pair.peer.closing)).closed x.pair.peer.opened) := by
  have hdrain := exec_drain hhears rfl
  have hconnection : y.pair.client.connection = some x.pair.peer.opened := by
    obtain ⟨t, replies, w, -, -, rfl⟩ := connected_of_connect_eq_ok h
    rfl
  have hclose := exec_close_of_some
    (x := (y.queueing rest).saying (lines ++ ending r y.pair.peer.closing)) hconnection
  rw [run_eq_within, exec_within_of_ok _ h, exec_bind_of_ok exec_get, hdrain]
  exact congrArg (Prod.mk r) (congrArg Prod.snd hclose)

end

end Client

end JsonRpc
