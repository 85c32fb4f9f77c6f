/-
How connecting goes.

Connecting does two things, opening a connection and sending the request over it, and each of them can
fail in its own ways (`Transmits`, `Connects`).  When the first one fails nothing has happened; when the
second one does, there is a connection, and nobody who waits for connecting to succeed before closing
will close it.  `failed_start_exact` says what is left behind by each way of starting: a client that is
not connected is left as it was found if the peer refused, and with an open connection in hand if the
request did not get through.
-/
import JsonRpc.Proofs.Chain
import JsonRpc.Proofs.Client.Ownership

namespace JsonRpc.Client

/-! ## Sending -/

/-- The scene in which a text is handed to the peer. -/
def Scene.sending (x : Scene) (t : Text) : Scene := x.saying [line (Text.of "send:" ++ t)]

/-- The scene with these messages to be delivered. -/
def Scene.queueing (x : Scene) (ms : List Message) : Scene :=
  { x with pair := { x.pair with peer := { x.pair.peer with inbound := ms } } }

/-- What handing a text to the peer comes to, and the scene that it leaves. -/
inductive Transmits (x : Scene) (t : Text) : Except ClientError Unit → Scene → Prop
  | gone {how : Closing} : x.pair.peer.gone = some how → Transmits x t (.error (.closed how)) x
  | taken : x.pair.peer.gone = none → x.pair.peer.dispatcher = none →
      Transmits x t (.ok ()) (x.signalling (.message t))
  | aborted {d : Dispatcher Handler} {a : Abort} {w : Handler.World} : x.pair.peer.gone = none →
      x.pair.peer.dispatcher = some d → (d.serveMessage (.text t)).run x.world = (.error a, w) →
      Transmits x t (.error (.aborted a)) { x.signalling (.message t) with world := w }
  | unwritable {d : Dispatcher Handler} {r : Response} {w : Handler.World} {e : Json.WriteError} :
      x.pair.peer.gone = none → x.pair.peer.dispatcher = some d →
      (d.serveMessage (.text t)).run x.world = (.ok r, w) → r.write = .error e →
      Transmits x t (.error (.unwritable e)) { x.signalling (.message t) with world := w }
  | answered {d : Dispatcher Handler} {r : Response} {w : Handler.World} {reply : Text} :
      x.pair.peer.gone = none → x.pair.peer.dispatcher = some d →
      (d.serveMessage (.text t)).run x.world = (.ok r, w) → r.write = .ok reply →
      Transmits x t (.ok ())
        { (x.signalling (.message t)).queueing (x.pair.peer.inbound ++ [.text reply]) with world := w }

theorem transmits (x : Scene) (t : Text) :
    Transmits x t (exec (transmit t) x).1 (exec (transmit t) x).2 := by
  rw [transmit, exec_bind_of_ok exec_get]
  dsimp only
  cases hgone : x.pair.peer.gone with
  | some how => exact .gone hgone
  | none =>
      dsimp only
      rw [exec_bind_of_ok (exec_signal _)]
      cases hdispatcher : x.pair.peer.dispatcher with
      | none => exact .taken hgone hdispatcher
      | some d =>
          dsimp only
          rw [exec_bind_of_ok (exec_lift _)]
          rcases hserve : (d.serveMessage (.text t)).run (x.signalling (.message t)).world
            with ⟨a | r, w⟩
          · exact .aborted hgone hdispatcher hserve
          · dsimp only
            cases hwrite : r.write with
            | error e => exact .unwritable hgone hdispatcher hserve hwrite
            | ok reply => exact .answered hgone hdispatcher hserve hwrite

theorem Transmits.exec_eq {x y : Scene} {t : Text} {r : Except ClientError Unit}
    (h : Transmits x t r y) : exec (transmit t) x = (r, y) := by
  rw [transmit, exec_bind_of_ok exec_get]
  cases h with
  | gone hgone => simp only [hgone, exec_throw]
  | taken hgone hdispatcher =>
      simp only [hgone, exec_bind_of_ok (exec_signal _), hdispatcher, exec_pure]
  | aborted hgone hdispatcher hserve =>
      simp only [hgone, exec_bind_of_ok (exec_signal _), hdispatcher, exec_bind_of_ok (exec_lift _)]
      simp only [Scene.signalling, hserve, exec_throw]
  | unwritable hgone hdispatcher hserve hwrite =>
      simp only [hgone, exec_bind_of_ok (exec_signal _), hdispatcher, exec_bind_of_ok (exec_lift _)]
      simp only [Scene.signalling, hserve, hwrite, exec_bind_of_error (exec_written_error _)]
  | answered hgone hdispatcher hserve hwrite =>
      simp only [hgone, exec_bind_of_ok (exec_signal _), hdispatcher, exec_bind_of_ok (exec_lift _)]
      simp only [Scene.signalling, hserve, hwrite, exec_bind_of_ok (exec_written_ok _), exec_modify]
      rfl

/-! ## Connecting -/

/-- What connecting comes to, and the scene that it leaves. -/
inductive Connects (x : Scene) : Except ClientError Unit → Scene → Prop
  | refused {message : Text} : x.pair.peer.refusal = some message →
      Connects x (.error (.refused message)) x.connecting
  | unwritable {e : Json.WriteError} : x.pair.peer.refusal = none →
      sentText x.pair.client.request = .error e → Connects x (.error (.unwritable e)) x.connected
  | sent {t : Text} {r : Except ClientError Unit} {y : Scene} : x.pair.peer.refusal = none →
      sentText x.pair.client.request = .ok t → Transmits (x.connected.sending t) t r y → Connects x r y

theorem exec_sendRequest_connected (x : Scene) :
    exec sendRequest x.connected =
      exec (do
        let t ← written (sentText x.pair.client.request)
        log (Text.of "send:" ++ t)
        transmit t) x.connected :=
  rfl

theorem connects (x : Scene) : Connects x (exec connect x).1 (exec connect x).2 := by
  cases hrefusal : x.pair.peer.refusal with
  | some message =>
      rw [exec_connect_of_refusal hrefusal]
      exact .refused hrefusal
  | none =>
      rw [exec_connect_of_acceptance hrefusal, exec_sendRequest_connected]
      cases htext : sentText x.pair.client.request with
      | error e =>
          rw [exec_bind_of_error (exec_written_error e)]
          exact .unwritable hrefusal htext
      | ok t =>
          rw [exec_bind_of_ok (exec_written_ok t), exec_bind_of_ok (exec_log _)]
          exact .sent hrefusal htext (transmits _ t)

theorem Connects.exec_eq {x y : Scene} {r : Except ClientError Unit} (h : Connects x r y) :
    exec connect x = (r, y) := by
  cases h with
  | refused hrefusal => exact exec_connect_of_refusal hrefusal
  | unwritable hrefusal htext =>
      rw [exec_connect_of_acceptance hrefusal, exec_sendRequest_connected, htext]
      exact exec_bind_of_error (exec_written_error _) _
  | sent hrefusal htext htransmits =>
      rw [exec_connect_of_acceptance hrefusal, exec_sendRequest_connected, htext,
        exec_bind_of_ok (exec_written_ok _), exec_bind_of_ok (exec_log _)]
      exact htransmits.exec_eq

/-! ## A start that fails -/

/-- The client has no connection in hand, and those are open that were open before. -/
structure LeavesNothing (x y : Scene) : Prop where
  disconnected : y.pair.client.isConnected = false
  live : y.pair.peer.live = x.pair.peer.live

section

variable {x : Scene} {past : List Nat}

open Holding

theorem leavesNothing_iff {y : Scene} :
    LeavesNothing x y ↔ y.holding.hand = none ∧ y.holding.live = x.holding.live := by
  have hdisconnected : y.pair.client.isConnected = false ↔ y.holding.hand = none :=
    Option.isSome_eq_false_iff.trans Option.isNone_iff_eq_none
  exact ⟨fun hy => ⟨hdisconnected.mp hy.disconnected, hy.live⟩,
    fun hy => ⟨hdisconnected.mpr hy.1, hy.2⟩⟩

theorem leavesNothing_connecting (hhand : x.holding.hand = none) : LeavesNothing x x.connecting :=
  leavesNothing_iff.mpr ⟨hhand, rfl⟩

/-- Once connecting has succeeded, whatever comes next is closed behind. -/
theorem leavesNothing_within (hx : Owns past x.holding) (hrefusal : x.pair.peer.refusal = none)
    (hconnect : (exec connect x).1 = .ok ()) {α : Type} {body : Action α} (hbody : Keeps body) :
    LeavesNothing x (exec (within body) x).2 := by
  rw [leavesNothing_iff, holding_within_of_ok hbody hconnect, holding_connect hrefusal]
  exact ⟨hand_closing _, hx.live_opening_closing⟩

theorem refusal_of_connect_eq_ok (hconnect : (exec connect x).1 = .ok ()) :
    x.pair.peer.refusal = none := by
  cases hrefusal : x.pair.peer.refusal with
  | none => rfl
  | some message =>
      rw [exec_connect_of_refusal hrefusal] at hconnect
      exact absurd hconnect (by simp)

/-- Let a client that is not connected be started, in whatever way, by connecting alone or before
something else is done.  If connecting fails then nothing else is done, and what is left is what
connecting left: nothing if the peer refused, otherwise the new connection, in hand and open.  If it
succeeds then nothing is left of the connection at the end, even if what was done with it failed. -/
theorem failed_start_exact (url subprotocol : Text) (request : Option Json) (world : Handler.World)
    (turns : List Turn) (conduct : Conduct)
    (h : ((Scene.start url subprotocol request world).after turns).pair.client.isConnected = false) :
    let x := ((Scene.start url subprotocol request world).after turns).facing conduct
    (∀ e y, exec connect x = (.error e, y) →
      (LeavesNothing x y ↔ conduct.refusal.isSome) ∧
      (conduct.refusal = none →
        y.pair.client.connection = some x.pair.peer.opened ∧
          y.pair.peer.live = x.pair.peer.live ++ [x.pair.peer.opened]) ∧
      exec run x = (.error e, y) ∧
      ∀ (α : Type) (body : Action α), exec (within body) x = (.error e, y)) ∧
    ((exec connect x).1 = .ok () →
      LeavesNothing x (exec run x).2 ∧
        ∀ (α : Type) (body : Action α), Keeps body → LeavesNothing x (exec (within body) x).2) := by
  intro x
  have hhand : x.holding.hand = none := Option.isNone_iff_eq_none.mp (Option.isSome_eq_false_iff.mp h)
  have howns : Owns ((Scene.start url subprotocol request world).letGo turns) x.holding :=
    owns_after (owns_start ..) turns
  constructor
  · intro e y hconnect
    have hopening (hrefusal : conduct.refusal = none) : y.holding = x.holding.opening := by
      rw [← holding_connect (x := x) hrefusal, hconnect]
    refine ⟨?_, ?_, exec_within_of_error _ hconnect, fun α body => exec_within_of_error body hconnect⟩
    · cases hrefusal : conduct.refusal with
      | some message =>
          have hy : x.connecting = y := congrArg Prod.snd
            ((exec_connect_of_refusal (x := x) hrefusal).symm.trans hconnect)
          exact iff_of_true (hy ▸ leavesNothing_connecting hhand) rfl
      | none =>
          -- the connection that was opened is still in hand
          refine iff_of_false (fun hleaves => ?_) Bool.false_ne_true
          have hnone := (leavesNothing_iff.mp hleaves).1
          rw [hopening hrefusal] at hnone
          exact Option.some_ne_none _ hnone
    · intro hrefusal
      exact ⟨congrArg Holding.hand (hopening hrefusal), congrArg Holding.live (hopening hrefusal)⟩
  · intro hconnect
    have hrefusal : x.pair.peer.refusal = none := refusal_of_connect_eq_ok hconnect
    refine ⟨leavesNothing_within howns hrefusal hconnect keeps_drainInbound, ?_⟩
    exact fun α body hbody => leavesNothing_within howns hrefusal hconnect hbody

/-- A peer that refused a client may take its next connection and be gone before the request is sent. -/
theorem failed_start_exact_gone :
    let conduct : Conduct := ⟨[], .abrupt, none, some .abrupt, none⟩
    let refusing : Conduct := { conduct with refusal := some (Text.of "refused") }
    let start := Scene.start [] [] none {}
    let x := (start.after [⟨refusing, .connect⟩]).facing conduct
    (start.after [⟨refusing, .connect⟩]).pair.client.isConnected = false ∧
      ∃ y, exec run x = (.error (.closed .abrupt), y) ∧
        y.pair.client.connection = some 0 ∧ y.pair.peer.live = [0] := by
  intro conduct refusing start x
  have hdisconnected : (start.after [⟨refusing, .connect⟩]).pair.client.isConnected = false := rfl
  obtain ⟨t, htext⟩ : ∃ t, sentText x.pair.client.request = .ok t :=
    exists_eq_ok_of_isOk (by decide +kernel)
  have hconnect := (Connects.sent rfl htext (.gone rfl)).exec_eq
  obtain ⟨-, hleft, hrun, -⟩ :=
    (failed_start_exact [] [] none {} [⟨refusing, .connect⟩] conduct hdisconnected).1 _ _ hconnect
  exact ⟨hdisconnected, _, hrun, hleft rfl⟩

end

end JsonRpc.Client
