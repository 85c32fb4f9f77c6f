/-
What the actions of a client come to.

An action starts in a scene, the client with its peer and the world that handlers run in, and leaves
another one, whether it succeeds or fails (`exec`).  What it does to the connections between the two is
said by their `Holding`: sending, receiving and reading leave that as it is (`Keeps`), and only opening a
connection and closing it do not.  So whoever follows the connections through an action need not look at
anything else that it does.
-/
import JsonRpc.Client

namespace JsonRpc.Client

/-! ## Scenes -/

/-- A client with its peer, and the world that handlers run in. -/
structure Scene where
  pair : Pair
  world : Handler.World

/-- What an action comes to, and the scene that it leaves. -/
def exec {α : Type} (a : Action α) (x : Scene) : Except ClientError α × Scene :=
  let ((r, s), w) := (a.run.run x.pair).run x.world
  (r, ⟨s, w⟩)

/-- The scene with more lines in the log. -/
def Scene.saying (x : Scene) (lines : Log) : Scene :=
  { x with world := { x.world with log := x.world.log ++ lines } }

/-- The scene after something reached the peer. -/
def Scene.signalling (x : Scene) (s : Signal) : Scene :=
  { x with pair := { x.pair with
      peer := { x.pair.peer with signals := x.pair.peer.signals ++ [s] } } }

/-- A line that a client says. -/
def line (message : Text) : LogLine := ⟨.info, .client, message⟩

section

variable {α β : Type} {x y : Scene}

@[simp] theorem exec_pure (v : α) : exec (pure v) x = (.ok v, x) := rfl

@[simp] theorem exec_throw (e : ClientError) : exec (throw e : Action α) x = (.error e, x) := rfl

@[simp] theorem exec_get : exec (get : Action Pair) x = (.ok x.pair, x) := rfl

@[simp] theorem exec_set (s : Pair) :
    exec (set s : Action PUnit) x = (.ok ⟨⟩, { x with pair := s }) := rfl

@[simp] theorem exec_modify (f : Pair → Pair) :
    exec (modify f : Action PUnit) x = (.ok ⟨⟩, { x with pair := f x.pair }) := rfl

@[simp] theorem exec_lift (r : Handler.Run α) :
    exec (lift r) x = (.ok (r.run x.world).1, { x with world := (r.run x.world).2 }) := rfl

@[simp] theorem exec_log (message : Text) :
    exec (log message) x = (.ok (), x.saying [line message]) := rfl

@[simp] theorem exec_signal (s : Signal) : exec (signal s) x = (.ok (), x.signalling s) := rfl

@[simp] theorem exec_written_ok (t : Text) : exec (written (.ok t)) x = (.ok t, x) := rfl

@[simp] theorem exec_written_error (e : Json.WriteError) :
    exec (written (.error e)) x = (.error (.unwritable e), x) := rfl

theorem exec_bind (a : Action α) (f : α → Action β) :
    exec (a >>= f) x =
      match exec a x with
      | (.ok v, y) => exec (f v) y
      | (.error e, y) => (.error e, y) := by
  simp only [exec, bind, ExceptT.bind, ExceptT.bindCont, ExceptT.run, ExceptT.mk, StateT.run,
    StateT.bind]
  generalize a x.pair x.world = z
  obtain ⟨⟨r, s⟩, w⟩ := z
  cases r <;> rfl

theorem exec_bind_of_ok {a : Action α} {v : α} (h : exec a x = (.ok v, y)) (f : α → Action β) :
    exec (a >>= f) x = exec (f v) y := by
  rw [exec_bind, h]

theorem exec_bind_of_error {a : Action α} {e : ClientError} (h : exec a x = (.error e, y))
    (f : α → Action β) : exec (a >>= f) x = (.error e, y) := by
  rw [exec_bind, h]

/-- Whatever an action came to, the connection is closed behind it, and that does not fail. -/
theorem exec_closing (a : Action α) :
    exec (closing a) x = ((exec a x).1, (exec close (exec a x).2).2) := rfl

end

/-! ## Connections -/

/-- The connections between a client and its peer: the one in hand, the number of those that there ever
were, and those that are open. -/
structure Holding where
  hand : Option Nat
  opened : Nat
  live : List Nat

namespace Holding

/-- One more is opened, which is then in hand. -/
def opening (h : Holding) : Holding := ⟨some h.opened, h.opened + 1, h.live ++ [h.opened]⟩

/-- The one in hand is closed. -/
def closing (h : Holding) : Holding :=
  match h.hand with
  | none => h
  | some number => ⟨none, h.opened, h.live.erase number⟩

end Holding

/-- The connections in a scene. -/
def Scene.holding (x : Scene) : Holding :=
  ⟨x.pair.client.connection, x.pair.peer.opened, x.pair.peer.live⟩

/-- An action that leaves the connections as they are, wherever it starts. -/
def Keeps {α : Type} (a : Action α) : Prop := ∀ x, (exec a x).2.holding = x.holding

section

variable {α β : Type}

theorem keeps_pure (v : α) : Keeps (pure v) := fun _ => rfl

theorem keeps_throw (e : ClientError) : Keeps (throw e : Action α) := fun _ => rfl

theorem keeps_get : Keeps (get : Action Pair) := fun _ => rfl

theorem keeps_lift (r : Handler.Run α) : Keeps (lift r) := fun _ => rfl

theorem keeps_log (message : Text) : Keeps (log message) := fun _ => rfl

theorem keeps_signal (s : Signal) : Keeps (signal s) := fun _ => rfl

theorem keeps_modify {f : Peer → Peer} (hopened : ∀ p, (f p).opened = p.opened)
    (hlive : ∀ p, (f p).live = p.live) :
    Keeps (modify fun s => { s with peer := f s.peer }) := by
  intro x
  rw [exec_modify, Scene.holding, hopened, hlive]
  rfl

theorem Keeps.bind {a : Action α} {f : α → Action β} (ha : Keeps a) (hf : ∀ v, Keeps (f v)) :
    Keeps (a >>= f) := by
  intro x
  have hx := ha x
  rw [exec_bind]
  rcases hax : exec a x with ⟨_ | v, y⟩
  · rw [hax] at hx
    exact hx
  · rw [hax] at hx
    exact (hf v y).trans hx

theorem keeps_written (r : Except Json.WriteError Text) : Keeps (written r) := by
  cases r with
  | ok t => exact keeps_pure t
  | error e => exact keeps_throw _

theorem keeps_transmit (t : Text) : Keeps (transmit t) := by
  refine keeps_get.bind fun s => ?_
  dsimp only
  cases s.peer.gone with
  | some how => exact keeps_throw _
  | none =>
      refine (keeps_signal _).bind fun _ => ?_
      cases s.peer.dispatcher with
      | none => exact keeps_pure _
      | some d =>
          refine (keeps_lift _).bind fun answer => ?_
          cases answer with
          | error a => exact keeps_throw _
          | ok r => exact (keeps_written _).bind fun _ => keeps_modify (fun _ => rfl) fun _ => rfl

theorem keeps_send (v : Json) : Keeps (send v) := by
  refine keeps_get.bind fun s => ?_
  split
  · exact (keeps_written _).bind fun t => (keeps_log _).bind fun _ => keeps_transmit t
  · exact keeps_throw _

theorem keeps_sendRequest : Keeps sendRequest := keeps_get.bind fun _ => keeps_send _

theorem keeps_onMessage (m : Message) : Keeps (onMessage m) := by
  rw [Keeps, onMessage]
  cases m.read with
  | error e => exact keeps_throw e
  | ok v => exact (keeps_written _).bind fun _ => (keeps_log _).bind fun _ => keeps_pure v

theorem keeps_receive : Keeps receive := by
  rintro ⟨⟨c, p⟩, w⟩
  rw [receive, exec_bind_of_ok exec_get]
  dsimp only
  split
  · cases p.inbound with
    | nil => rfl
    | cons m ms =>
        dsimp only
        rw [exec_bind_of_ok (exec_set _)]
        exact keeps_onMessage m _
  · rfl

theorem keeps_drain (ms : List Message) : Keeps (drain ms) := by
  induction ms with
  | nil =>
      refine keeps_get.bind fun s => ?_
      cases s.peer.closing with
      | clean => exact keeps_pure _
      | abrupt => exact keeps_log _
  | cons m ms ih =>
      refine (keeps_modify (f := fun p => { p with inbound := ms }) (fun _ => rfl)
        fun _ => rfl).bind fun _ => ?_
      exact (keeps_onMessage m).bind fun _ => ih

end

/-! ## Opening and closing -/

/-- The scene before a connection is opened. -/
def Scene.connecting (x : Scene) : Scene :=
  x.saying [line (Text.of "Connecting to " ++ x.pair.client.url)]

/-- The scene once a connection is opened. -/
def Scene.connected (x : Scene) : Scene :=
  let c := x.pair.client
  let p := x.pair.peer
  let pair : Pair :=
    ⟨{ c with connection := some p.opened },
      { p with
        opened := p.opened + 1
        live := p.live ++ [p.opened]
        signals := p.signals ++ [.connect c.url [c.subprotocol]] }⟩
  { x.connecting with pair := pair }.saying [line (Text.of "client connected")]

variable {α : Type} {x : Scene}

/-- Nothing happens but a line if the peer refuses. -/
theorem exec_connect_of_refusal {message : Text} (h : x.pair.peer.refusal = some message) :
    exec connect x = (.error (.refused message), x.connecting) := by
  have hopen : exec openConnection x.connecting = (.error (.refused message), x.connecting) := by
    rw [openConnection, exec_bind_of_ok exec_get]
    simp only [Scene.connecting, Scene.saying, h, exec_throw]
  rw [connect, exec_bind_of_ok exec_get, exec_bind_of_ok (exec_log _)]
  exact exec_bind_of_error hopen _

/-- Otherwise the connection is open, and it remains to send the request. -/
theorem exec_connect_of_acceptance (h : x.pair.peer.refusal = none) :
    exec connect x = exec sendRequest x.connected := by
  rw [connect, exec_bind_of_ok exec_get, exec_bind_of_ok (exec_log _)]
  have hopen : exec openConnection x.connecting =
      (.ok (), { x.connecting with pair := x.connected.pair }) := by
    rw [openConnection, exec_bind_of_ok exec_get]
    simp only [Scene.connecting, Scene.saying, h]
    rfl
  exact (exec_bind_of_ok hopen _).trans (exec_bind_of_ok (exec_log _) _)

/-- Connecting opens one connection, however sending the request goes. -/
theorem holding_connect (h : x.pair.peer.refusal = none) :
    (exec connect x).2.holding = x.holding.opening := by
  rw [exec_connect_of_acceptance h]
  exact keeps_sendRequest x.connected

/-- The scene once the connection in hand is closed. -/
def Scene.closed (x : Scene) (number : Nat) : Scene :=
  let p := x.pair.peer
  let pair : Pair :=
    ⟨{ x.pair.client with connection := none },
      { p with live := p.live.erase number, signals := p.signals ++ [.close] }⟩
  { x with pair := pair }

/-- Closing does nothing if there is no connection in hand. -/
theorem exec_close_of_none (h : x.pair.client.connection = none) : exec close x = (.ok (), x) := by
  rw [close, exec_bind_of_ok exec_get]
  simp only [h, exec_pure]

theorem exec_close_of_some {number : Nat} (h : x.pair.client.connection = some number) :
    exec close x = (.ok (), x.closed number) := by
  rw [close, exec_bind_of_ok exec_get]
  simp only [h, exec_bind_of_ok (exec_signal _), exec_modify]
  rfl

theorem exec_close_fst (x : Scene) : (exec close x).1 = .ok () := by
  cases h : x.pair.client.connection with
  | none => rw [exec_close_of_none h]
  | some number => rw [exec_close_of_some h]

theorem holding_close (x : Scene) : (exec close x).2.holding = x.holding.closing := by
  cases h : x.pair.client.connection with
  | none => simp only [exec_close_of_none h, Scene.holding, Holding.closing, h]
  | some number =>
      simp only [exec_close_of_some h, Scene.holding, Holding.closing, h]
      rfl

/-- Connects, does something, and closes the connection. -/
def within (body : Action α) : Action α := do
  connect
  closing body

theorem run_eq_within : run = within (do drain (← get).peer.inbound) := rfl

theorem callOnce_eq_within : callOnce = within receive := rfl

/-- If connecting fails then nothing else is done. -/
theorem exec_within_of_error (body : Action α) {e : ClientError} {y : Scene}
    (h : exec connect x = (.error e, y)) : exec (within body) x = (.error e, y) :=
  exec_bind_of_error h _

/-- If connecting succeeds then the connection is closed at last, whatever comes in between. -/
theorem exec_within_of_ok (body : Action α) {y : Scene} (h : exec connect x = (.ok (), y)) :
    exec (within body) x = ((exec body y).1, (exec close (exec body y).2).2) :=
  (exec_bind_of_ok h _).trans (exec_closing body)

theorem holding_within_of_ok {body : Action α} (hbody : Keeps body)
    (h : (exec connect x).1 = .ok ()) :
    (exec (within body) x).2.holding = (exec connect x).2.holding.closing := by
  rw [exec_within_of_ok body (Prod.ext h rfl), holding_close, hbody]

end JsonRpc.Client
