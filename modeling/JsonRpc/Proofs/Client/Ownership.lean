/-
Whose connections are open.

A client is used in any way that there is, call after call, while the peer behaves one way now and another
way then.  It knows of one connection at most.  So if a call opens one while there is one in hand then
that is let go of, and nobody is left to close it.  `open_connections_exact` says that nothing else goes
wrong: the connections that are open are those that were let go of and the one in hand.

What a call does to the connections is said once (`Call.becomes`), and `Owns` is what it keeps.  The rest
follows by induction on the calls.
-/
import JsonRpc.Proofs.Client.Action

namespace JsonRpc.Client

/-! ## Calls -/

/-- What a client can be asked to do. -/
inductive Call where
  | connect
  | send (v : Json)
  | receive
  | run
  /-- Connects, reads one message and closes. -/
  | callOnce
  | close

namespace Call

/-- The scene after a call, whether it succeeded or not. -/
def after (x : Scene) : Call → Scene
  | connect => (exec Client.connect x).2
  | send v => (exec (Client.send v) x).2
  | receive => (exec Client.receive x).2
  | run => (exec Client.run x).2
  | callOnce => (exec Client.callOnce x).2
  | close => (exec Client.close x).2

/-- The call asks for a connection. -/
def connects : Call → Bool
  | connect | run | callOnce => true
  | send _ | receive | close => false

end Call

/-- How a peer behaves. -/
structure Conduct where
  /-- The messages that it has to deliver. -/
  inbound : List Message
  /-- How a connection ends when there are none. -/
  closing : Closing
  /-- Connections are refused with this message. -/
  refusal : Option Text
  /-- Nothing can be sent any more, and this is how the connection has ended. -/
  gone : Option Closing
  /-- Answers the messages that arrive. -/
  dispatcher : Option (Dispatcher Handler)

/-- The scene in which the peer behaves like this from now on. -/
def Scene.facing (x : Scene) (k : Conduct) : Scene :=
  { x with pair := { x.pair with
      peer := { x.pair.peer with
        inbound := k.inbound
        closing := k.closing
        refusal := k.refusal
        gone := k.gone
        dispatcher := k.dispatcher } } }

/-- A call, and how the peer behaves at it. -/
structure Turn where
  conduct : Conduct
  call : Call

/-- The scene after a turn. -/
def Turn.after (x : Scene) (t : Turn) : Scene := t.call.after (x.facing t.conduct)

/-- The connection that a turn lets go of: the one in hand, if another one is opened. -/
def Turn.letsGo (x : Scene) (t : Turn) : Option Nat :=
  if t.call.connects && t.conduct.refusal.isNone then x.pair.client.connection else none

/-- The scene after turns. -/
def Scene.after (x : Scene) (ts : List Turn) : Scene := ts.foldl Turn.after x

/-- The connections that turns let go of. -/
def Scene.letGo (x : Scene) : List Turn → List Nat
  | [] => []
  | t :: ts => (t.letsGo x).toList ++ (t.after x).letGo ts

/-- A new client, and a peer that it was never connected to. -/
def Scene.start (url subprotocol : Text) (request : Option Json) (world : Handler.World) : Scene :=
  ⟨⟨create url subprotocol request, {}⟩, world⟩

/-! ## What a call does to the connections -/

namespace Holding

/-- What a call makes of the connections; `opens` says that it opens one. -/
inductive Becomes : (opens : Bool) → Holding → Holding → Prop
  | same {h : Holding} : Becomes false h h
  | closed {h : Holding} : Becomes false h h.closing
  | opened {h : Holding} : Becomes true h h.opening
  | passed {h : Holding} : Becomes true h h.opening.closing

/-- The open connections are those of the past and the one in hand. -/
structure Owns (past : List Nat) (h : Holding) : Prop where
  live : h.live = past ++ h.hand.toList
  nodup : h.live.Nodup
  fresh : ∀ n ∈ h.live, n < h.opened

variable {past : List Nat} {h h' : Holding}

theorem Owns.opening (hh : Owns past h) : Owns (past ++ h.hand.toList) h.opening where
  live := congrArg (· ++ [h.opened]) hh.live
  nodup := by
    refine List.nodup_append.mpr ⟨hh.nodup, List.pairwise_singleton _ _, ?_⟩
    intro n hn m hm hnm
    obtain rfl := List.mem_singleton.mp hm
    exact Nat.lt_irrefl _ (hnm ▸ hh.fresh n hn)
  fresh := by
    intro n hn
    rcases List.mem_append.mp hn with hn | hn
    · exact Nat.lt_succ_of_lt (hh.fresh n hn)
    · obtain rfl := List.mem_singleton.mp hn
      exact Nat.lt_succ_self _

theorem closing_of_hand_eq_none (hhand : h.hand = none) : h.closing = h := by
  rw [closing, hhand]

theorem Owns.closing (hh : Owns past h) : Owns past h.closing := by
  cases hhand : h.hand with
  | none =>
      rw [closing_of_hand_eq_none hhand]
      exact hh
  | some number =>
      have hlive : h.live = past ++ [number] := by
        rw [hh.live, hhand]
        rfl
      -- the one in hand is the last one, so nothing else is taken out
      have hpast : number ∉ past := by
        have hnodup := hh.nodup
        rw [hlive, List.nodup_append] at hnodup
        exact fun hmem => hnodup.2.2 number hmem number (List.mem_singleton_self _) rfl
      have herase : h.live.erase number = past := by
        rw [hlive, List.erase_append_right _ hpast, List.erase_cons_head, List.append_nil]
      have hclosing : h.closing = ⟨none, h.opened, past⟩ := by
        rw [Holding.closing, hhand]
        exact congrArg _ herase
      rw [hclosing]
      refine ⟨(List.append_nil past).symm, ?_, ?_⟩
      · exact herase ▸ hh.nodup.erase number
      · exact fun n hn => hh.fresh n (hlive ▸ List.mem_append_left _ hn)

theorem hand_closing (h : Holding) : h.closing.hand = none := by
  rw [closing]
  split
  · assumption
  · rfl

/-- A connection that is opened and closed again leaves the others open. -/
theorem Owns.live_opening_closing (hh : Owns past h) : h.opening.closing.live = h.live := by
  have hafter := hh.opening.closing.live
  rw [hand_closing] at hafter
  exact (hafter.trans (List.append_nil _)).trans hh.live.symm

/-- What was in hand when a connection was opened belongs to the past from then on. -/
theorem Owns.becomes (hh : Owns past h) {opens : Bool} (hb : Becomes opens h h') :
    Owns (past ++ if opens then h.hand.toList else []) h' := by
  cases hb with
  | same => exact (List.append_nil past).symm ▸ hh
  | closed => exact (List.append_nil past).symm ▸ hh.closing
  | opened => exact hh.opening
  | passed => exact hh.opening.closing

end Holding

open Holding

theorem becomes_of_refusal {x : Scene} {message : Text} (h : x.pair.peer.refusal = some message)
    {α : Type} (body : Action α) :
    Becomes false x.holding (exec connect x).2.holding ∧
      Becomes false x.holding (exec (within body) x).2.holding := by
  rw [exec_within_of_error body (exec_connect_of_refusal h), exec_connect_of_refusal h]
  exact ⟨.same, .same⟩

theorem becomes_within {x : Scene} (h : x.pair.peer.refusal = none) {α : Type} {body : Action α}
    (hbody : Keeps body) : Becomes true x.holding (exec (within body) x).2.holding := by
  rcases hx : exec connect x with ⟨e | _, y⟩
  · rw [exec_within_of_error body hx]
    have hy := holding_connect h
    rw [hx] at hy
    exact hy ▸ .opened
  · rw [holding_within_of_ok hbody (by rw [hx]), holding_connect h]
    exact .passed

theorem keeps_drainInbound : Keeps (do drain (← get).peer.inbound) :=
  keeps_get.bind fun _ => keeps_drain _

/-- A call opens a connection if it asks for one and is not refused. -/
theorem Call.becomes (x : Scene) (c : Call) :
    Becomes (c.connects && x.pair.peer.refusal.isNone) x.holding (c.after x).holding := by
  have hsame {y : Scene} (hy : y.holding = x.holding) : Becomes false x.holding y.holding :=
    hy ▸ .same
  cases c with
  | send v => exact hsame (keeps_send v x)
  | receive => exact hsame (keeps_receive x)
  | close => exact holding_close x ▸ .closed
  | connect =>
      rw [connects, Bool.true_and]
      cases h : x.pair.peer.refusal with
      | some message => exact (becomes_of_refusal h (pure ())).1
      | none => exact holding_connect h ▸ .opened
  | run =>
      rw [connects, Bool.true_and, after, run_eq_within]
      cases h : x.pair.peer.refusal with
      | some message => exact (becomes_of_refusal h _).2
      | none => exact becomes_within h keeps_drainInbound
  | callOnce =>
      rw [connects, Bool.true_and, after, callOnce_eq_within]
      cases h : x.pair.peer.refusal with
      | some message => exact (becomes_of_refusal h _).2
      | none => exact becomes_within h keeps_receive

/-! ## Turns -/

variable {x : Scene} {past : List Nat}

theorem Turn.letsGo_eq_none_iff (t : Turn) :
    t.letsGo x = none ↔ ¬ (t.call.connects = true ∧ t.conduct.refusal = none ∧
      x.pair.client.isConnected = true) := by
  rw [letsGo, Client.isConnected]
  cases t.call.connects <;> cases t.conduct.refusal <;> simp

theorem Turn.owns_after (h : Owns past x.holding) (t : Turn) :
    Owns (past ++ (t.letsGo x).toList) (t.after x).holding := by
  have hletsGo : (t.letsGo x).toList =
      if t.call.connects && t.conduct.refusal.isNone then x.holding.hand.toList else [] := by
    rw [letsGo]
    split <;> rfl
  rw [hletsGo]
  exact h.becomes (t.call.becomes (x.facing t.conduct))

theorem owns_after (h : Owns past x.holding) (ts : List Turn) :
    Owns (past ++ x.letGo ts) (x.after ts).holding := by
  induction ts generalizing x past with
  | nil => exact (List.append_nil past).symm ▸ h
  | cons t ts ih =>
      rw [Scene.letGo, ← List.append_assoc]
      exact ih (t.owns_after h)

/-- Nothing was let go of if no turn opened a connection while there was one in hand. -/
theorem letGo_eq_nil_iff {ts : List Turn} :
    x.letGo ts = [] ↔
      ∀ before t later, ts = before ++ t :: later → t.letsGo (x.after before) = none := by
  induction ts generalizing x with
  | nil => exact iff_of_true rfl fun before t later h => absurd h (by simp)
  | cons t ts ih =>
      rw [Scene.letGo, List.append_eq_nil_iff, ih, Option.toList_eq_nil_iff]
      constructor
      · rintro ⟨hnow, hthen⟩ before u later h
        cases before with
        | nil =>
            obtain ⟨rfl, -⟩ := List.cons.inj h
            exact hnow
        | cons b before =>
            obtain ⟨rfl, hts⟩ := List.cons.inj h
            exact hthen before u later hts
      · intro h
        refine ⟨h [] t ts rfl, fun before u later hts => ?_⟩
        exact h (t :: before) u later (congrArg _ hts)

theorem owns_start (url subprotocol : Text) (request : Option Json) (world : Handler.World) :
    Owns [] (Scene.start url subprotocol request world).holding :=
  ⟨rfl, List.nodup_nil, by simp [Scene.start, Scene.holding]⟩

/-- A connection that was let go of is open for good; the others that are open are the one in hand.  So a
client has exactly the connection in hand open, and none when there is none, as long as no call opens a
connection while another one is in hand.  Closing leaves what was let go of, and closing again does
nothing. -/
theorem open_connections_exact (url subprotocol : Text) (request : Option Json)
    (world : Handler.World) (turns : List Turn) :
    let start := Scene.start url subprotocol request world
    let x := start.after turns
    let y := (exec close x).2
    x.pair.peer.live = start.letGo turns ++ x.pair.client.connection.toList ∧
      (x.pair.peer.live = x.pair.client.connection.toList ↔
        ∀ before t later, turns = before ++ t :: later →
          ¬ (t.call.connects = true ∧ t.conduct.refusal = none ∧
            (start.after before).pair.client.isConnected = true)) ∧
      exec close x = (.ok (), y) ∧
      y.pair.client.isConnected = false ∧
      y.pair.peer.live = start.letGo turns ∧
      exec close y = (.ok (), y) := by
  intro start x y
  have hx : Owns (start.letGo turns) x.holding := owns_after (owns_start ..) turns
  have hy : Owns (start.letGo turns) y.holding := holding_close x ▸ hx.closing
  have hhand : y.holding.hand = none := (holding_close x) ▸ hand_closing x.holding
  have hlive : x.pair.peer.live = start.letGo turns ++ x.pair.client.connection.toList := hx.live
  refine ⟨hlive, ?_, Prod.ext (exec_close_fst x) rfl, ?_, ?_, exec_close_of_none hhand⟩
  · rw [hlive]
    refine List.append_left_eq_self.trans (letGo_eq_nil_iff.trans ?_)
    simp only [Turn.letsGo_eq_none_iff]
  · exact Option.isSome_eq_false_iff.mpr (Option.isNone_iff_eq_none.mpr hhand)
  · have hleft := hy.live
    rw [hhand] at hleft
    exact hleft.trans (List.append_nil _)

end JsonRpc.Client
