/-
One connection and its peer.

A peer sends frames one after the other and then leaves, or does not; and of the replies to it, by their
numbers, each can be sent or meets with a fault (`Guest`).  This and the phase of the connection settle
which event comes next (`Guest.next`).  So of a conversation only this is left open, when the connection
has its turns.

`Course` is how things stand after any number of them: the replies that were sent are those to the
first frames, one for each and in order, and at most one frame more was received.  A turn keeps to that
and leaves fewer turns to come, or nothing happens any more (`Course.proceeds`).  So after enough of
them the conversation is concluded: all frames have been answered, or a reply could not be sent
(`Course.concluded`).
-/
import JsonRpc.Proofs.Dispatch
import JsonRpc.Transport
import Mathlib.Logic.Function.Iterate

namespace JsonRpc

section

variable {H : Type}

/-- The text of the reply to a frame, if there is one. -/
def Dispatcher.replyTo (d : Dispatcher H) (invoke : H → List Json → Outcome) (f : Frame) :
    Option Text := do
  let a ← (d.answerMessage invoke f.message).toOption
  a.response.write.toOption

/-- The frames that arrive with an event. -/
def Event.frames : Event → Nat
  | .frame _ => 1
  | _ => 0

/-- The connection after an event; the same if the event does not concern it. -/
def Link.after (d : Dispatcher H) (l : Link H) (e : Event) : Link H :=
  match l.phase.step d e with
  | none => l
  | some (phase, _) => { l with phase := phase, sent := Transport.sentAfter l e }

/-- A connection and the number of frames that it has received. -/
structure Standing (H : Type) where
  link : Link H
  received : Nat

/-- How things stand after an event. -/
def Standing.after (d : Dispatcher H) (s : Standing H) (e : Event) : Standing H :=
  ⟨s.link.after d e, s.received + e.frames⟩

/-- A peer: where it is, what it asks for, the frames that it sends, whether it leaves after them, and
what befalls the reply of each number. -/
structure Guest where
  address : Address
  offered : List Text
  frames : List Frame
  leaves : Bool
  fault : Nat → Option SendFault

/-- A connection before its first turn. -/
def Guest.start (g : Guest) : Standing H := ⟨⟨g.address, .opening, []⟩, 0⟩

/-! ## Phases with a reply -/

namespace Phase

/-- The phase is that of a connection with this reply to send, or one that has none and so ended. -/
inductive Tells : Option Text → Phase H → Prop
  | sending {t : Text} : Tells (some t) (.sending t)
  | ended {ending : Ending} : Tells none (.ended ending)

variable {d : Dispatcher H} {f : Frame}

theorem tells_reply (a : Answer) :
    Tells a.response.write.toOption (reply a : Phase H × Log).1 := by
  rw [reply]
  cases a.response.write with
  | ok t => exact .sending
  | error e => cases e <;> exact .ended

theorem tells_onHandled (invoke : H → List Json → Outcome) {m : Method H} {r : Request}
    (h : d.receive f.message = .ok (.invoking m r)) :
    Tells (d.replyTo invoke f) (onHandled r (invoke m.handler r.params) : Phase H × Log).1 := by
  have hanswer : d.answerMessage invoke f.message = r.finish (invoke m.handler r.params) := by
    rw [Dispatcher.answerMessage, h]
    rfl
  rw [Dispatcher.replyTo, hanswer, onHandled]
  cases r.finish (invoke m.handler r.params) with
  | ok a => exact tells_reply a
  | error b => exact .ended

theorem onFrame_cases (d : Dispatcher H) (invoke : H → List Json → Outcome) (f : Frame) :
    (∃ m r, d.receive f.message = .ok (.invoking m r) ∧ (onFrame d f).1 = .handling m r) ∨
      Tells (d.replyTo invoke f) (onFrame d f).1 := by
  rw [Dispatcher.replyTo, Dispatcher.answerMessage, onFrame]
  cases d.receive f.message with
  | error b => exact .inr .ended
  | ok x =>
      cases x with
      | answered a => exact .inr (tells_reply a)
      | invoking m r => exact .inl ⟨m, r, rfl, rfl⟩

end Phase

theorem Phase.exists_onUnsent (fault : SendFault) :
    ∃ ending, (onUnsent fault : Phase H × Log).1 = .ended ending := by
  cases fault <;> exact ⟨_, rfl⟩

/-! ## Turns -/

namespace Guest

variable (g : Guest) (d : Dispatcher H) (invoke : H → List Json → Outcome)

/-- What happens next at the connection of a peer; nothing if it has ended, or waits for frames that
do not come. -/
def next (s : Standing H) : Option Event :=
  match s.link.phase with
  | .opening => some .accepted
  | .receiving =>
    match g.frames[s.received]? with
    | some f => some (.frame f)
    | none => if g.leaves then some .departed else none
  | .handling m r => some (.handled (invoke m.handler r.params))
  | .sending _ =>
    match g.fault s.link.sent.length with
    | some fault => some (.unsent fault)
    | none => some .sent
  | .ended _ => none

/-- One turn of the connection. -/
def turn (s : Standing H) : Standing H :=
  match g.next invoke s with
  | none => s
  | some e => s.after d e

/-- A bound for the turns that change something yet. -/
def remaining (s : Standing H) : Nat :=
  match s.link.phase with
  | .opening => 3 * g.frames.length + 2
  | .receiving => 3 * (g.frames.length - s.link.sent.length) + 1
  | .handling _ _ => 3 * (g.frames.length - s.link.sent.length)
  | .sending _ => 3 * (g.frames.length - s.link.sent.length) - 1
  | .ended _ => 0

/-- These are the replies to the first frames, one for each, and they could be sent. -/
structure Answered (sent : List Text) : Prop where
  replies : sent.map some = (g.frames.take sent.length).map (d.replyTo invoke)
  through : ∀ k < sent.length, g.fault k = none

variable {g d invoke}

theorem answered_nil : g.Answered d invoke [] := ⟨rfl, by simp⟩

theorem Answered.length_le {sent : List Text} (h : g.Answered d invoke sent) :
    sent.length ≤ g.frames.length := by
  have hlength := congrArg List.length h.replies
  simp only [List.length_map, List.length_take] at hlength
  omega

theorem Answered.append {sent : List Text} {f : Frame} {t : Text} (h : g.Answered d invoke sent)
    (hf : g.frames[sent.length]? = some f) (ht : d.replyTo invoke f = some t)
    (hfault : g.fault sent.length = none) : g.Answered d invoke (sent ++ [t]) := by
  refine ⟨?_, ?_⟩
  · rw [List.map_append, List.length_append, List.length_singleton, List.take_add_one,
      List.map_append, h.replies, hf]
    simp [ht]
  · intro k hk
    rw [List.length_append, List.length_singleton] at hk
    rcases Nat.lt_succ_iff_lt_or_eq.mp hk with hk | rfl
    · exact h.through k hk
    · exact hfault

end Guest

/-! ## The course of a conversation -/

/-- How things stand at a connection after some turns. -/
inductive Course (g : Guest) (d : Dispatcher H) (invoke : H → List Json → Outcome) :
    Standing H → Prop
  | opening : Course g d invoke ⟨⟨g.address, .opening, []⟩, 0⟩
  | receiving {sent : List Text} : g.Answered d invoke sent →
      Course g d invoke ⟨⟨g.address, .receiving, sent⟩, sent.length⟩
  | handling {sent : List Text} {f : Frame} {m : Method H} {r : Request} :
      g.Answered d invoke sent → g.frames[sent.length]? = some f →
      d.receive f.message = .ok (.invoking m r) →
      Course g d invoke ⟨⟨g.address, .handling m r, sent⟩, sent.length + 1⟩
  | sending {sent : List Text} {f : Frame} {t : Text} : g.Answered d invoke sent →
      g.frames[sent.length]? = some f → d.replyTo invoke f = some t →
      Course g d invoke ⟨⟨g.address, .sending t, sent⟩, sent.length + 1⟩
  | left {sent : List Text} : g.Answered d invoke sent → g.frames[sent.length]? = none →
      g.leaves = true → Course g d invoke ⟨⟨g.address, .ended .departed, sent⟩, sent.length⟩
  | unsent {sent : List Text} {f : Frame} {fault : SendFault} {ending : Ending} :
      g.Answered d invoke sent → g.frames[sent.length]? = some f →
      g.fault sent.length = some fault →
      Course g d invoke ⟨⟨g.address, .ended ending, sent⟩, sent.length + 1⟩
  | unanswered {sent : List Text} {f : Frame} {ending : Ending} : g.Answered d invoke sent →
      g.frames[sent.length]? = some f → d.replyTo invoke f = none →
      Course g d invoke ⟨⟨g.address, .ended ending, sent⟩, sent.length + 1⟩

namespace Course

variable {g : Guest} {d : Dispatcher H} {invoke : H → List Json → Outcome} {s : Standing H}

/-- The phase with the reply to a frame, or the end for the want of one, keeps to the course. -/
theorem of_tells {sent : List Text} {f : Frame} {phase : Phase H} (h : g.Answered d invoke sent)
    (hf : g.frames[sent.length]? = some f) (hphase : Phase.Tells (d.replyTo invoke f) phase) :
    Course g d invoke ⟨⟨g.address, phase, sent⟩, sent.length + 1⟩ := by
  generalize ht : d.replyTo invoke f = t at hphase
  cases hphase with
  | sending => exact .sending h hf ht
  | ended => exact .unanswered h hf ht

theorem remaining_of_tells {sent : List Text} {t : Option Text} {phase : Phase H} {k : Nat}
    (hlength : sent.length < g.frames.length) (hphase : Phase.Tells t phase) :
    g.remaining ⟨⟨g.address, phase, sent⟩, k⟩ < 3 * (g.frames.length - sent.length) := by
  cases hphase with
  | sending =>
      show 3 * (g.frames.length - sent.length) - 1 < _
      omega
  | ended =>
      show 0 < _
      omega

/-- A turn keeps to the course and leaves fewer turns to come, unless nothing happens any more. -/
def Proceeds (g : Guest) (d : Dispatcher H) (invoke : H → List Json → Outcome) (s : Standing H) :
    Prop :=
  g.next invoke s = none ∨
    Course g d invoke (g.turn d invoke s) ∧ g.remaining (g.turn d invoke s) < g.remaining s

theorem proceeds_receiving {sent : List Text} (h : g.Answered d invoke sent) :
    Proceeds g d invoke ⟨⟨g.address, .receiving, sent⟩, sent.length⟩ := by
  cases hf : g.frames[sent.length]? with
  | some f =>
      have hturn : g.turn d invoke ⟨⟨g.address, .receiving, sent⟩, sent.length⟩
          = ⟨⟨g.address, (Phase.onFrame d f).1, sent⟩, sent.length + 1⟩ := by
        simp only [Guest.turn, Guest.next, hf]
        rfl
      have hlength : sent.length < g.frames.length := (List.getElem?_eq_some_iff.mp hf).1
      right
      rw [hturn]
      rcases Phase.onFrame_cases d invoke f with ⟨m, r, hx, hphase⟩ | hphase
      · rw [hphase]
        exact ⟨.handling h hf hx, Nat.lt_succ_self _⟩
      · exact ⟨of_tells h hf hphase, Nat.lt_succ_of_lt (remaining_of_tells hlength hphase)⟩
  | none =>
      cases hleaves : g.leaves with
      | false =>
          left
          simp only [Guest.next, hf, hleaves]
          rfl
      | true =>
          have hturn : g.turn d invoke ⟨⟨g.address, .receiving, sent⟩, sent.length⟩
              = ⟨⟨g.address, .ended .departed, sent⟩, sent.length⟩ := by
            simp only [Guest.turn, Guest.next, hf, hleaves]
            rfl
          right
          rw [hturn]
          exact ⟨.left h hf hleaves, Nat.succ_pos _⟩

theorem proceeds_sending {sent : List Text} {f : Frame} {t : Text} (h : g.Answered d invoke sent)
    (hf : g.frames[sent.length]? = some f) (ht : d.replyTo invoke f = some t) :
    Proceeds g d invoke ⟨⟨g.address, .sending t, sent⟩, sent.length + 1⟩ := by
  have hlength : sent.length < g.frames.length := (List.getElem?_eq_some_iff.mp hf).1
  right
  cases hfault : g.fault sent.length with
  | none =>
      have hturn : g.turn d invoke ⟨⟨g.address, .sending t, sent⟩, sent.length + 1⟩
          = ⟨⟨g.address, .receiving, sent ++ [t]⟩, (sent ++ [t]).length⟩ := by
        rw [List.length_append]
        simp only [Guest.turn, Guest.next, hfault]
        rfl
      rw [hturn]
      refine ⟨.receiving (h.append hf ht hfault), ?_⟩
      show 3 * (g.frames.length - (sent ++ [t]).length) + 1
        < 3 * (g.frames.length - sent.length) - 1
      rw [List.length_append, List.length_singleton]
      omega
  | some fault =>
      obtain ⟨ending, hending⟩ := Phase.exists_onUnsent (H := H) fault
      have hturn : g.turn d invoke ⟨⟨g.address, .sending t, sent⟩, sent.length + 1⟩
          = ⟨⟨g.address, .ended ending, sent⟩, sent.length + 1⟩ := by
        simp only [Guest.turn, Guest.next, hfault]
        rw [← hending]
        rfl
      rw [hturn]
      refine ⟨.unsent h hf hfault, ?_⟩
      show 0 < 3 * (g.frames.length - sent.length) - 1
      omega

theorem proceeds (h : Course g d invoke s) : Proceeds g d invoke s := by
  cases h with
  | opening => exact .inr ⟨.receiving Guest.answered_nil, Nat.lt_succ_self _⟩
  | receiving ha => exact proceeds_receiving ha
  | handling ha hf hx =>
      have hlength := (List.getElem?_eq_some_iff.mp hf).1
      have hphase := Phase.tells_onHandled invoke hx
      exact .inr ⟨of_tells ha hf hphase, remaining_of_tells hlength hphase⟩
  | sending ha hf ht => exact proceeds_sending ha hf ht
  | left _ _ _ | unsent _ _ _ | unanswered _ _ _ => exact .inl rfl

theorem turn_of_next_eq_none (h : g.next invoke s = none) : g.turn d invoke s = s := by
  rw [Guest.turn, h]

theorem turns (h : Course g d invoke s) (n : Nat) :
    Course g d invoke ((g.turn d invoke)^[n] s) := by
  induction n generalizing s with
  | zero => exact h
  | succ n ih =>
      rw [Function.iterate_succ_apply]
      rcases h.proceeds with hnext | ⟨hcourse, -⟩
      · rw [turn_of_next_eq_none hnext]
        exact ih h
      · exact ih hcourse

/-- After as many turns as remained nothing happens any more. -/
theorem next_turns (h : Course g d invoke s) {n : Nat} (hn : g.remaining s ≤ n) :
    g.next invoke ((g.turn d invoke)^[n] s) = none := by
  induction n generalizing s with
  | zero =>
      rcases h.proceeds with hnext | ⟨-, hlt⟩
      · exact hnext
      · omega
  | succ n ih =>
      rw [Function.iterate_succ_apply]
      rcases h.proceeds with hnext | ⟨hcourse, hlt⟩
      · rw [turn_of_next_eq_none hnext, Function.iterate_fixed (turn_of_next_eq_none hnext)]
        exact hnext
      · exact ih hcourse (by omega)

/-! ## Where a course leads -/

theorem answered (h : Course g d invoke s) : g.Answered d invoke s.link.sent := by
  cases h with
  | opening => exact Guest.answered_nil
  | receiving ha | handling ha _ _ | sending ha _ _ | left ha _ _ | unsent ha _ _
  | unanswered ha _ _ => exact ha

/-- Every frame but the last one that was received has been answered. -/
theorem received (h : Course g d invoke s) :
    s.link.sent.length ≤ s.received ∧ s.received ≤ s.link.sent.length + 1 ∧
      s.received ≤ g.frames.length := by
  have hlength := h.answered.length_le
  cases h with
  | opening => simp
  | receiving _ | left _ _ _ => exact ⟨Nat.le_refl _, Nat.le_succ _, hlength⟩
  | handling _ hf _ | sending _ hf _ | unsent _ hf _ | unanswered _ hf _ =>
      exact ⟨Nat.le_succ _, Nat.le_refl _, (List.getElem?_eq_some_iff.mp hf).1⟩

/-- How things stand when nothing happens any more: all frames have been answered, and the peer has
left if it wanted to; or the first reply that could not be sent was the last one. -/
inductive Concluded (g : Guest) : Standing H → Prop
  | waiting {sent : List Text} : sent.length = g.frames.length → g.leaves = false →
      Concluded g ⟨⟨g.address, .receiving, sent⟩, sent.length⟩
  | left {sent : List Text} : sent.length = g.frames.length → g.leaves = true →
      Concluded g ⟨⟨g.address, .ended .departed, sent⟩, sent.length⟩
  | unsent {sent : List Text} {fault : SendFault} {ending : Ending} :
      sent.length < g.frames.length → g.fault sent.length = some fault →
      Concluded g ⟨⟨g.address, .ended ending, sent⟩, sent.length + 1⟩

theorem concluded (h : Course g d invoke s) (hnext : g.next invoke s = none)
    (hreplies : ∀ f ∈ g.frames, (d.replyTo invoke f).isSome) : Concluded g s := by
  cases h with
  | opening => exact absurd hnext (by simp [Guest.next])
  | @receiving sent ha =>
      cases hf : g.frames[sent.length]? with
      | some f => exact absurd hnext (by simp [Guest.next, hf])
      | none =>
          have hlength := Nat.le_antisymm ha.length_le (List.getElem?_eq_none_iff.mp hf)
          refine .waiting hlength ?_
          simpa [Guest.next, hf] using hnext
  | handling _ _ _ => exact absurd hnext (by simp [Guest.next])
  | @sending sent _ _ _ _ _ =>
      cases hfault : g.fault sent.length <;> exact absurd hnext (by simp [Guest.next, hfault])
  | left ha hf hleaves =>
      exact .left (Nat.le_antisymm ha.length_le (List.getElem?_eq_none_iff.mp hf)) hleaves
  | unsent _ hf hfault => exact .unsent (List.getElem?_eq_some_iff.mp hf).1 hfault
  | unanswered _ hf hnone =>
      have hsome := hreplies _ (List.mem_of_getElem? hf)
      rw [hnone] at hsome
      exact absurd hsome (by simp)

end Course

end

end JsonRpc
