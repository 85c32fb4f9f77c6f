/-
Who is there.

The transport keeps the numbers of its live connections and changes them as connections come and go.  Who is
there can also be told from what happened: a connection is from the time it was accepted until something
ended it.  There are several ways for that (`Phase.Ends`), some of them in the middle of a message, and
meanwhile the other connections go on.  `Server.presence_exact` says that both accounts agree after whatever
happened, and that the health page counts the live connections.

What one occurrence does to the phase of a connection is said once (`Phase.moves`).  All that is said of
histories follows from it, by induction on their length.
-/
import JsonRpc.Proofs.Exchange
import JsonRpc.Server
import Mathlib.Data.Set.Card

namespace JsonRpc

variable {H : Type}

/-! ## One connection -/

namespace Phase

/-- The phase after an event; the same if the event does not concern it. -/
def after (d : Dispatcher H) (p : Phase H) (e : Event) : Phase H :=
  ((p.step d e).map Prod.fst).getD p

/-- The event ends a connection in this phase: it could not be accepted, the peer left, receiving failed,
the dispatch of a message came to no reply, at once or after its handler had run, the reply could not be
written, or it could not be sent. -/
inductive Ends (d : Dispatcher H) : Phase H → Event → Prop
  | unaccepted {message : Text} : Ends d .opening (.broken message)
  | departed : Ends d .receiving .departed
  | broken {message : Text} : Ends d .receiving (.broken message)
  | aborted {f : Frame} {b : Abort} : d.receive f.message = .error b → Ends d .receiving (.frame f)
  | unwritable {f : Frame} {a : Answer} {w : Json.WriteError} :
      d.receive f.message = .ok (.answered a) → a.response.write = .error w →
      Ends d .receiving (.frame f)
  | unreportable {m : Method H} {r : Request} {o : Outcome} {b : Abort} : r.finish o = .error b →
      Ends d (.handling m r) (.handled o)
  | unwritten {m : Method H} {r : Request} {o : Outcome} {a : Answer} {w : Json.WriteError} :
      r.finish o = .ok a → a.response.write = .error w → Ends d (.handling m r) (.handled o)
  | unsent {reply : Text} {fault : SendFault} : Ends d (.sending reply) (.unsent fault)

/-- What an event makes of a phase: the connection enters its loop, goes on in it, ends, or stays outside. -/
inductive Moves (d : Dispatcher H) (p : Phase H) (e : Event) : Phase H → Prop
  | begins : p = .opening → e = .accepted → Moves d p e .receiving
  | goesOn {q : Phase H} : p.isLive = true → ¬ p.Ends d e → q.isLive = true → Moves d p e q
  | ends {ending : Ending} : p.Ends d e → Moves d p e (.ended ending)
  | stays : p.isLive = false → ¬ (p = .opening ∧ e = .accepted) → ¬ p.Ends d e → Moves d p e p

theorem reply_cases (a : Answer) :
    (∃ t, a.response.write = .ok t ∧ (reply a : Phase H × Log).1 = .sending t) ∨
      ∃ w ending, a.response.write = .error w ∧ (reply a : Phase H × Log).1 = .ended ending := by
  rw [reply]
  cases a.response.write with
  | ok t => exact .inl ⟨t, rfl, rfl⟩
  | error w => cases w <;> exact .inr ⟨_, _, rfl, rfl⟩

variable {d : Dispatcher H}

theorem moves_frame (f : Frame) : Moves d .receiving (.frame f) (onFrame d f).1 := by
  rw [onFrame]
  cases hreceive : d.receive f.message with
  | error b => exact .ends (.aborted hreceive)
  | ok x =>
      cases x with
      | invoking m r =>
          refine .goesOn rfl ?_ rfl
          intro hends
          cases hends with
          | aborted h => exact absurd (hreceive.symm.trans h) (by simp)
          | unwritable h _ => exact absurd (hreceive.symm.trans h) (by simp)
      | answered a =>
          rcases reply_cases (H := H) a with ⟨t, ht, hreply⟩ | ⟨w, ending, hw, hreply⟩
          · simp only [hreply]
            refine .goesOn rfl ?_ rfl
            intro hends
            cases hends with
            | aborted h => exact absurd (hreceive.symm.trans h) (by simp)
            | unwritable h hw =>
                obtain rfl := Dispatched.answered.inj (Except.ok.inj (hreceive.symm.trans h))
                exact absurd (ht.symm.trans hw) (by simp)
          · simp only [hreply]
            exact .ends (.unwritable hreceive hw)

theorem moves_handled (m : Method H) (r : Request) (o : Outcome) :
    Moves d (.handling m r) (.handled o) (onHandled r o).1 := by
  rw [onHandled]
  cases hfinish : r.finish o with
  | error b => exact .ends (.unreportable hfinish)
  | ok a =>
      rcases reply_cases (H := H) a with ⟨t, ht, hreply⟩ | ⟨w, ending, hw, hreply⟩
      · simp only [hreply]
        refine .goesOn rfl ?_ rfl
        intro hends
        cases hends with
        | unreportable h => exact absurd (hfinish.symm.trans h) (by simp)
        | unwritten h hw =>
            obtain rfl := Except.ok.inj (hfinish.symm.trans h)
            exact absurd (ht.symm.trans hw) (by simp)
      · simp only [hreply]
        exact .ends (.unwritten hfinish hw)

/-- Whatever happens in whatever phase is one of the four. -/
theorem moves (d : Dispatcher H) (p : Phase H) (e : Event) : Moves d p e (p.after d e) := by
  cases p with
  | opening =>
      cases e with
      | accepted => exact .begins rfl rfl
      | broken => exact .ends .unaccepted
      | frame | departed | handled | sent | unsent => exact .stays rfl (by simp) nofun
  | receiving =>
      cases e with
      | frame f => exact moves_frame f
      | departed => exact .ends .departed
      | broken => exact .ends .broken
      | accepted | handled | sent | unsent => exact .goesOn rfl nofun rfl
  | handling m r =>
      cases e with
      | handled o => exact moves_handled m r o
      | accepted | frame | departed | sent | unsent | broken => exact .goesOn rfl nofun rfl
  | sending reply =>
      cases e with
      | sent => exact .goesOn rfl nofun rfl
      | unsent fault =>
          obtain ⟨ending, hending⟩ := exists_onUnsent (H := H) fault
          have hafter : (sending reply).after d (.unsent fault) = .ended ending := hending
          rw [hafter]
          exact .ends .unsent
      | accepted | frame | departed | handled | broken => exact .goesOn rfl nofun rfl
  | ended => exact .stays rfl (by simp) nofun

theorem isLive_after_iff {p : Phase H} {e : Event} :
    (p.after d e).isLive = true ↔
      (p.isLive = true ∨ p = .opening ∧ e = .accepted) ∧ ¬ p.Ends d e := by
  have h := moves d p e
  generalize p.after d e = q at h
  cases h with
  | begins hp he =>
      subst hp he
      exact iff_of_true rfl ⟨.inr ⟨rfl, rfl⟩, nofun⟩
  | goesOn hp hends hq => exact iff_of_true hq ⟨.inl hp, hends⟩
  | ends hends => exact iff_of_false (by simp [isLive]) fun h => h.2 hends
  | stays hp hbegins _ =>
      rw [hp]
      exact iff_of_false (by simp) fun h => hbegins (h.1.resolve_left (by simp))

/-- The connection has come to its end. -/
def HasEnded (p : Phase H) : Prop := ∃ ending, p = .ended ending

theorem not_hasEnded_of_isLive {p : Phase H} (h : p.isLive = true) : ¬ p.HasEnded := by
  rintro ⟨ending, rfl⟩
  exact Bool.false_ne_true h

theorem not_hasEnded_opening : ¬ (opening : Phase H).HasEnded := by
  rintro ⟨ending, h⟩
  exact absurd h (by simp)

theorem hasEnded_after_iff {p : Phase H} {e : Event} :
    (p.after d e).HasEnded ↔ p.HasEnded ∨ p.Ends d e := by
  have h := moves d p e
  generalize p.after d e = q at h
  cases h with
  | begins hp he =>
      subst hp he
      refine iff_of_false (not_hasEnded_of_isLive rfl) ?_
      rintro (h | h)
      · exact not_hasEnded_opening h
      · cases h
  | goesOn hp hends hq =>
      refine iff_of_false (not_hasEnded_of_isLive hq) ?_
      rintro (h | h)
      · exact not_hasEnded_of_isLive hp h
      · exact hends h
  | ends hends => exact iff_of_true ⟨_, rfl⟩ (.inr hends)
  | stays _ _ hends => exact (or_iff_left hends).symm

end Phase

/-! ## All connections -/

/-- What happens to a transport: a peer comes, or there is an event at a connection, with the services that
there are by then. -/
inductive Occurrence (H : Type) where
  | arrival (peer : Address) (offered : List Text)
  | event (d : Dispatcher H) (number : Nat) (e : Event)

namespace Transport

/-- The transport after something happened. -/
def occur (t : Transport H) : Occurrence H → Transport H
  | .arrival peer offered => (t.connect peer offered).1
  | .event d n e => t.after d n e

/-- The connection is accepted by what happens. -/
def Accepts (t : Transport H) (n : Nat) (o : Occurrence H) : Prop :=
  ∃ d, o = .event d n .accepted ∧ t.phase? n = some .opening

/-- The connection is ended by what happens. -/
def EndsBy (t : Transport H) (n : Nat) (o : Occurrence H) : Prop :=
  ∃ d e p, o = .event d n e ∧ t.phase? n = some p ∧ p.Ends d e

/-- The connection is in the loop. -/
def IsLive (t : Transport H) (n : Nat) : Prop := ∃ p, t.phase? n = some p ∧ p.isLive = true

/-- The connection has come to an end. -/
def IsOver (t : Transport H) (n : Nat) : Prop := ∃ p, t.phase? n = some p ∧ p.HasEnded

variable {t : Transport H} {n : Nat}

theorem phase?_after (d : Dispatcher H) (t : Transport H) (k : Nat) (e : Event) (n : Nat) :
    (t.after d k e).phase? n = if k = n then (t.phase? n).map (·.after d e) else t.phase? n := by
  have hlink (l : Link H) : (l.after d e).phase = l.phase.after d e := by
    rw [Link.after, Phase.after]
    cases l.phase.step d e <;> rfl
  rw [phase?, links_after, phase?]
  split
  · rw [Option.map_map, Option.map_map]
    exact congrArg (Option.map · _) (funext hlink)
  · rfl

theorem phase?_connect (t : Transport H) (peer : Address) (offered : List Text) (n : Nat) :
    (t.connect peer offered).1.phase? n =
      if n = t.links.length then some .opening else t.phase? n := by
  rw [phase?, phase?, connect, getElem?_concat]
  split <;> rfl

theorem phase?_length (t : Transport H) : t.phase? t.links.length = none := by
  rw [phase?, List.getElem?_eq_none (Nat.le_refl _)]
  rfl

/-- A connection that comes is not accepted yet, and has not ended either. -/
theorem exists_phase?_connect_iff (t : Transport H) (peer : Address) (offered : List Text)
    {q : Phase H → Prop} (hq : ¬ q .opening) :
    (∃ p, (t.connect peer offered).1.phase? n = some p ∧ q p) ↔ ∃ p, t.phase? n = some p ∧ q p := by
  rw [phase?_connect]
  split
  · rename_i hn
    subst hn
    rw [phase?_length]
    simpa using hq
  · exact Iff.rfl

section
variable {d : Dispatcher H} {e : Event} {p : Phase H}

theorem accepts_event_iff (hp : t.phase? n = some p) :
    t.Accepts n (.event d n e) ↔ p = .opening ∧ e = .accepted := by
  rw [Accepts, hp]
  constructor
  · rintro ⟨_, h, hopening⟩
    cases h
    exact ⟨Option.some.inj hopening, rfl⟩
  · rintro ⟨rfl, rfl⟩
    exact ⟨d, rfl, rfl⟩

theorem endsBy_event_iff (hp : t.phase? n = some p) :
    t.EndsBy n (.event d n e) ↔ p.Ends d e := by
  rw [EndsBy, hp]
  constructor
  · rintro ⟨_, _, _, h, hp, hends⟩
    cases h
    cases hp
    exact hends
  · intro hends
    exact ⟨d, e, p, rfl, rfl, hends⟩

end

/-- A connection is in the loop after something happened if it was, or has been accepted by it, and it has
not been ended by it. -/
theorem isLive_occur_iff {o : Occurrence H} :
    (t.occur o).IsLive n ↔ (t.IsLive n ∨ t.Accepts n o) ∧ ¬ t.EndsBy n o := by
  cases o with
  | arrival peer offered =>
      have haccepts : ¬ t.Accepts n (.arrival peer offered) := by simp [Accepts]
      have hends : ¬ t.EndsBy n (.arrival peer offered) := by simp [EndsBy]
      rw [or_iff_left haccepts, and_iff_left hends]
      exact exists_phase?_connect_iff t peer offered (by simp [Phase.isLive])
  | event d k e =>
      -- an event at another connection neither accepts nor ends this one
      rw [occur, IsLive, phase?_after]
      by_cases hk : k = n
      · subst hk
        rw [if_pos rfl]
        cases hp : t.phase? k with
        | none => simp [IsLive, Accepts, EndsBy, hp]
        | some p =>
            rw [accepts_event_iff hp, endsBy_event_iff hp]
            simpa [IsLive, hp] using Phase.isLive_after_iff
      · have haccepts : ¬ t.Accepts n (.event d k e) := by simp [Accepts, hk]
        have hends : ¬ t.EndsBy n (.event d k e) := by simp [EndsBy, hk]
        rw [if_neg hk, or_iff_left haccepts, and_iff_left hends]
        exact Iff.rfl

theorem isOver_occur_iff {o : Occurrence H} :
    (t.occur o).IsOver n ↔ t.IsOver n ∨ t.EndsBy n o := by
  cases o with
  | arrival peer offered =>
      have hends : ¬ t.EndsBy n (.arrival peer offered) := by simp [EndsBy]
      rw [or_iff_left hends]
      exact exists_phase?_connect_iff t peer offered Phase.not_hasEnded_opening
  | event d k e =>
      rw [occur, IsOver, phase?_after]
      by_cases hk : k = n
      · subst hk
        rw [if_pos rfl]
        cases hp : t.phase? k with
        | none => simp [IsOver, EndsBy, hp]
        | some p =>
            rw [endsBy_event_iff hp]
            simpa [IsOver, hp] using Phase.hasEnded_after_iff
      · have hends : ¬ t.EndsBy n (.event d k e) := by simp [EndsBy, hk]
        rw [if_neg hk, or_iff_left hends]
        exact Iff.rfl

/-! ## The list of live connections -/

theorem live_after {p : Phase H} (hp : t.phase? n = some p) (d : Dispatcher H) (e : Event) :
    (t.after d n e).live = liveAfter t.live n p.isLive (p.after d e).isLive := by
  obtain ⟨l, hl, rfl⟩ := Option.map_eq_some_iff.mp hp
  rw [after, step, hl, Phase.after]
  cases hstep : l.phase.step d e with
  | none => cases hlive : l.phase.isLive <;> simp [hstep, hlive, liveAfter]
  | some x => simp [hstep]

/-- The list is that of the connections in the loop, with each of them once. -/
structure Lists (t : Transport H) : Prop where
  nodup : t.live.Nodup
  mem_iff : ∀ n, n ∈ t.live ↔ t.IsLive n

section
variable {live : List Nat} {before now : Bool}

theorem nodup_liveAfter (h : live.Nodup) (hn : n ∈ live ↔ before = true) :
    (liveAfter live n before now).Nodup := by
  cases before with
  | true =>
      cases now with
      | true => exact h
      | false => exact h.erase n
  | false =>
      have hnew : n ∉ live := fun hmem => Bool.false_ne_true (hn.mp hmem)
      cases now with
      | true =>
        refine List.nodup_append.mpr ⟨h, List.nodup_singleton n, ?_⟩
        rintro k hk m hm rfl
        exact hnew (List.mem_singleton.mp hm ▸ hk)
      | false => exact h

theorem mem_liveAfter (h : live.Nodup) (hn : n ∈ live ↔ before = true) (k : Nat) :
    k ∈ liveAfter live n before now ↔ if n = k then now = true else k ∈ live := by
  split
  · rename_i hk
    subst hk
    cases before with
    | true =>
      cases now with
      | true => exact iff_of_true (hn.mpr rfl) rfl
      | false => exact iff_of_false h.not_mem_erase Bool.false_ne_true
    | false =>
      cases now with
      | true => exact iff_of_true (by simp [liveAfter]) rfl
      | false => exact hn
  · rename_i hk
    cases before <;> cases now <;> simp [liveAfter, List.mem_erase_of_ne, Ne.symm hk]

end

theorem Lists.occur (h : t.Lists) (o : Occurrence H) : (t.occur o).Lists := by
  cases o with
  | arrival peer offered =>
      have hlive (n : Nat) : (t.occur (.arrival peer offered)).IsLive n ↔ t.IsLive n :=
        exists_phase?_connect_iff t peer offered (by simp [Phase.isLive])
      exact ⟨h.nodup, fun n => (h.mem_iff n).trans (hlive n).symm⟩
  | event d k e =>
      cases hp : t.phase? k with
      | none =>
          have hlink : t.links[k]? = none := Option.map_eq_none_iff.mp hp
          rw [Transport.occur, after_of_none hlink]
          exact h
      | some p =>
          have hk : k ∈ t.live ↔ p.isLive = true := by
            rw [h.mem_iff, IsLive, hp]
            simp
          have hlive := live_after hp d e
          refine ⟨?_, ?_⟩
          · rw [Transport.occur, hlive]
            exact nodup_liveAfter h.nodup hk
          · intro n
            rw [Transport.occur, hlive, mem_liveAfter h.nodup hk, IsLive, phase?_after]
            split
            · rename_i hn
              subst hn
              simp [hp]
            · exact h.mem_iff n

/-! ## Histories -/

/-- The transport after all this happened, in this order. -/
def history (subprotocol : Text) (os : List (Occurrence H)) : Transport H :=
  os.foldl occur { subprotocol := subprotocol }

/-- At some point in a history such a thing happened to the transport of then. -/
def Happened (subprotocol : Text) (os : List (Occurrence H))
    (such : Transport H → Occurrence H → Prop) : Prop :=
  ∃ before o later, os = before ++ o :: later ∧ such (history subprotocol before) o

/-- The connection has been accepted. -/
def WasAccepted (subprotocol : Text) (os : List (Occurrence H)) (n : Nat) : Prop :=
  Happened subprotocol os fun t o => t.Accepts n o

/-- Something has ended the connection. -/
def WasEnded (subprotocol : Text) (os : List (Occurrence H)) (n : Nat) : Prop :=
  Happened subprotocol os fun t o => t.EndsBy n o

variable {subprotocol : Text} {os : List (Occurrence H)}

theorem history_concat (os : List (Occurrence H)) (o : Occurrence H) :
    history subprotocol (os ++ [o]) = (history subprotocol os).occur o := by
  rw [history, List.foldl_append]
  rfl

theorem not_happened_nil {such : Transport H → Occurrence H → Prop} :
    ¬ Happened subprotocol [] such := by
  rintro ⟨before, o, later, h, -⟩
  exact absurd h (by simp)

theorem happened_concat_iff {o : Occurrence H} {such : Transport H → Occurrence H → Prop} :
    Happened subprotocol (os ++ [o]) such ↔
      Happened subprotocol os such ∨ such (history subprotocol os) o := by
  constructor
  · rintro ⟨before, o', later, h, hsuch⟩
    -- it was the last thing to happen, or there is a last thing behind it
    cases later using List.reverseRecOn with
    | nil =>
        obtain ⟨hos, ho⟩ := List.append_inj' h rfl
        subst hos
        obtain rfl := List.singleton_inj.mp ho
        exact .inr hsuch
    | append_singleton later o'' =>
        rw [← List.cons_append, ← List.append_assoc] at h
        obtain ⟨rfl, -⟩ := List.append_inj' h rfl
        exact .inl ⟨before, o', later, rfl, hsuch⟩
  · rintro (⟨before, o', later, rfl, hsuch⟩ | hsuch)
    · exact ⟨before, o', later ++ [o], by simp, hsuch⟩
    · exact ⟨os, o, [], rfl, hsuch⟩

theorem lists_history (subprotocol : Text) (os : List (Occurrence H)) :
    (history subprotocol os).Lists := by
  induction os using List.reverseRecOn with
  | nil => exact ⟨List.nodup_nil, by simp [history, IsLive, phase?]⟩
  | append_singleton os o ih =>
      rw [history_concat]
      exact ih.occur o

/-- A connection has come to an end if something ended it. -/
theorem isOver_history_iff {n : Nat} :
    (history subprotocol os).IsOver n ↔ WasEnded subprotocol os n := by
  induction os using List.reverseRecOn with
  | nil => exact iff_of_false (by simp [history, IsOver, phase?]) not_happened_nil
  | append_singleton os o ih =>
      rw [history_concat, isOver_occur_iff, ih]
      exact happened_concat_iff.symm

/-- A connection is in the loop if it has been accepted and nothing has ended it. -/
theorem isLive_history_iff {n : Nat} :
    (history subprotocol os).IsLive n ↔
      WasAccepted subprotocol os n ∧ ¬ WasEnded subprotocol os n := by
  induction os using List.reverseRecOn with
  | nil =>
      exact iff_of_false (by simp [history, IsLive, phase?]) fun h => not_happened_nil h.1
  | append_singleton os o ih =>
      -- what is accepted now has not ended before
      have hfresh (h : (history subprotocol os).Accepts n o) : ¬ WasEnded subprotocol os n := by
        obtain ⟨d, -, hopening⟩ := h
        rw [← isOver_history_iff]
        rintro ⟨p, hp, hended⟩
        obtain rfl := Option.some.inj (hopening.symm.trans hp)
        exact Phase.not_hasEnded_opening hended
      have haccepted : WasAccepted subprotocol (os ++ [o]) n ↔
          WasAccepted subprotocol os n ∨ (history subprotocol os).Accepts n o := happened_concat_iff
      have hended : WasEnded subprotocol (os ++ [o]) n ↔
          WasEnded subprotocol os n ∨ (history subprotocol os).EndsBy n o := happened_concat_iff
      rw [history_concat, isLive_occur_iff, ih, haccepted, hended, not_or]
      constructor
      · rintro ⟨⟨hthen, hrest⟩ | hnow, hends⟩
        · exact ⟨.inl hthen, hrest, hends⟩
        · exact ⟨.inr hnow, hfresh hnow, hends⟩
      · rintro ⟨hthen | hnow, hrest, hends⟩
        · exact ⟨.inl ⟨hthen, hrest⟩, hends⟩
        · exact ⟨.inr hnow, hends⟩

end Transport

namespace Server

open Transport

/-- The live connections are at all times those that have been accepted and that nothing has ended, each
counted once; nothing else ends a connection than what is said to, and when all have ended nobody is
left.  A health page that is asked for says how many they are. -/
theorem presence_exact (subprotocol : Text) (os : List (Occurrence Handler)) :
    (history subprotocol os).live.Nodup ∧
    (∀ n, n ∈ (history subprotocol os).live ↔
      WasAccepted subprotocol os n ∧ ¬ WasEnded subprotocol os n) ∧
    (∀ n, WasEnded subprotocol os n ↔
      ∃ ending, (history subprotocol os).phase? n = some (.ended ending)) ∧
    ((∀ n, WasAccepted subprotocol os n → WasEnded subprotocol os n) →
      (history subprotocol os).live = []) ∧
    ∀ s : Server, s.transport = history subprotocol os →
      s.page (Text.of "GET") (Text.of "/health") = Page.ofJson 200 s.health ∧
      ∃ ms, s.health = .obj ms ∧ Json.member? (Text.of "connections") ms =
        some (.int {n | WasAccepted subprotocol os n ∧ ¬ WasEnded subprotocol os n}.ncard) := by
  have hlists := lists_history subprotocol os
  have hmem (n : Nat) : n ∈ (history subprotocol os).live ↔
      WasAccepted subprotocol os n ∧ ¬ WasEnded subprotocol os n :=
    (hlists.mem_iff n).trans isLive_history_iff
  refine ⟨hlists.nodup, hmem, ?_, ?_, ?_⟩
  · intro n
    rw [← isOver_history_iff]
    constructor
    · rintro ⟨_, hp, ending, rfl⟩
      exact ⟨ending, hp⟩
    · rintro ⟨ending, hp⟩
      exact ⟨_, hp, ending, rfl⟩
  · intro hall
    refine List.eq_nil_iff_forall_not_mem.mpr fun n hn => ?_
    obtain ⟨haccepted, hrest⟩ := (hmem n).mp hn
    exact hrest (hall n haccepted)
  · intro s hs
    refine ⟨rfl, _, rfl, ?_⟩
    have hcount : {n | WasAccepted subprotocol os n ∧ ¬ WasEnded subprotocol os n}.ncard =
        s.transport.live.length := by
      have hset : {n | WasAccepted subprotocol os n ∧ ¬ WasEnded subprotocol os n} =
          s.transport.live.toFinset := by
        ext n
        rw [Set.mem_ofPred_eq, ← hmem, hs, Finset.mem_coe, List.mem_toFinset]
      rw [hset, Set.ncard_coe_finset, hs, List.toFinset_card_of_nodup hlists.nodup]
    rw [hcount]
    rfl

/-- Three peers come.  The reply to the first cannot be sent, the second cannot be accepted, and the third
is waited for. -/
def threePeers : List (Occurrence Handler) :=
  let peer : Address := ⟨Text.of "a", 1⟩
  [.arrival peer [], .arrival peer [], .event {} 0 .accepted, .arrival peer [],
    .event {} 1 (.broken (Text.of "gone")), .event {} 0 (.frame ⟨none, none⟩),
    .event {} 2 .accepted, .event {} 0 (.unsent .departed)]

theorem presence_exact_threePeers :
    (WasAccepted [] threePeers 2 ∧ ¬ WasEnded [] threePeers 2) ∧
      ∀ n ∈ [0, 1], ¬ (WasAccepted [] threePeers n ∧ ¬ WasEnded [] threePeers n) := by
  have hlive : (history [] threePeers).live = [2] := by decide +kernel
  obtain ⟨-, hmem, -⟩ := presence_exact [] threePeers
  simp only [← hmem, hlive]
  exact ⟨by decide, by decide⟩

end Server

end JsonRpc
