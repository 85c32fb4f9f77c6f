/-
The life of a manager.

How the task of a manager fares can be told from what was done.  It serves if there was an opening that
succeeded and since then nobody has closed and the task has not ended (`Serves`).  A task that ends by
itself is not noticed: after a clean end the manager keeps it until somebody closes (`HasLapsed`), and after
a crash it keeps it for good (`HasCrashed`).

What a turn makes of the task is one of five things (`Turn.Passes`).  From that the three accounts follow,
all by the same induction (`course_iff_since`).  `lifecycle_exact` says what they have to do with listening,
closing and opening again: a manager whose task has ended by itself still counts as listening and refuses
to be opened, and once the task has crashed there is no closing it (`not_always_reopenable`).
-/
import JsonRpc.Proofs.Opening
import Mathlib.Data.List.Induction

namespace JsonRpc

/-! ## Free addresses -/

namespace Network

/-- The host stands for an interface of this machine, and nothing that is bound is in the way there; some
port is always free. -/
def IsFree (n : Network) (host : Text) (port : Nat) : Prop :=
  ∃ interface, n.site host = .ok interface ∧
    (port = 0 ∨ ∀ b ∈ n.bound, Binding.conflicts ⟨interface, port⟩ b = false)

theorem exists_occupy_iff {n : Network} {interface : Interface} {port : Nat} :
    (∃ r, n.occupy interface port = .ok r) ↔
      port = 0 ∨ ∀ b ∈ n.bound, Binding.conflicts ⟨interface, port⟩ b = false := by
  rw [occupy]
  by_cases hport : port = 0
  · rw [if_pos hport]
    exact iff_of_true ⟨_, rfl⟩ (.inl hport)
  · rw [if_neg hport, or_iff_right hport]
    split
    · rename_i hany
      refine iff_of_false (by simp) ?_
      simpa using hany
    · rename_i hany
      refine iff_of_true ⟨_, rfl⟩ ?_
      simpa using hany

/-- What is free can be bound, and nothing else. -/
theorem exists_bind_iff {n : Network} {host : Text} {port : Nat} :
    (∃ r, n.bind host port = .ok r) ↔ n.IsFree host port := by
  rw [IsFree, bind_eq]
  simp only [← exists_occupy_iff, bind_eq_ok_iff]
  constructor
  · rintro ⟨r, interface, hsite, hr⟩
    exact ⟨interface, hsite, r, hr⟩
  · rintro ⟨interface, hsite, r, hr⟩
    exact ⟨r, interface, hsite, hr⟩

end Network

/-- The server after services are published on it, one after the other. -/
def Server.publishAll (server : Server) (services : List (Service Handler)) : Server :=
  services.foldl (fun server service => (server.publish service).1) server

namespace Manager

/-! ## Turns -/

/-- Something is done with a manager or happens around it, or somebody waits for it to be closed. -/
inductive Turn where
  | command (c : Command)
  | wait

/-- Waiting changes nothing. -/
def Turn.after (s : Station) : Turn → Station
  | command c => c.after s
  | wait => s

/-- The station after turns, one after the other. -/
def Station.course (s : Station) (ts : List Turn) : Station := ts.foldl Turn.after s

theorem Station.course_concat (s : Station) (ts : List Turn) (t : Turn) :
    s.course (ts ++ [t]) = t.after (s.course ts) := by
  rw [course, List.foldl_append]
  rfl

/-- How the task fares that the manager has. -/
def Station.task? (s : Station) : Option Task := s.manager.running.map Running.task

theorem Station.opens_opened (s : Station) (k : Configuration) (startup : Startup) :
    Opens s.manager s.network k startup (s.opened k startup).manager (s.opened k startup).network
      (s.outcome k startup) :=
  opens ..

/-- What opens had no task, and has one that serves then. -/
theorem Opens.running_of_ok {m m' : Manager} {n n' : Network} {k : Configuration} {startup : Startup}
    (h : Opens m n k startup m' n' (.ok ())) :
    m.running = none ∧ ∃ b, m'.running = some ⟨.serving, b, true⟩ := by
  cases h with
  | opened hrunning => exact ⟨hrunning, _, rfl⟩

namespace Turn

variable {s : Station} {t : Turn}

/-- Opening, with success. -/
def Opens (s : Station) (t : Turn) : Prop :=
  ∃ k startup, t = .command (.openWith k startup) ∧ s.outcome k startup = .ok ()

/-- Closing, with success or not. -/
def Closes (t : Turn) : Prop := t = .command .close

/-- The end of a task that serves, clean or with an error. -/
def Ends (crash : Option Text) (s : Station) (t : Turn) : Prop :=
  t = .command (.taskEnds crash) ∧ s.task? = some .serving

/-- Closing, or the end of a task. -/
def Interrupts (t : Turn) : Prop := t.Closes ∨ ∃ crash, t = .command (.taskEnds crash)

/-- What a turn makes of the task. -/
inductive Passes (s : Station) (t : Turn) : Option Task → Prop
  | opens : s.task? = none → t.Opens s → Passes s t (some .serving)
  | closes : t.Closes → (∀ message, s.task? ≠ some (.crashed message)) → Passes s t none
  | lapses : t.Ends none s → Passes s t (some .stopped)
  | crashes {message : Text} : t.Ends (some message) s → Passes s t (some (.crashed message))
  | stays : ¬ t.Opens s → (t.Closes → ∃ message, s.task? = some (.crashed message)) →
      (∀ crash, ¬ t.Ends crash s) → Passes s t s.task?

theorem passes_openWith (s : Station) (k : Configuration) (startup : Startup) :
    Passes s (.command (.openWith k startup)) (s.opened k startup).task? := by
  have hopens := s.opens_opened k startup
  cases houtcome : s.outcome k startup with
  | error e =>
      rw [houtcome] at hopens
      have htask : (s.opened k startup).task? = s.task? := by
        rw [Station.task?, hopens.eq_of_error.1]
        rfl
      rw [htask]
      refine .stays ?_ nofun nofun
      rintro ⟨k', startup', ht, hok⟩
      cases ht
      exact absurd (houtcome.symm.trans hok) (by simp)
  | ok =>
      rw [houtcome] at hopens
      obtain ⟨hnone, b, hserving⟩ := hopens.running_of_ok
      have htask : (s.opened k startup).task? = some .serving := by
        rw [Station.task?, hserving]
        rfl
      rw [htask]
      exact .opens (by rw [Station.task?, hnone]; rfl) ⟨k, startup, rfl, houtcome⟩

theorem passes_close (s : Station) : Passes s (.command .close) (Command.close.after s).task? := by
  obtain ⟨⟨server, running, port⟩, n⟩ := s
  rcases running with _ | ⟨_ | _ | message, binding, started⟩
  · exact .closes rfl nofun
  · exact .closes rfl nofun
  · exact .closes rfl nofun
  · exact .stays nofun (fun _ => ⟨message, rfl⟩) nofun

theorem passes_taskEnds (s : Station) (crash : Option Text) :
    Passes s (.command (.taskEnds crash)) ((Command.taskEnds crash).after s).task? := by
  obtain ⟨⟨server, running, port⟩, n⟩ := s
  rcases running with _ | ⟨_ | _ | message, binding, started⟩
  · exact .stays nofun nofun nofun
  · cases crash with
    | none => exact .lapses ⟨rfl, rfl⟩
    | some message => exact .crashes ⟨rfl, rfl⟩
  · exact .stays nofun nofun nofun
  · exact .stays nofun nofun nofun

theorem passes (s : Station) (t : Turn) : Passes s t (t.after s).task? := by
  cases t with
  | wait => exact .stays nofun nofun nofun
  | command c =>
      cases c with
      | openWith k startup => exact passes_openWith s k startup
      | close => exact passes_close s
      | register service => exact .stays nofun nofun nofun
      | taskEnds crash => exact passes_taskEnds s crash
      | elsewhere n => exact .stays nofun nofun nofun

/-! The three ways in which a manager can have a task, after a turn. -/

theorem serving_after_iff :
    (t.after s).task? = some .serving ↔ t.Opens s ∨ s.task? = some .serving ∧ ¬ t.Interrupts := by
  have h := passes s t
  generalize (t.after s).task? = task at h
  cases h with
  | opens _ hopens => exact iff_of_true rfl (.inl hopens)
  | closes hcloses _ =>
      obtain rfl := hcloses
      exact iff_of_false nofun (by simp [Opens, Interrupts, Closes])
  | lapses hends =>
      obtain ⟨rfl, -⟩ := hends
      exact iff_of_false nofun (by simp [Opens, Interrupts, Closes])
  | crashes hends =>
      obtain ⟨rfl, -⟩ := hends
      exact iff_of_false nofun (by simp [Opens, Interrupts, Closes])
  | stays hopens hcloses hends =>
      rw [or_iff_right hopens, iff_self_and]
      rintro hserving (hclose | ⟨crash, hcrash⟩)
      · obtain ⟨message, hmessage⟩ := hcloses hclose
        exact absurd (hserving.symm.trans hmessage) (by simp)
      · exact hends crash ⟨hcrash, hserving⟩

theorem stopped_after_iff :
    (t.after s).task? = some .stopped ↔ t.Ends none s ∨ s.task? = some .stopped ∧ ¬ t.Closes := by
  have h := passes s t
  generalize (t.after s).task? = task at h
  cases h with
  | opens hnone hopens =>
      obtain ⟨k, startup, rfl, -⟩ := hopens
      exact iff_of_false nofun (by simp [Ends, hnone])
  | closes hcloses _ =>
      obtain rfl := hcloses
      exact iff_of_false nofun (by simp [Ends, Closes])
  | lapses hends => exact iff_of_true rfl (.inl hends)
  | crashes hends =>
      obtain ⟨rfl, hserving⟩ := hends
      exact iff_of_false nofun (by simp [Ends, hserving])
  | stays hopens hcloses hends =>
      rw [or_iff_right (hends none), iff_self_and]
      intro hstopped hclose
      obtain ⟨message, hmessage⟩ := hcloses hclose
      exact absurd (hstopped.symm.trans hmessage) (by simp)

theorem crashed_after_iff :
    (∃ message, (t.after s).task? = some (.crashed message)) ↔
      (∃ message, t.Ends (some message) s) ∨ ∃ message, s.task? = some (.crashed message) := by
  have h := passes s t
  generalize (t.after s).task? = task at h
  cases h with
  | opens hnone hopens =>
      obtain ⟨k, startup, rfl, -⟩ := hopens
      exact iff_of_false (by simp) (by simp [Ends, hnone])
  | closes hcloses hwhole =>
      obtain rfl := hcloses
      exact iff_of_false (by simp) (by simp [Ends, hwhole])
  | lapses hends =>
      obtain ⟨rfl, hserving⟩ := hends
      exact iff_of_false (by simp) (by simp [Ends, hserving])
  | @crashes message hends => exact iff_of_true ⟨message, rfl⟩ (.inl ⟨message, hends⟩)
  | stays _ _ hends =>
      refine (or_iff_right ?_).symm
      rintro ⟨message, hcrash⟩
      exact hends _ hcrash

end Turn

/-! ## What was done and not undone -/

/-- At some point of a course such a turn was taken, and since then none that undoes it. -/
def Since (s : Station) (ts : List Turn) (such : Station → Turn → Prop) (undoes : Turn → Prop) : Prop :=
  ∃ before t later, ts = before ++ t :: later ∧ such (s.course before) t ∧ ∀ u ∈ later, ¬ undoes u

section

variable {s : Station} {ts : List Turn} {t : Turn} {such : Station → Turn → Prop} {undoes : Turn → Prop}

theorem not_since_nil : ¬ Since s [] such undoes := by
  rintro ⟨before, t, later, h, -⟩
  exact absurd h (by simp)

theorem since_concat_iff :
    Since s (ts ++ [t]) such undoes ↔ such (s.course ts) t ∨ Since s ts such undoes ∧ ¬ undoes t := by
  constructor
  · rintro ⟨before, t', later, h, hsuch, hlater⟩
    -- it was the last turn, or there is a last one behind it
    cases later using List.reverseRecOn with
    | nil =>
        obtain ⟨rfl, ht⟩ := List.append_inj' h rfl
        obtain rfl := List.singleton_inj.mp ht
        exact .inl hsuch
    | append_singleton later u =>
        rw [← List.cons_append, ← List.append_assoc] at h
        obtain ⟨rfl, ht⟩ := List.append_inj' h rfl
        obtain rfl := List.singleton_inj.mp ht
        obtain ⟨hquiet, hlast⟩ := List.forall_mem_append.mp hlater
        exact .inr ⟨⟨before, t', later, rfl, hsuch, hquiet⟩, hlast _ (List.mem_singleton_self _)⟩
  · rintro (hsuch | ⟨⟨before, t', later, rfl, hsuch, hquiet⟩, hlast⟩)
    · exact ⟨ts, t, [], rfl, hsuch, by simp⟩
    · refine ⟨before, t', later ++ [t], by simp, hsuch, ?_⟩
      exact List.forall_mem_append.mpr ⟨hquiet, by simpa using hlast⟩

/-- What each turn brings about or leaves, unless it undoes it, holds after a course if some turn brought it
about and none has undone it since. -/
theorem course_iff_since (holds : Station → Prop) (hstart : ¬ holds s)
    (hstep : ∀ s t, holds (t.after s) ↔ such s t ∨ holds s ∧ ¬ undoes t) :
    holds (s.course ts) ↔ Since s ts such undoes := by
  induction ts using List.reverseRecOn with
  | nil => exact iff_of_false hstart not_since_nil
  | append_singleton ts t ih => rw [Station.course_concat, hstep, since_concat_iff, ih]

end

/-- There was an opening that succeeded, and since then nobody closed and the task has not ended. -/
def Serves (s : Station) (ts : List Turn) : Prop :=
  Since s ts (fun s t => t.Opens s) Turn.Interrupts

/-- A task that served came to a clean end by itself, and nobody closed since then. -/
def HasLapsed (s : Station) (ts : List Turn) : Prop :=
  Since s ts (fun s t => t.Ends none s) Turn.Closes

/-- A task that served crashed. -/
def HasCrashed (s : Station) (ts : List Turn) : Prop :=
  Since s ts (fun s t => ∃ message, t.Ends (some message) s) fun _ => False

section

variable {s : Station} (h : s.task? = none) (ts : List Turn)
include h

theorem serves_iff : (s.course ts).task? = some .serving ↔ Serves s ts := by
  refine course_iff_since (fun s => s.task? = some .serving) ?_ fun _ _ => Turn.serving_after_iff
  simp [h]

theorem hasLapsed_iff : (s.course ts).task? = some .stopped ↔ HasLapsed s ts := by
  refine course_iff_since (fun s => s.task? = some .stopped) ?_ fun _ _ => Turn.stopped_after_iff
  simp [h]

theorem hasCrashed_iff :
    (∃ message, (s.course ts).task? = some (.crashed message)) ↔ HasCrashed s ts := by
  refine course_iff_since (fun s => ∃ message, s.task? = some (.crashed message)) ?_ ?_
  · simp [h]
  · intro s t
    rw [Turn.crashed_after_iff, not_false_iff, and_true]

end

/-! ## Services -/

/-- The service that a turn registers. -/
def Turn.service? : Turn → Option (Service Handler)
  | command (.register service) => some service
  | _ => none

/-- The services that were registered in a course, in their order. -/
def registered (ts : List Turn) : List (Service Handler) := ts.filterMap Turn.service?

theorem Opens.server_eq {m m' : Manager} {n n' : Network} {k : Configuration} {startup : Startup}
    {r : Except OpenError Unit} (h : Opens m n k startup m' n' r) : m'.server = m.server := by
  cases h <;> rfl

theorem server_close (m : Manager) (n : Network) : (m.close n).1.server = m.server := by
  rw [close]
  split
  · rfl
  · split <;> rfl

theorem server_taskEnds (m : Manager) (n : Network) (crash : Option Text) :
    (m.taskEnds n crash).1.server = m.server := by
  rw [taskEnds]
  split
  · split <;> rfl
  · rfl

/-- Nothing but registering touches the server. -/
theorem Turn.server_after (s : Station) (t : Turn) :
    (t.after s).manager.server = s.manager.server.publishAll t.service?.toList := by
  cases t with
  | wait => rfl
  | command c =>
      cases c with
      | openWith k startup => exact (s.opens_opened k startup).server_eq
      | close => exact server_close s.manager s.network
      | register service => rfl
      | taskEnds crash => exact server_taskEnds s.manager s.network crash
      | elsewhere n => rfl

theorem server_course (s : Station) (ts : List Turn) :
    (s.course ts).manager.server = s.manager.server.publishAll (registered ts) := by
  induction ts using List.reverseRecOn with
  | nil => rfl
  | append_singleton ts t ih =>
      have hregistered : registered (ts ++ [t]) = registered ts ++ t.service?.toList := by
        rw [registered, List.filterMap_append, registered]
        cases hservice : t.service? <;> simp [hservice]
      rw [Station.course_concat, Turn.server_after, ih, hregistered, Server.publishAll, Server.publishAll,
        Server.publishAll, List.foldl_append]

/-! ## Listening, closing and opening again -/

theorem hasStarted_course {s : Station} (h : s.manager.HasStarted) (ts : List Turn) :
    (s.course ts).manager.HasStarted := by
  induction ts using List.reverseRecOn with
  | nil => exact h
  | append_singleton ts t ih =>
      rw [Station.course_concat]
      cases t with
      | wait => exact ih
      | command c => exact hasStarted_after ih c

/-- Somebody who waits goes on to do so as long as the task serves. -/
theorem waitClosed_eq_none_iff {s : Station} :
    s.manager.waitClosed = none ↔ s.task? = some .serving := by
  obtain ⟨⟨server, running, port⟩, n⟩ := s
  rcases running with _ | ⟨_ | _ | message, binding, started⟩ <;> simp [waitClosed, Station.task?]

/-- The error of a task that has crashed comes out of closing, which leaves all as it is. -/
theorem close_of_crashed {s : Station} {message : Text} (h : s.task? = some (.crashed message)) :
    s.manager.close s.network = (s.manager, s.network, .error message) := by
  obtain ⟨⟨server, running, port⟩, n⟩ := s
  rcases running with _ | ⟨task, binding, started⟩
  · exact absurd h nofun
  · obtain rfl : task = .crashed message := Option.some.inj h
    rfl

/-- Otherwise closing succeeds. -/
theorem close_of_not_crashed {s : Station} (h : ¬ ∃ message, s.task? = some (.crashed message)) :
    (s.manager.close s.network).2.2 = .ok () ∧ (s.manager.close s.network).1.running = none := by
  obtain ⟨⟨server, running, port⟩, n⟩ := s
  rcases running with _ | ⟨_ | _ | message, binding, started⟩
  · exact ⟨rfl, rfl⟩
  · exact ⟨rfl, rfl⟩
  · exact ⟨rfl, rfl⟩
  · exact absurd ⟨message, rfl⟩ h

/-- A manager listens as long as it has a task, however that fares. -/
theorem isListening_iff {s : Station} (h : s.manager.HasStarted) :
    s.manager.isListening = true ↔ s.task? = some .serving ∨ s.task? = some .stopped ∨
      ∃ message, s.task? = some (.crashed message) := by
  rw [isListening_eq h]
  obtain ⟨⟨server, running, port⟩, n⟩ := s
  rcases running with _ | ⟨_ | _ | message, binding, started⟩
  · exact iff_of_false nofun (by simp [Station.task?])
  · exact iff_of_true rfl (.inl rfl)
  · exact iff_of_true rfl (.inr (.inl rfl))
  · exact iff_of_true rfl (.inr (.inr ⟨message, rfl⟩))

/-- With a task, opening is refused. -/
theorem opened_of_running {s : Station} {r : Running} (h : s.manager.running = some r) (k : Configuration)
    (startup : Startup) :
    s.outcome k startup = .error (.transport .alreadyOpen) ∧ s.opened k startup = s := by
  rw [Station.outcome, Station.opened, openWith_of_running h]
  exact ⟨rfl, rfl⟩

/-- Without a task, opening a free address is a matter of the startup. -/
theorem opened_of_isFree {s : Station} (hnone : s.manager.running = none) {k : Configuration}
    {c : ServerConfig} (hk : k.read = .ok c) (hfree : s.network.IsFree c.host c.port) (startup : Startup) :
    (startup = .succeeds → s.outcome k startup = .ok ()) ∧
      (∀ cause, startup = .fails cause → ∃ port,
        s.outcome k startup = .error (.transport (.startupFailed c.host port cause))) ∧
      ((s.opened k startup).manager.isListening = true ↔ startup = .succeeds) ∧
      (s.opened k startup).manager.server = s.manager.server := by
  obtain ⟨⟨n', b⟩, hbind⟩ := Network.exists_bind_iff.mpr hfree
  have hopen : s.manager.openWith s.network k startup = s.manager.start s.network c startup :=
    openWith_of_read hnone hk
  have hserver := (s.opens_opened k startup).server_eq
  rw [Station.outcome, Station.opened, hopen]
  rw [Station.opened, hopen] at hserver
  refine ⟨?_, ?_, ?_, hserver⟩
  · rintro rfl
    exact (start_of_bound hbind).1
  · rintro cause rfl
    exact ⟨b.port, (start_of_bound hbind).2 cause⟩
  · cases startup with
    | succeeds => simp only [start, hbind, isListening]
    | fails cause => simp [start, hbind, isListening, hnone]

/-- Let anything be done with a manager, in any order, and let its task end by itself now and then.  The
services in place are at all times those that were registered, and who waits for the manager to be closed does
so as long as its task serves.  The manager listens then, but also if the task has ended by itself: after a
clean end until somebody closes, and after a crash for good.  Closing fails after a crash, and nothing is
changed by it; otherwise it succeeds, and nothing listens then.  As long as the manager listens, it cannot be
opened.  If it does not, a free address can be opened, and whether the manager listens then is a matter of the
startup alone. -/
theorem lifecycle_exact (server : Server) (network : Network) (turns : List Turn) :
    let new : Station := ⟨{ server := server }, network⟩
    let s := new.course turns
    let closed := s.manager.close s.network
    s.manager.server = server.publishAll (registered turns) ∧
    (s.manager.waitClosed = none ↔ Serves new turns) ∧
    (s.manager.isListening = true ↔ Serves new turns ∨ HasLapsed new turns ∨ HasCrashed new turns) ∧
    (Serves new turns → ¬ HasLapsed new turns ∧ ¬ HasCrashed new turns) ∧
    (HasCrashed new turns → ∃ message, closed = (s.manager, s.network, .error message)) ∧
    (¬ HasCrashed new turns → closed.2.2 = .ok () ∧ closed.1.isListening = false) ∧
    (s.manager.isListening = true → ∀ k startup,
      s.outcome k startup = .error (.transport .alreadyOpen) ∧ s.opened k startup = s) ∧
    (s.manager.isListening = false → ∀ k c, k.read = .ok c → s.network.IsFree c.host c.port →
      ∀ startup,
        (startup = .succeeds → s.outcome k startup = .ok ()) ∧
        (∀ cause, startup = .fails cause → ∃ port,
          s.outcome k startup = .error (.transport (.startupFailed c.host port cause))) ∧
        ((s.opened k startup).manager.isListening = true ↔ startup = .succeeds) ∧
        (s.opened k startup).manager.server = s.manager.server) := by
  intro new s closed
  have hnew : new.task? = none := rfl
  have hstarted : s.manager.HasStarted := hasStarted_course (hasStarted_of_none rfl) turns
  have hserves : s.task? = some .serving ↔ Serves new turns := serves_iff hnew turns
  have hlapsed : s.task? = some .stopped ↔ HasLapsed new turns := hasLapsed_iff hnew turns
  have hcrashed : (∃ message, s.task? = some (.crashed message)) ↔ HasCrashed new turns :=
    hasCrashed_iff hnew turns
  rw [← hserves, ← hlapsed, ← hcrashed]
  refine ⟨server_course new turns, waitClosed_eq_none_iff, isListening_iff hstarted, ?_, ?_, ?_, ?_, ?_⟩
  · intro htask
    simp [htask]
  · rintro ⟨message, hmessage⟩
    exact ⟨message, close_of_crashed hmessage⟩
  · intro hwhole
    obtain ⟨hclosed, hnone⟩ := close_of_not_crashed hwhole
    refine ⟨hclosed, ?_⟩
    rw [isListening_eq (hasStarted_of_none hnone), hnone]
    rfl
  · intro hlistening
    rw [isListening_eq hstarted] at hlistening
    obtain ⟨r, hr⟩ := Option.isSome_iff_exists.mp hlistening
    exact opened_of_running hr
  · intro hidle k c hk hfree startup
    rw [isListening_eq hstarted, Option.isSome_eq_false_iff, Option.isNone_iff_eq_none] at hidle
    exact opened_of_isFree hidle hk hfree startup

/-- Any port of the loopback interface. -/
def loopback : ServerConfig := ⟨Text.of "127.0.0.1", 0, Nat.zero_le _⟩

/-- A manager that is not opened yet, on a network where nothing is bound. -/
def Station.fresh : Station := ⟨{ server := Server.on (.fixed defaultPath) false defaultSubprotocol }, {}⟩

theorem isFree_loopback (n : Network) : n.IsFree loopback.host loopback.port := by
  have haddress : Network.listenAddress loopback.host = .ok (.ipv4 .localhost) :=
    eq_ok_of_toOption (by decide +kernel)
  refine ⟨.ipv4 .localhost, ?_, .inl rfl⟩
  rw [Network.site, haddress]
  rfl

/-- The task comes to its end by itself, somebody closes, and the manager can be opened again. -/
theorem lifecycle_exact_reopened :
    let service : Service Handler := ⟨Calculator.space, []⟩
    let s := Station.fresh.course
      [.command (.openWith (.settings loopback) .succeeds), .command (.register service),
        .command (.taskEnds none), .wait, .command .close]
    s.manager.server = Station.fresh.manager.server.publishAll [service] ∧
      s.manager.isListening = false ∧ (s.manager.close s.network).2.2 = .ok () ∧
      s.outcome (.settings loopback) .succeeds = .ok () ∧
      (s.opened (.settings loopback) .succeeds).manager.isListening = true := by
  intro service s
  obtain ⟨hserver, -, -, -, -, hclosing, -, hopening⟩ :=
    lifecycle_exact Station.fresh.manager.server {}
      [.command (.openWith (.settings loopback) .succeeds), .command (.register service),
        .command (.taskEnds none), .wait, .command .close]
  have htask : s.task? = none := rfl
  have hcrashed : ¬ ∃ message, s.task? = some (.crashed message) := by simp [htask]
  have hidle : s.manager.isListening = false := rfl
  obtain ⟨hopened, -, hlistens, -⟩ :=
    hopening hidle (.settings loopback) loopback rfl (isFree_loopback _) .succeeds
  exact ⟨hserver, hidle, (hclosing (mt (hasCrashed_iff rfl _).mpr hcrashed)).1, hopened rfl,
    hlistens.mpr rfl⟩

/-- A manager need not listen exactly if its task serves, nor can it always be closed or be opened at a free
address.  A task that has ended by itself still counts as open, and one that has crashed cannot be closed. -/
theorem not_always_reopenable :
    let opening : Turn := .command (.openWith (.settings loopback) .succeeds)
    let boom := Text.of "boom"
    (let ts := [opening, .command (.taskEnds none)]
      let s := Station.fresh.course ts
      ¬ Serves .fresh ts ∧ s.manager.isListening = true ∧
        s.network.IsFree loopback.host loopback.port ∧
        s.outcome (.settings loopback) .succeeds = .error (.transport .alreadyOpen)) ∧
    (let ts := [opening, .command (.taskEnds (some boom))]
      let s := Station.fresh.course ts
      ¬ Serves .fresh ts ∧ (s.manager.close s.network).2.2 = .error boom ∧
        (s.manager.close s.network).1.isListening = true) := by
  intro opening boom
  have hidle (ts : List Turn) (h : (Station.fresh.course ts).task? ≠ some .serving) :
      ¬ Serves .fresh ts := mt (serves_iff rfl ts).mpr h
  refine ⟨⟨hidle _ ?_, ?_, isFree_loopback _, ?_⟩, hidle _ ?_, ?_, ?_⟩
  all_goals decide +kernel

end Manager

end JsonRpc
