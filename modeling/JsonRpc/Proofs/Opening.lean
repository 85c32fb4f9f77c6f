/-
Opening that fails.

A manager is opened and closed any number of times, services are published meanwhile, its task may end by
itself, and others use the network too.  Opening can go wrong in several ways, and `Opens` says which way
it goes and what it leaves, once for all that follows.  `failed_open_exact` says of every manager,
whatever was done with it before, when opening fails with which error and that a failure leaves
everything as it was but for one thing: when it is the startup that fails, the port that was bound for it
is still remembered.

What comes later is the same as without the failure: two managers that differ in that port, on networks
where the same is bound, go on to do so (`Station.Resembles`), step by step and thus over any run.  Only the
choice of a port for port 0 depends on more, namely on those that were given out before.
-/
import JsonRpc.Manager
import JsonRpc.Proofs.Chain

namespace JsonRpc

/-! ## The network -/

namespace Network

/-- The same is bound, and there is a route in both or in neither. -/
structure Alike (n n' : Network) : Prop where
  bound : n'.bound = n.bound
  routed : n'.routed = n.routed

/-- The interface to listen on for a host. -/
def site (n : Network) (host : Text) : Except BindError Interface := do
  let address ← listenAddress host
  (n.interface address).mapError .network

/-- Binds a port at an interface. -/
def occupy (n : Network) (interface : Interface) (port : Nat) : Except BindError (Network × Binding) :=
  if port = 0 then
    .ok ({ n with bound := ⟨interface, n.freePort⟩ :: n.bound, given := n.freePort :: n.given },
      ⟨interface, n.freePort⟩)
  else if n.bound.any (Binding.conflicts ⟨interface, port⟩) then .error (.network .addressInUse)
  else .ok ({ n with bound := ⟨interface, port⟩ :: n.bound }, ⟨interface, port⟩)

variable {n n' : Network} {host : Text} {port : Nat}

theorem bind_eq (n : Network) (host : Text) (port : Nat) :
    n.bind host port = n.site host >>= fun interface => n.occupy interface port := by
  rw [bind, site, bind_assoc]
  rfl

/-- What is bound is added to what was bound before, and is all that is taken away when it is given up. -/
theorem alike_release {m : Network} {b : Binding} (h : n.bind host port = .ok (m, b)) :
    n.Alike (m.release b) := by
  rw [bind_eq] at h
  obtain ⟨interface, -, h⟩ := bind_eq_ok_iff.mp h
  have hm : m.bound = b :: n.bound ∧ m.routed = n.routed := by
    rw [occupy] at h
    split at h
    · obtain ⟨rfl, rfl⟩ := Prod.mk.inj (Except.ok.inj h)
      exact ⟨rfl, rfl⟩
    · split at h
      · exact absurd h (by simp)
      · obtain ⟨rfl, rfl⟩ := Prod.mk.inj (Except.ok.inj h)
        exact ⟨rfl, rfl⟩
  refine ⟨?_, hm.2⟩
  rw [release, hm.1]
  exact List.erase_cons_head ..

theorem Alike.ipv4Interface (h : n.Alike n') (a : Ipv4) : n'.ipv4Interface a = n.ipv4Interface a := by
  rw [Network.ipv4Interface, Network.ipv4Interface, h.routed]

theorem Alike.interface (h : n.Alike n') (a : IpAddress) : n'.interface a = n.interface a := by
  cases a with
  | ipv4 a => exact h.ipv4Interface a
  | ipv6 a interface => simp only [Network.interface, h.ipv4Interface, h.routed]

theorem Alike.site (h : n.Alike n') (host : Text) : n'.site host = n.site host := by
  simp only [Network.site, h.interface]

theorem Alike.release (h : n.Alike n') (b : Binding) : (n.release b).Alike (n'.release b) :=
  ⟨congrArg (·.erase b) h.bound, h.routed⟩

/-- A port that is named is bound in both networks or in neither, and so is some port for port 0. -/
theorem Alike.occupy (h : n.Alike n') (interface : Interface) (port : Nat) :
    (∃ e, n.occupy interface port = .error e ∧ n'.occupy interface port = .error e) ∨
      ∃ m m' b b', n.occupy interface port = .ok (m, b) ∧ n'.occupy interface port = .ok (m', b') ∧
        (port ≠ 0 → b' = b ∧ m.Alike m') := by
  by_cases hport : port = 0
  · refine .inr ?_
    simp only [Network.occupy, if_pos hport]
    exact ⟨_, _, _, _, rfl, rfl, fun hne => absurd hport hne⟩
  · simp only [Network.occupy, if_neg hport, h.bound]
    split
    · exact .inl ⟨_, rfl, rfl⟩
    · exact .inr ⟨_, _, _, _, rfl, rfl, fun _ => ⟨rfl, rfl, h.routed⟩⟩

theorem Alike.bind (h : n.Alike n') (host : Text) (port : Nat) :
    (∃ e, n.bind host port = .error e ∧ n'.bind host port = .error e) ∨
      ∃ m m' b b', n.bind host port = .ok (m, b) ∧ n'.bind host port = .ok (m', b') ∧
        (port ≠ 0 → b' = b ∧ m.Alike m') := by
  simp only [bind_eq, h.site]
  cases n.site host with
  | error e => exact .inl ⟨e, rfl, rfl⟩
  | ok interface => exact h.occupy interface port

end Network

/-! ## Ways to open -/

/-- The port that was bound when opening failed. -/
def OpenError.port? : OpenError → Option Nat
  | .transport (.startupFailed _ port _) => some port
  | _ => none

namespace Manager

/-- What a manager is told where to listen by. -/
inductive Configuration where
  | settings (c : ServerConfig)
  | document (v : Json)

/-- The settings that are meant, or what is wrong with their document. -/
def Configuration.read : Configuration → Except (List Problem) ServerConfig
  | settings c => .ok c
  | document v => ServerConfig.check v

/-- A certain port is meant. -/
def Configuration.NamesPort (k : Configuration) : Prop := ∀ c, k.read = .ok c → c.port ≠ 0

/-- Opens what a configuration says. -/
def openWith (m : Manager) (n : Network) (k : Configuration) (startup : Startup) :
    Manager × Network × Except OpenError Unit :=
  match k with
  | .settings c => m.listen n c startup
  | .document v => m.listenFrom n v startup

/-- What opening makes of a manager and the network, and what it comes to. -/
inductive Opens (m : Manager) (n : Network) (k : Configuration) :
    Startup → Manager → Network → Except OpenError Unit → Prop
  | alreadyOpen {r : Running} {startup : Startup} : m.running = some r →
      Opens m n k startup m n (.error (.transport .alreadyOpen))
  | malformed {ps : List Problem} {startup : Startup} : m.running = none → k.read = .error ps →
      Opens m n k startup m n (.error (.problems ps))
  | noHost {c : ServerConfig} {e : HostError} {startup : Startup} : m.running = none → k.read = .ok c →
      n.bind c.host c.port = .error (.host e) → Opens m n k startup m n (.error (.host e))
  | unbound {c : ServerConfig} {cause : NetworkError} {startup : Startup} : m.running = none →
      k.read = .ok c → n.bind c.host c.port = .error (.network cause) →
      Opens m n k startup m n (.error (.transport (.cannotListen c.host c.port cause)))
  | unstarted {c : ServerConfig} {n' : Network} {b : Binding} {cause : Text} : m.running = none →
      k.read = .ok c → n.bind c.host c.port = .ok (n', b) →
      Opens m n k (.fails cause) { m with port := some b.port } (n'.release b)
        (.error (.transport (.startupFailed c.host b.port cause)))
  | opened {c : ServerConfig} {n' : Network} {b : Binding} : m.running = none →
      k.read = .ok c → n.bind c.host c.port = .ok (n', b) →
      Opens m n k .succeeds { m with running := some ⟨.serving, b, true⟩, port := some b.port } n'
        (.ok ())

variable {m : Manager} {n : Network} {k : Configuration} {startup : Startup}

theorem openWith_of_running {r : Running} (h : m.running = some r) :
    m.openWith n k startup = (m, n, .error (.transport .alreadyOpen)) := by
  cases k <;> simp only [openWith, listen, listenFrom, h]

theorem openWith_of_malformed (h : m.running = none) {ps : List Problem} (hk : k.read = .error ps) :
    m.openWith n k startup = (m, n, .error (.problems ps)) := by
  cases k with
  | settings c => exact absurd hk (by simp [Configuration.read])
  | document v =>
      have hv : ServerConfig.check v = .error ps := hk
      simp only [openWith, listenFrom, h, hv]

theorem openWith_of_read (h : m.running = none) {c : ServerConfig} (hk : k.read = .ok c) :
    m.openWith n k startup = m.start n c startup := by
  cases k with
  | settings c' =>
      obtain rfl : c' = c := Except.ok.inj hk
      simp only [openWith, listen, h]
  | document v =>
      have hv : ServerConfig.check v = .ok c := hk
      simp only [openWith, listenFrom, h, hv]

theorem opens (m : Manager) (n : Network) (k : Configuration) (startup : Startup) :
    Opens m n k startup (m.openWith n k startup).1 (m.openWith n k startup).2.1
      (m.openWith n k startup).2.2 := by
  cases hrunning : m.running with
  | some r =>
      rw [openWith_of_running hrunning]
      exact .alreadyOpen hrunning
  | none =>
      cases hk : k.read with
      | error ps =>
          rw [openWith_of_malformed hrunning hk]
          exact .malformed hrunning hk
      | ok c =>
          rw [openWith_of_read hrunning hk, start]
          rcases hbind : n.bind c.host c.port with (e | cause) | ⟨n', b⟩
          · exact .noHost hrunning hk hbind
          · exact .unbound hrunning hk hbind
          · cases startup with
            | succeeds => exact .opened hrunning hk hbind
            | fails cause => exact .unstarted hrunning hk hbind

/-! ## Histories -/

/-- A manager, and the network that it is on. -/
structure Station where
  manager : Manager
  network : Network

/-- What opening makes of both. -/
def Station.opened (s : Station) (k : Configuration) (startup : Startup) : Station :=
  ⟨(s.manager.openWith s.network k startup).1, (s.manager.openWith s.network k startup).2.1⟩

/-- What opening comes to. -/
def Station.outcome (s : Station) (k : Configuration) (startup : Startup) : Except OpenError Unit :=
  (s.manager.openWith s.network k startup).2.2

/-- What is done with a manager, or happens around it. -/
inductive Command where
  | openWith (k : Configuration) (startup : Startup)
  | close
  | register (service : Service Handler)
  /-- The task ends, cleanly or not. -/
  | taskEnds (crash : Option Text)
  /-- Others bind addresses and give them up. -/
  | elsewhere (n : Network)

/-- Whoever opens names the port. -/
def Command.NamesPort : Command → Prop
  | openWith k _ => k.NamesPort
  | close | register _ | taskEnds _ | elsewhere _ => True

def Command.after (s : Station) : Command → Station
  | openWith k startup => s.opened k startup
  | close => ⟨(s.manager.close s.network).1, (s.manager.close s.network).2.1⟩
  | register service => ⟨(s.manager.publish service).1, s.network⟩
  | taskEnds crash => ⟨(s.manager.taskEnds s.network crash).1, (s.manager.taskEnds s.network crash).2⟩
  | elsewhere n => ⟨s.manager, n⟩

def Station.after (s : Station) (cs : List Command) : Station := cs.foldl Command.after s

/-- Only a task that got to serve is kept. -/
def HasStarted (m : Manager) : Prop := ∀ r, m.running = some r → r.started = true

theorem hasStarted_of_none (h : m.running = none) : m.HasStarted :=
  fun _ hr => absurd (h.symm.trans hr) (by simp)

theorem Opens.hasStarted {m' : Manager} {n' : Network} {r : Except OpenError Unit}
    (hopens : Opens m n k startup m' n' r) (h : m.HasStarted) : m'.HasStarted := by
  cases hopens with
  | alreadyOpen | malformed | noHost | unbound => exact h
  | unstarted hrunning => exact hasStarted_of_none hrunning
  | opened =>
      rintro r ⟨⟩
      rfl

theorem hasStarted_close (h : m.HasStarted) : (m.close n).1.HasStarted := by
  rw [close]
  split
  · exact h
  · split
    · exact h
    · exact hasStarted_of_none rfl
    · exact hasStarted_of_none rfl

theorem hasStarted_taskEnds (h : m.HasStarted) (crash : Option Text) :
    (m.taskEnds n crash).1.HasStarted := by
  rw [taskEnds]
  split
  · rename_i r hr
    split
    · rintro _ ⟨⟩
      exact h r hr
    · exact h
  · exact h

theorem hasStarted_after {s : Station} (h : s.manager.HasStarted) (c : Command) :
    (c.after s).manager.HasStarted := by
  cases c with
  | openWith k startup => exact (opens ..).hasStarted h
  | close => exact hasStarted_close h
  | register service => exact h
  | taskEnds crash => exact hasStarted_taskEnds h crash
  | elsewhere n => exact h

theorem hasStarted_run {s : Station} (h : s.manager.HasStarted) (cs : List Command) :
    (s.after cs).manager.HasStarted := by
  induction cs generalizing s with
  | nil => exact h
  | cons c cs ih => exact ih (hasStarted_after h c)

/-- So a manager listens if there is a task. -/
theorem isListening_eq (h : m.HasStarted) : m.isListening = m.running.isSome := by
  rw [isListening]
  split
  · rename_i hr
    rw [hr]
    rfl
  · rename_i r hr
    rw [hr, h r hr]
    rfl

/-! ## After a failure -/

/-- What fails leaves everything as it was, except that the port is remembered if one was bound. -/
theorem Opens.eq_of_error {m' : Manager} {n' : Network} {e : OpenError}
    (h : Opens m n k startup m' n' (.error e)) :
    m' = { m with port := e.port?.or m.port } ∧ n.Alike n' := by
  cases h with
  | alreadyOpen | malformed | noHost | unbound => exact ⟨rfl, rfl, rfl⟩
  | unstarted _ _ hbind => exact ⟨rfl, Network.alike_release hbind⟩

/-- Two managers that may remember different ports, on networks that are alike. -/
structure Station.Resembles (s t : Station) : Prop where
  manager : ∃ port, t.manager = { s.manager with port := port }
  network : s.network.Alike t.network

section

variable {s t : Station}

/-- What resembles is opened with the same success, and stays so if the port is named. -/
theorem Station.Resembles.opened (h : s.Resembles t) (k : Configuration) (startup : Startup) :
    (t.outcome k startup = .ok () ↔ s.outcome k startup = .ok ()) ∧
      (k.NamesPort → (s.opened k startup).Resembles (t.opened k startup)) ∧
      (k.NamesPort → t.outcome k startup = .ok () →
        (t.opened k startup).manager = (s.opened k startup).manager) := by
  obtain ⟨⟨port, hm⟩, hn⟩ := h
  have hrunning : t.manager.running = s.manager.running := by rw [hm]
  rw [Station.outcome, Station.outcome, Station.opened, Station.opened]
  cases hs : s.manager.running with
  | some r =>
      rw [openWith_of_running hs, openWith_of_running (hrunning.trans hs)]
      exact ⟨Iff.rfl, fun _ => ⟨⟨port, hm⟩, hn⟩, fun _ h => absurd h (by simp)⟩
  | none =>
      cases hk : k.read with
      | error ps =>
          rw [openWith_of_malformed hs hk, openWith_of_malformed (hrunning.trans hs) hk]
          exact ⟨Iff.rfl, fun _ => ⟨⟨port, hm⟩, hn⟩, fun _ h => absurd h (by simp)⟩
      | ok c =>
          rw [openWith_of_read hs hk, openWith_of_read (hrunning.trans hs) hk, start, start]
          rcases hn.bind c.host c.port with ⟨e, he, he'⟩ | ⟨n₁, n₂, b, b', hb, hb', hnamed⟩
          · rw [he, he']
            cases e <;> exact ⟨Iff.rfl, fun _ => ⟨⟨port, hm⟩, hn⟩, fun _ h => absurd h (by simp)⟩
          · rw [hb, hb', hm]
            cases startup with
            | fails cause =>
                refine ⟨iff_of_false (by simp) (by simp), fun hport => ?_, fun _ h => absurd h (by simp)⟩
                obtain ⟨rfl, halike⟩ := hnamed (hport c hk)
                exact ⟨⟨_, rfl⟩, halike.release _⟩
            | succeeds =>
                refine ⟨Iff.rfl, fun hport => ?_, fun hport _ => ?_⟩
                · obtain ⟨rfl, halike⟩ := hnamed (hport c hk)
                  exact ⟨⟨_, rfl⟩, halike⟩
                · obtain ⟨rfl, -⟩ := hnamed (hport c hk)
                  rfl

theorem Station.Resembles.close (h : s.Resembles t) :
    (Command.close.after s).Resembles (Command.close.after t) := by
  obtain ⟨⟨server, running, _⟩, n⟩ := s
  obtain ⟨_, n'⟩ := t
  obtain ⟨⟨port, rfl⟩, hn⟩ := h
  rcases running with _ | ⟨_ | _ | message, binding, started⟩
  · exact ⟨⟨port, rfl⟩, hn⟩
  · exact ⟨⟨port, rfl⟩, hn.release binding⟩
  · exact ⟨⟨port, rfl⟩, hn⟩
  · exact ⟨⟨port, rfl⟩, hn⟩

theorem Station.Resembles.taskEnds (h : s.Resembles t) (crash : Option Text) :
    ((Command.taskEnds crash).after s).Resembles ((Command.taskEnds crash).after t) := by
  obtain ⟨⟨server, running, _⟩, n⟩ := s
  obtain ⟨_, n'⟩ := t
  obtain ⟨⟨port, rfl⟩, hn⟩ := h
  rcases running with _ | ⟨_ | _ | message, binding, started⟩
  · exact ⟨⟨port, rfl⟩, hn⟩
  · exact ⟨⟨port, rfl⟩, hn.release binding⟩
  · exact ⟨⟨port, rfl⟩, hn⟩
  · exact ⟨⟨port, rfl⟩, hn⟩

/-- What resembles goes on to do so, as long as ports are named. -/
theorem Station.Resembles.step (h : s.Resembles t) {c : Command} (hc : c.NamesPort) :
    (c.after s).Resembles (c.after t) := by
  cases c with
  | openWith k startup => exact (h.opened k startup).2.1 hc
  | close => exact h.close
  | register service =>
      obtain ⟨⟨port, hm⟩, hn⟩ := h
      refine ⟨⟨port, ?_⟩, hn⟩
      rw [Command.after, Command.after, hm]
      rfl
  | taskEnds crash => exact h.taskEnds crash
  | elsewhere n => exact ⟨h.manager, rfl, rfl⟩

theorem Station.Resembles.run (h : s.Resembles t) {cs : List Command} (hcs : ∀ c ∈ cs, c.NamesPort) :
    (s.after cs).Resembles (t.after cs) := by
  induction cs generalizing s t with
  | nil => exact h
  | cons c cs ih =>
      obtain ⟨hc, hcs⟩ := List.forall_mem_cons.mp hcs
      exact ih (h.step hc) hcs

end

theorem start_of_bound {c : ServerConfig} {n' : Network} {b : Binding}
    (h : n.bind c.host c.port = .ok (n', b)) :
    (m.start n c .succeeds).2.2 = .ok () ∧
      ∀ cause, (m.start n c (.fails cause)).2.2 =
        .error (.transport (.startupFailed c.host b.port cause)) := by
  simp only [start, h, implies_true, and_self]

theorem start_of_noHost {c : ServerConfig} {e : HostError}
    (h : n.bind c.host c.port = .error (.host e)) : (m.start n c startup).2.2 = .error (.host e) := by
  simp only [start, h]

theorem start_of_unbound {c : ServerConfig} {cause : NetworkError}
    (h : n.bind c.host c.port = .error (.network cause)) :
    (m.start n c startup).2.2 = .error (.transport (.cannotListen c.host c.port cause)) := by
  simp only [start, h]

/-- Let anything be done with a manager, and then let it be opened.  That fails if it listens already, if
the settings are malformed, if no address is bound for them, or if the startup fails, and in that order.
The manager and the network are left as they were, with one exception: the port that was bound for a
startup that failed is remembered from then on.  Opening again, at once or after other things, goes as well
or as badly as it would have gone without the failure, and leaves the manager the same if ports are named. -/
theorem failed_open_exact (server : Server) (network : Network) (commands : List Command)
    (k : Configuration) (startup : Startup) :
    let s := (Station.mk { server := server } network).after commands
    let result := s.outcome k startup
    let t := s.opened k startup
    (s.manager.isListening = true → result = .error (.transport .alreadyOpen)) ∧
    (s.manager.isListening = false →
      (∀ ps, k.read = .error ps → result = .error (.problems ps)) ∧
      ∀ c, k.read = .ok c →
        (∀ e, s.network.bind c.host c.port = .error (.host e) → result = .error (.host e)) ∧
        (∀ cause, s.network.bind c.host c.port = .error (.network cause) →
          result = .error (.transport (.cannotListen c.host c.port cause))) ∧
        ∀ n b, s.network.bind c.host c.port = .ok (n, b) →
          (∀ cause, startup = .fails cause →
            result = .error (.transport (.startupFailed c.host b.port cause))) ∧
          (startup = .succeeds → result = .ok ())) ∧
    ∀ e, result = .error e →
      t.manager = { s.manager with port := e.port?.or s.manager.port } ∧
      s.network.Alike t.network ∧
      ∀ later : List Command, (∀ c ∈ later, c.NamesPort) → ∀ k' startup',
        let s' := s.after later
        let t' := t.after later
        (t'.outcome k' startup' = .ok () ↔ s'.outcome k' startup' = .ok ()) ∧
          (k'.NamesPort → t'.outcome k' startup' = .ok () →
            (t'.opened k' startup').manager = (s'.opened k' startup').manager) := by
  intro s result t
  have hstarted : s.manager.HasStarted := hasStarted_run (hasStarted_of_none rfl) commands
  rw [isListening_eq hstarted]
  refine ⟨fun hlistening => ?_, fun hidle => ?_, fun e he => ?_⟩
  · obtain ⟨r, hr⟩ := Option.isSome_iff_exists.mp hlistening
    exact congrArg (·.2.2) (openWith_of_running hr)
  · have hnone : s.manager.running = none :=
      Option.isNone_iff_eq_none.mp (Option.isSome_eq_false_iff.mp hidle)
    refine ⟨fun ps hk => congrArg (·.2.2) (openWith_of_malformed hnone hk), fun c hk => ?_⟩
    have hresult : result = (s.manager.start s.network c startup).2.2 :=
      congrArg (·.2.2) (openWith_of_read hnone hk)
    rw [hresult]
    refine ⟨fun e he => start_of_noHost he, fun cause hcause => start_of_unbound hcause, ?_⟩
    intro n b hb
    constructor
    · rintro cause rfl
      exact (start_of_bound hb).2 cause
    · rintro rfl
      exact (start_of_bound hb).1
  · have hopens : Opens s.manager s.network k startup t.manager t.network (.error e) :=
      he ▸ opens s.manager s.network k startup
    obtain ⟨hmanager, hnetwork⟩ := hopens.eq_of_error
    refine ⟨hmanager, hnetwork, ?_⟩
    intro later hlater k' startup' s' t'
    have hresembles : s.Resembles t := ⟨⟨_, hmanager⟩, hnetwork⟩
    obtain ⟨hsuccess, -, hsame⟩ := (hresembles.run hlater).opened k' startup'
    exact ⟨hsuccess, hsame⟩

end Manager

end JsonRpc
