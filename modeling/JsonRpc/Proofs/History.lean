/-
Histories of a dispatcher.

A history is what was done with a dispatcher and the services made beside it, and what each of these
actions came to.  Read from its latest event back, it tells which service was last published under a
namespace (`lastPublished`) and which method was last registered under a name on a service
(`lastRegistered`), whatever happened in between and to whom else.

The invariant is that the tables of the catalog say the same (`History.Agrees`).  Every action keeps
it, so it holds after all of them, and resolving a name is reading the history.
-/
import JsonRpc.Dispatcher
import JsonRpc.Proofs.Catalog
import JsonRpc.Proofs.Text.Digits

namespace JsonRpc

variable {H : Type}

/-- What can be done with a dispatcher and with services. Services go by number, in the order in which
they were made. -/
inductive Action (H : Type) where
  | create (space : Text)
  | register (number : Nat) (name : Text) (m : Method H)
  | publish (number : Nat)
  | message (m : Message)
  | request (r : Request)

/-- What an action comes to. -/
inductive Effect where
  /-- A service was made and has this number. -/
  | made (number : Nat)
  | done (log : Log)
  /-- The name is not one. -/
  | invalid (e : NameError)
  /-- The method was stored, but its arity is too long to be told. -/
  | untold (log : Log) (e : LongNumber)
  /-- There is no service of this number. -/
  | absent
  | replied (a : Except Abort Answer)

structure History.Event (H : Type) where
  action : Action H
  effect : Effect

structure History (H : Type) where
  dispatcher : Dispatcher H
  /-- The latest event comes first. -/
  events : List (History.Event H)

abbrev History.catalog (h : History H) : Catalog H := h.dispatcher.catalog

/-- A method that is registered has an arity that can be told. -/
def Action.HasShortArity : Action H → Prop
  | .register _ _ m => (digits m.arity.natAbs).length ≤ digitLimit
  | _ => True

/-! ## Acting -/

section Acting

variable (invoke : H → List Json → Outcome)

/-- The dispatcher after an action, and what the action comes to. -/
def Dispatcher.act (d : Dispatcher H) : Action H → Dispatcher H × Effect
  | .create space =>
    match Service.create space with
    | .error e => (d, .invalid e)
    | .ok s =>
      let (c, number) := d.catalog.add s
      ({ d with catalog := c }, .made number)
  | .register number name m =>
    match d.catalog.services[number]? with
    | none => (d, .absent)
    | some _ =>
      match d.catalog.register number name m with
      | .error e => (d, .invalid e)
      | .ok r => ({ d with catalog := r.holder }, match r.fault with
        | none => .done r.log
        | some e => .untold r.log e)
  | .publish number =>
    match d.catalog.services[number]? with
    | none => (d, .absent)
    | some _ =>
      let (c, log) := d.catalog.publish number
      ({ d with catalog := c }, .done log)
  | .message m => (d, .replied (d.answerMessage invoke m))
  | .request r => (d, .replied (d.answer invoke r))

/-- What an action can come to. -/
inductive Acted (d : Dispatcher H) : Action H → Dispatcher H × Effect → Prop
  | misnamed {space : Text} : Namespace.ofText? space = none →
      Acted d (.create space) (d, .invalid (.space space))
  | created {space : Text} {n : Namespace} : Namespace.ofText? space = some n →
      Acted d (.create space)
        ({ d with catalog := (d.catalog.add ⟨n, []⟩).1 }, .made (d.catalog.add ⟨n, []⟩).2)
  | unregistered {number : Nat} {name : Text} {m : Method H} :
      d.catalog.services[number]? = none → Acted d (.register number name m) (d, .absent)
  | refused {number : Nat} {name : Text} {m : Method H} {e : NameError} :
      d.catalog.register number name m = .error e →
      Acted d (.register number name m) (d, .invalid e)
  | registered {number : Nat} {name : Text} {m : Method H} {s : Service H}
      {r : Registration (Catalog H)} : d.catalog.services[number]? = some s →
      d.catalog.register number name m = .ok r → r.fault = none →
      Acted d (.register number name m) ({ d with catalog := r.holder }, .done r.log)
  | untold {number : Nat} {name : Text} {m : Method H} {s : Service H}
      {r : Registration (Catalog H)} {e : LongNumber} : d.catalog.services[number]? = some s →
      d.catalog.register number name m = .ok r → r.fault = some e →
      Acted d (.register number name m) ({ d with catalog := r.holder }, .untold r.log e)
  | unpublished {number : Nat} :
      d.catalog.services[number]? = none → Acted d (.publish number) (d, .absent)
  | published {number : Nat} {s : Service H} : d.catalog.services[number]? = some s →
      Acted d (.publish number)
        ({ d with catalog := (d.catalog.publish number).1 }, .done (d.catalog.publish number).2)
  | message (m : Message) : Acted d (.message m) (d, .replied (d.answerMessage invoke m))
  | request (r : Request) : Acted d (.request r) (d, .replied (d.answer invoke r))

theorem acted (d : Dispatcher H) (a : Action H) : Acted invoke d a (d.act invoke a) := by
  cases a with
  | create space =>
      rw [Dispatcher.act, Service.create]
      cases hn : Namespace.ofText? space with
      | none => exact .misnamed hn
      | some n => exact .created hn
  | register number name m =>
      rw [Dispatcher.act]
      cases hs : d.catalog.services[number]? with
      | none => exact .unregistered hs
      | some s =>
          cases hr : d.catalog.register number name m with
          | error e => exact .refused hr
          | ok r =>
              cases hfault : r.fault with
              | none => simpa only [hfault] using Acted.registered hs hr hfault
              | some e => simpa only [hfault] using Acted.untold hs hr hfault
  | publish number =>
      rw [Dispatcher.act]
      cases hs : d.catalog.services[number]? with
      | none => exact .unpublished hs
      | some s => exact .published hs
  | message m => exact .message m
  | request r => exact .request r

namespace History

/-- One more action. -/
def extend (h : History H) (a : Action H) : History H :=
  let (d, effect) := h.dispatcher.act invoke a
  ⟨d, ⟨a, effect⟩ :: h.events⟩

/-- The history of a new dispatcher with these actions, the first one first. -/
def ofActions (strictArity : Bool) (as : List (Action H)) : History H :=
  as.foldl (extend invoke) ⟨{ strictArity := strictArity }, []⟩

end History

end Acting

namespace History

/-! ## Reading a history -/

/-- The numbers and the namespaces of the services made. -/
def made : List (Event H) → List (Nat × Text)
  | [] => []
  | ⟨.create space, .made number⟩ :: es => (number, space) :: made es
  | _ :: es => made es

/-- The service published last among those of a namespace. -/
def lastPublished (space : Text) : List (Event H) → Option Nat
  | [] => none
  | ⟨.publish number, .done _⟩ :: es =>
    if (number, space) ∈ made es then some number else lastPublished space es
  | _ :: es => lastPublished space es

/-- The method registered last under a name on a service. -/
def lastRegistered (number : Nat) (name : Text) : List (Event H) → Option (Method H)
  | [] => none
  | ⟨.register number' name' m, .done _⟩ :: es =>
    if number' = number ∧ name' = name then some m else lastRegistered number name es
  | _ :: es => lastRegistered number name es

/-! ## The invariant -/

/-- The tables of the catalog say what the history says. -/
structure Agrees (h : History H) : Prop where
  made : ∀ k space, (k, space) ∈ made h.events ↔ h.catalog.spaceOf k = some space
  published : ∀ space, h.catalog.numberOf space = lastPublished space h.events
  registered : ∀ k name, h.catalog.methodOf k name = lastRegistered k name h.events

variable {invoke : H → List Json → Outcome} {h : History H}

theorem agrees_new (strictArity : Bool) :
    (⟨{ strictArity := strictArity }, []⟩ : History H).Agrees where
  made := by
    intro k space
    exact iff_of_false List.not_mem_nil (by simp [Catalog.spaceOf])
  published := fun _ => rfl
  registered := fun _ _ => rfl

/-- Every action keeps the tables and the history in agreement. -/
theorem Agrees.extend (ha : h.Agrees) {a : Action H} (hshort : a.HasShortArity) :
    (h.extend invoke a).Agrees := by
  show (⟨(h.dispatcher.act invoke a).1, ⟨a, (h.dispatcher.act invoke a).2⟩ :: h.events⟩ :
    History H).Agrees
  have hacted := acted invoke h.dispatcher a
  generalize h.dispatcher.act invoke a = after at hacted
  cases hacted with
  | misnamed _ => exact ⟨ha.made, ha.published, ha.registered⟩
  | @created space n hn =>
      refine ⟨?_, ha.published, ?_⟩
      · intro k space'
        show (k, space') ∈ ((h.catalog.add ⟨n, []⟩).2, space) :: History.made h.events ↔
          (h.catalog.add ⟨n, []⟩).1.spaceOf k = some space'
        rw [List.mem_cons, Prod.mk.injEq, ha.made, Catalog.spaceOf_add_eq_some_iff,
          Namespace.text_of_ofText? hn]
      · intro k name
        exact (h.catalog.methodOf_add n k name).trans (ha.registered k name)
  | unregistered _ => exact ⟨ha.made, ha.published, ha.registered⟩
  | refused _ => exact ⟨ha.made, ha.published, ha.registered⟩
  | @registered number name m s r hs hr _ =>
      refine ⟨?_, ?_, ?_⟩
      · intro k space
        exact (ha.made k space).trans (by rw [Catalog.spaceOf_register hs hr])
      · intro space
        exact (Catalog.numberOf_register hs hr space).trans (ha.published space)
      · intro k t
        show r.holder.methodOf k t =
          if number = k ∧ name = t then some m else lastRegistered k t h.events
        rw [Catalog.methodOf_register hs hr, ha.registered]
  | untold hs hr hfault =>
      -- the arity is short
      obtain ⟨_, -, -, hnone⟩ := Catalog.register_eq_ok hs hr
      exact absurd (hfault.symm.trans (hnone.mpr hshort)) (by simp)
  | unpublished _ => exact ⟨ha.made, ha.published, ha.registered⟩
  | @published number s hs =>
      have hservices := h.catalog.services_publish number
      refine ⟨?_, ?_, ?_⟩
      · intro k space
        show _ ↔ (h.catalog.publish number).1.spaceOf k = some space
        rw [Catalog.spaceOf, hservices]
        exact ha.made k space
      · intro space
        show (h.catalog.publish number).1.numberOf space =
          if (number, space) ∈ History.made h.events then some number
          else lastPublished space h.events
        rw [Catalog.numberOf_publish hs, ha.published]
        exact ite_cond_congr (propext (ha.made number space).symm)
      · intro k name
        show (h.catalog.publish number).1.methodOf k name = _
        rw [Catalog.methodOf, hservices]
        exact ha.registered k name
  | message _ => exact ⟨ha.made, ha.published, ha.registered⟩
  | request _ => exact ⟨ha.made, ha.published, ha.registered⟩

theorem Agrees.foldl (ha : h.Agrees) {as : List (Action H)} (hshort : ∀ a ∈ as, a.HasShortArity) :
    (as.foldl (History.extend invoke) h).Agrees := by
  induction as generalizing h with
  | nil => exact ha
  | cons a as ih =>
      rw [List.forall_mem_cons] at hshort
      exact ih (ha.extend hshort.1) hshort.2

theorem agrees_ofActions (invoke : H → List Json → Outcome) (strictArity : Bool)
    {as : List (Action H)} (hshort : ∀ a ∈ as, a.HasShortArity) :
    (ofActions invoke strictArity as).Agrees :=
  (agrees_new strictArity).foldl hshort

/-! ## Resolving after a history -/

open QualifiedName

/-- Neither a name that is not one nor a dispatched message changes anything. -/
theorem act_unchanged {d d' : Dispatcher H} {a : Action H} {effect : Effect}
    (h : d.act invoke a = (d', effect))
    (ha : (∃ e, effect = .invalid e) ∨ (∃ m, a = .message m) ∨ ∃ r, a = .request r) : d' = d := by
  have hacted := acted invoke d a
  rw [h] at hacted
  cases hacted with
  | misnamed _ | unregistered _ | refused _ | unpublished _ | message _ | request _ => rfl
  | created _ | registered _ _ _ | untold _ _ _ | published _ => simp at ha

/-- After any actions, a name stands for the method registered last under it on the service published
last under its namespace, and for none if there is no such method. -/
theorem resolve_ofActions (invoke : H → List Json → Outcome) (strictArity : Bool)
    {as : List (Action H)} (hshort : ∀ a ∈ as, a.HasShortArity) (space name : Text)
    {version : List (Fin 10)} (hne : version ≠ []) (hlimit : version.length ≤ digitLimit) :
    let h := ofActions invoke strictArity as
    let method := joinParts space version name
    (∀ m, h.catalog.resolve method = .ok m ↔
      ∃ k, lastPublished space h.events = some k ∧ lastRegistered k name h.events = some m) ∧
    ((∀ m, h.catalog.resolve method ≠ .ok m) →
      h.catalog.resolve method = .error (.notFound method)) ∧
    ∀ a d effect, h.dispatcher.act invoke a = (d, effect) →
      (∃ e, effect = .invalid e) ∨ (∃ m, a = .message m) ∨ (∃ r, a = .request r) →
        d = h.dispatcher := by
  intro h method
  have ha : h.Agrees := agrees_ofActions invoke strictArity hshort
  have hresolve := h.catalog.resolve_joinParts space name hne hlimit
  refine ⟨?_, ?_, fun a d effect => act_unchanged⟩
  · intro m
    rw [← ha.published]
    simp only [← ha.registered]
    rw [hresolve, ← Option.bind_eq_some_iff]
    cases (h.catalog.numberOf space).bind fun k => h.catalog.methodOf k name with
    | none => exact iff_of_false (by simp) (by simp)
    | some m' => rw [Except.ok.injEq, Option.some.injEq]
  · intro hnone
    cases hfound : (h.catalog.numberOf space).bind fun k => h.catalog.methodOf k name with
    | none =>
        rw [hfound] at hresolve
        exact hresolve
    | some m =>
        rw [hfound] at hresolve
        exact absurd hresolve (hnone m)

/-- A service takes the place of another one of its namespace and is given a method after that, and
so is the hidden one. -/
def replacement : List (Action Nat) :=
  [.create (Text.of "a"), .register 0 (Text.of "f") ⟨1, 0, false⟩, .publish 0,
    .create (Text.of "a"), .publish 1, .register 1 (Text.of "f") ⟨2, 1, false⟩,
    .register 0 (Text.of "f") ⟨3, 2, false⟩, .register 1 (Text.of "2f") ⟨4, 3, false⟩,
    .message (.text (Text.of "null"))]

theorem resolve_replacement :
    (∀ a ∈ replacement, a.HasShortArity) ∧
      (ofActions (fun _ _ => .value .null) false replacement).catalog.resolve
        (joinParts (Text.of "a") [0, 7] (Text.of "f")) = .ok ⟨2, 1, false⟩ := by
  have hdigit {n : Nat} (hn : n < 10) : (digits n).length ≤ digitLimit := by
    rw [digits_of_lt hn]
    show 1 ≤ 4300
    decide
  have hshort : ∀ a ∈ replacement, a.HasShortArity := by
    intro a ha
    simp only [replacement, List.mem_cons, List.not_mem_nil, or_false] at ha
    rcases ha with rfl | rfl | rfl | rfl | rfl | rfl | rfl | rfl | rfl
    all_goals first | trivial | exact hdigit (by decide)
  have hne : ([0, 7] : List (Fin 10)) ≠ [] := by simp
  have hlimit : ([0, 7] : List (Fin 10)).length ≤ digitLimit := by decide
  refine ⟨hshort, ?_⟩
  exact ((resolve_ofActions (fun _ _ => .value .null) false hshort (Text.of "a") (Text.of "f")
    hne hlimit).1 ⟨2, 1, false⟩).mpr ⟨1, by decide +kernel, by decide +kernel⟩

end History

end JsonRpc
