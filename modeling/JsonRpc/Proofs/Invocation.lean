/-
Which handler a request runs, and what its reply reports.

A request for a method that cannot be had is refused, and so is one with another number of parameters
than a strict dispatcher wants; no handler is run for either.  Any other request runs the handler of its
method once, on its parameters.  All this is said of handlers with effects of any kind
(`Dispatcher.RefusesAtOnce`, `Dispatcher.RunsOnce`): a handler that is run twice, or besides another
one, would be seen in a monad that counts.

The reply is then a matter of the outcome.  `Outcome.ReportedAs` is the table of that, from what a
handler can come to, to what the reply reports.  `Dispatcher.dispatch_order` puts both together.
-/
import JsonRpc.Proofs.Catalog
import JsonRpc.Proofs.Dispatch
import JsonRpc.Proofs.Envelope.Response

namespace JsonRpc

open Json

/-! ## Methods that cannot be had -/

/-- The version in a qualified name, if it is one, is short enough to be read. -/
def QualifiedName.HasShortVersion (method : Text) : Prop :=
  ∀ space ds name, parts? method = some (space, ds, name) → ds.length ≤ digitLimit

theorem QualifiedName.exists_split {method : Text} (h : HasShortVersion method) :
    ∃ q, split method = .ok q := by
  rw [split]
  cases hparts : parts? method with
  | none => exact ⟨none, rfl⟩
  | some p =>
      obtain ⟨space, ds, name⟩ := p
      have hread : readDigits ds = .ok (ofDigits ds) := if_pos (h space ds name hparts)
      exact ⟨some ⟨space, ofDigits ds, name⟩, by simp only [hread, ok_bind, pure_eq_ok]⟩

variable {H : Type}

/-- A name with a short version is not found if nothing can be had for it. -/
theorem Catalog.resolve_eq_notFound {c : Catalog H} {method : Text}
    (hversion : QualifiedName.HasShortVersion method) (h : ∀ m, c.resolve method ≠ .ok m) :
    c.resolve method = .error (.notFound method) := by
  cases hx : c.resolve method with
  | ok m => exact absurd hx (h m)
  | error e =>
      cases e with
      | notFound name => rw [eq_of_resolve_eq_notFound hx]
      | longVersion e =>
          obtain ⟨q, hq⟩ := QualifiedName.exists_split hversion
          rw [resolve, hq] at hx
          cases q with
          | none => exact absurd hx (by simp)
          | some q =>
              simp only at hx
              split at hx <;> exact absurd hx (by simp)

/-! ## Requests -/

namespace Dispatcher

variable {d : Dispatcher H} {r : Request} {method : Method H}

/-- The request is refused with this error, and no handler is run. -/
def RefusesAtOnce (d : Dispatcher H) (r : Request) (e : ErrorObject) : Prop :=
  ∃ log, ∀ (m : Type → Type) [Monad m] (invoke : H → List Json → m Outcome),
    (d.request r).run invoke = pure (.ok ⟨⟨some r.id, .error e⟩, log⟩)

/-- The handler is run once, on the parameters of the request, and nothing else is. -/
def RunsOnce (d : Dispatcher H) (r : Request) (handler : H) : Prop :=
  ∀ (m : Type → Type) [Monad m] (invoke : H → List Json → m Outcome),
    (d.request r).run invoke = do
      let o ← invoke handler r.params
      return r.finish o

theorem refusesAtOnce_of_refuse {e : RpcError} (h : Requested d r (.answered (r.refuse e))) :
    d.RefusesAtOnce r e.toErrorObject := by
  refine ⟨(r.refuse e).log, fun m _ invoke => ?_⟩
  rw [h.eq]
  rfl

theorem refusesAtOnce_of_mismatch (h : d.catalog.resolve r.method = .ok method)
    (hstrict : d.strictArity) (hcount : (r.params.length : Int) ≠ method.arity)
    (harity : (digits method.arity.natAbs).length ≤ digitLimit) :
    d.RefusesAtOnce r (r.arityError method.arity).toErrorObject := by
  have hmismatch : r.mismatch method.arity = r.refuse (r.arityError method.arity) := by
    rw [Request.mismatch, writeInt, if_pos harity]
  exact refusesAtOnce_of_refuse (hmismatch ▸ .mismatch h hstrict hcount)

theorem runsOnce_of_admits (h : d.Admits r method) : d.RunsOnce r method.handler := by
  intro m _ invoke
  rw [(Requested.admitted h).eq]
  rfl

/-- A run depends on the arity of the method and on what its handler comes to, but not on when the
handler answers. -/
theorem run_congr {H' : Type} {d' : Dispatcher H'} {method' : Method H'}
    (hstrict : d'.strictArity = d.strictArity) (h : d.catalog.resolve r.method = .ok method)
    (h' : d'.catalog.resolve r.method = .ok method') (harity : method'.arity = method.arity)
    {m : Type → Type} [Monad m] {invoke : H → List Json → m Outcome}
    {invoke' : H' → List Json → m Outcome}
    (hinvoke : invoke' method'.handler r.params = invoke method.handler r.params) :
    (d'.request r).run invoke' = (d.request r).run invoke := by
  rw [request, request, h, h']
  simp only [hstrict, harity]
  split
  · rfl
  · rw [Dispatched.run, Dispatched.run, hinvoke]

/-- A request whose method cannot be had is refused, whatever its parameters are; a strict dispatcher
refuses one with another number of parameters than the method declares; any other request runs the
handler of its method.  What that comes to decides on the reply.  It does not matter if the handler
answers at once or later, nor, for a request with the declared number of parameters, if the
dispatcher is strict. -/
theorem dispatch_order (d : Dispatcher H) (r : Request)
    (hversion : QualifiedName.HasShortVersion r.method)
    (harity : ∀ method, d.catalog.resolve r.method = .ok method →
      (digits method.arity.natAbs).length ≤ digitLimit) :
    ((∀ method, d.catalog.resolve r.method ≠ .ok method) →
      d.RefusesAtOnce r ⟨-32601, Text.of "Method not found: " ++ r.method, .null⟩) ∧
    (∀ method, d.catalog.resolve r.method = .ok method →
      (d.strictArity ∧ (r.params.length : Int) ≠ method.arity →
        d.RefusesAtOnce r ⟨-32602,
          r.method ++ Text.of " expects " ++ Text.ofInt method.arity ++ Text.of " params, got "
            ++ Text.ofInt r.params.length,
          .obj [(Text.of "expected", .int method.arity),
            (Text.of "received", .int r.params.length)]⟩) ∧
      (¬ (d.strictArity ∧ (r.params.length : Int) ≠ method.arity) →
        d.RunsOnce r method.handler) ∧
      ((r.params.length : Int) = method.arity →
        ∀ strict, { d with strictArity := strict }.RunsOnce r method.handler) ∧
      ∀ (H' : Type) (d' : Dispatcher H') (method' : Method H'),
        d'.strictArity = d.strictArity → d'.catalog.resolve r.method = .ok method' →
        method'.arity = method.arity →
        ∀ (m : Type → Type) [Monad m] (invoke : H → List Json → m Outcome)
          (invoke' : H' → List Json → m Outcome),
          invoke' method'.handler r.params = invoke method.handler r.params →
          (d'.request r).run invoke' = (d.request r).run invoke) ∧
    (∀ o : Outcome, (∃ x, o.ReportedAs x) ∨ ∃ message, o = .failed (.unreportable message)) ∧
    (∀ o x, Outcome.ReportedAs o x → ∃ log, r.finish o = .ok ⟨⟨some r.id, x⟩, log⟩) ∧
    ∀ e : ErrorObject, ∃ ms, e.wire = .obj ms ∧
      Json.member? (Text.of "code") ms = some (.int e.code) ∧
      Json.member? (Text.of "message") ms = some (.str e.message) ∧
      Json.member? (Text.of "data") ms = if e.data = .null then none else some e.data := by
  refine ⟨?_, ?_, Outcome.exists_reportedAs, fun o x => r.finish_of_reportedAs,
    ErrorObject.member?_data⟩
  · intro hnone
    exact refusesAtOnce_of_refuse (.notFound (Catalog.resolve_eq_notFound hversion hnone))
  · intro method hmethod
    refine ⟨?_, ?_, ?_, ?_⟩
    · rintro ⟨hstrict, hcount⟩
      exact refusesAtOnce_of_mismatch hmethod hstrict hcount (harity method hmethod)
    · intro hcount
      exact runsOnce_of_admits ⟨hmethod, hcount⟩
    · intro hcount strict
      have hadmits : { d with strictArity := strict }.Admits r method :=
        ⟨hmethod, fun h => h.2 hcount⟩
      exact runsOnce_of_admits hadmits
    · intro H' d' method' hstrict hmethod' harity' m _ invoke invoke' hinvoke
      exact run_congr hstrict hmethod hmethod' harity' hinvoke

/-- A strict dispatcher with two methods, of one parameter and of none. -/
def pair : Dispatcher Bool :=
  { catalog :=
      { services := [⟨⟨Text.of "b", by decide⟩,
          [(⟨Text.of "g", by decide⟩, ⟨1, true, false⟩), (⟨Text.of "h", by decide⟩, ⟨0, false, true⟩)]⟩]
        published := [(⟨Text.of "b", by decide⟩, 0)] }
    strictArity := true }

theorem dispatch_order_pair :
    let r (params : List Json) : Request := ⟨Text.of "b.1.g", params, .int 1⟩
    pair.RunsOnce (r [.null]) true ∧
      ∃ message, pair.RefusesAtOnce (r []) ⟨-32602, message,
        .obj [(Text.of "expected", .int 1), (Text.of "received", .int 0)]⟩ := by
  intro r
  have hversion : QualifiedName.HasShortVersion (Text.of "b.1.g") := by
    intro space ds name h
    have hlength : (QualifiedName.parts? (Text.of "b.1.g")).map (·.2.1.length) = some 1 := by decide
    rw [h, Option.map_some, Option.some.injEq] at hlength
    rw [hlength]
    decide
  have hmethod : pair.catalog.resolve (Text.of "b.1.g") = .ok ⟨1, true, false⟩ := rfl
  have harity (method : Method Bool) (h : pair.catalog.resolve (Text.of "b.1.g") = .ok method) :
      (digits method.arity.natAbs).length ≤ digitLimit := by
    obtain rfl := Except.ok.inj (hmethod.symm.trans h)
    rw [digits_of_lt (by decide)]
    decide
  obtain ⟨-, hfits, -⟩ := dispatch_order pair (r [.null]) hversion harity
  obtain ⟨-, hmissing, -⟩ := dispatch_order pair (r []) hversion harity
  exact ⟨(hfits _ hmethod).2.1 (by decide), _, (hmissing _ hmethod).1 (by decide)⟩

end Dispatcher

end JsonRpc
