/-
The catalog of services.

Services are made first and published later, each under its own namespace. A service that has been
published can still be given methods, and they are callable at once. Publishing a second service of
the same namespace hides the first; the hidden one stays, and what is registered on it stays hidden.

So the catalog keeps every service that was made, by number, and for each namespace the number of
the service published under it.
-/
import JsonRpc.Service

namespace JsonRpc

structure Catalog (H : Type) where
  /-- All services that were made, in that order. -/
  services : List (Service H) := []
  /-- The numbers of the published services. -/
  published : List (Namespace × Nat) := []

namespace Catalog

variable {H : Type}

/-- The catalog with one more service, and the number that it has. -/
def add (c : Catalog H) (s : Service H) : Catalog H × Nat :=
  ({ c with services := c.services ++ [s] }, c.services.length)

/-- The catalog with a method registered on a service. A number that no service has changes
nothing. -/
def register (c : Catalog H) (number : Nat) (name : Text) (m : Method H) :
    Except NameError (Registration (Catalog H)) :=
  match c.services[number]? with
  | none => .ok ⟨c, [], none⟩
  | some s => do
    let r ← s.register name m
    return ⟨{ c with services := c.services.set number r.holder }, r.log, r.fault⟩

/-- The service published under a namespace. -/
def published? (c : Catalog H) (space : Text) : Option (Service H) := do
  let entry ← c.published.find? fun e => e.1.text = space
  c.services[entry.2]?

/-- The catalog with a service published under its namespace. A number that no service has changes
nothing. -/
def publish (c : Catalog H) (number : Nat) : Catalog H × Log :=
  match c.services[number]? with
  | none => (c, [])
  | some s =>
    let replacing : Log :=
      if (c.published.find? fun e => e.1 = s.space).isSome then
        [⟨.warning, .dispatcher, Text.of "Replacing service: " ++ s.space.text⟩] else []
    ({ c with published := setEntry s.space number c.published },
      replacing ++ [⟨.info, .dispatcher, Text.of "Registered service: " ++ s.space.text⟩])

/-- The published services. -/
def listed (c : Catalog H) : List (Service H) :=
  c.published.filterMap fun e => c.services[e.2]?

/-- Why a method cannot be had. -/
inductive ResolveError where
  | notFound (method : Text)
  | longVersion (e : LongNumber)
deriving DecidableEq

/-- The method that a qualified name stands for. The version is read and then ignored. -/
def resolve (c : Catalog H) (method : Text) : Except ResolveError (Method H) :=
  match QualifiedName.split method with
  | .error e => .error (.longVersion e)
  | .ok none => .error (.notFound method)
  | .ok (some q) =>
    match (c.published? q.space.text).bind (·.method? q.method.text) with
    | none => .error (.notFound method)
    | some m => .ok m

end Catalog

end JsonRpc
