/-
Services.

A service is a namespace and a table of methods. A method has an arity, the number of parameters that
it declares, and a handler, which a service only stores; what handlers are is left open. A method
registered under a name that is taken replaces the one that had it.
-/
import JsonRpc.Entries
import JsonRpc.Log
import JsonRpc.Name

namespace JsonRpc

/-- A registered method. The handler of a deferred method answers later and that of any other method
at once. -/
structure Method (H : Type) where
  arity : Int
  handler : H
  deferred : Bool
deriving DecidableEq

/-- What registering a method leaves: the one who holds it from now on and the lines that this adds to
the log. An arity that has too many digits keeps the last line from being made; the method is stored
all the same. -/
structure Registration (S : Type) where
  holder : S
  log : Log
  fault : Option LongNumber

structure Service (H : Type) where
  space : Namespace
  methods : List (MethodName × Method H)
deriving DecidableEq

namespace Service

variable {H : Type}

/-- The service of a namespace, without methods. -/
def create (space : Text) : Except NameError (Service H) :=
  match Namespace.ofText? space with
  | none => .error (.space space)
  | some n => .ok ⟨n, []⟩

/-- The method of a name. -/
def method? (s : Service H) (name : Text) : Option (Method H) :=
  (s.methods.find? fun m => m.1.text = name).map Prod.snd

/-- The dotted name of a method that a service has or might have. -/
def dotted (s : Service H) (name : MethodName) : Text := s.space.text ++ Text.of "." ++ name.text

/-- The line of the log about a name that is taken. -/
def replacementLog (s : Service H) (name : MethodName) : Log :=
  if (s.method? name.text).isSome then
    [⟨.warning, .service, Text.of "Replacing method " ++ s.dotted name⟩] else []

/-- The line of the log about a registered method. -/
def registrationLine (s : Service H) (name : MethodName) (arity : Text) : LogLine :=
  ⟨.info, .service, Text.of "Registered method: " ++ s.dotted name ++ Text.of " (arity " ++ arity
    ++ Text.of ")"⟩

/-- The service with a method registered under a name. -/
def register (s : Service H) (name : Text) (m : Method H) :
    Except NameError (Registration (Service H)) :=
  match MethodName.ofText? name with
  | none => .error (.method name)
  | some n =>
    let stored := { s with methods := setEntry n m s.methods }
    match writeInt m.arity with
    | .ok arity => .ok ⟨stored, s.replacementLog n ++ [s.registrationLine n arity], none⟩
    | .error e => .ok ⟨stored, s.replacementLog n, some e⟩

/-- The names of the methods in order. -/
def names (s : Service H) : List Text :=
  (s.methods.map fun m => m.1.text).mergeSort Text.le

/-- What a service looks like in a message. -/
def describe (s : Service H) : Text :=
  Text.of "Service(namespace=" ++ s.space.text.quoted ++ Text.of ", methods="
    ++ Text.quotedList s.names ++ Text.of ")"

end Service

end JsonRpc
