/-
Names of services and methods.

A namespace is one identifier or several with dots between them; a method name is one identifier.
A request names its method as namespace, version and method name with dots between them. The version
is a run of digits, and since no identifier starts with one, the version is the last but one of the
parts between the dots and a name can be taken apart in one way only.
-/
import JsonRpc.Text.Decimal
import JsonRpc.Text.Identifier
import JsonRpc.Text.Quoted

namespace JsonRpc

namespace Text

/-- Parts with a dot between each two. -/
def ofSegments (parts : List Text) : Text := intercalate (of ".") parts

/-- The text is a namespace. -/
def isNamespace (t : Text) : Bool := (segments t).all isIdentifier

/-- The text is the name of a method. -/
def isMethodName (t : Text) : Bool := isIdentifier t

/-- The digits that a text consists of, if it has any and nothing else. -/
def allDigits? (t : Text) : Option (List (Fin 10)) :=
  match spanDigits t with
  | (d :: ds, []) => some (d :: ds)
  | _ => none

end Text

/-- A dotted namespace. -/
structure Namespace where
  text : Text
  isNamespace : text.isNamespace = true
deriving DecidableEq

def Namespace.ofText? (t : Text) : Option Namespace :=
  if h : t.isNamespace = true then some ⟨t, h⟩ else none

/-- The name of a method in its service. -/
structure MethodName where
  text : Text
  isMethodName : text.isMethodName = true
deriving DecidableEq

def MethodName.ofText? (t : Text) : Option MethodName :=
  if h : t.isMethodName = true then some ⟨t, h⟩ else none

/-- The name of a method in a request. -/
structure QualifiedName where
  space : Namespace
  version : Nat
  method : MethodName
deriving DecidableEq

namespace QualifiedName

/-- The parts of a qualified name: the version is given by its digits. -/
def parts? (t : Text) : Option (Namespace × List (Fin 10) × MethodName) :=
  match t.segments.reverse with
  | last :: version :: space => do
    let method ← MethodName.ofText? last
    let ds ← Text.allDigits? version
    let space ← Namespace.ofText? (Text.ofSegments space.reverse)
    return (space, ds, method)
  | _ => none

/-- Takes a qualified name apart. A text of another form is no name; a version of too many digits
is an error. -/
def split (t : Text) : Except LongNumber (Option QualifiedName) :=
  match parts? t with
  | none => .ok none
  | some (space, ds, method) => do
    let version ← readDigits ds
    return some ⟨space, version, method⟩

/-- The text of a qualified name. -/
def render (q : QualifiedName) : Text :=
  q.space.text ++ Text.of "." ++ Text.ofNat q.version ++ Text.of "." ++ q.method.text

end QualifiedName

/-- A text that names neither a service nor a method. -/
inductive NameError where
  | space (t : Text)
  | method (t : Text)
deriving DecidableEq

def NameError.message : NameError → Text
  | .space t => Text.of "Invalid service namespace: " ++ t.quoted
  | .method t => Text.of "Invalid method name: " ++ t.quoted

end JsonRpc
