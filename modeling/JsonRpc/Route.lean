/-
Routes.

A route is the template of the paths that lead to one place. A template is text with wildcards in
it, each with a name and a kind in braces; the kind says what the wildcard may stand for. A path is
on the route if it is the template with every wildcard filled in, and a line feed may follow it.
Where a wildcard can be filled in several ways the longest counts, first for the first wildcard.

A template that does not start with a slash is that of a host: case does not matter in it, and a
port at its end is left out.
-/
import JsonRpc.Text.CaseFold
import JsonRpc.Text.Decimal
import JsonRpc.Text.Identifier

namespace JsonRpc

/-! ## Wildcards -/

/-- What a wildcard stands for. -/
inductive Wildcard where
  /-- One character or more, none of them a slash. -/
  | segment
  /-- Any characters but line feeds. -/
  | path
  /-- Decimal digits. -/
  | integer
  /-- Decimal digits, with or without a point and more digits. -/
  | decimal
  /-- Hexadecimal digits in the groups of a UUID, with or without hyphens between these. -/
  | uuid
deriving DecidableEq

namespace Wildcard

/-- The wildcards and what they are called in templates. -/
def names : List (Text × Wildcard) :=
  [(Text.of "str", .segment), (Text.of "path", .path), (Text.of "int", .integer),
    (Text.of "float", .decimal), (Text.of "uuid", .uuid)]

def ofName? (name : Text) : Option Wildcard :=
  (names.find? fun e => e.1 = name).map Prod.snd

/-- The numbers from `least` to `greatest`, the greatest first. -/
def downFrom (greatest least : Nat) : List Nat :=
  ((List.range (greatest + 1)).drop least).reverse

/-- How many digits follow a point that a text starts with. -/
def fractionLength : Text → Nat
  | [] => 0
  | c :: rest => if c = '.' then (Text.spanDigits rest).1.length else 0

/-- The sizes of the groups of a UUID. -/
def uuidGroups : List Nat := [8, 4, 4, 4, 12]

/-- The length of the groups of hexadecimal digits that a text starts with, hyphens between them
included. -/
def groupedLength? (t : Text) : (groups : List Nat) → Option Nat
  | [] => some 0
  | size :: groups =>
    let group := t.takeWhile fun c : CodePoint => c.hexDigit?.isSome
    if group.length < size then none
    else
      let rest := t.drop size
      let hyphens := if groups ≠ [] && rest.head? = some (.ofChar '-') then 1 else 0
      (groupedLength? (rest.drop hyphens) groups).map (size + hyphens + ·)

/-- How much of the beginning of a text a wildcard may stand for, the longest first. -/
def lengths (w : Wildcard) (t : Text) : List Nat :=
  match w with
  | .segment => downFrom (t.takeWhile fun c : CodePoint => c ≠ '/').length 1
  | .path => downFrom (t.takeWhile fun c : CodePoint => c ≠ '\n').length 0
  | .integer => downFrom (Text.spanDigits t).1.length 1
  | .decimal =>
    let whole := (Text.spanDigits t).1.length
    let fractions := if whole = 0 then [] else downFrom (fractionLength (t.drop whole)) 1
    fractions.map (whole + 1 + ·) ++ downFrom whole 1
  | .uuid => (groupedLength? t uuidGroups).toList

/-- Reads what a wildcard stands for. Only a whole number can be too long. -/
def read (w : Wildcard) (t : Text) : Except LongNumber Unit :=
  match w with
  | .integer => do
    let _ ← readDigits (Text.spanDigits t).1
  | _ => .ok ()

end Wildcard

/-! ## Templates -/

/-- A wildcard as a template gives it. -/
structure Placeholder where
  name : Text
  kind : Text
deriving DecidableEq

namespace Placeholder

/-- What follows a character that a text starts with. -/
def after? (c : Char) : Text → Option Text
  | [] => none
  | d :: rest => if d = c then some rest else none

/-- The kind behind a colon that a text starts with, and what follows it. -/
def kind? (t : Text) : Option (Text × Text) := do
  Text.spanIdentifier? (← after? ':' t)

/-- The placeholder that a template starts with, and what follows it. -/
def scan? (t : Text) : Option (Placeholder × Text) := do
  let t₁ ← after? '{' t
  let (name, t₂) ← Text.spanIdentifier? t₁
  let (kind, t₃) := (kind? t₂).getD (Text.of "str", t₂)
  let t₄ ← after? '}' t₃
  return (⟨name, kind⟩, t₄)

end Placeholder

/-- Why a template is no route. -/
inductive RouteError where
  | unknownKind (kind : Text)
  /-- Names that come up more than once. -/
  | repeated (names : List Text) (template : Text)
deriving DecidableEq

def RouteError.message : RouteError → Text
  | .unknownKind kind => Text.of "Unknown path convertor '" ++ kind ++ Text.of "'"
  | .repeated names template =>
    Text.of "Duplicated param name" ++ Text.of (if 1 < names.length then "s " else " ")
      ++ Text.intercalate (Text.of ", ") names ++ Text.of " at path " ++ template

namespace Route

/-- A part of a template. -/
inductive Part where
  | literal (c : CodePoint)
  | wildcard (name : Text) (w : Wildcard)
deriving DecidableEq

def Part.name? : Part → Option Text
  | .literal _ => none
  | .wildcard name _ => some name

def Part.isLiteral (p : Part) : Bool := p.name?.isNone

/-- The parts of a template, of which the first `skip` code points have been read. -/
def partsFrom : (skip : Nat) → Text → Except RouteError (List Part)
  | _, [] => .ok []
  | skip + 1, _ :: rest => partsFrom skip rest
  | 0, c :: rest =>
    match Placeholder.scan? (c :: rest) with
    | none => (partsFrom 0 rest).map (.literal c :: ·)
    | some (p, after) =>
      match Wildcard.ofName? p.kind with
      | none => .error (.unknownKind p.kind)
      | some w => (partsFrom (rest.length - after.length) rest).map (.wildcard p.name w :: ·)

/-- Parts without the last colon after the last wildcard and without what follows this colon. A
bracket at the end closes a numeric host, which is not followed by a port then. -/
def withoutPort (parts : List Part) : List Part :=
  let ending := parts.reverse.takeWhile fun p => p.isLiteral && p ≠ .literal (.ofChar ':')
  let rest := parts.take (parts.length - ending.length)
  if ending.head? = some (.literal (.ofChar ']')) then parts
  else if rest.getLast? = some (.literal (.ofChar ':')) then rest.dropLast
  else parts

/-- The names that come up more than once, each once and in order. -/
def repeatedNames (parts : List Part) : List Text :=
  let names := parts.filterMap Part.name?
  (names.filter fun name => 1 < names.count name).eraseDups.mergeSort Text.le

end Route

structure Route where
  template : Text
  parts : List Route.Part
  /-- The route is one to a host, so that case does not matter. -/
  isHost : Bool
deriving DecidableEq

namespace Route

/-- The route of a path without wildcards. -/
def fixed (path : Text) : Route := ⟨path, path.map .literal, false⟩

/-- The route of a template. -/
def ofTemplate? (template : Text) : Except RouteError Route := do
  let parts ← partsFrom 0 template
  match repeatedNames parts with
  | [] =>
    if template.head? = some (.ofChar '/') then return ⟨template, parts, false⟩
    else return ⟨template, withoutPort parts, true⟩
  | names => throw (.repeated names template)

/-! ## Paths -/

/-- What the wildcards among parts stand for in a path. Literals and what stands in their places are
told apart by `same`. -/
def fill? (same : CodePoint → CodePoint → Bool) :
    (parts : List Part) → (path : Text) → Option (List (Wildcard × Text))
  | [], path => if path = [] || path = Text.of "\n" then some [] else none
  | .literal _ :: _, [] => none
  | .literal c :: parts, d :: path => if same c d then fill? same parts path else none
  | .wildcard _ w :: parts, path =>
    (w.lengths path).findSome? fun n =>
      (fill? same parts (path.drop n)).map ((w, path.take n) :: ·)

/-- What the wildcards of a route stand for in a path. -/
def filled? (r : Route) (path : Text) : Option (List (Wildcard × Text)) :=
  fill? (fun c d => if r.isHost then c.sameLetter d else c = d) r.parts path

/-- A path is on a route. -/
def hasPath (r : Route) (path : Text) : Bool := (r.filled? path).isSome

/-- Whether a path leads to where the route does, if all that its wildcards stand for can be
read. -/
def leads (r : Route) (path : Text) : Except LongNumber Bool :=
  match r.filled? path with
  | none => .ok false
  | some filled => do
    filled.forM fun (w, t) => w.read t
    return true

end Route

end JsonRpc
