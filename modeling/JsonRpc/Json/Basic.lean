/-
JSON values.

Whole numbers are kept exactly and all other numbers as double-precision ones, infinities and NaN
included, since a reader may be asked to admit them. An object is a list of members in the order in
which their names first came up; a name that comes up again gives its member a new value and leaves
it in its place.
-/
import JsonRpc.Entries
import JsonRpc.Text.Decimal
import JsonRpc.Binary64.Basic

namespace JsonRpc

inductive Json where
  | null
  | bool (b : Bool)
  | int (n : Int)
  | float (x : Binary64)
  | str (t : Text)
  | arr (items : List Json)
  | obj (members : List (Text × Json))

namespace Json

mutual

def decEq : (a b : Json) → Decidable (a = b)
  | null, null => isTrue rfl
  | bool a, bool b => if h : a = b then isTrue (h ▸ rfl) else isFalse (by simpa using h)
  | int a, int b => if h : a = b then isTrue (h ▸ rfl) else isFalse (by simpa using h)
  | float a, float b => if h : a = b then isTrue (h ▸ rfl) else isFalse (by simpa using h)
  | str a, str b => if h : a = b then isTrue (h ▸ rfl) else isFalse (by simpa using h)
  | arr a, arr b =>
    match decEqItems a b with
    | isTrue h => isTrue (h ▸ rfl)
    | isFalse h => isFalse (by simpa using h)
  | obj a, obj b =>
    match decEqMembers a b with
    | isTrue h => isTrue (h ▸ rfl)
    | isFalse h => isFalse (by simpa using h)
  | null, bool _ | null, int _ | null, float _ | null, str _ | null, arr _ | null, obj _
  | bool _, null | bool _, int _ | bool _, float _ | bool _, str _ | bool _, arr _ | bool _, obj _
  | int _, null | int _, bool _ | int _, float _ | int _, str _ | int _, arr _ | int _, obj _
  | float _, null | float _, bool _ | float _, int _ | float _, str _ | float _, arr _
  | float _, obj _
  | str _, null | str _, bool _ | str _, int _ | str _, float _ | str _, arr _ | str _, obj _
  | arr _, null | arr _, bool _ | arr _, int _ | arr _, float _ | arr _, str _ | arr _, obj _
  | obj _, null | obj _, bool _ | obj _, int _ | obj _, float _ | obj _, str _ | obj _, arr _ =>
    isFalse (by simp)

def decEqItems : (a b : List Json) → Decidable (a = b)
  | [], [] => isTrue rfl
  | [], _ :: _ | _ :: _, [] => isFalse (by simp)
  | a :: as, b :: bs =>
    match decEq a b with
    | isFalse h => isFalse (by simp [h])
    | isTrue h =>
      match decEqItems as bs with
      | isTrue hs => isTrue (by rw [h, hs])
      | isFalse hs => isFalse (by simp [hs])

def decEqMembers : (a b : List (Text × Json)) → Decidable (a = b)
  | [], [] => isTrue rfl
  | [], _ :: _ | _ :: _, [] => isFalse (by simp)
  | (m, a) :: as, (n, b) :: bs =>
    if hn : m = n then
      match decEq a b with
      | isFalse h => isFalse (by simp [h])
      | isTrue h =>
        match decEqMembers as bs with
        | isTrue hs => isTrue (by rw [hn, h, hs])
        | isFalse hs => isFalse (by simp [hs])
    else isFalse (by simp [hn])

end

instance : DecidableEq Json := decEq

instance : Inhabited Json := ⟨null⟩

/-- The value of the member of a name. -/
def member? (name : Text) (members : List (Text × Json)) : Option Json :=
  (members.find? fun m => m.1 = name).map Prod.snd

/-- The members that pairs of name and value set, one after the other. -/
def ofPairs (pairs : List (Text × Json)) : List (Text × Json) :=
  pairs.foldl (fun ms p => setEntry p.1 p.2 ms) []

mutual

/-- The names and the values other than arrays and objects in a value, in the order of its text. A
name counts as a string. -/
def atoms : Json → List Json
  | arr items => atomsOfItems items
  | obj members => atomsOfMembers members
  | null => [null]
  | bool b => [bool b]
  | int n => [int n]
  | float x => [float x]
  | str t => [str t]

def atomsOfItems : List Json → List Json
  | [] => []
  | v :: vs => atoms v ++ atomsOfItems vs

def atomsOfMembers : List (Text × Json) → List Json
  | [] => []
  | (name, v) :: ms => str name :: (atoms v ++ atomsOfMembers ms)

end

mutual

/-- How many arrays and objects stand around the innermost value; an array or an object with nothing
in it stands around none. -/
def depth : Json → Nat
  | arr items => depthOfItems items
  | obj members => depthOfMembers members
  | _ => 0

def depthOfItems : List Json → Nat
  | [] => 0
  | v :: vs => max (depth v + 1) (depthOfItems vs)

def depthOfMembers : List (Text × Json) → Nat
  | [] => 0
  | (_, v) :: ms => max (depth v + 1) (depthOfMembers ms)

end

/-- No number in the value is infinite or NaN. -/
def isFinite (v : Json) : Bool :=
  v.atoms.all fun
    | float x => x.isFinite
    | _ => true

/-- A number in the value is NaN. -/
def hasNaN (v : Json) : Bool :=
  v.atoms.any fun
    | float x => x.isNaN
    | _ => false

/-- A string or a name in the value has a surrogate. -/
def hasSurrogate (v : Json) : Bool :=
  v.atoms.any fun
    | str t => t.hasSurrogate
    | _ => false

/-- Null, false, zero and all that is empty. -/
def isEmpty : Json → Bool
  | null | bool false | int 0 | str [] | arr [] | obj [] => true
  | float x => x.isZero
  | _ => false

end Json

end JsonRpc
