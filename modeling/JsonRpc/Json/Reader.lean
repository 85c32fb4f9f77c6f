/-
Reading JSON documents.

A document is one value with blanks around it. The reader descends: a value is scanned by its first
character, and what stands in an array or an object is scanned by the same function with one level
of nesting less to spend. It stops at the first fault in the order of the text, be it a departure
from the grammar, a refused constant, a whole number over the digit limit or one level too many.

The words for infinities and NaN are not JSON. A reader either admits them as numbers or refuses
them where they stand.
-/
import JsonRpc.Json.Number
import JsonRpc.Json.StringLiteral

namespace JsonRpc.Json

/-- Scanning gives what a text starts with and what follows that, or stops at an error. -/
abbrev Scan := Except (ReadError Text)

/-- The characters that may stand between the parts of a document. -/
def isSpace (c : CodePoint) : Bool := c = ' ' || c = '\t' || c = '\n' || c = '\r'

def skipSpace (t : Text) : Text := t.dropWhile isSpace

/-- What follows a word, if the text starts with it. -/
def after? : (word : Text) → Text → Option Text
  | [], t => some t
  | _ :: _, [] => none
  | w :: ws, c :: rest => if w = c then after? ws rest else none

/-- The value of the word that a text starts with, and what follows it. -/
def word? (t : Text) : Option (Json × Text) :=
  ((after? (Text.of "null") t).map (null, ·))
    <|> ((after? (Text.of "true") t).map (bool true, ·))
    <|> ((after? (Text.of "false") t).map (bool false, ·))

/-- The constant that a text starts with, and what follows it. -/
def constant? (t : Text) : Option (Constant × Text) :=
  [Constant.nan, .infinity, .negativeInfinity].findSome? fun c => (after? c.word t).map (c, ·)

/-- The number that a constant stands for. -/
def Constant.value : Constant → Binary64
  | .nan => .nan
  | .infinity => .infinite false
  | .negativeInfinity => .infinite true

/-- The values of an array from its first one on, each scanned by `item`, up to the closing
bracket. There are at most `bound` of them. -/
def scanItems (item : Text → Scan (Json × Text)) : (bound : Nat) → Text → Scan (List Json × Text)
  | 0, t => .error (.malformed .value t)
  | bound + 1, t => do
    let (v, after) ← item t
    match skipSpace after with
    | [] => .error (.malformed .comma [])
    | c :: rest =>
      if c = ']' then return ([v], rest)
      else if c = ',' then do
        let (vs, after) ← scanItems item bound (skipSpace rest)
        return (v :: vs, after)
      else .error (.malformed .comma (c :: rest))

/-- The name of a member and its colon. -/
def scanName (t : Text) : Scan (Text × Text) :=
  match t with
  | [] => .error (.malformed .name t)
  | quote :: _ =>
    if quote = '"' then do
      let (name, after) ← StringLiteral.read t
      match skipSpace after with
      | [] => .error (.malformed .colon [])
      | c :: rest =>
        if c = ':' then return (name, skipSpace rest)
        else .error (.malformed .colon (c :: rest))
    else .error (.malformed .name t)

/-- The members of an object from its first one on, the value of each scanned by `item`, up to the
closing brace. There are at most `bound` of them. -/
def scanMembers (item : Text → Scan (Json × Text)) :
    (bound : Nat) → Text → Scan (List (Text × Json) × Text)
  | 0, t => .error (.malformed .name t)
  | bound + 1, t => do
    let (name, t₁) ← scanName t
    let (v, t₂) ← item t₁
    match skipSpace t₂ with
    | [] => .error (.malformed .comma [])
    | c :: rest =>
      if c = '}' then return ([(name, v)], rest)
      else if c = ',' then do
        let (ms, after) ← scanMembers item bound (skipSpace rest)
        return ((name, v) :: ms, after)
      else .error (.malformed .comma (c :: rest))

/-- An array or an object from behind its opening bracket. -/
def scanContainer (item : Text → Scan (Json × Text)) (bound : Nat) (kind : Container) (t : Text) :
    Scan (Json × Text) :=
  let t := skipSpace t
  match kind with
  | .array =>
    if t.head? = some (.ofChar ']') then .ok (arr [], t.tail)
    else do
      let (vs, after) ← scanItems item bound t
      return (arr vs, after)
  | .object =>
    if t.head? = some (.ofChar '}') then .ok (obj [], t.tail)
    else do
      let (ms, after) ← scanMembers item bound t
      return (obj (ofPairs ms), after)

/-- The value that a text starts with. `inner` scans an array or an object from behind its opening
bracket. -/
def scanFirst (constants : Bool) (inner : Container → Text → Scan (Json × Text)) (t : Text) :
    Scan (Json × Text) :=
  match t with
  | [] => .error (.malformed .value [])
  | c :: rest =>
    if c = '"' then do
      let (s, after) ← StringLiteral.read t
      return (str s, after)
    else if c = '[' then inner .array rest
    else if c = '{' then inner .object rest
    else
      match word? t with
      | some (v, after) => .ok (v, after)
      | none =>
        match constant? t with
        | some (k, after) =>
          if constants then .ok (float k.value, after) else .error (.constant k)
        | none =>
          match Numeral.scan? t with
          | none => .error (.malformed .value t)
          | some (n, after) =>
            match n.value with
            | .ok v => .ok (v, after)
            | .error e => .error (.longNumber e)

/-- The value that a text starts with, nested at most `levels` deep. No array or object in it has
more than `bound` parts. -/
def scanValue (constants : Bool) (bound : Nat) : (levels : Nat) → Text → Scan (Json × Text)
  | 0 => scanFirst constants fun kind _ => .error (.tooDeep kind)
  | levels + 1 =>
    scanFirst constants fun kind => scanContainer (scanValue constants bound levels) bound kind

/-- The value that is the whole of a text, with blanks around it, nested at most `levels` deep. -/
def scanDocument (constants : Bool) (levels : Nat) (document : Text) : Scan Json := do
  let (v, after) ← scanValue constants document.length levels (skipSpace document)
  match skipSpace after with
  | [] => return v
  | rest => .error (.malformed .extra rest)

/-- The value of a document that has no byte order mark to look for. The words for infinities and
NaN are numbers if `constants` is set, and are refused otherwise. -/
def readUnmarked (constants : Bool) (levels : Nat) (document : Text) :
    Except (ReadError Position) Json :=
  (scanDocument constants levels document).mapError (ReadError.locate document)

/-- The byte order mark, which no document starts with. -/
def byteOrderMark : CodePoint := ⟨0xFEFF, by decide⟩

/-- The value of a document. -/
def readWith (constants : Bool) (levels : Nat) (document : Text) :
    Except (ReadError Position) Json :=
  if document.head? = some byteOrderMark then
    .error (.malformed .byteOrderMark (.of document document))
  else readUnmarked constants levels document

/-- The value of a document, infinities and NaN admitted. -/
def read (document : Text) : Except (ReadError Position) Json :=
  readWith true nestingLimit document

/-- The value of a document in strict JSON. -/
def readStrict (levels : Nat) (document : Text) : Except (ReadError Position) Json :=
  readWith false levels document

end JsonRpc.Json
