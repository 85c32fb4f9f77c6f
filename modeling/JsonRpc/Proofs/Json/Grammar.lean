/-
The grammar of JSON documents.

A relation of the grammar speaks of a text and of what is left of it.  `Value d n t v rest` says that
`t` begins with a text of the value `v`, that `v` is nested at most `n` deep there, and that `rest`
follows.  The relations say nothing about how a text is scanned: a run of digits may be cut off
early, and a space may be left for the next part.  That the scanner finds the longest run, and so
the only one that fits what follows, is a matter of the modules that read.

Two departures from the grammar proper are left to a dialect: whether the words for infinities and
NaN are values, and whether a whole number is one however long it is.

`Reaches` describes the beginning of a document that is refused somewhere inside: every level is
opened by a bracket and holds, up to the next bracket, only complete parts.
-/
import JsonRpc.Json.Reader

namespace JsonRpc.Json.Grammar

/-- What counts as a value beside or below the grammar proper. -/
structure Dialect where
  /-- The words for infinities and NaN are values. -/
  constants : Bool
  /-- A whole number is a value however many digits it has. -/
  longNumbers : Bool

/-- The dialect that a reader takes. -/
def Dialect.read (constants : Bool) : Dialect := ⟨constants, false⟩

/-! ## Spaces -/

inductive Spaces : Text → Text → Prop
  | nil (t : Text) : Spaces t t
  | cons {c : CodePoint} {t rest : Text} :
      isSpace c = true → Spaces t rest → Spaces (c :: t) rest

/-! ## Numbers -/

/-- A run of digits, which may be empty. -/
inductive Digits : Text → List (Fin 10) → Text → Prop
  | nil (t : Text) : Digits t [] t
  | cons {c : CodePoint} {d : Fin 10} {ds : List (Fin 10)} {t rest : Text} :
      c.digit? = some d → Digits t ds rest → Digits (c :: t) (d :: ds) rest

inductive Minus : Text → Bool → Text → Prop
  | absent (t : Text) : Minus t false t
  | present (t : Text) : Minus (.ofChar '-' :: t) true t

/-- The whole part: zero, or a run of digits that starts with another digit. -/
inductive Whole : Text → List (Fin 10) → Text → Prop
  | zero {c : CodePoint} {t : Text} : c.digit? = some 0 → Whole (c :: t) [0] t
  | digits {c : CodePoint} {d : Fin 10} {ds : List (Fin 10)} {t rest : Text} :
      c.digit? = some d → d ≠ 0 → Digits t ds rest → Whole (c :: t) (d :: ds) rest

inductive Fraction : Text → List (Fin 10) → Text → Prop
  | absent (t : Text) : Fraction t [] t
  | present {ds : List (Fin 10)} {t rest : Text} :
      Digits t ds rest → ds ≠ [] → Fraction (.ofChar '.' :: t) ds rest

/-- The sign of an exponent. -/
inductive Sign : Text → Bool → Text → Prop
  | absent (t : Text) : Sign t false t
  | plus (t : Text) : Sign (.ofChar '+' :: t) false t
  | minus (t : Text) : Sign (.ofChar '-' :: t) true t

inductive Exponent : Text → Option (Bool × List (Fin 10)) → Text → Prop
  | absent (t : Text) : Exponent t none t
  | present {c : CodePoint} {s : Bool} {ds : List (Fin 10)} {t t₁ rest : Text} :
      (c = 'e' ∨ c = 'E') → Sign t s t₁ → Digits t₁ ds rest → ds ≠ [] →
      Exponent (c :: t) (some (s, ds)) rest

inductive Number : Text → Numeral → Text → Prop
  | mk {s : Bool} {w f : List (Fin 10)} {e : Option (Bool × List (Fin 10))}
      {t t₁ t₂ t₃ rest : Text} :
      Minus t s t₁ → Whole t₁ w t₂ → Fraction t₂ f t₃ → Exponent t₃ e rest →
      Number t ⟨s, w, f, e⟩ rest

/-- Neither a fraction nor an exponent is written. -/
def IsWhole (n : Numeral) : Prop := n.fraction = [] ∧ n.exponent = none

/-- A whole number of more digits than are read. -/
def IsLong (n : Numeral) : Prop := IsWhole n ∧ digitLimit < n.whole.length

instance (n : Numeral) : Decidable (IsWhole n) := inferInstanceAs (Decidable (_ ∧ _))

instance (n : Numeral) : Decidable (IsLong n) := inferInstanceAs (Decidable (_ ∧ _))

/-- The value of a number, however long it is. -/
def denoted (n : Numeral) : Json :=
  if IsWhole n then .int (Text.signed n.negative (ofDigits n.whole))
  else
    .float (.ofDecimal n.negative (n.whole ++ n.fraction).length
      ⟨ofDigits (n.whole ++ n.fraction), n.scale⟩)

/-! ## Strings -/

/-- The pieces of a literal from behind its opening quote, the closing quote included. -/
inductive Pieces : Text → List StringLiteral.Piece → Text → Prop
  | close (rest : Text) : Pieces (.ofChar '"' :: rest) [] rest
  | char {c : CodePoint} {ps : List StringLiteral.Piece} {t rest : Text} :
      c ≠ '"' → c ≠ '\\' → 0x20 ≤ c.val → Pieces t ps rest →
      Pieces (c :: t) (.char c :: ps) rest
  | escape {l e : CodePoint} {ps : List StringLiteral.Piece} {t rest : Text} :
      StringLiteral.escaped? l = some e → Pieces t ps rest →
      Pieces (.ofChar '\\' :: l :: t) (.char e :: ps) rest
  | unit {h₁ h₂ h₃ h₄ u : CodePoint} {ps : List StringLiteral.Piece} {t rest : Text} :
      StringLiteral.unit? h₁ h₂ h₃ h₄ = some u → Pieces t ps rest →
      Pieces (.ofChar '\\' :: .ofChar 'u' :: h₁ :: h₂ :: h₃ :: h₄ :: t) (.unit u :: ps) rest

inductive Literal : Text → Text → Text → Prop
  | mk {ps : List StringLiteral.Piece} {t rest : Text} :
      Pieces t ps rest → Literal (.ofChar '"' :: t) (StringLiteral.assemble ps) rest

/-! ## Values -/

/-- The values that hold no others. -/
inductive Atom (d : Dialect) : Text → Json → Text → Prop
  | null (rest : Text) : Atom d (Text.of "null" ++ rest) .null rest
  | true (rest : Text) : Atom d (Text.of "true" ++ rest) (.bool true) rest
  | false (rest : Text) : Atom d (Text.of "false" ++ rest) (.bool false) rest
  | constant (k : Constant) (rest : Text) :
      d.constants = Bool.true → Atom d (k.word ++ rest) (.float k.value) rest
  | number {n : Numeral} {t rest : Text} :
      Number t n rest → (d.longNumbers = Bool.true ∨ ¬ IsLong n) → Atom d t (denoted n) rest
  | string {s t rest : Text} : Literal t s rest → Atom d t (.str s) rest

section
variable (part : Text → Json → Text → Prop)

/-- The values of an array from its first one on, the closing bracket included. -/
inductive Items : Text → List Json → Text → Prop
  | last {v : Json} {t t₁ rest : Text} :
      part t v t₁ → Spaces t₁ (.ofChar ']' :: rest) → Items t [v] rest
  | more {v : Json} {vs : List Json} {t t₁ t₂ t₃ rest : Text} :
      part t v t₁ → Spaces t₁ (.ofChar ',' :: t₂) → Spaces t₂ t₃ → Items t₃ vs rest →
      Items t (v :: vs) rest

/-- The name of a member and its colon. -/
inductive Name : Text → Text → Text → Prop
  | mk {s t t₁ t₂ rest : Text} :
      Literal t s t₁ → Spaces t₁ (.ofChar ':' :: t₂) → Spaces t₂ rest → Name t s rest

/-- The members of an object from its first one on, the closing brace included. -/
inductive Members : Text → List (Text × Json) → Text → Prop
  | last {s : Text} {v : Json} {t t₁ t₂ rest : Text} :
      Name t s t₁ → part t₁ v t₂ → Spaces t₂ (.ofChar '}' :: rest) → Members t [(s, v)] rest
  | more {s : Text} {v : Json} {ms : List (Text × Json)} {t t₁ t₂ t₃ t₄ rest : Text} :
      Name t s t₁ → part t₁ v t₂ → Spaces t₂ (.ofChar ',' :: t₃) → Spaces t₃ t₄ →
      Members t₄ ms rest → Members t ((s, v) :: ms) rest

/-- Arrays and objects. -/
inductive Compound : Text → Json → Text → Prop
  | emptyArray {t rest : Text} :
      Spaces t (.ofChar ']' :: rest) → Compound (.ofChar '[' :: t) (.arr []) rest
  | array {vs : List Json} {t t₁ rest : Text} :
      Spaces t t₁ → Items part t₁ vs rest → Compound (.ofChar '[' :: t) (.arr vs) rest
  | emptyObject {t rest : Text} :
      Spaces t (.ofChar '}' :: rest) → Compound (.ofChar '{' :: t) (.obj []) rest
  | object {ms : List (Text × Json)} {t t₁ rest : Text} :
      Spaces t t₁ → Members part t₁ ms rest →
      Compound (.ofChar '{' :: t) (.obj (ofPairs ms)) rest

/-- The complete values that stand before one more value of an array. -/
inductive ItemsBefore : Text → Text → Prop
  | here (t : Text) : ItemsBefore t t
  | skip {v : Json} {t t₁ t₂ t₃ rest : Text} :
      part t v t₁ → Spaces t₁ (.ofChar ',' :: t₂) → Spaces t₂ t₃ → ItemsBefore t₃ rest →
      ItemsBefore t rest

/-- The complete members that stand before the value of one more member, and its name. -/
inductive MembersBefore : Text → Text → Prop
  | here {s t rest : Text} : Name t s rest → MembersBefore t rest
  | skip {s : Text} {v : Json} {t t₁ t₂ t₃ t₄ rest : Text} :
      Name t s t₁ → part t₁ v t₂ → Spaces t₂ (.ofChar ',' :: t₃) → Spaces t₃ t₄ →
      MembersBefore t₄ rest → MembersBefore t rest

end

/-- Values nested at most so deep: an array or an object takes one level, also if it is empty. -/
def Value (d : Dialect) : Nat → Text → Json → Text → Prop
  | 0, t, v, rest => Atom d t v rest
  | n + 1, t, v, rest => Atom d t v rest ∨ Compound (Value d n) t v rest

/-- A text that is a document of a value nested at most so deep. -/
def Document (d : Dialect) (n : Nat) (t : Text) (v : Json) : Prop :=
  ∃ t₁ t₂, Spaces t t₁ ∧ Value d n t₁ v t₂ ∧ Spaces t₂ []

/-! ## Documents that are not read to the end -/

/-- A text in which reading comes to a place where `stop` holds, with so many levels to spend at the
beginning: nothing but complete parts stand before that place in the containers around it. -/
inductive Reaches (d : Dialect) (stop : Nat → Text → Prop) : Nat → Text → Prop
  | here {n : Nat} {t : Text} : stop n t → Reaches d stop n t
  | array {n : Nat} {t t₁ t₂ : Text} :
      Spaces t t₁ → ItemsBefore (Value d n) t₁ t₂ → Reaches d stop n t₂ →
      Reaches d stop (n + 1) (.ofChar '[' :: t)
  | object {n : Nat} {t t₁ t₂ : Text} :
      Spaces t t₁ → MembersBefore (Value d n) t₁ t₂ → Reaches d stop n t₂ →
      Reaches d stop (n + 1) (.ofChar '{' :: t)

/-- The bracket that a container starts with. -/
def opening : Container → CodePoint
  | .array => '['
  | .object => '{'

/-- A container of this kind opens where no more levels are left. -/
def OpensTooDeep (kind : Container) (n : Nat) (t : Text) : Prop :=
  n = 0 ∧ ∃ rest, t = opening kind :: rest

/-- A constant stands here. -/
def IsConstant (k : Constant) (_ : Nat) (t : Text) : Prop := ∃ rest, t = k.word ++ rest

end JsonRpc.Json.Grammar
