/-
The calculator.

Two methods on numbers: `add` sums all its parameters from zero on, from left to right, and `sub`
takes the second parameter from the first and ignores the rest. Whole numbers are added exactly. As
soon as a whole number meets a double-precision one it is converted, which fails if it is out of
range. A parameter is only looked at when its turn comes; a truth value is no number.
-/
import JsonRpc.Dispatcher

namespace JsonRpc.Calculator

/-- A parameter or a result. -/
inductive Number where
  | int (n : Int)
  | float (x : Binary64)
deriving DecidableEq

def Number.toJson : Number → Json
  | .int n => .int n
  | .float x => .float x

/-- Why there is no result. -/
inductive Error where
  /-- The parameters are refused. -/
  | refused (e : RpcError)
  /-- A whole number is too large for a double-precision one. -/
  | overflow
  /-- A parameter cannot be written to the log or into an error. -/
  | unwritable (e : Json.WriteError)
deriving DecidableEq

def Error.message : Error → Text
  | .refused e => e.message
  | .overflow => Text.of "int too large to convert to float"
  | .unwritable e => e.message

/-- How deep a parameter of `sub` may be nested to be put into an error. The error is made one call
further down than the line for the log. -/
def subLimit : Nat := handlerLimit - 1

/-- How deep a parameter of `add` may be nested to be put into an error. The summing of the parameters
is one more call. -/
def addLimit : Nat := subLimit - 1

/-- The error of a parameter that is no number, with its text if it is nested at most `levels` deep. -/
def notNumber (levels : Nat) (v : Json) : Error :=
  match v.writeNested .spaced levels with
  | .ok t =>
    .refused ⟨.invalidParams, Text.of "Expected a number, got " ++ t,
      .obj [(Text.of "value", v)]⟩
  | .error e => .unwritable e

/-- The error of too few parameters. -/
def tooFew (count : Nat) : Error :=
  .refused ⟨.invalidParams, Text.of "sub expects 2 params, got " ++ Text.ofNat count,
    .obj [(Text.of "expected", .int 2), (Text.of "received", .int count)]⟩

/-- The number that a parameter is. -/
def operand (levels : Nat) : Json → Except Error Number
  | .int n => .ok (.int n)
  | .float x => .ok (.float x)
  | v => .error (notNumber levels v)

/-- A whole number as a double-precision one. -/
def toFloat (n : Int) : Except Error Binary64 := (Binary64.ofInt? n).elim (.error .overflow) .ok

/-- Combines two numbers: exactly if both are whole, otherwise in double precision. -/
def combine (exact : Int → Int → Int) (rounded : Binary64 → Binary64 → Binary64) :
    Number → Number → Except Error Number
  | .int m, .int n => .ok (.int (exact m n))
  | .int m, .float y => do return .float (rounded (← toFloat m) y)
  | .float x, .int n => do return .float (rounded x (← toFloat n))
  | .float x, .float y => .ok (.float (rounded x y))

/-- A running total and one more parameter. -/
def accumulate (total : Number) (v : Json) : Except Error Number := do
  combine (· + ·) Binary64.add total (← operand addLimit v)

/-- The sum of all parameters. -/
def add (params : List Json) : Except Error Number := params.foldlM accumulate (.int 0)

/-- The difference of the first two parameters. -/
def sub : List Json → Except Error Number
  | a :: b :: _ => do
    let x ← operand subLimit a
    let y ← operand subLimit b
    combine (· - ·) Binary64.sub x y
  | params => .error (tooFew params.length)

/-- The methods of the calculator. -/
inductive Operation where
  | add
  | sub
deriving DecidableEq

namespace Operation

def name : Operation → Text
  | .add => Text.of "add"
  | .sub => Text.of "sub"

def apply : Operation → List Json → Except Error Number
  | .add => Calculator.add
  | .sub => Calculator.sub

/-- Logs the call, then makes it. -/
def call (op : Operation) (params : List Json) : Log × Except Error Number :=
  match (Json.arr params).writeNested .spaced handlerLimit with
  | .error e => ([], .error (.unwritable e))
  | .ok t =>
    ([⟨.info, .calculator, op.name ++ Text.of "(" ++ t ++ Text.of ")"⟩], op.apply params)

end Operation

/-- What a call comes to as the run of a handler. -/
def outcome : Except Error Number → Outcome
  | .ok n => .value n.toJson
  | .error (.refused e) => .failed (.rpc e)
  | .error .overflow => .failed (.other Error.overflow.message)
  | .error (.unwritable .tooDeep) => .failed (.other (Json.WriteError.message .tooDeep))
  | .error (.unwritable e) => .failed (.badValue e.message)

/-- The namespace of the calculator. -/
def space : Namespace := ⟨Text.of "org.rdk.Calculator", by decide⟩

/-- The calculator as a service whose handlers are made from its operations, and the lines that
making it adds to the log. -/
def service {H : Type} (handler : Operation → H) : Service H × Log :=
  let entry (op : Operation) : Method H := ⟨1, handler op, true⟩
  let register (state : Service H × Log) (op : Operation) : Service H × Log :=
    match state.1.register op.name (entry op) with
    | .ok r => (r.holder, state.2 ++ r.log)
    | .error _ => state
  [Operation.add, .sub].foldl register (⟨space, []⟩, [])

end JsonRpc.Calculator
