/-
Handlers.

A stock of handlers to build services from: some answer with their parameters or with a fixed value,
some fail on purpose, some count their calls, some are methods of the calculator, and one dispatches
its first parameter as a message to the dispatcher that called it.

Running handlers has effects: counters move and lines are logged. A message inside a parameter is
shorter than the message that carried it, so the length of the first parameter bounds how deep
dispatching can nest.
-/
import JsonRpc.Calculator

namespace JsonRpc

namespace Handler

/-- What a handler does. -/
inductive Behaviour where
  /-- Answers with its parameters. -/
  | echo
  /-- Answers with the number of its parameters. -/
  | length
  | const (v : Json)
  /-- Answers with its parameters doubled. -/
  | double
  /-- Answers with its first parameter. -/
  | first
  /-- Answers with the document in its first parameter. -/
  | parse
  /-- Answers with a value that is of no JSON type. -/
  | foreign
  /-- Answers with an array that contains itself. -/
  | circular
  /-- Answers with the number of its calls. -/
  | count
  | fail (f : Failure)
  | calculate (op : Calculator.Operation)
  /-- Answers with the response to the message in its first parameter. -/
  | reenter
deriving DecidableEq

end Handler

/-- A handler. Each has a serial number of its own, by which it counts. -/
structure Handler where
  behaviour : Handler.Behaviour
  serial : Nat
deriving DecidableEq

namespace Handler

/-- The word for the type of a value in messages. -/
def typeWord : Json → Text
  | .null => Text.of "NoneType"
  | .bool _ => Text.of "bool"
  | .int _ => Text.of "int"
  | .float _ => Text.of "float"
  | .str _ => Text.of "str"
  | .arr _ => Text.of "list"
  | .obj _ => Text.of "dict"

/-- The failure for want of a first parameter. -/
def noParameter : Failure := .other (Text.of "list index out of range")

/-- The failure of a parameter that should have been a text. -/
def notText (v : Json) : Failure :=
  .other (Text.of "the JSON object must be str, bytes or bytearray, not " ++ typeWord v)

/-- A value times two: numbers are doubled, a truth value being 0 or 1, and strings and arrays
repeated. -/
def twice : Json → Except Failure Json
  | .bool b => .ok (.int (if b then 2 else 0))
  | .int n => .ok (.int (n * 2))
  | .float x => .ok (.float (x.add x))
  | .str t => .ok (.str (t ++ t))
  | .arr vs => .ok (.arr (vs ++ vs))
  | v => .error (.other (Text.of "unsupported operand type(s) for *: '" ++ typeWord v
      ++ Text.of "' and 'int'"))

/-- The document in a text. -/
def parse (t : Text) : Outcome :=
  match Json.readWith true handlerLimit t with
  | .ok v => .value v
  | .error (.tooDeep kind) =>
    .failed (.other (Json.ReadError.message (.tooDeep kind)))
  | .error e => .failed (.badValue e.message)

/-- What the first parameter comes to if it has to be a text. -/
def withText (params : List Json) (use : Text → Outcome) : Outcome :=
  match params with
  | [] => .failed noParameter
  | .str t :: _ => use t
  | v :: _ => .failed (notText v)

/-- The parameters doubled, and how many they are. -/
def doubled (params : List Json) : Outcome :=
  match params.mapM twice with
  | .ok vs => .value (.obj [(Text.of "count", .int params.length), (Text.of "doubled", .arr vs)])
  | .error f => .failed f

/-- What has changed by running handlers: the calls of each counting handler, and the log. -/
structure World where
  tallies : List (Nat × Nat) := []
  log : Log := []

abbrev Run := StateM World

/-- Adds lines to the log. -/
def say (lines : Log) : Run Unit := modify fun w => { w with log := w.log ++ lines }

/-- The tally of a serial number. -/
def World.tally (w : World) (serial : Nat) : Nat :=
  ((w.tallies.find? fun e => e.1 = serial).map Prod.snd).getD 0

/-- Counts a call and gives the new tally. -/
def tick (serial : Nat) : Run Nat := do
  let n := (← get).tally serial + 1
  modify fun w => { w with tallies := (serial, n) :: w.tallies.filter fun e => e.1 ≠ serial }
  return n

/-- Runs a handler; `dispatch` runs the message in a parameter. -/
def runWith (dispatch : Text → Run Outcome) (h : Handler) (params : List Json) : Run Outcome :=
  match h.behaviour with
  | .echo =>
    return .value (.obj [(Text.of "result", .str (Text.of "success")),
      (Text.of "input", .arr params)])
  | .length => return .value (.int params.length)
  | .const v => return .value v
  | .double => return doubled params
  | .first => return (params.head?.map Outcome.value).getD (.failed noParameter)
  | .parse => return withText params parse
  | .foreign => return .unwritable (Text.of "Object of type object is not JSON serializable")
  | .circular => return .unwritable (Text.of "Circular reference detected")
  | .count => return .value (.int (← tick h.serial))
  | .fail f => return .failed f
  | .calculate op => do
    let (log, result) := op.call params
    say log
    return Calculator.outcome result
  | .reenter =>
    match params with
    | .str t :: _ => dispatch t
    | _ => return withText params fun _ => .value .null

/-- What a message in a parameter comes to if its dispatch ends without a reply. -/
def aborted (a : Abort) : Outcome := .failed (.other a.message)

/-- Runs a handler of a dispatcher where messages in parameters are nested at most `levels` deep. -/
def run (d : Dispatcher Handler) : (levels : Nat) → Handler → List Json → Run Outcome
  | 0 => runWith fun _ => return aborted (.tooDeep .object)
  | levels + 1 => runWith fun t =>
    match d.receive (.text t) with
    | .error a => return aborted a
    | .ok dispatched => do
      match ← dispatched.run (run d levels) with
      | .error a => return aborted a
      | .ok a =>
        say a.log
        return .value a.response.wire

/-- How deep the messages in parameters can be nested. -/
def levels : List Json → Nat
  | .str t :: _ => t.length + 1
  | _ => 0

end Handler

namespace Dispatched

/-- Completes a dispatched message by running its handler. -/
def complete (d : Dispatcher Handler) (dispatched : Dispatched Handler) :
    Handler.Run (Except Abort Response) := do
  match ← dispatched.run fun h params => Handler.run d (Handler.levels params) h params with
  | .error a => return .error a
  | .ok a =>
    Handler.say a.log
    return .ok a.response

end Dispatched

namespace Dispatcher

/-- The response to a request. -/
def serve (d : Dispatcher Handler) (r : Request) : Handler.Run (Except Abort Response) :=
  (d.request r).complete d

/-- The response to a message. -/
def serveMessage (d : Dispatcher Handler) (m : Message) :
    Handler.Run (Except Abort Response) := do
  match d.receive m with
  | .error a => return .error a
  | .ok dispatched => dispatched.complete d

end Dispatcher

end JsonRpc
