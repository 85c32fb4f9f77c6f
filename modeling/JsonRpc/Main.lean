/-
The command line.

Serves the calculator on standard input and output: every line is a message, and every reply is a
line. The environment gives the route, which is checked even though nobody asks for a path here, and
says whether the server is strict about arities.
-/
import JsonRpc.Server

namespace JsonRpc.Main

/-- A text as a string; a surrogate, which replies do not have, would be left out. -/
def toString (t : Text) : String := String.ofList (t.map fun c => Char.ofNat c.val)

/-- The server with the calculator published. -/
def calculatorServer (env : Environment) : Except RouteError Server := do
  let service := (Calculator.service fun op => (⟨.calculate op, 0⟩ : Handler)).1
  return ((← Server.ofEnvironment env).publish service).1

/-- The reply to a line, or what keeps it from having one. -/
def reply (s : Server) (line : String) : Except String String :=
  match ((s.dispatcher.serveMessage (.text (Text.of line))).run {}).1 with
  | .error a => .error (toString a.message)
  | .ok r => (r.write.map toString).mapError fun e => toString e.message

/-- Answers lines until there are no more. -/
partial def loop (s : Server) (input output errors : IO.FS.Stream) : IO Unit := do
  let line ← input.getLine
  if line.isEmpty then return ()
  match reply s line with
  | .ok t => output.putStrLn t
  | .error e => errors.putStrLn e
  output.flush
  loop s input output errors

/-- The variables that the server is configured by, as far as they are set. -/
def environment : IO Environment :=
  ["WEBBRIDGE_PATH", "WEBBRIDGE_STRICT_ARITY"].filterMapM fun name => do
    return (← IO.getEnv name).map fun v => (Text.of name, Text.of v)

end JsonRpc.Main

def main : IO UInt32 := do
  let errors ← IO.getStderr
  match JsonRpc.Main.calculatorServer (← JsonRpc.Main.environment) with
  | .error e =>
    errors.putStrLn (JsonRpc.Main.toString e.message)
    return 1
  | .ok s =>
    JsonRpc.Main.loop s (← IO.getStdin) (← IO.getStdout) errors
    return 0
