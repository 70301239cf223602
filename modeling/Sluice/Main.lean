import Sluice.Server

/-!
# The program

`main` starts the server of the environment and serves requests that come as lines, each a method and a
target. Responses go to the output.
-/

namespace Sluice.Console

/-- The environment of the process. -/
def environment : IO ServerConfig.Environment := do
  let host ← IO.getEnv (Variable.name .host)
  let port ← IO.getEnv (Variable.name .port)
  let flag ← IO.getEnv (Variable.name .awaitExplicitShutdown)
  let timeout ← IO.getEnv (Variable.name .drainTimeoutSecs)
  pure fun v =>
    match v with
    | .host => host
    | .port => port
    | .awaitExplicitShutdown => flag
    | .drainTimeoutSecs => timeout

/-- A response as lines. -/
def lines (r : Http.Response) : List String :=
  let head (name : String) (value : Option String) := value.toList.map fun v => name ++ ": " ++ v
  [toString r.status] ++ head "allow" r.allow ++ head "content-type" r.contentType ++
    head "retry-after" r.retryAfter ++ ["", r.body]

/-- Serves requests until the server has ended or there are no more. -/
partial def serve (input output : IO.FS.Stream) (s : Server) : IO Unit := do
  if s.ended then return
  let line ← input.getLine
  if line.isEmpty then return
  let words := (line.trimAscii.toString.splitOn " ").filter fun w => !w.isEmpty
  let request := match words with
    | [method, target] => Http.Request.ofParts? method target
    | _ => none
  match request with
  | none => serve input output s
  | some q =>
    let (s, r) := s.send q
    for text in (r.map lines).getD [] do output.putStrLn text
    output.flush
    serve input output s

end Sluice.Console

/-- Starts the server. -/
def main : IO UInt32 := do
  match Sluice.Server.start "" (← Sluice.Console.environment) with
  | .error e =>
    IO.eprintln ("Error: " ++ e.message)
    return 1
  | .ok s =>
    Sluice.Console.serve (← IO.getStdin) (← IO.getStdout) s
    return 0
