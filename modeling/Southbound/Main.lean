import Southbound.Dispatch.Recording
import Southbound.Network.News

/-!
# The command line

Serves the switch at the other end of standard input and output, as a program that listens for
connections hands it over. The arguments are the endpoints listened on; what happens to switches
is told on standard error.
-/

namespace Southbound.CommandLine

/-- The settings for some arguments, or why they are no endpoints. -/
def settings (args : List String) : Except String Settings := do
  if args.isEmpty then return {}
  match args.mapM Endpoint.parse? with
  | some endpoints => return ({} : Settings).withListenAddresses endpoints
  | none => throw "Bad listen address: invalid socket address syntax"

/-- The listener whose calls are told. -/
def reporter : Listener where
  name := "reporter"

/-- A network with one connection, on which nothing has arrived yet. -/
def start (s : Settings) : Except Failure (Network × LinkId) :=
  let (n, _) := (Network.new s .all).withListeners fun ls => ls.addDatapath reporter 0
  n.connect "stdin" none

/-- Takes in what has arrived, `none` at the end of the stream, runs everything, and then looks
for what has been open or silent for too long. -/
def feed (n : Network) (l : LinkId) (arrived : Option Bytes) (now : Nat) : Network :=
  let n := { n with controller := { n.controller with clock := now } }
  let (n, _) := n.act l fun p => match arrived with
    | some bs => p.write bs
    | none => (p.leave, true)
  ((n.settle.sweep .requests).sweep .idle).settle

def eventLine (e : DatapathEvent) : String := e.datapath.text ++ " " ++ e.kind.label

partial def serve (input output error : IO.FS.Stream) (n : Network) (l : LinkId) : IO Unit := do
  let chunk ← input.read 65536
  -- an empty read is the end of the stream
  let arrived := if chunk.isEmpty then none else some chunk.toList
  let n' := feed n l arrived (← IO.monoMsNow)
  let news := n.newsSince n'
  for s in news.sightings do
    for frame in s.frames do
      output.write ⟨frame.toBytes.toArray⟩
  output.flush
  for e in Recording.ofDeliveries reporter.name news.deliveries do
    error.putStrLn (eventLine e)
  if arrived.isSome && news.sightings.all fun s => !s.closes then
    serve input output error n' l

end Southbound.CommandLine

open Southbound in
/-- Serves one switch. Exits with 2 if an argument is no endpoint. -/
def main (args : List String) : IO UInt32 := do
  let error ← IO.getStderr
  match CommandLine.settings args with
  | .error message =>
    error.putStrLn message
    return 2
  | .ok settings =>
    match CommandLine.start settings with
    | .error e =>
      error.putStrLn ("Could not start: " ++ e.message)
      return 1
    | .ok (n, l) =>
      CommandLine.serve (← IO.getStdin) (← IO.getStdout) error n l
      return 0
