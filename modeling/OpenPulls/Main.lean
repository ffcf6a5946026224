import Std.Async.DNS
import Std.Async.TCP
import OpenPulls.Cli.Program
import OpenPulls.Http.Message

/-!
# The command line

Does what the plan of the command line says: sends its requests, prints the listing, and reports
what went wrong. Only plain connections can be opened.
-/

namespace OpenPulls.Main

open Std.Async Std.Net

/-- The addresses of a host. -/
def addresses : Host → IO (Array IPAddr)
  | .domain name => (DNS.getAddrInfo (String.ofList name) "").block
  | .ipv4 n =>
    let byte (i : Nat) : UInt8 := (n / Nat.pow 256 i).toUInt8
    return #[.v4 (.ofParts (byte 3) (byte 2) (byte 1) (byte 0))]
  | .ipv6 pieces =>
    let piece (i : Nat) : UInt16 := (pieces.getD i 0).toUInt16
    return #[.v6 (.ofParts (piece 0) (piece 1) (piece 2) (piece 3) (piece 4) (piece 5) (piece 6)
      (piece 7))]

/-- A host and port as the network knows them. -/
def socketAddress (port : UInt16) : IPAddr → SocketAddress
  | .v4 a => .v4 ⟨a, port⟩
  | .v6 a => .v6 ⟨a, port⟩

/-- Everything that arrives until the connection is closed. -/
partial def receive (socket : TCP.Socket.Client) (before : List UInt8) : IO (List UInt8) := do
  match ← (socket.recv? 65536).block with
  | none => return before
  | some bytes => if bytes.isEmpty then return before else receive socket (before ++ bytes.toList)

/-- Opens a connection to the server of an address. -/
def connect (u : Url) : IO TCP.Socket.Client := do
  match u.scheme == "http".toList, u.host?, u.port? with
  | true, some host, some port =>
    for a in ← addresses host do
      let socket ← TCP.Socket.Client.mk
      try
        (socket.connect (socketAddress port.toUInt16 a)).block
        return socket
      catch _ => continue
    throw (IO.userError "no connection")
  | _, _, _ => throw (IO.userError "no plain connection")

/-- Sends a request over an open connection. -/
def exchange (socket : TCP.Socket.Client) (r : Http.Request) : IO Http.Reply := do
  try
    (socket.send r.message.toUTF8).block
    return Http.replyOf (← receive socket [])
  catch _ => return .closed

/-- Sends a request over a connection of its own. -/
def send (verbose : Bool) (r : Http.Request) : IO Http.Reply := do
  if verbose then IO.eprintln r.line
  match ← (connect r.url).toBaseIO with
  | .ok socket => exchange socket r
  | .error _ => return .refused

/-- Why a listing has no result. -/
inductive Stop where
  | failed (failure : Failure)
  | gaveUp

/-- Reads pages over the network. -/
def reader (client : Rest.Client) (verbose : Bool) : PageReader (ExceptT Stop IO) where
  page r := do
    match ← (client.fetch (send verbose) r : IO _) with
    | .ok page => return page
    | .error cause => throw (.failed ⟨r.resource, cause⟩)
  giveUp := throw .gaveUp

/-- The variables of the environment that stand for options. -/
def environment : IO (List (String × String)) := do
  let names := [.baseUrl, .username, .password, .project, .repo].filterMap Cli.Setting.envName?
  let values ← names.mapM fun name => return (← IO.getEnv name).map (name, ·)
  return values.filterMap id

/-- Carries a plan out. -/
def perform : Cli.Plan → IO Cli.Ending
  | .stop ending => return ending
  | .list options selection client => do
    let reader := reader client options.verbose
    match ← (Listing.list reader Listing.maxPages selection).run with
    | .ok ps => return .listed options.format ps
    | .error (.failed failure) => return .failed failure
    | .error .gaveUp => throw (IO.userError "the server repeats its pages")

/-- Says what went wrong. -/
def report (ending : Cli.Ending) : IO Unit := do
  if ending.code = 2 then IO.eprint Cli.usageText
  if let some line := ending.errorLine? then
    IO.eprintln line
    if let some reason := ending.reason? then
      IO.eprintln ("\nCaused by:\n    " ++ reason)

end OpenPulls.Main

/-- Lists the open pull requests of a repository with the commits to deploy. -/
def main (args : List String) : IO UInt32 := do
  let ending ← OpenPulls.Main.perform (OpenPulls.Cli.plan args (← OpenPulls.Main.environment))
  IO.print ending.output
  OpenPulls.Main.report ending
  return ending.code.toUInt32
