import OpenPulls.Http.Status
import OpenPulls.Url.Basic

/-!
# Servers

A server answers HTTP requests. Its answers may depend on everything that it was asked before, so
a server is a step function on states of its own, as a source of pages is.
-/

namespace OpenPulls.Http

/-- A request for what an address names. -/
structure Request where
  url : Url
  /-- Names in lower case, with values. -/
  headers : List (String × String)
  /-- The address that a redirect led here from, which one more header gives. -/
  referer : Option String

/-- The request as one line, without the version of the protocol. -/
def Request.line (r : Request) : String := "GET " ++ String.ofList r.url.target

/-- An answer to a request. -/
structure Response where
  status : Nat
  /-- Where to go instead. -/
  location : Option String
  body : List UInt8
  /-- The body is as long as was announced. -/
  complete : Bool

/-- What comes of a request. -/
inductive Reply where
  /-- No connection was opened, so the request was not seen. -/
  | refused
  /-- The connection was closed without an answer. -/
  | closed
  | response (r : Response)

/-- A request with its reply. -/
structure Exchange where
  request : Request
  reply : Reply

/-- The request was seen by a server. -/
def Exchange.isSeen (e : Exchange) : Bool :=
  match e.reply with
  | .refused => false
  | .closed | .response _ => true

/-- Answers requests. The state holds what the answers depend on. -/
abbrev Server (ς : Type) := ς → Request → Reply × ς

/-- The server that no connection reaches. -/
def unreachable {ς : Type} : Server ς := fun state _ => (.refused, state)

/-- A server with everything that was sent to it, in order. -/
structure Wire (ς : Type) where
  server : ς
  log : List Exchange

/-- Sends a request. -/
def Wire.send {ς : Type} (server : Server ς) (r : Request) : StateM (Wire ς) Reply := fun w =>
  let (reply, state) := server w.server r
  (reply, ⟨state, w.log ++ [⟨r, reply⟩]⟩)

/-- The requests that were seen. -/
def Wire.seen {ς : Type} (w : Wire ς) : List Request :=
  (w.log.filter Exchange.isSeen).map (·.request)

end OpenPulls.Http
