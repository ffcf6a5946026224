import OpenPulls.Http.Server

/-!
# Servers with prepared answers

A server at one place that answers from a list of routes. A request takes the first route with
exactly its target, and a route is used once, unless it is marked to be repeated. What no route
fits is not found. Requests that go to another place do not reach the server.
-/

namespace OpenPulls.Http

/-- What goes wrong while an answer is sent. -/
inductive RouteFault where
  /-- The connection is closed without an answer. -/
  | closes
  /-- The body ends too early. -/
  | cutsShort
deriving Repr, DecidableEq

/-- A prepared answer. -/
structure Route where
  target : String
  status : Nat
  location : Option String
  body : List UInt8
  fault : Option RouteFault
  /-- The route is not used up. -/
  repeats : Bool

namespace Route

/-- What the route replies. -/
def reply (r : Route) : Reply :=
  match r.fault with
  | some .closes => .closed
  | some .cutsShort => .response ⟨r.status, r.location, r.body, false⟩
  | none => .response ⟨r.status, r.location, r.body, true⟩

/-- The reply when no route fits. -/
def notFound : Reply := .response ⟨404, none, [], true⟩

/-- The reply of the first route that fits, with the routes that are left. -/
def take (target : String) : List Route → Reply × List Route
  | [] => (notFound, [])
  | r :: rest =>
    if r.target = target then (r.reply, if r.repeats then r :: rest else rest)
    else
      let (reply, left) := take target rest
      (reply, r :: left)

/-- The server with the given routes at a host and port. -/
def server (host : Host) (port : Nat) : Server (List Route) := fun routes r =>
  if r.url.host? = some host ∧ r.url.port? = some port then
    take (String.ofList r.url.target) routes
  else (.refused, routes)

end Route

end OpenPulls.Http
