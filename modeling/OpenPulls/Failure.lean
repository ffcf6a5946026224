import OpenPulls.Http.Status
import OpenPulls.Json.Error
import OpenPulls.Resource

/-!
# Failures

A page request fails for one of four causes: no whole answer was obtained, the server answered
that it will not serve the page, what it served is no page, or the source of pages says so itself.
A failure names the resource that was asked for.
-/

namespace OpenPulls

/-- Why no whole answer was obtained. -/
inductive TransportFault where
  /-- The address cannot be requested. -/
  | notRequestable
  /-- The server sent the request on too often. -/
  | tooManyRedirects
  /-- The connection was not opened, or was closed before the answer was complete. -/
  | interrupted
deriving Repr, DecidableEq

/-- Why a page request fails. -/
inductive Cause where
  | transport (fault : TransportFault)
  /-- The server answers with a status code that is no success. -/
  | status (code : Nat)
  /-- The body of the answer is no page. -/
  | malformed (error : Json.Error)
  /-- The source of pages gives its own reason. -/
  | other (text : String)

/-- A failed page request. -/
structure Failure where
  resource : Resource
  cause : Cause

/-! ## Wording -/

/-- The wording of a fault. It says which kind of fault it is; what the library for HTTP says of the
address and of the connection is left out. -/
def TransportFault.text : TransportFault → String
  | .notRequestable => "the address cannot be requested"
  | .tooManyRedirects => "too many redirects"
  | .interrupted => "the connection failed"

/-- The wording of a cause. -/
def Cause.text : Cause → String
  | .transport fault => "transport error: " ++ fault.text
  | .status code => "server returned " ++ Http.statusText code
  | .malformed error => "malformed response: " ++ error.text
  | .other text => text

namespace Failure

/-- What was asked for, and why it failed. -/
def message (f : Failure) : String :=
  "Error listing " ++ f.resource.description ++ ": " ++ f.cause.text

/-- The answer was no page. -/
def isMalformed (f : Failure) : Bool :=
  match f.cause with
  | .malformed _ => true
  | _ => false

end Failure

end OpenPulls
