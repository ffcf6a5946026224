import OpenPulls.Http.Server
import OpenPulls.Listing.Run
import OpenPulls.Rest.Envelope
import OpenPulls.Rest.Root
import OpenPulls.Text.Base64

/-!
# The client

A client turns page requests into HTTP requests below the root of the interface. It follows
redirects, but not without end, and reads the body of the last answer as a page. All of it works
in any monad that can send a request; `Client.source` makes a server a source of pages.
-/

namespace OpenPulls.Rest

open OpenPulls.Text OpenPulls.Http

/-- A user name and a password. -/
structure Credentials where
  username : String
  password : String
deriving Repr, DecidableEq

/-- A client of one server. -/
structure Client where
  /-- The root of the interface. -/
  root : String
  credentials : Option Credentials
deriving Repr, DecidableEq

/-! ## Addresses -/

/-- An identifier as a segment of a path. -/
def segment (identifier : String) : List Char :=
  Percent.encode Percent.isUnreserved identifier.toList

/-- A number in base ten. -/
def decimal (n : Nat) : List Char := Nat.toDigits 10 n

/-- The path of a repository below the root. -/
def repositoryPath (r : Repository) : List Char :=
  "/api/1.0/projects/".toList ++ segment r.project ++ "/repos/".toList ++ segment r.slug

/-- The path of a resource below the root. -/
def path : Resource → List Char
  | .pullRequests r => repositoryPath r ++ "/pull-requests".toList
  | .buildStatuses commit => "/build-status/1.0/commits/".toList ++ segment commit
  | .commits r number =>
    repositoryPath r ++ "/pull-requests/".toList ++ decimal number.toNat ++ "/commits".toList

/-- What a page request says in its query. -/
def pairs (r : PageRequest) : List (List Char × List Char) :=
  ("limit".toList, decimal pageLimit)
    :: (r.start.map fun start => ("start".toList, decimal start.toNat)).toList

/-- The address of a page. -/
def Client.url (c : Client) (r : PageRequest) : Except Url.Fault Url := do
  return (← Url.parse (c.root.toList ++ path r.resource)).addQuery (pairs r)

/-! ## Requests -/

/-- The header for a user name and a password. -/
def basic (username password : List Char) : String × String :=
  ("authorization",
    "Basic " ++ String.ofList (Base64.encode (Utf8.encode (username ++ ':' :: password))))

/-- A part of an address without percent-encoding, if that is text. -/
def plain? (part : List Char) : Option (List Char) :=
  Utf8.decodeText? (Percent.decode (Utf8.encode part))

/-- The header for the user that an address names. -/
def userHeader? (a : Url.Authority) : Option (String × String) := do
  let user ← plain? a.user
  let password := if a.password.isEmpty then none else plain? a.password
  if user.isEmpty && password.isNone then none else some (basic user (password.getD []))

/-- The headers of every request: JSON is asked for, and checks against forged requests are turned
off. -/
def commonHeaders : List (String × String) :=
  [("accept", "application/json"), ("user-agent", "bitbucket-pr-discovery/0.1.0"),
    ("x-atlassian-token", "no-check"), ("x-requested-with", "XMLHttpRequest")]

/-- The greatest length of an address that is requested. -/
def maxAddress : Nat := 65534

/-- May stand in a host that is requested. -/
def inPlace (c : Char) : Bool := !(['"', '\x60', '\x7b', '\x7d'].contains c)

/-- The address can be written into a request. -/
def isWritable (u : Url) : Bool :=
  (u.authority.map (·.place.all inPlace)).getD true && u.text.length ≤ maxAddress

/-- The address can be requested. -/
def isRequestable (u : Url) : Bool :=
  (u.scheme == "http".toList || u.scheme == "https".toList) && isWritable u

/-- The address without user name and password. -/
def withoutUser (u : Url) : Url :=
  { u with authority := u.authority.map fun a => { a with user := [], password := [] } }

/-- The request for an address. The user that the address names goes into a header, and the
credentials into one more. -/
def request (credentials : Option Credentials) (u : Url) : Request :=
  let user := u.authority.bind userHeader?
  let given := credentials.map fun c => basic c.username.toList c.password.toList
  { url := if user.isSome then withoutUser u else u
    headers := user.toList ++ given.toList ++ commonHeaders
    referer := none }

/-! ## Redirects -/

/-- The number of redirects that are followed. -/
def maxRedirects : Nat := 10

/-- Two addresses of one server. -/
def sameServer (u v : Url) : Bool := u.host? == v.host? && u.port? == v.port?

/-- Where a response sends a request, if it says so in a way that can be followed. -/
def redirection? (r : Request) (response : Response) : Option Url := do
  let location ← response.location
  let u ← (Url.resolve r.url location.toList).toOption
  if isRedirect response.status && isWritable u then some u else none

/-- What a request says about the address that it was redirected from. It names neither a user nor a
fragment, and nothing that was read over a protected connection is named on another one. -/
def referer? (previous next : Url) : Option String :=
  if previous.scheme == "https".toList && next.scheme == "http".toList then none
  else
    let named : Url := { withoutUser previous with fragment := none }
    some (String.ofList named.text)

/-- The request for the address that another one was sent to. Another server gets no
credentials. -/
def redirected (r : Request) (u : Url) : Request :=
  { url := u
    headers := if sameServer r.url u then r.headers
      else r.headers.filter (·.1 != "authorization")
    referer := (referer? r.url u).or r.referer }

/-- Sends a request and follows at most `left` redirects. -/
def exchange {m : Type → Type} [Monad m] (send : Request → m Reply) (r : Request) (left : Nat) :
    m (Except TransportFault Response) :=
  if !isRequestable r.url then return .error .notRequestable
  else do
    match ← send r with
    | .refused | .closed => return .error .interrupted
    | .response response =>
      match redirection? r response with
      | none => return .ok response
      | some u =>
        match left with
        | 0 => return .error .tooManyRedirects
        | left + 1 => exchange send (redirected r u) left

/-! ## Pages -/

/-- What a response says about a page. -/
def answer (r : Resource) (response : Response) : Except Cause (Page r.Item) :=
  if !isSuccess response.status then .error (.status response.status)
  else if !response.complete then .error (.transport .interrupted)
  else (page (item r) response.body).mapError .malformed

namespace Client

/-- Asks a server for a page. -/
def fetch {m : Type → Type} [Monad m] (c : Client) (send : Request → m Reply) (r : PageRequest) :
    m (Except Cause (Page r.Item)) :=
  match c.url r with
  | .error _ => return .error (.transport .notRequestable)
  | .ok u => do
    match ← exchange send (request c.credentials u) maxRedirects with
    | .error fault => return .error (.transport fault)
    | .ok response => return answer r.resource response

/-- The source of pages that asks a server. -/
def source {ς : Type} (c : Client) (server : Server ς) : Source (Wire ς) := fun w r =>
  let (answer, w) := (c.fetch (Wire.send server) r).run w
  (answer.mapError fun cause => ⟨r.resource, cause⟩, w)

end Client

end OpenPulls.Rest
