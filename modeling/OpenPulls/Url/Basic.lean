import OpenPulls.Url.Host

/-!
# Addresses

An address has a scheme and, with most schemes, a host. Some schemes are known: for them the host
must not be empty, a backslash is a slash, and a port that goes without saying is left out.
-/

namespace OpenPulls

/-- Who is asked, and in whose name. -/
structure Url.Authority where
  user : List Char
  /-- An empty password is none. -/
  password : List Char
  /-- Addresses with an unknown scheme may have an empty host. -/
  host : Option Host
  /-- The port, if it is not the one that goes without saying. -/
  port : Option Nat
deriving Repr, DecidableEq

/-- What is asked for. -/
inductive Url.Path where
  /-- Segments, each with a slash before it. -/
  | segments (parts : List (List Char))
  /-- A text that begins with no slash. -/
  | rootless (text : List Char)
deriving Repr, DecidableEq

/-- An address. Its parts stand as they are written, with percent-encoding. -/
structure Url where
  scheme : List Char
  authority : Option Url.Authority
  path : Url.Path
  query : Option (List Char)
  fragment : Option (List Char)
deriving Repr, DecidableEq

namespace Url

/-- The ports of the known schemes, but for files, which have none. -/
def knownPorts : List (List Char × Nat) :=
  [("http".toList, 80), ("https".toList, 443), ("ws".toList, 80), ("wss".toList, 443),
    ("ftp".toList, 21)]

/-- The port that goes without saying. -/
def knownPort? (scheme : List Char) : Option Nat := knownPorts.lookup scheme

/-- The scheme of files. -/
def fileScheme : List Char := "file".toList

/-- The scheme is a known one. -/
def isSpecial (scheme : List Char) : Bool :=
  (knownPort? scheme).isSome || scheme == fileScheme

/-- A path as it is written. -/
def Path.text : Path → List Char
  | .segments parts => parts.flatMap ('/' :: ·)
  | .rootless text => text

/-- Host and port as they are written. -/
def Authority.place (a : Authority) : List Char :=
  (a.host.map Host.text).getD []
    ++ (a.port.map fun p => ':' :: Host.digits 10 p).getD []

/-- Who asks, as it is written. -/
def Authority.userinfo (a : Authority) : List Char :=
  if a.user.isEmpty && a.password.isEmpty then []
  else a.user ++ (if a.password.isEmpty then [] else ':' :: a.password) ++ ['@']

/-- What a request for the address asks for: path and query. -/
def target (u : Url) : List Char := u.path.text ++ (u.query.map ('?' :: ·)).getD []

/-- The address as it is written. -/
def text (u : Url) : List Char :=
  u.scheme ++ [':']
    ++ (u.authority.map fun a => ['/', '/'] ++ a.userinfo ++ a.place).getD []
    ++ u.target ++ (u.fragment.map ('#' :: ·)).getD []

/-- The host, if there is one. -/
def host? (u : Url) : Option Host := u.authority.bind (·.host)

/-- The port that is asked. -/
def port? (u : Url) : Option Nat :=
  (u.authority.bind (·.port)).or (knownPort? u.scheme)

/-- The address with further pairs in its query. -/
def addQuery (u : Url) (pairs : List (List Char × List Char)) : Url :=
  let added := List.intercalate ['&'] (pairs.map fun (name, value) => name ++ '=' :: value)
  match u.query with
  | none | some [] => { u with query := some added }
  | some query => { u with query := some (query ++ '&' :: added) }

/-! ## Wording -/

/-- The wording of a fault. -/
def Fault.text : Fault → String
  | .relative => "relative URL without a base"
  | .emptyHost => "empty host"
  | .invalidPort => "invalid port number"
  | .invalidIpv4 => "invalid IPv4 address"
  | .invalidIpv6 => "invalid IPv6 address"
  | .invalidDomain => "invalid international domain name"
  | .invalidCharacter => "invalid domain character"

end Url

end OpenPulls
