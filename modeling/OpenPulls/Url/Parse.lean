import OpenPulls.Url.Basic

/-!
# Reading addresses

`Url.parse` reads an address and `Url.resolve` one that may be relative to another. Blanks and
controls at the ends do not count, nor do tabs and line breaks anywhere. Segments of one or two
dots are taken out of a path. The first fault from left to right is the one that is reported.
-/

namespace OpenPulls.Url

/-! ## Ends -/

/-- A control of ASCII or a blank. -/
def isEdge (c : Char) : Bool := c.toNat ≤ 0x20

/-- A tab or a line break. -/
def isBreak (c : Char) : Bool := c == '\t' || c == '\n' || c == '\r'

/-- The text that counts. -/
def clean (text : List Char) : List Char :=
  (Text.dropEnd isEdge (text.dropWhile isEdge)).filter (!isBreak ·)

/-- Parts of a path end here. -/
def isSlash (special : Bool) (c : Char) : Bool := c == '/' || (special && c == '\\')

/-- A path ends here. -/
def endsPath (c : Char) : Bool := c == '?' || c == '#'

/-- An authority ends here. -/
def endsAuthority (special : Bool) (c : Char) : Bool := isSlash special c || endsPath c

/-! ## Scheme -/

/-- May stand in a scheme. -/
def isSchemeChar (c : Char) : Bool := c.isAlphanum || c == '+' || c == '-' || c == '.'

/-- The scheme of a text, with what follows its colon. -/
def scheme? (text : List Char) : Option (List Char × List Char) :=
  let scheme := text.takeWhile isSchemeChar
  match scheme, text.dropWhile isSchemeChar with
  | c :: _, ':' :: rest => if c.isAlpha then some (scheme.map Char.toLower, rest) else none
  | _, _ => none

/-! ## Path, query and fragment -/

/-- The segment is one dot, in any spelling. -/
def isDot (segment : List Char) : Bool :=
  [".", "%2e"].contains (String.ofList (segment.map Char.toLower))

/-- The segment is two dots, in any spelling. -/
def isDoubleDot (segment : List Char) : Bool :=
  ["..", ".%2e", "%2e.", "%2e%2e"].contains (String.ofList (segment.map Char.toLower))

/-- Puts segments behind a path. One dot adds nothing and two dots take a segment away; at the end
they leave an empty segment. -/
def addSegments (path : List (List Char)) : List (List Char) → List (List Char)
  | [] => path
  | s :: rest =>
    let path' :=
      if isDoubleDot s then if rest.isEmpty then path.dropLast ++ [[]] else path.dropLast
      else if isDot s then if rest.isEmpty then path ++ [[]] else path
      else path ++ [Percent.encode Percent.inPath s]
    addSegments path' rest

/-- Query and fragment of a text that begins with one of them or is empty. -/
def tail (special : Bool) (text : List Char) : Option (List Char) × Option (List Char) :=
  let fragment (text : List Char) := match text with
    | '#' :: rest => some (Percent.encode Percent.inFragment rest)
    | _ => none
  match text with
  | '?' :: rest =>
    let inQuery := if special then Percent.inSpecialQuery else Percent.inQuery
    (some (Percent.encode inQuery (rest.takeWhile (· ≠ '#'))), fragment (rest.dropWhile (· ≠ '#')))
  | text => (none, fragment text)

/-- An address whose path, query and fragment are still to be read. The path begins with the first
slash or without one; its segments go behind `start`. -/
def finish (scheme : List Char) (authority : Option Authority) (start : List (List Char))
    (text : List Char) : Url :=
  let special := isSpecial scheme
  let written := text.takeWhile (!endsPath ·)
  let (query, fragment) := tail special (text.dropWhile (!endsPath ·))
  let raw := match written with
    | c :: rest => if isSlash special c then rest else written
    | [] => []
  let path := if written.isEmpty && !special then start
    else addSegments start (Domain.splitWhere (isSlash special) raw)
  { scheme, authority, path := .segments path, query, fragment }

/-! ## Authority -/

/-- User name and password before the last `@`, if there is one, with what follows. -/
def splitUserinfo (special : Bool) (text : List Char) : Option (List Char) × List Char :=
  let authority := text.takeWhile (!endsAuthority special ·)
  let rest := text.dropWhile (!endsAuthority special ·)
  if authority.contains '@' then
    let place := (authority.reverse.takeWhile (· ≠ '@')).reverse
    (some (authority.take (authority.length - place.length - 1)), place ++ rest)
  else (none, text)

/-- The text of a host and what follows. A colon in square brackets belongs to the host. -/
def splitHost (special inside : Bool) : List Char → List Char × List Char
  | [] => ([], [])
  | c :: rest =>
    if endsAuthority special c || (c == ':' && !inside) then ([], c :: rest)
    else
      let inside := if c == '[' then true else if c == ']' then false else inside
      let (host, rest) := splitHost special inside rest
      (c :: host, rest)

/-- The greatest port. -/
def maxPort : Nat := 65535

/-- A port that was written with digits, or with none. -/
def portOf (digits : List Char) : Except Fault (Option Nat) :=
  match digits, Host.number? 10 digits with
  | [], _ => .ok none
  | _, some n => if n ≤ maxPort then .ok (some n) else .error .invalidPort
  | _, none => .error .invalidPort

/-- The port after a host, with what follows. -/
def port (text : List Char) : Except Fault (Option Nat × List Char) :=
  match text with
  | ':' :: rest => do
    let p ← portOf (rest.takeWhile Char.isDigit)
    match rest.dropWhile Char.isDigit with
    | [] => return (p, [])
    | c :: rest => if endsAuthority true c then return (p, c :: rest) else throw .invalidPort
  | text => .ok (none, text)

/-- An address whose authority is still to be read. -/
def fromAuthority (scheme text : List Char) : Except Fault Url := do
  let special := isSpecial scheme
  let (userinfo, rest) := splitUserinfo special text
  if userinfo = some [] && rest.head?.any (endsAuthority special) then throw .emptyHost
  let userinfo := userinfo.getD []
  let user := Percent.encode Percent.inUserinfo (userinfo.takeWhile (· ≠ ':'))
  let password :=
    Percent.encode Percent.inUserinfo ((userinfo.dropWhile (· ≠ ':')).drop 1)
  let (hostText, rest) := splitHost special false rest
  if hostText.isEmpty && special then throw .emptyHost
  let host ←
    if hostText.isEmpty then pure none
    else some <$> (if special then Host.parse hostText else Host.parseUnknown hostText)
  if host.isNone && rest.head? = some ':' then throw .emptyHost
  let (p, rest) ← port rest
  if host.isNone && !(user.isEmpty && password.isEmpty) then throw .emptyHost
  let p := if p = knownPort? scheme then none else p
  return finish scheme (some ⟨user, password, host, p⟩) [] rest

/-! ## Schemes without an authority -/

/-- A drive of a file system, which is no host. -/
def isDrive : List Char → Bool
  | [c, d] => c.isAlpha && (d == ':' || d == '|')
  | _ => false

/-- A file. The local host is left out. -/
def fromFile (text : List Char) : Except Fault Url :=
  match text with
  | c :: d :: rest =>
    let hostText := rest.takeWhile (!endsAuthority true ·)
    if isSlash true c && isSlash true d && !isDrive hostText && !hostText.isEmpty then do
      let host ← Host.parse hostText
      let host := if host = .domain "localhost".toList then none else some host
      return finish fileScheme (some ⟨[], [], host, none⟩) []
        (rest.dropWhile (!endsAuthority true ·))
    else
      let path := if isSlash true c && isSlash true d then rest else text
      .ok (finish fileScheme (some ⟨[], [], none, none⟩) [] path)
  | text => .ok (finish fileScheme (some ⟨[], [], none, none⟩) [] text)

/-- An address with an unknown scheme. -/
def fromUnknown (scheme text : List Char) : Except Fault Url :=
  match text with
  | '/' :: '/' :: rest => fromAuthority scheme rest
  | '/' :: rest => .ok (finish scheme none [] ('/' :: rest))
  | text =>
    let (query, fragment) := tail false (text.dropWhile (!endsPath ·))
    .ok
      { scheme, authority := none
        path := .rootless (Percent.encode Percent.isVisible (text.takeWhile (!endsPath ·)))
        query, fragment }

/-! ## Whole addresses -/

/-- An address without the slashes before its authority, however many there are. -/
def fromSlashes (scheme text : List Char) : Except Fault Url :=
  fromAuthority scheme (text.dropWhile (isSlash true))

/-- Reads an address after its scheme. -/
def fromScheme (scheme text : List Char) : Except Fault Url :=
  if scheme = fileScheme then fromFile text
  else if isSpecial scheme then fromSlashes scheme text
  else fromUnknown scheme text

/-- Reads an address. -/
def parse (text : List Char) : Except Fault Url :=
  match scheme? (clean text) with
  | some (scheme, rest) => fromScheme scheme rest
  | none => .error .relative

/-- The segments of a path but the last. -/
def folder (u : Url) : List (List Char) :=
  match u.path with
  | .segments parts => parts.dropLast
  | .rootless _ => []

/-- Reads an address below another one with a known scheme. -/
def relative (base : Url) (text : List Char) : Except Fault Url :=
  match text with
  | [] => .ok { base with fragment := none }
  | '#' :: _ => .ok { base with fragment := (tail true text).2 }
  | '?' :: _ =>
    let (query, fragment) := tail true text
    .ok { base with query, fragment }
  | c :: rest =>
    if isSlash true c then
      if rest.head?.any (isSlash true) then fromSlashes base.scheme text
      else .ok (finish base.scheme base.authority [] text)
    else .ok (finish base.scheme base.authority base.folder text)

/-- Reads an address that may be relative to another one with a known scheme. -/
def resolve (base : Url) (text : List Char) : Except Fault Url :=
  let text := clean text
  match scheme? text with
  | none => relative base text
  | some (scheme, rest) =>
    if scheme = base.scheme && (rest.takeWhile (isSlash true)).length < 2 then relative base rest
    else fromScheme scheme rest

end OpenPulls.Url
