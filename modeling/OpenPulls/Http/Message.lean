import OpenPulls.Http.Server
import OpenPulls.Text.Utf8

/-!
# Messages

Requests and responses as they go over a connection. A connection serves one request: the server
closes it behind its response, so that everything that arrives belongs to the response.
-/

namespace OpenPulls.Http

open OpenPulls.Text

/-- A line break on the wire. -/
def lineEnd : String := "\r\n"

/-- A request as it is sent. -/
def Request.message (r : Request) : String :=
  let place := String.ofList ((r.url.authority.map (·.place)).getD [])
  let referer := r.referer.map fun previous => ("referer", previous)
  let headers := [("host", place)] ++ r.headers ++ referer.toList ++ [("connection", "close")]
  r.line ++ " HTTP/1.1" ++ lineEnd
    ++ String.join (headers.map fun (name, value) => name ++ ": " ++ value ++ lineEnd) ++ lineEnd

/-! ## Reading responses -/

/-- The first line of bytes, without its end, and what follows, if the line has an end. -/
def takeLine : List UInt8 → Option (List UInt8 × List UInt8)
  | [] => none
  | 0x0D :: 0x0A :: rest => some ([], rest)
  | 0x0A :: rest => some ([], rest)
  | b :: rest => (takeLine rest).map fun (line, rest) => (b :: line, rest)

/-- What follows a line is shorter than what it was taken from. -/
theorem length_of_takeLine {bytes line rest : List UInt8} (h : takeLine bytes = some (line, rest)) :
    rest.length < bytes.length := by
  fun_induction takeLine bytes generalizing line with
  | case1 => cases h
  | case2 => cases h; exact Nat.lt_succ_of_lt (Nat.lt_succ_self _)
  | case3 => cases h; exact Nat.lt_succ_self _
  | case4 b tail _ _ ih =>
    obtain ⟨⟨taken, left⟩, htaken, heq⟩ := Option.map_eq_some_iff.1 h
    cases heq
    exact Nat.lt_succ_of_lt (ih htaken)

/-- The characters of bytes, one for each. -/
def latin (bytes : List UInt8) : List Char := bytes.map fun b => Char.ofNat b.toNat

/-- The header in a line: its name in lower case, and its value. -/
def headerOf (line : List Char) : String × String :=
  let name := line.takeWhile (· ≠ ':')
  let value := (line.dropWhile (· ≠ ':')).drop 1
  (String.ofList (name.map Char.toLower), String.ofList (Text.trim value))

/-- The headers up to an empty line, and what follows it. -/
def headersOf (bytes : List UInt8) : Option (List (String × String) × List UInt8) :=
  match _h : takeLine bytes with
  | none => none
  | some ([], rest) => some ([], rest)
  | some (b :: line, rest) =>
    (headersOf rest).map fun (headers, body) => (headerOf (latin (b :: line)) :: headers, body)
termination_by bytes.length
decreasing_by exact length_of_takeLine _h

/-- The status code in the first line of a response. -/
def statusOf? (line : List Char) : Option Nat :=
  match Domain.splitWhere (· == ' ') line with
  | version :: code :: _ =>
    if "HTTP/1.".toList.isPrefixOf version && code.length = 3 then Host.number? 10 code else none
  | _ => none

/-- The bytes of chunks, and whether the last chunk is there. -/
def chunks (fuel : Nat) (bytes : List UInt8) : List UInt8 × Bool :=
  match fuel, takeLine bytes with
  | 0, _ | _, none => ([], false)
  | fuel + 1, some (line, rest) =>
    match Host.number? 16 (Text.trim ((latin line).takeWhile (· ≠ ';'))) with
    | none => ([], false)
    | some 0 => ([], true)
    | some size =>
      if rest.length < size then (rest, false)
      else
        let (more, complete) := chunks fuel ((rest.drop size).dropWhile fun b => b = 0x0D || b = 0x0A)
        (rest.take size ++ more, complete)

/-- The body of a response, and whether all of it is there. -/
def bodyOf (status : Nat) (headers : List (String × String)) (bytes : List UInt8) :
    List UInt8 × Bool :=
  if status = 204 ∨ status = 304 then ([], true)
  else if headers.lookup "transfer-encoding" = some "chunked" then chunks bytes.length bytes
  else
    match (headers.lookup "content-length").bind fun n => Host.number? 10 n.toList with
    | none => (bytes, true)
    | some length => (bytes.take length, length ≤ bytes.length)

/-- Reads a response. Responses that announce another one are passed over; there are at most
`interim` of them. -/
def readResponse (interim : Nat) (bytes : List UInt8) : Option Response := do
  let (line, rest) ← takeLine bytes
  let status ← statusOf? (latin line)
  let (headers, rest) ← headersOf rest
  if status < 200 then
    match interim with
    | 0 => none
    | interim + 1 => readResponse interim rest
  else
    let (body, complete) := bodyOf status headers rest
    return ⟨status, headers.lookup "location", body, complete⟩

/-- What the bytes that arrived reply to a request. -/
def replyOf (bytes : List UInt8) : Reply :=
  match readResponse 16 bytes with
  | some response => .response response
  | none => .closed

end OpenPulls.Http
