import OpenPulls.Url.Domain

/-!
# Hosts

The host of an address is a domain name, an address of four bytes, or an address of eight pieces in
square brackets. A name whose last label is a number can only be an address of four bytes; its
parts may be written in other bases, and the last part stands for all bytes that are left.
-/

namespace OpenPulls

/-- A host. -/
inductive Host where
  | domain (name : List Char)
  | ipv4 (address : Nat)
  | ipv6 (pieces : List Nat)
deriving Repr, DecidableEq

/-- Why a text is no address. -/
inductive Url.Fault where
  | relative
  | emptyHost
  | invalidPort
  | invalidIpv4
  | invalidIpv6
  | invalidDomain
  | invalidCharacter
deriving Repr, DecidableEq

namespace Host

/-! ## Numbers -/

/-- The value of a digit in a base up to sixteen. -/
def digit? (base : Nat) (c : Char) : Option Nat := do
  let d ←
    if c.isDigit then some (c.toNat - 0x30)
    else if 'a' ≤ c ∧ c ≤ 'f' then some (c.toNat - 0x57)
    else if 'A' ≤ c ∧ c ≤ 'F' then some (c.toNat - 0x37)
    else none
  if d < base then some d else none

/-- The number with the given digits. -/
def number? (base : Nat) (digits : List Char) : Option Nat :=
  digits.foldlM (fun n c => do return n * base + (← digit? base c)) 0

/-- A part of an address of four bytes: a number in base sixteen after `0x`, in base eight after
`0`, and else in base ten. -/
def ipv4Part? : List Char → Option Nat
  | [] => none
  | '0' :: 'x' :: digits | '0' :: 'X' :: digits => number? 16 digits
  | '0' :: c :: digits => number? 8 (c :: digits)
  | digits => number? 10 digits

/-! ## Addresses of four bytes -/

/-- The parts of a name, without an empty one at its end. -/
def parts (name : List Char) : List (List Char) :=
  let parts := Domain.labels name
  if parts.getLast? = some [] then parts.dropLast else parts

/-- The last label of the name is a number. -/
def endsInNumber (name : List Char) : Bool :=
  match (parts name).getLast? with
  | none => false
  | some part => (!part.isEmpty && part.all Char.isDigit) || (ipv4Part? part).isSome

/-- The address of four bytes that a name writes. -/
def ipv4? (name : List Char) : Option Nat := do
  let parts := parts name
  let numbers ← parts.mapM ipv4Part?
  let last ← numbers.getLast?
  let bytes := numbers.dropLast
  if 4 < numbers.length || bytes.any (255 < ·) || Nat.pow 256 (4 - bytes.length) ≤ last then none
  else return bytes.foldl (fun n b => n * 256 + b) 0 * Nat.pow 256 (4 - bytes.length) + last

/-! ## Addresses of eight pieces -/

/-- The two pieces that four bytes with dots between them write; the bytes have no leading
zeros. -/
def dotted? (text : List Char) : Option (List Nat) := do
  let bytes ← (Domain.labels text).mapM fun part => do
    if part.isEmpty || (1 < part.length && part.head? = some '0') then none
    let n ← number? 10 part
    if 255 < n then none else some n
  match bytes with
  | [a, b, c, d] => return [a * 256 + b, c * 256 + d]
  | _ => none

/-- A piece of one to four hexadecimal digits. -/
def piece? (text : List Char) : Option Nat :=
  if text.isEmpty || 4 < text.length then none else number? 16 text

/-- Pieces between colons. The last one may be written as four bytes if `mayDot`. -/
def pieces? (mayDot : Bool) : List (List Char) → Option (List Nat)
  | [] => some []
  | [part] => if mayDot && part.contains '.' then dotted? part else (piece? part).map ([·])
  | part :: rest => do return (← piece? part) :: (← pieces? mayDot rest)

/-- The pieces of a text; no pieces if it is empty. -/
def piecesOf? (mayDot : Bool) (text : List Char) : Option (List Nat) :=
  if text.isEmpty then some [] else pieces? mayDot (Domain.splitWhere (· == ':') text)

/-- The text before and after the first two colons that stand together. -/
def splitGap : List Char → Option (List Char × List Char)
  | ':' :: ':' :: rest => some ([], rest)
  | c :: rest => (splitGap rest).map fun (before, after) => (c :: before, after)
  | [] => none

/-- The address of eight pieces that a text writes. Two colons stand for one zero or more. -/
def ipv6? (text : List Char) : Option (List Nat) := do
  match splitGap text with
  | none =>
    let pieces ← piecesOf? true text
    if pieces.length = 8 then some pieces else none
  | some (before, after) =>
    let before ← piecesOf? false before
    let after ← piecesOf? true after
    let known := before.length + after.length
    if known ≤ 7 then some (before ++ List.replicate (8 - known) 0 ++ after) else none

/-! ## Reading a host -/

/-- The address in square brackets. -/
def bracketed (text : List Char) : Except Url.Fault Host :=
  match text.getLast?, ipv6? text.dropLast with
  | some ']', some pieces => .ok (.ipv6 pieces)
  | _, _ => .error .invalidIpv6

/-- The host of an address with a known scheme. -/
def parse : List Char → Except Url.Fault Host
  | '[' :: rest => bracketed rest
  | text =>
    match Domain.ofText? text with
    | none => .error .invalidDomain
    | some [] => .error .emptyHost
    | some name =>
      if endsInNumber name then
        match ipv4? name with
        | some address => .ok (.ipv4 address)
        | none => .error .invalidIpv4
      else .ok (.domain name)

/-- No host holds this character. -/
def isForbidden (c : Char) : Bool :=
  ['\x00', '\t', '\n', '\r', ' ', '#', '/', ':', '<', '>', '?', '@', '[', '\\', ']', '^', '|'].contains
    c

/-- The host of an address with an unknown scheme: any text that keeps to itself. -/
def parseUnknown : List Char → Except Url.Fault Host
  | '[' :: rest => bracketed rest
  | text =>
    if text.any isForbidden then .error .invalidCharacter
    else .ok (.domain (Percent.encode Percent.isVisible text))

/-! ## Writing a host -/

/-- A number in a base. -/
def digits (base n : Nat) : List Char := Nat.toDigits base n

/-- The length of the run of zeros at the beginning. -/
def zeros (pieces : List Nat) : Nat := (pieces.takeWhile (· == 0)).length

/-- The place and length of the first of the longest runs of zeros, with at least two of them. -/
def longestGap? (pieces : List Nat) : Option (Nat × Nat) :=
  (List.range pieces.length).foldl (fun best i =>
    let n := zeros (pieces.drop i)
    if max 1 ((best.map Prod.snd).getD 0) < n then some (i, n) else best) none

/-- Pieces between colons. -/
def piecesText (pieces : List Nat) : List Char :=
  List.intercalate [':'] (pieces.map (digits 16))

/-- A host as it stands in an address. -/
def text : Host → List Char
  | .domain name => name
  | .ipv4 n =>
    List.intercalate ['.']
      ([n / 16777216, n / 65536 % 256, n / 256 % 256, n % 256].map (digits 10))
  | .ipv6 pieces =>
    let inner := match longestGap? pieces with
      | none => piecesText pieces
      | some (i, n) => piecesText (pieces.take i) ++ [':', ':'] ++ piecesText (pieces.drop (i + n))
    '[' :: inner ++ [']']

end Host

end OpenPulls
