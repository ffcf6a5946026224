import OpenPulls.Json.Error
import OpenPulls.Text.Utf8

/-!
# Scanning JSON

The small parts of a JSON text: blanks, words, strings and numbers. Each function takes the text
from its first symbol on and gives back what it read with the rest.

**Strings** come in two ways. A string that is wanted must be text: no stray bytes, and
surrogates in pairs. A string that is skipped must only end.
-/

namespace OpenPulls.Json

open OpenPulls.Text (Symbol)

/-- A reader of a part of a JSON text. -/
abbrev Scanner (α : Type) := List Symbol → Except Error (α × List Symbol)

/-- Blanks between the parts of a JSON text. -/
def isBlank : Symbol → Bool
  | .char c => c = ' ' || c = '\n' || c = '\t' || c = '\r'
  | .stray => false

/-- The text without the blanks at its beginning. -/
def skipBlanks (text : List Symbol) : List Symbol := text.dropWhile isBlank

/-- Reads the characters of a word. -/
def word : List Char → List Symbol → Except Error (List Symbol)
  | [], text => .ok text
  | _ :: _, [] => .error .unfinished
  | c :: cs, s :: rest => if s = .char c then word cs rest else .error .malformed

/-! ## Strings -/

/-- The value of a hexadecimal digit. -/
def hexValue? (c : Char) : Option Nat :=
  if c.isDigit then some (c.toNat - 48)
  else if 'a' ≤ c && c ≤ 'f' then some (c.toNat - 87)
  else if 'A' ≤ c && c ≤ 'F' then some (c.toNat - 55)
  else none

/-- Reads the four hexadecimal digits of an escape. A text with fewer than four bytes left ends too
early, whatever they are. -/
def hexEscape (text : List Symbol) : Except Error (Nat × List Symbol) :=
  if (text.take 4).foldl (fun n s => n + s.byteCount) 0 < 4 then .error .unfinished
  else
    match text with
    | .char a :: .char b :: .char c :: .char d :: rest =>
      match hexValue? a, hexValue? b, hexValue? c, hexValue? d with
      | some a, some b, some c, some d => .ok (((a * 16 + b) * 16 + c) * 16 + d, rest)
      | _, _, _, _ => .error .malformed
    | _ => .error .malformed

/-- The character that a letter after a backslash writes. -/
def shortEscape? : Char → Option Char
  | '"' => some '"'
  | '\\' => some '\\'
  | '/' => some '/'
  | 'b' => some '\x08'
  | 'f' => some '\x0c'
  | 'n' => some '\n'
  | 'r' => some '\r'
  | 't' => some '\t'
  | _ => none

/-- The second half of a surrogate pair must follow at once, as an escape. -/
def lowSurrogate (text : List Symbol) : Except Error (Nat × List Symbol) :=
  match text with
  | [] => .error .unfinished
  | .char '\\' :: [] => .error .unfinished
  | .char '\\' :: .char 'u' :: rest => do
    let (n, rest) ← hexEscape rest
    if 0xDC00 ≤ n && n ≤ 0xDFFF then return (n - 0xDC00, rest) else throw .malformed
  | _ => .error .malformed

/-- Reads a numeric escape after its letter. -/
def numericEscape (text : List Symbol) : Except Error (Char × List Symbol) := do
  let (n, rest) ← hexEscape text
  if 0xDC00 ≤ n && n ≤ 0xDFFF then throw .malformed
  else if 0xD800 ≤ n && n ≤ 0xDBFF then
    let (low, rest) ← lowSurrogate rest
    return (Char.ofNat (0x10000 + (n - 0xD800) * 0x400 + low), rest)
  else return (Char.ofNat n, rest)

/-- Reads an escape after its backslash. -/
def escape (text : List Symbol) : Except Error (Char × List Symbol) :=
  match text with
  | [] => .error .unfinished
  | .char 'u' :: rest => numericEscape rest
  | .char c :: rest =>
    match shortEscape? c with
    | some d => .ok (d, rest)
    | none => .error .malformed
  | .stray :: _ => .error .malformed

/-- Reads a string after its opening quote; `read` holds what was read, in reverse, and `clean`
says that no stray byte was among it. -/
def stringFrom (read : List Char) (clean : Bool) (text : List Symbol) :
    Except Error (String × List Symbol) :=
  match text with
  | [] => .error .unfinished
  | .stray :: rest => stringFrom read false rest
  | .char '"' :: rest =>
    if clean then .ok (String.ofList read.reverse, rest) else .error .malformed
  | .char '\\' :: more =>
    match escape more with
    | .error e => .error e
    | .ok (c, rest) =>
      if _h : rest.length < more.length then stringFrom (c :: read) clean rest
      else .error .malformed
  | .char c :: rest =>
    if c.toNat < 0x20 then .error .malformed else stringFrom (c :: read) clean rest
termination_by text.length

/-- Reads a string after its opening quote. -/
def string : Scanner String := stringFrom [] true

/-- Skips a string after its opening quote. -/
def skipString (text : List Symbol) : Except Error (List Symbol) :=
  match text with
  | [] => .error .unfinished
  | .stray :: rest => skipString rest
  | .char '"' :: rest => .ok rest
  | .char '\\' :: [] => .error .unfinished
  | .char '\\' :: .char 'u' :: more =>
    match hexEscape more with
    | .error e => .error e
    | .ok (_, rest) =>
      if _h : rest.length < more.length then skipString rest else .error .malformed
  | .char '\\' :: .char c :: rest =>
    if (shortEscape? c).isSome then skipString rest else .error .malformed
  | .char '\\' :: .stray :: _ => .error .malformed
  | .char c :: rest => if c.toNat < 0x20 then .error .malformed else skipString rest
termination_by text.length

/-! ## Numbers -/

/-- The value of a decimal digit. -/
def digit? : Symbol → Option Nat
  | .char c => if c.isDigit then some (c.toNat - 48) else none
  | .stray => none

/-- The symbol is a decimal digit. -/
def isDigit (s : Symbol) : Bool := (digit? s).isSome

/-- The greatest integer of 64 bits without sign. -/
def maxUnsigned : Nat := UInt64.size - 1

/-- Goes on reading digits of a number as long as it fits in 64 bits, and counts them. -/
def significand (n count : Nat) : List Symbol → Nat × Nat × List Symbol
  | [] => (n, count, [])
  | s :: rest =>
    match digit? s with
    | some d =>
      if n * 10 + d ≤ maxUnsigned then significand (n * 10 + d) (count + 1) rest
      else (n, count, s :: rest)
    | none => (n, count, s :: rest)

/-- Ten to a power, as a floating-point number. -/
def tenTo (power : Nat) : Float := Float.ofScientific 1 false power

/-- Multiplies by a power of ten in steps of at most 308, rounding after each. A result that is
too large is an error. -/
def scale : Nat → Float → Int → Except Error Float
  | 0, f, _ => .ok f
  | fuel + 1, f, power =>
    if power.natAbs ≤ 308 then
      if 0 ≤ power then
        let f := f * tenTo power.natAbs
        if f.isInf then .error .malformed else .ok f
      else .ok (f / tenTo power.natAbs)
    else if f == 0 then .ok f
    else if 0 ≤ power then .error .malformed
    else scale fuel (f / tenTo 308) (power + 308)

/-- The floating-point number of a significand and a power of ten. -/
def floatOf (positive : Bool) (n : Nat) (power : Int) : Except Error Number := do
  let f ← scale 8 n.toUInt64.toFloat power
  return .float (if positive then f else -f)

/-- The greatest exponent that is read. -/
def maxExponent : Nat := UInt32.size / 2 - 1

/-- Reads an exponent after its letter. An exponent beyond the greatest makes a number too large,
or makes it zero. -/
def exponent (positive : Bool) (n : Nat) (power : Int) (text : List Symbol) :
    Except Error (Number × List Symbol) :=
  let (up, text) := match text with
    | .char '+' :: rest => (true, rest)
    | .char '-' :: rest => (false, rest)
    | _ => (true, text)
  match text with
  | [] => .error .unfinished
  | s :: _ =>
    if isDigit s then do
      let digits := text.takeWhile isDigit
      let rest := text.dropWhile isDigit
      let e := (digits.filterMap digit?).foldl (fun e d => e * 10 + d) 0
      if e > maxExponent then
        if n ≠ 0 && up then throw .malformed
        else return (.float (if positive then 0.0 else -0.0), rest)
      else return (← floatOf positive n (if up then power + e else power - e), rest)
    else .error .malformed

/-- Ends a number that has a point or is too long: an exponent may follow. -/
def finishFloat (positive : Bool) (n : Nat) (power : Int) (text : List Symbol) :
    Except Error (Number × List Symbol) :=
  match text with
  | .char 'e' :: rest | .char 'E' :: rest => exponent positive n power rest
  | _ => do return (← floatOf positive n power, text)

/-- Reads the places after the point. Places that no longer fit in 64 bits are passed over. -/
def places (positive : Bool) (n : Nat) (power : Int) (text : List Symbol) :
    Except Error (Number × List Symbol) :=
  let (m, count, rest) := significand n 0 text
  let full := match rest with
    | s :: _ => isDigit s
    | [] => false
  if full then finishFloat positive m (power - count) (rest.dropWhile isDigit)
  else if count = 0 then
    if rest.isEmpty then .error .unfinished else .error .malformed
  else finishFloat positive m (power - count) rest

/-- The number that an integer of 64 bits makes. Minus zero, and what is below the integers with
sign, are floating-point numbers. -/
def integer (positive : Bool) (n : Nat) : Number :=
  if positive then .unsigned n.toUInt64
  else if n = 0 || n > UInt64.size / 2 then .float (-n.toUInt64.toFloat)
  else .negative n

/-- Ends an integer that fits in 64 bits: places or an exponent may follow. -/
def finishInteger (positive : Bool) (n : Nat) (text : List Symbol) :
    Except Error (Number × List Symbol) :=
  match text with
  | .char '.' :: rest => places positive n 0 rest
  | .char 'e' :: rest | .char 'E' :: rest => exponent positive n 0 rest
  | _ => .ok (integer positive n, text)

/-- Ends an integer that is too long: its further digits only make it greater. -/
def finishLong (positive : Bool) (n : Nat) (text : List Symbol) :
    Except Error (Number × List Symbol) :=
  let power := (text.takeWhile isDigit).length
  match text.dropWhile isDigit with
  | .char '.' :: rest => places positive n power rest
  | rest => finishFloat positive n power rest

/-- Reads a number after its sign. -/
def unsignedPart (positive : Bool) (text : List Symbol) : Except Error (Number × List Symbol) :=
  match text with
  | [] => .error .unfinished
  | s :: rest =>
    match digit? s with
    | none => .error .malformed
    | some 0 =>
      match rest with
      | t :: _ => if isDigit t then .error .malformed else finishInteger positive 0 rest
      | [] => finishInteger positive 0 rest
    | some d =>
      let (n, _, rest) := significand d 0 rest
      match rest with
      | t :: _ => if isDigit t then finishLong positive n rest else finishInteger positive n rest
      | [] => finishInteger positive n rest

/-- Reads a number. -/
def number (text : List Symbol) : Except Error (Number × List Symbol) :=
  match text with
  | .char '-' :: rest => unsignedPart false rest
  | _ => unsignedPart true text

/-- Skips an exponent after its letter. -/
def skipExponent (text : List Symbol) : Except Error (List Symbol) :=
  let text := match text with
    | .char '+' :: rest | .char '-' :: rest => rest
    | _ => text
  match text with
  | s :: rest => if isDigit s then .ok (rest.dropWhile isDigit) else .error .malformed
  | [] => .error .malformed

/-- Skips what may follow the whole part of a number. -/
def skipFraction (text : List Symbol) : Except Error (List Symbol) :=
  match text with
  | .char '.' :: rest =>
    match rest with
    | s :: _ =>
      if isDigit s then
        match rest.dropWhile isDigit with
        | .char 'e' :: rest | .char 'E' :: rest => skipExponent rest
        | rest => .ok rest
      else .error .malformed
    | [] => .error .malformed
  | .char 'e' :: rest | .char 'E' :: rest => skipExponent rest
  | _ => .ok text

/-- Skips a number after its sign. It must be written as numbers are, but may have any size. -/
def skipUnsignedPart (text : List Symbol) : Except Error (List Symbol) :=
  match text with
  | [] => .error .malformed
  | s :: rest =>
    match digit? s with
    | none => .error .malformed
    | some 0 =>
      match rest with
      | t :: _ => if isDigit t then .error .malformed else skipFraction rest
      | [] => skipFraction rest
    | some _ => skipFraction (rest.dropWhile isDigit)

end OpenPulls.Json
