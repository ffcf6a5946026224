/-!
# Text that arrives as bytes

Bytes from outside need not be text. `Utf8.decode` reads them as characters as far as they go and
marks each byte that is no part of a character, so that a reader can go on and judge later.
-/

namespace OpenPulls.Text

/-- A character, or a byte that is no part of one. -/
inductive Symbol where
  | char (c : Char)
  | stray
deriving Repr, BEq, DecidableEq, Inhabited

/-- The symbols of a text. -/
def symbols (text : String) : List Symbol := text.toList.map .char

/-- The number of bytes of a symbol. -/
def Symbol.byteCount : Symbol → Nat
  | .char c => c.utf8Size
  | .stray => 1

/-- The characters of symbols, if none is a stray byte. -/
def chars? (text : List Symbol) : Option (List Char) :=
  text.mapM fun
    | .char c => some c
    | .stray => none

namespace Utf8

/-- The bytes of a character. -/
def encodeChar (c : Char) : List UInt8 :=
  let n := c.toNat
  if n < 0x80 then [n.toUInt8]
  else if n < 0x800 then [(0xC0 + n / 64).toUInt8, (0x80 + n % 64).toUInt8]
  else if n < 0x10000 then
    [(0xE0 + n / 4096).toUInt8, (0x80 + n / 64 % 64).toUInt8, (0x80 + n % 64).toUInt8]
  else
    [(0xF0 + n / 262144).toUInt8, (0x80 + n / 4096 % 64).toUInt8, (0x80 + n / 64 % 64).toUInt8,
      (0x80 + n % 64).toUInt8]

/-- The bytes of a text. -/
def encode (text : List Char) : List UInt8 := text.flatMap encodeChar

/-- How many bytes follow a first byte, and the bits that it holds. -/
def lead? (b : UInt8) : Option (Nat × Nat) :=
  let n := b.toNat
  if n < 0x80 then some (0, n)
  else if n < 0xC2 then none
  else if n < 0xE0 then some (1, n - 0xC0)
  else if n < 0xF0 then some (2, n - 0xE0)
  else if n < 0xF5 then some (3, n - 0xF0)
  else none

/-- The number that a first byte and `count` further bytes write. -/
def codeFrom? (value : Nat) : Nat → List UInt8 → Option Nat
  | 0, _ => some value
  | count + 1, b :: rest =>
    if b.toNat / 64 = 2 then codeFrom? (value * 64 + b.toNat % 64) count rest else none
  | _ + 1, [] => none

/-- The least code point that needs this many further bytes. -/
def least : Nat → Nat
  | 0 => 0
  | 1 => 0x80
  | 2 => 0x800
  | _ => 0x10000

/-- The character at the beginning of bytes, with the number of its bytes after the first. -/
def first? (b : UInt8) (rest : List UInt8) : Option (Char × Nat) := do
  let (count, value) ← lead? b
  let n ← codeFrom? value count rest
  if h : n.isValidChar then
    if least count ≤ n then return (Char.ofNatAux n h, count) else none
  else none

/-- Reads bytes as characters; `skip` counts bytes of the last character that are still to come. -/
def decodeFrom (skip : Nat) : List UInt8 → List Symbol
  | [] => []
  | b :: rest =>
    match skip with
    | n + 1 => decodeFrom n rest
    | 0 =>
      match first? b rest with
      | some (c, count) => .char c :: decodeFrom count rest
      | none => .stray :: decodeFrom 0 rest

/-- Reads bytes as characters. -/
def decode (bytes : List UInt8) : List Symbol := decodeFrom 0 bytes

/-- The text that bytes write, if they write one. -/
def decodeText? (bytes : List UInt8) : Option (List Char) := chars? (decode bytes)

end Utf8

@[simp] theorem chars?_map_char (text : List Char) : chars? (text.map .char) = some text := by
  induction text with
  | nil => rfl
  | cons c rest ih => simp_all [chars?]

end OpenPulls.Text
