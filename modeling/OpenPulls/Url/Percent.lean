import OpenPulls.Text.Utf8

/-!
# Percent-encoding

A character that may not stand in a part of an address is written as the bytes of its encoding,
each as a percent sign and two hexadecimal digits. Which characters those are depends on the part.
-/

namespace OpenPulls.Percent

open OpenPulls.Text (Utf8.encodeChar)

/-- A hexadecimal digit in upper case. -/
def hexDigit (n : Nat) : Char := Char.ofNat (if n < 10 then 0x30 + n else 0x37 + n)

/-- A byte, written with a percent sign. -/
def encodeByte (b : UInt8) : List Char := ['%', hexDigit (b.toNat / 16), hexDigit (b.toNat % 16)]

/-- A text with all characters encoded but those that `keep` selects. -/
def encode (keep : Char → Bool) (text : List Char) : List Char :=
  text.flatMap fun c => if keep c then [c] else (Utf8.encodeChar c).flatMap encodeByte

/-- The value of a hexadecimal digit. -/
def hexValue? (b : UInt8) : Option Nat :=
  let n := b.toNat
  if 0x30 ≤ n ∧ n ≤ 0x39 then some (n - 0x30)
  else if 0x41 ≤ n ∧ n ≤ 0x46 then some (n - 0x37)
  else if 0x61 ≤ n ∧ n ≤ 0x66 then some (n - 0x57)
  else none

/-- Takes percent-encoding back. A percent sign that no two digits follow stays. -/
def decode : List UInt8 → List UInt8
  | b :: x :: y :: rest =>
    if b = 0x25 then
      match hexValue? x, hexValue? y with
      | some high, some low => (16 * high + low).toUInt8 :: decode rest
      | _, _ => b :: decode (x :: y :: rest)
    else b :: decode (x :: y :: rest)
  | rest => rest

/-! ## What may stand where -/

/-- Letters, digits and four marks have no other meaning anywhere in an address. -/
def isUnreserved (c : Char) : Bool := c.isAlphanum || ['-', '_', '.', '~'].contains c

/-- A character of ASCII that is no control. -/
def isVisible (c : Char) : Bool := 0x20 ≤ c.toNat && c.toNat ≤ 0x7E

/-- May stand in a fragment. -/
def inFragment (c : Char) : Bool := isVisible c && !([' ', '"', '<', '>', '\x60'].contains c)

/-- May stand in a query. -/
def inQuery (c : Char) : Bool := isVisible c && !([' ', '"', '#', '<', '>'].contains c)

/-- May stand in the query of an address with a known scheme. -/
def inSpecialQuery (c : Char) : Bool := inQuery c && c != '\''

/-- May stand in a path. -/
def inPath (c : Char) : Bool :=
  inQuery c && !(['?', '^', '\x60', '\x7b', '\x7d'].contains c)

/-- May stand in a user name or password. -/
def inUserinfo (c : Char) : Bool :=
  inPath c && !(['/', ':', ';', '=', '@', '[', '\\', ']', '|'].contains c)

end OpenPulls.Percent
