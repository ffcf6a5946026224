import OpenPulls.Text.Quoted

/-!
# Writing JSON

Texts are written between quotes with the escapes that JSON asks for, and lists of records in two
layouts: without any blanks, or with a line for each member and two blanks for each level.
-/

namespace OpenPulls.Json

/-- A hexadecimal digit in lower case. -/
def hexDigit (n : Nat) : Char := Nat.digitChar n

/-- A character as it stands in a written string: quotes, backslashes and control characters are
escaped. -/
def writtenChar (c : Char) : List Char :=
  match c with
  | '"' => ['\\', '"']
  | '\\' => ['\\', '\\']
  | '\x08' => ['\\', 'b']
  | '\x0c' => ['\\', 'f']
  | '\n' => ['\\', 'n']
  | '\r' => ['\\', 'r']
  | '\t' => ['\\', 't']
  | _ =>
    if c.toNat < 0x20 then
      ['\\', 'u', '0', '0', hexDigit (c.toNat / 16), hexDigit (c.toNat % 16)]
    else [c]

/-- A text as a JSON string. -/
def writtenString (text : String) : List Char :=
  '"' :: text.toList.flatMap writtenChar ++ ['"']

/-- A number without sign. -/
def writtenNumber (n : UInt64) : List Char := Nat.toDigits 10 n.toNat

/-- The members of an object, written. -/
abbrev Members := List (String × List Char)

/-- An object or array without blanks: its brackets with the parts between, separated by commas. -/
def compact (opening closing : Char) (parts : List (List Char)) : List Char :=
  opening :: (List.intercalate [','] parts) ++ [closing]

/-- A line break with the blanks of a level. -/
def newLine (level : Nat) : List Char := '\n' :: List.replicate (2 * level) ' '

/-- An object or array with a line for each part; without parts its brackets stand together. -/
def spread (level : Nat) (opening closing : Char) (parts : List (List Char)) : List Char :=
  if parts.isEmpty then [opening, closing]
  else
    opening :: newLine (level + 1) ++ List.intercalate (',' :: newLine (level + 1)) parts
      ++ newLine level ++ [closing]

/-- A member of an object, with `gap` after its colon. -/
def member (gap : List Char) (m : String × List Char) : List Char :=
  writtenString m.1 ++ ':' :: gap ++ m.2

/-- A list of objects without blanks. -/
def compactObjects (objects : List Members) : List Char :=
  compact '[' ']' (objects.map fun o => compact '\x7b' '\x7d' (o.map (member [])))

/-- A list of objects with a line for each member. -/
def prettyObjects (objects : List Members) : List Char :=
  spread 0 '[' ']' (objects.map fun o => spread 1 '\x7b' '\x7d' (o.map (member [' '])))

end OpenPulls.Json
