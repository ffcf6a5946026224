import OpenPulls.Unicode.Class

/-!
# Quoted text in messages

Messages show a text between double quotes, with everything that could not be told apart on paper
escaped: quotes, backslashes, characters that do not print, and characters that would attach to
the one before them.
-/

namespace OpenPulls.Text

/-- The digits of a number in lower-case hexadecimal, without leading zeros. -/
def hexDigits (n : Nat) : List Char := Nat.toDigits 16 n

/-- The character as a number in hexadecimal. -/
def numericEscape (c : Char) : List Char :=
  '\\' :: 'u' :: '\x7b' :: hexDigits c.toNat ++ ['\x7d']

/-- A character as it stands in a quoted text. -/
def quotedChar (c : Char) : List Char :=
  match c with
  | '\x00' => ['\\', '0']
  | '\t' => ['\\', 't']
  | '\r' => ['\\', 'r']
  | '\n' => ['\\', 'n']
  | '\\' => ['\\', '\\']
  | '"' => ['\\', '"']
  | _ =>
    if Unicode.graphemeExtenders.contains c || !Unicode.printable.contains c then numericEscape c
    else [c]

/-- A text between quotes. -/
def quoted (text : String) : String :=
  String.ofList ('"' :: text.toList.flatMap quotedChar ++ ['"'])

end OpenPulls.Text
