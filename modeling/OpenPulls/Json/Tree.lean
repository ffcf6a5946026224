import OpenPulls.Json.Write

/-!
# JSON as trees

A JSON text, taken apart. A number is kept as it is written, since the same number has several
spellings, and an object keeps its members in order, with keys that may repeat. `Tree.written`
writes a tree without blanks.
-/

namespace OpenPulls.Json

/-! ## Numbers -/

/-- A digit in base ten. -/
abbrev Digit := Fin 10

/-- The character of a digit. -/
def Digit.char (d : Digit) : Char := Nat.digitChar d

/-- The exponent of a number as it is written, with one digit at least. -/
structure Exponent where
  isCapital : Bool
  /-- Whether the sign is a plus, if there is a sign. -/
  isUp : Option Bool
  first : Digit
  rest : List Digit
deriving Repr, DecidableEq

/-- The text of an exponent. -/
def Exponent.written (e : Exponent) : List Char :=
  (if e.isCapital then 'E' else 'e')
    :: (e.isUp.map fun up => if up then '+' else '-').toList ++ (e.first :: e.rest).map Digit.char

/-- A number as it is written. Its whole part has no leading zeros. -/
structure Numeral where
  isNegative : Bool
  whole : Nat
  /-- The places after the point; there is no point without them. -/
  places : List Digit
  exponent : Option Exponent
deriving Repr, DecidableEq

namespace Numeral

/-- A number that is written as an integer without sign. -/
def unsigned (n : UInt64) : Numeral := ⟨false, n.toNat, [], none⟩

/-- What follows the whole part. -/
def behindWhole (n : Numeral) : List Char :=
  (if n.places = [] then [] else '.' :: n.places.map Digit.char)
    ++ (n.exponent.map Exponent.written).getD []

/-- The text of a number. -/
def written (n : Numeral) : List Char :=
  (if n.isNegative then ['-'] else []) ++ Nat.toDigits 10 n.whole ++ n.behindWhole

end Numeral

/-! ## Trees -/

/-- A JSON value. -/
inductive Tree where
  | null
  | boolean (b : Bool)
  | number (n : Numeral)
  | string (s : String)
  | array (items : List Tree)
  | object (members : List (String × Tree))
deriving Repr

namespace Tree

mutual

/-- A value without blanks. -/
def written : Tree → List Char
  | .null => ['n', 'u', 'l', 'l']
  | .boolean true => ['t', 'r', 'u', 'e']
  | .boolean false => ['f', 'a', 'l', 's', 'e']
  | .number n => n.written
  | .string s => writtenString s
  | .array items => compact '[' ']' (writtenItems items)
  | .object members => compact '\x7b' '\x7d' (writtenMembers members)

/-- The items of an array without blanks. -/
def writtenItems : List Tree → List (List Char)
  | [] => []
  | t :: rest => t.written :: writtenItems rest

/-- The members of an object without blanks. -/
def writtenMembers : List (String × Tree) → List (List Char)
  | [] => []
  | (key, t) :: rest => member [] (key, t.written) :: writtenMembers rest

end

end Tree

/-- The values of all members with the given key. -/
def valuesOf (key : String) (members : List (String × Tree)) : List Tree :=
  (members.filter (·.1 = key)).map (·.2)

end OpenPulls.Json
