import OpenPulls.Text.Quoted
import OpenPulls.Decimal.Shortest

/-!
# What can be wrong with a JSON text

A text can end too early, be no JSON, or be JSON of another shape than was asked for. The last
kind of error says what was found and what was expected.
-/

namespace OpenPulls.Json

/-- A number: an integer of 64 bits or, if it does not fit or is not written as one, a
floating-point number. -/
inductive Number where
  | unsigned (n : UInt64)
  /-- The integer is minus `n`. -/
  | negative (n : Nat)
  | float (f : Float)

/-- What was found where something else was expected. -/
inductive Found where
  | null
  | boolean (b : Bool)
  | number (n : Number)
  | string (s : String)
  | sequence
  | map

/-- What was expected. -/
inductive Expected where
  | boolean
  | unsigned
  | string
  | sequence
  | unit
  | record (name : String)
  | recordOf (name : String) (fields : Nat)
deriving Repr, BEq, DecidableEq

/-- How a text misses the shape that was asked for. -/
inductive Mismatch where
  | wrongType (found : Found) (expected : Expected)
  | wrongValue (found : Found) (expected : Expected)
  | wrongLength (length : Nat) (expected : Expected)
  | missingField (name : String)
  | repeatedField (name : String)
  /-- A page is not the last but says not where the next one begins. -/
  | missingCursor

/-- What is wrong with a JSON text. -/
inductive Error where
  /-- The text ends before its value does. -/
  | unfinished
  /-- The text is no JSON. -/
  | malformed
  /-- The text is JSON of another shape than was asked for. -/
  | mismatch (m : Mismatch)

/-! ## Wording -/

/-- The wording of what was found. -/
def Found.text : Found → String
  | .null => "null"
  | .boolean b => "boolean `" ++ (if b then "true" else "false") ++ "`"
  | .number (.unsigned n) => "integer `" ++ toString n.toNat ++ "`"
  | .number (.negative n) => "integer `-" ++ toString n ++ "`"
  | .number (.float f) => "floating point `" ++ Decimal.floatText f ++ "`"
  | .string s => "string " ++ Text.quoted s
  | .sequence => "sequence"
  | .map => "map"

/-- The wording of what was expected. -/
def Expected.text : Expected → String
  | .boolean => "a boolean"
  | .unsigned => "u64"
  | .string => "a string"
  | .sequence => "a sequence"
  | .unit => "unit"
  | .record name => "struct " ++ name
  | .recordOf name 1 => "struct " ++ name ++ " with 1 element"
  | .recordOf name n => "struct " ++ name ++ " with " ++ toString n ++ " elements"

/-- The wording of a mismatch. -/
def Mismatch.text : Mismatch → String
  | .wrongType found expected => "invalid type: " ++ found.text ++ ", expected " ++ expected.text
  | .wrongValue found expected => "invalid value: " ++ found.text ++ ", expected " ++ expected.text
  | .wrongLength length expected =>
    "invalid length " ++ toString length ++ ", expected " ++ expected.text
  | .missingField name => "missing field `" ++ name ++ "`"
  | .repeatedField name => "duplicate field `" ++ name ++ "`"
  | .missingCursor => "isLastPage is false but nextPageStart is missing"

/-- The wording of an error. Where it stands in the text, as a line and a column, is left out. An
error in the syntax is worded only by its kind. -/
def Error.text : Error → String
  | .unfinished => "the text ends before its value does"
  | .malformed => "the text is not JSON"
  | .mismatch m => m.text

end OpenPulls.Json
