/-!
# Base sixty-four

Three bytes are written as four characters of an alphabet of sixty-four. One or two bytes at the
end are filled up with `=`.
-/

namespace OpenPulls.Text.Base64

/-- The character of a digit. -/
def digitChar (d : Nat) : Char :=
  Char.ofNat <|
    if d < 26 then 0x41 + d
    else if d < 52 then 0x61 + d - 26
    else if d < 62 then 0x30 + d - 52
    else if d = 62 then 0x2B
    else 0x2F

/-- The first `count` of the four digits of a number of three bytes. -/
def digits (count n : Nat) : List Char :=
  ([n / 262144, n / 4096 % 64, n / 64 % 64, n % 64].take count).map digitChar

/-- Writes bytes. -/
def encode : List UInt8 → List Char
  | a :: b :: c :: rest => digits 4 (a.toNat * 65536 + b.toNat * 256 + c.toNat) ++ encode rest
  | [a, b] => digits 3 (a.toNat * 65536 + b.toNat * 256) ++ ['=']
  | [a] => digits 2 (a.toNat * 65536) ++ ['=', '=']
  | [] => []

end OpenPulls.Text.Base64
