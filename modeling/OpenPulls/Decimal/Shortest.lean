/-!
# The shortest decimal that reads back

A floating-point number stands for every real number that rounds to it. Of the decimals in that
interval this module finds those with the fewest digits, and of these the nearest.

**Parts** (`Parts`). A positive finite number is `mantissa * 2 ^ exponent`.
-/

namespace OpenPulls.Decimal

/-- A positive finite number as a mantissa and a power of two. -/
structure Parts where
  mantissa : Nat
  exponent : Int
  /-- The next smaller number is half as far away as the next greater one. -/
  narrowBelow : Bool
deriving Repr

/-- The parts of the absolute value of a number. -/
def Parts.ofBits (bits : UInt64) : Parts :=
  let fraction : Nat := bits.toNat % Nat.pow 2 52
  let field : Nat := bits.toNat / Nat.pow 2 52 % Nat.pow 2 11
  if field = 0 then ⟨fraction, -1074, false⟩
  else ⟨fraction + Nat.pow 2 52, (field : Int) - 1075, fraction = 0 && field > 1⟩

/-- Digits with the power of ten of the first: `12` and `3` stand for 1200. -/
structure Digits where
  value : Nat
  count : Nat
  exponent : Int
deriving Repr

/-- The interval of a number, its middle and its ends as fractions over `denominator`. -/
structure Interval where
  low : Nat
  middle : Nat
  high : Nat
  denominator : Nat
  closed : Bool
deriving Repr

/-- The interval of the reals that round to the number. Its ends belong to it when the mantissa is
even. -/
def Parts.interval (p : Parts) : Interval :=
  let up := if p.exponent < 0 then 1 else Nat.pow 2 p.exponent.toNat
  let down := if p.exponent < 0 then Nat.pow 2 (-p.exponent).toNat else 1
  let below := if p.narrowBelow then 1 else 2
  ⟨(4 * p.mantissa - below) * up, 4 * p.mantissa * up, (4 * p.mantissa + 2) * up, 4 * down,
    p.mantissa % 2 = 0⟩

/-- The fraction `n / d` lies in the interval. -/
def Interval.holds (i : Interval) (n d : Nat) : Bool :=
  let low := compare (i.low * d) (n * i.denominator)
  let high := compare (n * i.denominator) (i.high * d)
  if i.closed then low != .gt && high != .gt else low == .lt && high == .lt

/-- The value of `digits * 10 ^ power` as a fraction. -/
def fraction (digits : Nat) (power : Int) : Nat × Nat :=
  if power < 0 then (digits, Nat.pow 10 (-power).toNat) else (digits * Nat.pow 10 power.toNat, 1)

/-- The power of ten of the first digit of `n / d`, searched for downwards from `power`. -/
def leadingPower (n d : Nat) : Nat → Int → Int
  | 0, power => power
  | fuel + 1, power =>
    let (tn, td) := fraction 1 power
    if tn * d ≤ n * td then power else leadingPower n d fuel (power - 1)

/-- The multiple of `10 ^ power` in the interval that is nearest to its middle. An exact tie goes
to the even one. -/
def Interval.nearest? (i : Interval) (power : Int) : Option Nat :=
  let (un, ud) := fraction 1 power
  let below := i.middle * ud / (i.denominator * un)
  let holds := fun k : Nat => let (n, d) := fraction k power; i.holds n d
  -- Twice the distance of the middle from the lower multiple, against one unit.
  let twice := 2 * (i.middle * ud - below * (i.denominator * un))
  let upNearer := twice > i.denominator * un || (twice = i.denominator * un && below % 2 = 1)
  match holds below && below > 0, holds (below + 1) with
  | true, true => some (if upNearer then below + 1 else below)
  | true, false => some below
  | false, true => some (below + 1)
  | false, false => none

/-- Tries one digit, then two, and so on. -/
def Interval.search (i : Interval) (lead : Int) : Nat → Nat → Digits
  | 0, count => ⟨0, count, lead⟩
  | fuel + 1, count =>
    match i.nearest? (lead - count + 1) with
    | some value => ⟨value, count, lead⟩
    | none => i.search lead fuel (count + 1)

/-- The shortest digits of a positive finite number. Seventeen always suffice. -/
def shortest (bits : UInt64) : Digits :=
  let i := (Parts.ofBits bits).interval
  let lead := leadingPower i.middle i.denominator 700 309
  let d := i.search lead 18 1
  -- Rounding up may have gained a digit, which is then a one before zeros.
  if d.value = Nat.pow 10 d.count then ⟨1, 1, lead + 1⟩ else d

/-! ## The text -/

/-- The digits of a number in decimal. -/
def digits (n : Nat) : List Char := Nat.toDigits 10 n

/-- The powers of ten of the first digit that are written without exponent. -/
def plainPowers : Int × Int := (-5, 15)

/-- Digits without exponent, with at least one place after the point. -/
def plain (ds : List Char) (power : Int) : List Char :=
  if power < 0 then
    '0' :: '.' :: List.replicate (-power - 1).toNat '0' ++ ds
  else
    let whole := power.toNat + 1
    if ds.length ≤ whole then ds ++ List.replicate (whole - ds.length) '0' ++ ['.', '0']
    else ds.take whole ++ '.' :: ds.drop whole

/-- Digits with an exponent, which has a sign and at least two digits. -/
def scientific (ds : List Char) (power : Int) : List Char :=
  let tail := match ds.drop 1 with
    | [] => []
    | more => '.' :: more
  let exponent := digits power.natAbs
  ds.take 1 ++ tail ++ 'e' :: (if power < 0 then '-' else '+')
    :: List.replicate (2 - exponent.length) '0' ++ exponent

/-- The text of a finite number: the shortest digits that read back, without exponent between
0.00001 and 10 ^ 16, and with a point or an exponent in any case. -/
def floatText (f : Float) : String :=
  let bits := f.toBits
  let sign := if bits.toNat < UInt64.size / 2 then [] else ['-']
  if bits.toNat % (UInt64.size / 2) = 0 then String.ofList (sign ++ ['0', '.', '0'])
  else
    let d := shortest bits
    let ds := digits d.value
    String.ofList (sign ++
      if plainPowers.1 ≤ d.exponent && d.exponent ≤ plainPowers.2 then plain ds d.exponent
      else scientific ds d.exponent)

end OpenPulls.Decimal
