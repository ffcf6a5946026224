/-!
# Bootstring labels

A label of a domain name that is not in ASCII is written with its ASCII characters first and then,
after a hyphen, the other characters in ascending order, each as the number of steps from the one
before. The numbers are written in a mixed base with digits that adapt to their size.
-/

namespace OpenPulls.Punycode

/-- The base of the digits. -/
def base : Nat := 36

/-- The bias before the first number. -/
def initialBias : Nat := 72

/-- The first code point that is not in ASCII. -/
def initialCode : Nat := 0x80

/-- The bound of all numbers while decoding. -/
def maxNumber : Nat := 0xFFFFFFFF

/-- The character of a digit. -/
def digitChar (d : Nat) : Char := Char.ofNat (if d < 26 then 0x61 + d else 0x30 + d - 26)

/-- The value of a digit. -/
def digitValue? (c : Char) : Option Nat :=
  let n := c.toNat
  if 0x61 ≤ n ∧ n ≤ 0x7A then some (n - 0x61)
  else if 0x41 ≤ n ∧ n ≤ 0x5A then some (n - 0x41)
  else if 0x30 ≤ n ∧ n ≤ 0x39 then some (n - 0x30 + 26)
  else none

/-- The threshold of the digit at position `k`, counted in steps of the base. -/
def threshold (k bias : Nat) : Nat :=
  if k ≤ bias then 1 else if bias + 26 ≤ k then 26 else k - bias

/-- Divides until the number is small, counting the steps in `k`. -/
def scale (delta k : Nat) : Nat × Nat :=
  if 455 < delta then scale (delta / 35) (k + base) else (delta, k)
termination_by delta
decreasing_by exact Nat.div_lt_self (by omega) (by omega)

/-- The bias after a number; `count` characters are known with it. -/
def adapt (delta count : Nat) (isFirst : Bool) : Nat :=
  let delta := if isFirst then delta / 700 else delta / 2
  let (delta, k) := scale (delta + delta / count) 0
  k + 36 * delta / (delta + 38)

/-! ## Writing -/

theorem threshold_le (k bias : Nat) : threshold k bias ≤ 26 := by
  unfold threshold
  repeat' split
  all_goals omega

theorem one_le_threshold (k bias : Nat) : 1 ≤ threshold k bias := by
  unfold threshold
  repeat' split
  all_goals omega

/-- The digits of a number. -/
def digits (bias k n : Nat) : List Char :=
  let t := threshold k bias
  if n < t then [digitChar n]
  else digitChar (t + (n - t) % (base - t)) :: digits bias (k + base) ((n - t) / (base - t))
termination_by n
decreasing_by
  have h := one_le_threshold k bias
  have h' := threshold_le k bias
  calc (n - threshold k bias) / (base - threshold k bias)
      ≤ n - threshold k bias := Nat.div_le_self _ _
    _ < n := by omega

/-- Where writing stands: the number of characters written, the steps since the last one, and the
bias. -/
structure Writer where
  count : Nat
  delta : Nat
  bias : Nat
  written : List Char

/-- Goes through the label and writes each character with the code point `code`. -/
def writeCode (basic code : Nat) (w : Writer) : List Nat → Writer
  | [] => w
  | n :: rest =>
    if n < code then writeCode basic code { w with delta := w.delta + 1 } rest
    else if n = code then
      writeCode basic code
        { count := w.count + 1
          delta := 0
          bias := adapt w.delta (w.count + 1) (w.count = basic)
          written := w.written ++ digits w.bias base w.delta } rest
    else writeCode basic code w rest

/-- Writes the code points of an ascending list; the steps before `code` are done. -/
def writeCodes (label : List Nat) (basic : Nat) (w : Writer) (code : Nat) : List Nat → Writer
  | [] => w
  | next :: rest =>
    let w := writeCode basic next { w with delta := w.delta + (next - code) * (w.count + 1) } label
    writeCodes label basic { w with delta := w.delta + 1 } (next + 1) rest

/-- A label in ASCII. -/
def encode (label : List Char) : List Char :=
  let codes := label.map Char.toNat
  let plain := label.filter fun c => c.toNat < initialCode
  let others := ((codes.filter (initialCode ≤ ·)).mergeSort (· ≤ ·)).eraseReps
  let start := if plain.isEmpty then [] else plain ++ ['-']
  (writeCodes codes plain.length ⟨plain.length, 0, initialBias, start⟩ initialCode others).written

/-! ## Reading -/

/-- Where reading stands. `last` is the place after the last character and `place` adds the
digits that were read since; `weight` is the weight of the next digit and `k` its position. -/
structure Reader where
  text : List Char
  code : Nat
  bias : Nat
  place : Nat
  last : Nat
  weight : Nat
  k : Nat

/-- Ends a number and puts its character into place. -/
def Reader.insert? (r : Reader) (place : Nat) : Option Reader :=
  let count := r.text.length + 1
  let code := r.code + place / count
  let place' := place % count
  if h : code.isValidChar then
    some
      { text := r.text.take place' ++ Char.ofNatAux code h :: r.text.drop place'
        code
        bias := adapt (place - r.last) count (r.last = 0)
        place := place' + 1
        last := place' + 1
        weight := 1
        k := base }
  else none

/-- Reads digits to the end. -/
def readFrom (r : Reader) : List Char → Option (List Char)
  | [] => if r.weight = 1 ∧ r.k = base then some r.text else none
  | c :: rest => do
    let d ← digitValue? c
    let place := r.place + d * r.weight
    if maxNumber < d * r.weight ∨ maxNumber < place then none
    else
      let t := threshold r.k r.bias
      if d < t then readFrom (← r.insert? place) rest
      else
        let weight := r.weight * (base - t)
        if maxNumber < weight then none
        else readFrom { r with place, weight, k := r.k + base } rest

/-- The label that is written in ASCII as the given text. -/
def decode? (text : List Char) : Option (List Char) :=
  let digits := (text.reverse.takeWhile (· ≠ '-')).reverse
  let plain := text.take (text.length - digits.length - 1)
  let digits := if plain.isEmpty then text else digits
  readFrom ⟨plain, initialCode, initialBias, 0, 0, 1, base⟩ digits

end OpenPulls.Punycode
