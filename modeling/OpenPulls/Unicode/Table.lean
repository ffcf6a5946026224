/-!
# Tables written as text

The Unicode properties of this library are data of a standard. They are written as text, one
token per run of code points, and read once.

**Ranges** (`Table.ranges`). `41-5A` is the range from U+0041 to U+005A, `B5` a single code point.

**Maps** (`Table.runs`). `41-5A>61` sends U+0041 to U+0061, U+0042 to U+0062 and so on. With a
step, `100-12E/2>101` speaks of every second code point. `DF>73,73` sends one code point to two.
-/

namespace OpenPulls.Unicode

/-- The value of a hexadecimal digit; other characters count as zero. -/
def hexDigit (c : Char) : Nat :=
  if c.isDigit then c.toNat - 48
  else if 65 ≤ c.toNat && c.toNat ≤ 70 then c.toNat - 55
  else 0

/-- The number that a run of hexadecimal digits stands for. -/
def hexNumber (digits : List Char) : Nat :=
  digits.foldl (fun n c => n * 16 + hexDigit c) 0

/-- The pieces of `text` between the characters that `isBreak` selects, empty pieces left out. -/
def pieces (isBreak : Char → Bool) (text : List Char) : List (List Char) :=
  let step : Char → List Char × List (List Char) → List Char × List (List Char) :=
    fun c (piece, done) =>
      if isBreak c then ([], if piece.isEmpty then done else piece :: done)
      else (c :: piece, done)
  let (piece, done) := text.foldr step ([], [])
  if piece.isEmpty then done else piece :: done

namespace Table

/-- Tokens are separated by blanks and line breaks. -/
def tokens (text : String) : List (List Char) :=
  pieces (fun c => c = ' ' || c = '\n') text.toList

/-- The ends of a range token. -/
def range (token : List Char) : Nat × Nat :=
  match pieces (· = '-') token with
  | [lo, hi] => (hexNumber lo, hexNumber hi)
  | [one] => (hexNumber one, hexNumber one)
  | _ => (0, 0)

/-- The ranges that a text lists. -/
def ranges (text : String) : List (Nat × Nat) :=
  (tokens text).map range

/-- A run of code points with the same treatment: every `step`-th one from `first` to `last` goes
to `target`, shifted by its distance from `first`. -/
structure Run where
  first : Nat
  last : Nat
  step : Nat
  target : List Nat
deriving Repr, Inhabited

namespace Run

/-- The code points that `c` goes to, if the run speaks of `c`. Only a target of one code point
shifts. -/
def target? (r : Run) (c : Nat) : Option (List Nat) :=
  if r.first ≤ c ∧ c ≤ r.last ∧ (c - r.first) % r.step = 0 then
    match r.target with
    | [t] => some [t + (c - r.first)]
    | ts => some ts
  else none

/-- The code points that the run speaks of. -/
def sources (r : Run) : List Nat :=
  (List.range ((r.last - r.first) / r.step + 1)).map fun k => r.first + k * r.step

end Run

/-- The run that a map token writes. -/
def run (token : List Char) : Run :=
  match pieces (· = '>') token with
  | [source, target] =>
    let target := (pieces (· = ',') target).map hexNumber
    match pieces (· = '/') source with
    | [ends, step] =>
      let (first, last) := range ends
      ⟨first, last, hexNumber step, target⟩
    | _ =>
      let (first, last) := range source
      ⟨first, last, 1, target⟩
  | _ => ⟨0, 0, 1, [0]⟩

/-- The runs that a text lists. -/
def runs (text : String) : List Run :=
  (tokens text).map run

/-- What the first run that speaks of `c` sends it to. -/
def lookup? (table : List Run) (c : Nat) : Option (List Nat) :=
  table.findSome? (·.target? c)

end Table

end OpenPulls.Unicode
