import OpenPulls.Pattern.Node

/-!
# The size of a pattern

A pattern is bounded by the memory that its automaton over bytes would take. The automaton has a
state for each byte that a character needs; a set of characters becomes an acyclic automaton over
the bytes of their encoding. It exists in a forward and in a backward form, and both must stay
within the limit (`Node.isTooBig`).

**Sizes.** A state takes 32 bytes, a transition 8, a branch 4.

The size is computed without building the automaton, so that a pattern with billions of rounds is
refused at once.
-/

namespace OpenPulls.Pattern

open OpenPulls.Unicode (CharSet)

/-- Memory of one state. -/
def stateSize : Nat := 32

/-- Memory of one transition of a state that leads to several others by byte. -/
def transitionSize : Nat := 8

/-- Memory of one branch of a state that leads to several others without reading. -/
def branchSize : Nat := 4

/-- The greatest size that is allowed: ten mebibytes. -/
def sizeLimit : Nat := 10 * 1024 * 1024

/-! ## Byte sequences -/

/-- The bytes that encode a code point. -/
def encoding (c : Nat) : List Nat :=
  if c < 0x80 then [c]
  else if c < 0x800 then [0xC0 + c / 64, 0x80 + c % 64]
  else if c < 0x10000 then [0xE0 + c / 4096, 0x80 + c / 64 % 64, 0x80 + c % 64]
  else [0xF0 + c / 262144, 0x80 + c / 4096 % 64, 0x80 + c / 64 % 64, 0x80 + c % 64]

/-- Splits a range so that in every part the last `6 * k` bits are free, for growing `k`: a part
either stays within one block of `64 ^ k` or covers whole blocks. -/
def splitBlocks (k : Nat) (r : Nat × Nat) : List (Nat × Nat) :=
  let block := Nat.pow 64 k
  let (lo, hi) := r
  if lo / block = hi / block then [r]
  else
    let front := if lo % block = 0 then [] else [(lo, (lo / block + 1) * block - 1)]
    let back := if hi % block = block - 1 then [] else [(hi / block * block, hi)]
    let lo := if lo % block = 0 then lo else (lo / block + 1) * block
    let hi := if hi % block = block - 1 then hi else hi / block * block - 1
    front ++ (if lo ≤ hi then [(lo, hi)] else []) ++ back

/-- Cuts a range at the given bounds, each of which begins a new part. -/
def cutAt (bounds : List Nat) (r : Nat × Nat) : List (Nat × Nat) :=
  bounds.foldr (fun b parts => parts.flatMap fun (lo, hi) =>
    if lo < b && b ≤ hi then [(lo, b - 1), (b, hi)] else [(lo, hi)]) [r]

/-- The sequences of byte ranges that encode a range of code points, in order. -/
def byteSequences (r : Nat × Nat) : List (List (Nat × Nat)) :=
  let parts := (cutAt [0x80, 0x800, 0x10000, 0xD800, 0xE000] r).filter
    fun p => !(0xD800 ≤ p.1 && p.2 ≤ 0xDFFF)
  let blocks (p : Nat × Nat) : List (Nat × Nat) :=
    if p.2 < 0x80 then [p]
    else ((splitBlocks 1 p).flatMap (splitBlocks 2)).flatMap (splitBlocks 3)
  (parts.flatMap blocks).map fun (lo, hi) => (encoding lo).zip (encoding hi)

/-! ## Sets of characters -/

/-- A state of the forward automaton of a set: byte ranges with the number of the next state. -/
abbrev ByteState := List (Nat × Nat × Nat)

/-- Groups sequences by their first byte range. -/
def groupByFirst (seqs : List (List (Nat × Nat))) :
    List ((Nat × Nat) × List (List (Nat × Nat))) :=
  seqs.foldr (fun s groups =>
    match s, groups with
    | [], _ => groups
    | r :: tail, (r', tails) :: more =>
      if r = r' then (r', tail :: tails) :: more else (r, [tail]) :: (r', tails) :: more
    | r :: tail, [] => [(r, [tail])]) []

/-- Adds the states of the forward automaton for the sequences to `known`, sharing equal ones, and
gives the number of the first. The final state has number zero. Sequences have at most four bytes,
so `depth` four reaches their ends. -/
def addStates : Nat → List ByteState → List (List (Nat × Nat)) → Nat × List ByteState
  | 0, known, _ => (0, known)
  | depth + 1, known, seqs =>
    if seqs.all (·.isEmpty) then (0, known)
    else
      let (state, known) := (groupByFirst seqs).foldl
        (fun (state, known) (r, tails) =>
          let (next, known) := addStates depth known tails
          (state ++ [(r.1, r.2, next)], known))
        (([] : ByteState), known)
      match known.findIdx? (· == state) with
      | some i => (known.length - i, known)
      | none => (known.length + 1, state :: known)

/-- The size of the forward automaton of a set beyond ASCII. -/
def forwardSetSize (s : CharSet) : Nat :=
  let (_, states) := addStates 5 [] (s.ranges.flatMap byteSequences)
  states.foldl (fun n st => n + stateSize + transitionSize * st.length) stateSize

/-- The number of distinct nonempty beginnings of the sequences, which come in order. -/
def countBeginnings : Nat → List (List (Nat × Nat)) → Nat
  | 0, _ => 0
  | depth + 1, seqs =>
    (groupByFirst seqs).foldl (fun n (_, tails) => n + 1 + countBeginnings depth tails) 0

/-- The size of the backward automaton of a set beyond ASCII: a branch for each sequence, and a
state for each beginning of one. -/
def backwardSetSize (s : CharSet) : Nat :=
  let seqs := s.ranges.flatMap byteSequences
  2 * stateSize + stateSize * countBeginnings 5 seqs + branchSize * seqs.length

/-- The size of the automaton of a set: a state for each byte of a single character, one state
with a transition for each range of a set of ASCII. -/
def setSize (forward : Bool) (s : CharSet) : Nat :=
  match s.single? with
  | some c => stateSize * (encoding c.toNat).length
  | none =>
    if s.isAscii then 2 * stateSize + transitionSize * s.ranges.length
    else if forward then forwardSetSize s
    else backwardSetSize s

/-! ## Nodes -/

/-- The pattern matches the empty text only, if anything. -/
def Node.isWidthless : Node → Bool
  | .empty | .assertion _ => true
  | .chars _ => false
  | .seq a b | .alt a b => a.isWidthless && b.isWidthless
  | .repetition n _ max => n.isWidthless || max == some 0
  | .capture n => n.isWidthless

/-- The pattern may match the empty text. -/
def Node.isNullable : Node → Bool
  | .empty | .assertion _ => true
  | .chars _ => false
  | .seq a b => a.isNullable && b.isNullable
  | .alt a b => a.isNullable || b.isNullable
  | .repetition n min _ => min = 0 || n.isNullable
  | .capture n => n.isNullable

/-- The size of a repetition of a part of size `part`. -/
def repetitionSize (part : Nat) (nullable : Bool) (min : Nat) : Option Nat → Nat
  | none =>
    if min = 0 then
      if nullable then part + 3 * stateSize + 4 * branchSize
      else part + stateSize + 2 * branchSize
    else min * part + stateSize + 2 * branchSize
  | some max =>
    if min = 0 && max = 1 then part + 2 * stateSize + 2 * branchSize
    else if min = max then min * part
    else min * part + 2 * stateSize + (max - min) * (part + stateSize + 2 * branchSize)

/-- The size of the automaton of a pattern. Only the forward automaton records captures. Repeating
a part that matches the empty text only makes no difference beyond the first round. -/
def Node.size (forward : Bool) : Node → Nat
  | .empty => stateSize
  | .chars set => setSize forward set
  | .assertion _ => stateSize
  | .seq .empty b => b.size forward
  | .seq a .empty => a.size forward
  | .seq a b => a.size forward + b.size forward
  | .alt a b => a.size forward + b.size forward + 2 * stateSize + 2 * branchSize
  | .repetition n min max =>
    let (min, max) := if n.isWidthless then (Nat.min min 1, some ((max.map (Nat.min 1)).getD 1))
      else (min, max)
    if max = some 0 then stateSize
    else if min = 1 && max = some 1 then n.size forward
    else repetitionSize (n.size forward) n.isNullable min max
  | .capture n => n.size forward + if forward then 2 * stateSize else 0

/-- The size of the automaton around a pattern: its search for a beginning, its capture of the
match, and its end. -/
def aroundSize (forward : Bool) : Nat :=
  if forward then 5 * stateSize + 2 * branchSize else 3 * stateSize + 2 * branchSize

/-- The pattern is too big in one of its forms. -/
def Node.isTooBig (n : Node) : Bool :=
  n.size true + aroundSize true > sizeLimit || n.size false + aroundSize false > sizeLimit

end OpenPulls.Pattern
