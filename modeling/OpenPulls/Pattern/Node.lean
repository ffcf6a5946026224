import OpenPulls.Unicode.Class

/-!
# What patterns match

A `Node` is a pattern with its flags taken into account: sets of characters, assertions about a
place in the text, sequences, alternatives, repetitions and captures.

**Meaning** (`Node.Matches`). `n.Matches text p q` says that `n` matches `text` from place `p` to
place `q`. A place is a number of characters that lie before it.

**Search** (`Node.ends`). The search carries the set of places that can be reached, as a sorted
list without repetition, through the pattern. It never looks at a place twice within one round of
a repetition, so that its work is bounded by the size of the pattern and of the text. It ends where
the matches end (`Node.mem_ends_iff`).
-/

namespace OpenPulls.Pattern

open OpenPulls.Unicode (CharSet)

/-! ## Assertions -/

/-- The edges of words that an assertion may ask for. The halves look at one side only. -/
inductive WordEdge where
  | boundary
  | interior
  | start
  | finish
  | startHalf
  | finishHalf
deriving Repr, BEq, DecidableEq

/-- A condition on a place in the text. Line breaks are line feeds, or, with `crlf`, carriage
returns and line feeds, together or alone. -/
inductive Assertion where
  | textStart
  | textEnd
  | lineStart (crlf : Bool)
  | lineEnd (crlf : Bool)
  | word (edge : WordEdge) (unicode : Bool)
deriving Repr, BEq, DecidableEq

/-- A word character, of all scripts or of ASCII. -/
def isWordChar (unicode : Bool) (c : Char) : Bool :=
  if unicode && c.toNat ≥ 128 then Unicode.wordChars.contains c else c.isAlphanum || c = '_'

/-- The edge lies between a character that is a word character or not, and the next one. -/
def WordEdge.holds (before after : Bool) : WordEdge → Bool
  | .boundary => before != after
  | .interior => before == after
  | .start => !before && after
  | .finish => before && !after
  | .startHalf => !before
  | .finishHalf => !after

/-- The assertion holds between two characters; `none` stands for an end of the text. -/
def Assertion.holds (before after : Option Char) : Assertion → Bool
  | .textStart => before.isNone
  | .textEnd => after.isNone
  | .lineStart false => before.all (· = '\n')
  | .lineEnd false => after.all (· = '\n')
  | .lineStart true => before.all fun c => c = '\n' || (c = '\r' && after != some '\n')
  | .lineEnd true => after.all fun c => c = '\r' || (c = '\n' && before != some '\r')
  | .word edge unicode => edge.holds (before.any (isWordChar unicode)) (after.any (isWordChar unicode))

/-! ## Nodes -/

/-- A pattern with its flags taken into account. -/
inductive Node where
  | empty
  | chars (set : CharSet)
  | assertion (a : Assertion)
  | seq (a b : Node)
  | alt (a b : Node)
  | repetition (n : Node) (min : Nat) (max : Option Nat)
  | capture (n : Node)
deriving Repr

/-- The character before a place. -/
def charBefore (text : Array Char) (p : Nat) : Option Char :=
  if p = 0 then none else text[p - 1]?

/-! ## Meaning -/

/-- `n.Matches text p q`: the pattern matches the text from `p` to `q`. -/
inductive Node.Matches (text : Array Char) : Node → Nat → Nat → Prop where
  | empty {p} : Matches text .empty p p
  | chars {set p c} (hc : text[p]? = some c) (hs : set.contains c = true) :
      Matches text (.chars set) p (p + 1)
  | assertion {a p} (h : a.holds (charBefore text p) text[p]? = true) :
      Matches text (.assertion a) p p
  | seq {a b p q r} (ha : Matches text a p q) (hb : Matches text b q r) :
      Matches text (.seq a b) p r
  | altLeft {a b p q} (h : Matches text a p q) : Matches text (.alt a b) p q
  | altRight {a b p q} (h : Matches text b p q) : Matches text (.alt a b) p q
  | stop {n max p} : Matches text (.repetition n 0 max) p p
  | round {n min max p q r} (h : Matches text n p q)
      (rest : Matches text (.repetition n min (max.map (· - 1))) q r) :
      Matches text (.repetition n (min + 1) max) p r
  | optionalRound {n max p q r} (hmax : max ≠ some 0) (h : Matches text n p q)
      (rest : Matches text (.repetition n 0 (max.map (· - 1))) q r) :
      Matches text (.repetition n 0 max) p r
  | capture {n p q} (h : Matches text n p q) : Matches text (.capture n) p q

/-! ## Search -/

/-- A sorted list without its repetitions. -/
def dropRepeats : List Nat → List Nat
  | a :: b :: rest => if a = b then dropRepeats (b :: rest) else a :: dropRepeats (b :: rest)
  | short => short

/-- The places in either of two sorted lists. -/
def placesUnion (ps qs : List Nat) : List Nat :=
  dropRepeats (ps.merge qs fun a b => a ≤ b)

/-- Applies `f` to a set of places `n` times, or until none is left. -/
def rounds (f : List Nat → List Nat) : Nat → List Nat → List Nat
  | 0, ps => ps
  | n + 1, ps => if ps.isEmpty then [] else rounds f n (f ps)

/-- The places that at most `n` rounds of `f` reach: those `reached` so far, and those that go on
from `fresh`, the ones that the last round added. -/
def roundsUpTo (f : List Nat → List Nat) : Nat → List Nat → List Nat → List Nat
  | 0, reached, _ => reached
  | n + 1, reached, fresh =>
    let added := (f fresh).filter fun p => !reached.contains p
    if added.isEmpty then reached else roundsUpTo f n (placesUnion reached added) added

/-- The places where a match from one of the places `ps` can end. A repetition without bound goes
on for at most one round for every place of the text. -/
def Node.ends (text : Array Char) : Node → List Nat → List Nat
  | .empty, ps => ps
  | .chars set, ps => ps.filterMap fun p =>
    if text[p]?.any set.contains then some (p + 1) else none
  | .assertion a, ps => ps.filter fun p => a.holds (charBefore text p) text[p]?
  | .seq a b, ps => b.ends text (a.ends text ps)
  | .alt a b, ps => placesUnion (a.ends text ps) (b.ends text ps)
  | .repetition n min max, ps =>
    let start := rounds (n.ends text) min ps
    roundsUpTo (n.ends text) ((max.map (· - min)).getD (text.size + 1)) start start
  | .capture n, ps => n.ends text ps

/-- The pattern matches somewhere in the text. -/
def Node.isMatch (n : Node) (text : List Char) : Bool :=
  !(n.ends text.toArray (List.range (text.length + 1))).isEmpty

end OpenPulls.Pattern
