import OpenPulls.Unicode.Table

/-!
# Sets of characters

A set of characters is a list of ranges of code points. The operations keep the list sorted, with
a gap between any two ranges, so that a set of characters has one form.

Surrogate code points are no characters: they may lie inside a range, but no range holds only
them, so a set is empty exactly when it has no range.
-/

namespace OpenPulls.Unicode

/-- A set of characters, as ranges of code points with both ends included. -/
structure CharSet where
  ranges : List (Nat × Nat)
deriving Repr, Inhabited, BEq, DecidableEq

namespace CharSet

/-- The greatest code point. -/
def maxCode : Nat := 0x10FFFF

/-- The set without characters. -/
def empty : CharSet := ⟨[]⟩

/-- The set of all characters. -/
def full : CharSet := ⟨[(0, maxCode)]⟩

/-- The set of one character. -/
def singleton (c : Char) : CharSet := ⟨[(c.toNat, c.toNat)]⟩

/-- A range of characters. -/
def range (lo hi : Char) : CharSet := ⟨[(lo.toNat, hi.toNat)]⟩

/-- A character is in the set when a range holds its code point. -/
def contains (s : CharSet) (c : Char) : Bool :=
  s.ranges.any fun r => r.1 ≤ c.toNat && c.toNat ≤ r.2

/-- The set has no characters. -/
def isEmpty (s : CharSet) : Bool := s.ranges.isEmpty

/-- Joins ranges that overlap or touch, in a list sorted by first code point; `current` is the
range that is still growing. -/
def joinFrom (current : Nat × Nat) : List (Nat × Nat) → List (Nat × Nat)
  | [] => [current]
  | r :: rest =>
    if r.1 ≤ current.2 + 1 then joinFrom (current.1, max current.2 r.2) rest
    else current :: joinFrom r rest

/-- Joins the ranges of a sorted list. -/
def join : List (Nat × Nat) → List (Nat × Nat)
  | [] => []
  | r :: rest => joinFrom r rest

/-- The set of the characters in any of the ranges, which may come in any order. -/
def ofRanges (ranges : List (Nat × Nat)) : CharSet :=
  ⟨join (ranges.mergeSort fun a b => a.1 ≤ b.1)⟩

/-- The set that a table text lists. -/
def ofText (text : String) : CharSet := ofRanges (Table.ranges text)

/-- The characters in either set. -/
def union (s t : CharSet) : CharSet :=
  ⟨join (s.ranges.merge t.ranges fun a b => a.1 ≤ b.1)⟩

/-- The characters in any of the sets. -/
def unions (sets : List CharSet) : CharSet := ofRanges (sets.flatMap (·.ranges))

/-- The gaps between the ranges, from `start` on. -/
def gapsFrom (start : Nat) : List (Nat × Nat) → List (Nat × Nat)
  | [] => if start ≤ maxCode then [(start, maxCode)] else []
  | r :: rest =>
    if start < r.1 then (start, r.1 - 1) :: gapsFrom (r.2 + 1) rest
    else gapsFrom (r.2 + 1) rest

/-- The characters outside the set. A gap of surrogates alone holds none. -/
def compl (s : CharSet) : CharSet :=
  ⟨(gapsFrom 0 s.ranges).filter fun r => !(0xD800 ≤ r.1 && r.2 ≤ 0xDFFF)⟩

/-- The characters in both sets. -/
def inter (s t : CharSet) : CharSet := (s.compl.union t.compl).compl

/-- The characters of the first set that are not in the second. -/
def diff (s t : CharSet) : CharSet := s.inter t.compl

/-- The characters in exactly one of the sets. -/
def symmDiff (s t : CharSet) : CharSet := (s.union t).diff (s.inter t)

/-- Every character of the set is ASCII. -/
def isAscii (s : CharSet) : Bool := s.ranges.all fun r => r.2 ≤ 0x7F

/-- The only character of a set that has exactly one. -/
def single? (s : CharSet) : Option Char :=
  match s.ranges with
  | [(lo, hi)] => if lo = hi then some (Char.ofNat lo) else none
  | _ => none

@[simp] theorem contains_singleton (c d : Char) : (singleton c).contains d = decide (c = d) := by
  have h : (c.toNat = d.toNat) ↔ c = d :=
    ⟨fun h => Char.ext (UInt32.toNat_inj.mp h), fun h => h ▸ rfl⟩
  rw [Bool.eq_iff_iff]
  simp only [contains, singleton, List.any_cons, List.any_nil, Bool.or_false, Bool.and_eq_true,
    decide_eq_true_eq, ← h]
  omega

@[simp] theorem contains_empty (c : Char) : empty.contains c = false := rfl

end CharSet

end OpenPulls.Unicode
