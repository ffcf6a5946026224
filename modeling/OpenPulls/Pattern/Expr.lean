/-!
# Patterns as written

A pattern is a text in a small language: characters, sets of characters, places, repetition,
groups, sequences and alternatives. `Expr` is what was written, before the flags of its groups
are taken into account.

**Nesting** (`Expr.depth`). Groups, repetitions, sequences, alternatives and bracketed sets nest;
a pattern may nest 250 deep.
-/

namespace OpenPulls.Pattern

/-- The flags that a group may switch on or off. -/
inductive Flag where
  /-- Letters match without regard to case. -/
  | ignoreCase
  /-- Line anchors match at every line break. -/
  | multiLine
  /-- The dot matches line breaks too. -/
  | dotAll
  /-- Repetitions prefer fewer rounds. -/
  | swapGreed
  /-- Classes and case are those of all scripts. -/
  | unicode
  /-- A carriage return with a line feed is one line break. -/
  | crlf
  /-- Blanks and comments in the pattern are skipped. -/
  | ignoreBlanks
deriving Repr, BEq, DecidableEq

/-- Flags with what becomes of them, as a group lists them. -/
abbrev FlagChanges := List (Flag × Bool)

/-- A character of the pattern. With `byte`, it was written as two hexadecimal digits and stands
for one byte where the pattern is not about characters. -/
structure Literal where
  char : Char
  byte : Bool
deriving Repr, BEq, DecidableEq

/-- The places of a text that an anchor may name. -/
inductive Anchor where
  | lineStart
  | lineEnd
  | textStart
  | textEnd
  | wordBoundary
  | noWordBoundary
  | wordStart
  | wordEnd
  | wordStartHalf
  | wordEndHalf
deriving Repr, BEq, DecidableEq

/-- The sets with a letter of their own: digits, blanks and word characters. -/
inductive Shorthand where
  | digit
  | blank
  | word
deriving Repr, BEq, DecidableEq

/-- The named sets of ASCII. -/
inductive AsciiSet where
  | alnum
  | alpha
  | ascii
  | blank
  | cntrl
  | digit
  | graph
  | lower
  | print
  | punct
  | space
  | upper
  | word
  | xdigit
deriving Repr, BEq, DecidableEq

/-- A set that is asked for by name, or by the name and value of a property. -/
inductive PropertyQuery where
  | named (name : String)
  | valued (name value : String)
deriving Repr, BEq, DecidableEq

/-- The operations between bracketed sets. -/
inductive SetOp where
  | intersection
  | difference
  | symmetricDifference
deriving Repr, BEq, DecidableEq

mutual

/-- One item of a bracketed set. -/
inductive SetItem where
  | literal (l : Literal)
  | range (first last : Literal)
  | ascii (kind : AsciiSet) (negated : Bool)
  | shorthand (kind : Shorthand) (negated : Bool)
  | property (query : PropertyQuery) (negated : Bool)
  | bracketed (negated : Bool) (set : SetExpr)

/-- What stands between the brackets of a set. -/
inductive SetExpr where
  | listed (items : List SetItem)
  | operation (op : SetOp) (left right : SetExpr)

end

/-- A pattern as written. -/
inductive Expr where
  | flags (changes : FlagChanges)
  | literal (l : Literal)
  | dot
  | anchor (a : Anchor)
  | shorthand (kind : Shorthand) (negated : Bool)
  | property (query : PropertyQuery) (negated : Bool)
  | bracketed (negated : Bool) (set : SetExpr)
  | repetition (e : Expr) (min : Nat) (max : Option Nat)
  | group (capturing : Bool) (changes : FlagChanges) (e : Expr)
  | sequence (es : List Expr)
  | alternatives (es : List Expr)

/-! ## Nesting -/

mutual

/-- How deep an item of a set nests. -/
def SetItem.depth : SetItem → Nat
  | .bracketed _ set => set.depth + 1
  | _ => 0

/-- How deep a set nests. A list of several items is one level; a single item is none. -/
def SetExpr.depth : SetExpr → Nat
  | .listed [] => 0
  | .listed [i] => i.depth
  | .listed (i :: j :: rest) => max i.depth (max j.depth (itemsDepth rest)) + 1
  | .operation _ l r => max l.depth r.depth + 1

/-- The depth of the deepest item. -/
def itemsDepth : List SetItem → Nat
  | [] => 0
  | i :: rest => max i.depth (itemsDepth rest)

end

mutual

/-- How deep a pattern nests. The empty sequence is no level. -/
def Expr.depth : Expr → Nat
  | .bracketed _ set => set.depth + 1
  | .repetition e _ _ => e.depth + 1
  | .group _ _ e => e.depth + 1
  | .sequence [] => 0
  | .sequence (e :: es) => max e.depth (deepest es) + 1
  | .alternatives es => deepest es + 1
  | _ => 0

/-- The depth of the deepest pattern. -/
def deepest : List Expr → Nat
  | [] => 0
  | e :: rest => max e.depth (deepest rest)

end

/-- How deep a pattern may nest. -/
def nestingLimit : Nat := 250

end OpenPulls.Pattern
