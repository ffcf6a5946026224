import OpenPulls.Pattern.Expr
import OpenPulls.Pattern.Node
import OpenPulls.Unicode.CaseFold
import OpenPulls.Unicode.Script

/-!
# From the written pattern to what it matches

`Expr.resolve?` takes the flags into account. A change of flags holds to the end of the group it
stands in, across alternatives.

Patterns are about characters. With the flag for that switched off, sets are sets of ASCII, and a
set that would need bytes beyond ASCII is refused, for it could match part of a character.
-/

namespace OpenPulls.Pattern

open OpenPulls.Unicode (CharSet Category Property Script)

/-! ## Flags -/

/-- The flags in force. -/
structure Flags where
  ignoreCase : Bool
  multiLine : Bool
  dotAll : Bool
  unicode : Bool
  crlf : Bool
deriving Repr, BEq, DecidableEq

/-- The flags at the beginning of a pattern. -/
def Flags.initial : Flags := ⟨false, false, false, true, false⟩

/-- Takes one change into account. The order in which repetitions are tried, and the blanks in the
pattern, make no difference to what matches. -/
def Flags.change (fs : Flags) : Flag × Bool → Flags
  | (.ignoreCase, on) => { fs with ignoreCase := on }
  | (.multiLine, on) => { fs with multiLine := on }
  | (.dotAll, on) => { fs with dotAll := on }
  | (.unicode, on) => { fs with unicode := on }
  | (.crlf, on) => { fs with crlf := on }
  | (.swapGreed, _) | (.ignoreBlanks, _) => fs

/-- Takes a list of changes into account. -/
def Flags.apply (fs : Flags) (changes : FlagChanges) : Flags := changes.foldl Flags.change fs

/-! ## Named sets -/

/-- A named set of ASCII. -/
def AsciiSet.chars (kind : AsciiSet) : CharSet :=
  .ofText (match kind with
    | .alnum => "30-39 41-5A 61-7A"
    | .alpha => "41-5A 61-7A"
    | .ascii => "0-7F"
    | .blank => "9 20"
    | .cntrl => "0-1F 7F"
    | .digit => "30-39"
    | .graph => "21-7E"
    | .lower => "61-7A"
    | .print => "20-7E"
    | .punct => "21-2F 3A-40 5B-60 7B-7E"
    | .space => "9-D 20"
    | .upper => "41-5A"
    | .word => "30-39 41-5A 5F 61-7A"
    | .xdigit => "30-39 41-46 61-66")

/-- The set of a shorthand, of all scripts or of ASCII. -/
def Shorthand.chars (unicode : Bool) : Shorthand → CharSet
  | .digit => if unicode then Unicode.decimalDigits else AsciiSet.chars .digit
  | .blank => if unicode then Unicode.whiteSpace else AsciiSet.chars .space
  | .word => if unicode then Unicode.wordChars else AsciiSet.chars .word

/-- The loose form of a name: ASCII in lower case, without blanks, `_` and `-`, and without a
leading `is`. The one name that would lose too much keeps it. -/
def looseName (name : String) : String :=
  let cs := name.toList
  let stem := match cs with
    | i :: s :: rest =>
      if (i = 'i' || i = 'I') && (s = 's' || s = 'S') then (true, rest) else (false, cs)
    | _ => (false, cs)
  let loose := (stem.2.filter fun c =>
    c != ' ' && c != '_' && c != '-' && c.toNat < 128).map Char.toLower
  if stem.1 && loose == ['c'] then "isc" else String.ofList loose

/-- The general category with a loose name, or one of the three sets that count as such. -/
def categoryChars? (name : String) : Option CharSet :=
  match name with
  | "any" => some CharSet.full
  | "ascii" => some (AsciiSet.chars .ascii)
  | "assigned" => some (Category.chars .unassigned).compl
  | _ => (Category.ofName? name).map CharSet.ofCategories

/-- The names that are read as a category although they abbreviate a property too. -/
def categoryFirst : List String := ["cf", "sc", "lc"]

/-- The set that a query names: a property, a general category or a script. -/
def PropertyQuery.chars? : PropertyQuery → Option CharSet
  | .named name =>
    let name := looseName name
    let property := if categoryFirst.contains name then none
      else (Property.ofName? name).map Property.chars
    property.or ((categoryChars? name).or ((Script.ofName? name).map Script.chars))
  | .valued name value =>
    let value := looseName value
    match looseName name with
    | "gc" | "generalcategory" => categoryChars? value
    | "sc" | "script" => (Script.ofName? value).map Script.chars
    | "scx" | "scriptextensions" => (Script.ofName? value).map Script.extendedChars
    | _ => none

/-! ## Sets -/

/-- Adds the other cases of the characters, of all scripts or of ASCII. -/
def foldCase (unicode : Bool) (s : CharSet) : CharSet :=
  if unicode then s.foldCase else s.foldCase.inter (AsciiSet.chars .ascii)

/-- A set as the flags want it: with all cases, then negated. -/
def withFlags (fs : Flags) (negated : Bool) (s : CharSet) : CharSet :=
  let s := if fs.ignoreCase then foldCase fs.unicode s else s
  if negated then s.compl else s

/-- Where the pattern is not about characters, a set must be one of ASCII. -/
def requireAscii (fs : Flags) (s : CharSet) : Option CharSet :=
  if fs.unicode || s.isAscii then some s else none

/-- The set of a shorthand. -/
def shorthandChars? (fs : Flags) (kind : Shorthand) (negated : Bool) : Option CharSet :=
  let s := kind.chars fs.unicode
  requireAscii fs (if negated then s.compl else s)

/-- The set of a property, which only patterns about characters may use. -/
def propertyChars? (fs : Flags) (query : PropertyQuery) (negated : Bool) : Option CharSet :=
  if fs.unicode then query.chars?.map (withFlags fs negated) else none

/-- A character in a set. Where the pattern is not about characters, it must be one of ASCII. -/
def setLiteral? (fs : Flags) (l : Literal) : Option Char :=
  if fs.unicode || l.char.toNat < 128 then some l.char else none

/-- The characters that `op` makes of two sets. -/
def SetOp.apply (op : SetOp) (a b : CharSet) : CharSet :=
  match op with
  | .intersection => a.inter b
  | .difference => a.diff b
  | .symmetricDifference => a.symmDiff b

mutual

/-- The characters of an item of a set. -/
def SetItem.chars? (fs : Flags) : SetItem → Option CharSet
  | .literal l => (setLiteral? fs l).map CharSet.singleton
  | .range a b => do return .range (← setLiteral? fs a) (← setLiteral? fs b)
  | .ascii kind negated =>
    let s := withFlags fs negated kind.chars
    requireAscii fs s
  | .shorthand kind negated => shorthandChars? fs kind negated
  | .property query negated => propertyChars? fs query negated
  | .bracketed negated set => do requireAscii fs (withFlags fs negated (← set.chars? fs))

/-- The characters of what stands between brackets. -/
def SetExpr.chars? (fs : Flags) : SetExpr → Option CharSet
  | .listed items => do return .unions (← itemsChars? fs items)
  | .operation op l r => do
    let l ← l.chars? fs
    let r ← r.chars? fs
    if fs.ignoreCase then return op.apply (foldCase fs.unicode l) (foldCase fs.unicode r)
    else return op.apply l r

/-- The characters of each item. -/
def itemsChars? (fs : Flags) : List SetItem → Option (List CharSet)
  | [] => some []
  | i :: rest => do return (← i.chars? fs) :: (← itemsChars? fs rest)

end

/-! ## Patterns -/

/-- The node of a character. Where the pattern is not about characters, a byte beyond ASCII is
refused, and only letters of ASCII have two cases. -/
def literalNode? (fs : Flags) (l : Literal) : Option Node :=
  if !fs.unicode && l.byte && 128 ≤ l.char.toNat then none
  else if fs.ignoreCase && (fs.unicode || l.char.toNat < 128) then
    some (.chars (foldCase fs.unicode (.singleton l.char)))
  else some (.chars (.singleton l.char))

/-- The node of the dot, which matches no line break unless a flag says so. -/
def dotNode? (fs : Flags) : Option Node :=
  if !fs.unicode then none
  else if fs.dotAll then some (.chars .full)
  else if fs.crlf then some (.chars ((CharSet.singleton '\n').union (.singleton '\r')).compl)
  else some (.chars (CharSet.singleton '\n').compl)

/-- The assertion of an anchor. -/
def Anchor.assertion (fs : Flags) : Anchor → Assertion
  | .lineStart => if fs.multiLine then .lineStart fs.crlf else .textStart
  | .lineEnd => if fs.multiLine then .lineEnd fs.crlf else .textEnd
  | .textStart => .textStart
  | .textEnd => .textEnd
  | .wordBoundary => .word .boundary fs.unicode
  | .noWordBoundary => .word .interior fs.unicode
  | .wordStart => .word .start fs.unicode
  | .wordEnd => .word .finish fs.unicode
  | .wordStartHalf => .word .startHalf fs.unicode
  | .wordEndHalf => .word .finishHalf fs.unicode

mutual

/-- The node of a pattern, and the flags in force after it. -/
def Expr.resolve? (fs : Flags) : Expr → Option (Node × Flags)
  | .flags changes => some (.empty, fs.apply changes)
  | .literal l => (literalNode? fs l).map (·, fs)
  | .dot => (dotNode? fs).map (·, fs)
  | .anchor a => some (.assertion (a.assertion fs), fs)
  | .shorthand kind negated => (shorthandChars? fs kind negated).map (.chars ·, fs)
  | .property query negated => (propertyChars? fs query negated).map (.chars ·, fs)
  | .bracketed negated set => do
    let s ← requireAscii fs (withFlags fs negated (← set.chars? fs))
    return (.chars s, fs)
  | .repetition e min max => do
    let (n, fs) ← e.resolve? fs
    return (.repetition n min max, fs)
  | .group capturing changes e => do
    let (n, _) ← e.resolve? (fs.apply changes)
    return (if capturing then .capture n else n, fs)
  | .sequence es => resolveSequence? fs es
  | .alternatives es => resolveAlternatives? fs es

/-- The node of a sequence. -/
def resolveSequence? (fs : Flags) : List Expr → Option (Node × Flags)
  | [] => some (.empty, fs)
  | e :: rest => do
    let (n, fs) ← e.resolve? fs
    let (m, fs) ← resolveSequence? fs rest
    return (.seq n m, fs)

/-- The node of alternatives; without any, nothing matches. -/
def resolveAlternatives? (fs : Flags) : List Expr → Option (Node × Flags)
  | [] => some (.chars .empty, fs)
  | e :: rest => do
    let (n, fs) ← e.resolve? fs
    let (m, fs) ← resolveAlternatives? fs rest
    return (.alt n m, fs)

end

end OpenPulls.Pattern
