import OpenPulls.Pattern.Expr
import OpenPulls.Text.Blank
import OpenPulls.Unicode.Class

/-!
# Reading patterns

`Expr.parse?` reads a pattern, or answers `none` when the text is none.

**State.** The reader goes through the text from left to right. It keeps the sequence that is
being read, in reverse, and a stack with the groups that are open. A bracketed set has a stack of
its own. Every step takes at least one character, so the reader stops.

**Blanks.** While the flag for it is on, blanks and comments are skipped between the parts of a
pattern; a comment runs from `#` to the end of the line.
-/

namespace OpenPulls.Pattern

open OpenPulls.Text (isBlank)

/-! ## Characters -/

/-- Skips blanks and comments; `comment` says that the text begins inside a comment. -/
def skipBlanksFrom (comment : Bool) : List Char → List Char
  | [] => []
  | c :: rest =>
    if comment then skipBlanksFrom (c != '\n') rest
    else if isBlank c then skipBlanksFrom false rest
    else if c = '#' then skipBlanksFrom true rest
    else c :: rest

/-- Skips blanks and comments while the flag `on` is set. -/
def skip (on : Bool) (text : List Char) : List Char :=
  if on then skipBlanksFrom false text else text

/-- The rest of a text that begins with `start`. -/
def after? (start text : List Char) : Option (List Char) :=
  if start.isPrefixOf text then some (text.drop start.length) else none

/-- Characters with a meaning of their own, which a backslash takes away. -/
def isMeta (c : Char) : Bool :=
  ['\\', '.', '+', '*', '?', '(', ')', '|', '[', ']', '\x7b', '\x7d', '^', '$', '#', '&', '-',
    '~'].contains c

/-- Characters that stand for themselves after a backslash: ASCII other than letters, digits and
angle brackets. -/
def isEscapable (c : Char) : Bool :=
  isMeta c || (c.toNat < 128 && !c.isAlphanum && c != '<' && c != '>')

/-- A hexadecimal digit. -/
def hexValue? (c : Char) : Option Nat :=
  if c.isDigit then some (c.toNat - 48)
  else if 'a' ≤ c && c ≤ 'f' then some (c.toNat - 87)
  else if 'A' ≤ c && c ≤ 'F' then some (c.toNat - 55)
  else none

/-- The character with a code point, if there is one. -/
def charOfCode? (n : Nat) : Option Char :=
  if h : n.isValidChar then some (Char.ofNatAux n h) else none

/-- The number that hexadecimal digits write, if it fits in 32 bits. -/
def hexCode? (digits : List Nat) : Option Char :=
  charOfCode? (digits.foldl (fun n d => n * 16 + d) 0)

/-! ## Escapes -/

/-- What an escape or a plain character stands for. -/
inductive Atom where
  | literal (l : Literal)
  | dot
  | anchor (a : Anchor)
  | shorthand (kind : Shorthand) (negated : Bool)
  | property (query : PropertyQuery) (negated : Bool)

/-- Reads `count` hexadecimal digits. -/
def hexDigits? (blanks : Bool) : Nat → List Char → Option (List Nat × List Char)
  | 0, text => some ([], text)
  | count + 1, text =>
    match text with
    | c :: rest => do
      let d ← hexValue? c
      let (ds, rest) ← hexDigits? blanks count (skip blanks rest)
      return (d :: ds, rest)
    | [] => none

/-- Reads hexadecimal digits up to a closing brace. -/
def hexBraced? (blanks : Bool) : Nat → List Char → Option (List Nat × List Char)
  | 0, _ => none
  | fuel + 1, text =>
    match text with
    | '\x7d' :: rest => some ([], skip blanks rest)
    | c :: rest => do
      let d ← hexValue? c
      let (ds, rest) ← hexBraced? blanks fuel (skip blanks rest)
      return (d :: ds, rest)
    | [] => none

/-- Reads a character written in hexadecimal, after the letter that announces it: `count` digits,
or any number of them in braces. -/
def hexLiteral? (blanks : Bool) (count : Nat) (text : List Char) :
    Option (Literal × List Char) :=
  match skip blanks text with
  | '\x7b' :: rest => do
    let (digits, rest) ← hexBraced? blanks (rest.length + 1) (skip blanks rest)
    if digits.isEmpty then none
    else return (⟨← hexCode? digits, false⟩, rest)
  | text => do
    let (digits, rest) ← hexDigits? blanks count text
    return (⟨← hexCode? digits, count = 2⟩, rest)

/-- Splits a name at the first place where `mark` stands. -/
def splitAt? (mark : List Char) : List Char → Option (List Char × List Char)
  | [] => none
  | c :: rest =>
    match after? mark (c :: rest) with
    | some value => some ([], value)
    | none => (splitAt? mark rest).map fun (name, value) => (c :: name, value)

/-- The query that a name in braces writes, and whether it asks for the opposite. -/
def propertyQuery (name : List Char) : PropertyQuery × Bool :=
  match splitAt? ['!', '='] name with
  | some (n, v) => (.valued (String.ofList n) (String.ofList v), true)
  | none =>
    match splitAt? [':'] name with
    | some (n, v) => (.valued (String.ofList n) (String.ofList v), false)
    | none =>
      match splitAt? ['='] name with
      | some (n, v) => (.valued (String.ofList n) (String.ofList v), false)
      | none => (.named (String.ofList name), false)

/-- Reads the name of a property up to the closing brace. -/
def propertyName? (blanks : Bool) : Nat → List Char → Option (List Char × List Char)
  | 0, _ => none
  | fuel + 1, text =>
    match text with
    | '\x7d' :: rest => some ([], rest)
    | c :: rest => do
      let (name, rest) ← propertyName? blanks fuel (skip blanks rest)
      return (c :: name, rest)
    | [] => none

/-- Reads a property after the letter that announces it: one letter, or a name in braces. -/
def property? (blanks negated : Bool) (text : List Char) : Option (Atom × List Char) :=
  match skip blanks text with
  | [] => none
  | '\x7b' :: rest => do
    let (name, rest) ← propertyName? blanks (rest.length + 1) (skip blanks rest)
    let (query, opposite) := propertyQuery name
    return (.property query (negated != opposite), rest)
  | '\\' :: _ => none
  | c :: rest => some (.property (.named (String.singleton c)) negated, skip blanks rest)

/-- A character that may stand in the name of a word edge. -/
def isEdgeName (c : Char) : Bool := c.isAlpha || c = '-'

/-- Reads the name of a word edge up to the closing brace. -/
def edgeName? (blanks : Bool) : Nat → List Char → Option (List Char × List Char)
  | 0, _ => none
  | fuel + 1, text =>
    match text with
    | '\x7d' :: rest => some ([], rest)
    | c :: rest =>
      if isEdgeName c then do
        let (name, rest) ← edgeName? blanks fuel (skip blanks rest)
        return (c :: name, rest)
      else none
    | [] => none

/-- Reads what may follow the letter for a word boundary: the name of a word edge in braces. A
brace before anything but a letter or a hyphen begins a repetition instead. -/
def wordBoundary? (blanks : Bool) (text : List Char) : Option (Anchor × List Char) :=
  match text with
  | '\x7b' :: rest =>
    match skip blanks rest with
    | [] => none
    | c :: more =>
      if isEdgeName c then do
        let (name, rest) ← edgeName? blanks (more.length + 2) (c :: more)
        match String.ofList name with
        | "start" => some (.wordStart, rest)
        | "end" => some (.wordEnd, rest)
        | "start-half" => some (.wordStartHalf, rest)
        | "end-half" => some (.wordEndHalf, rest)
        | _ => none
      else some (.wordBoundary, text)
  | _ => some (.wordBoundary, text)

/-- The character that a letter after a backslash writes. -/
def controlEscape? : Char → Option Char
  | 'a' => some '\x07'
  | 'f' => some '\x0c'
  | 't' => some '\t'
  | 'n' => some '\n'
  | 'r' => some '\r'
  | 'v' => some '\x0b'
  | _ => none

/-- Reads an escape after its backslash. -/
def escape? (blanks : Bool) : List Char → Option (Atom × List Char)
  | [] => none
  | c :: rest =>
    match c with
    | 'x' => (hexLiteral? blanks 2 rest).map fun (l, r) => (.literal l, r)
    | 'u' => (hexLiteral? blanks 4 rest).map fun (l, r) => (.literal l, r)
    | 'U' => (hexLiteral? blanks 8 rest).map fun (l, r) => (.literal l, r)
    | 'p' => property? blanks false rest
    | 'P' => property? blanks true rest
    | 'd' => some (.shorthand .digit false, rest)
    | 's' => some (.shorthand .blank false, rest)
    | 'w' => some (.shorthand .word false, rest)
    | 'D' => some (.shorthand .digit true, rest)
    | 'S' => some (.shorthand .blank true, rest)
    | 'W' => some (.shorthand .word true, rest)
    | 'A' => some (.anchor .textStart, rest)
    | 'z' => some (.anchor .textEnd, rest)
    | 'b' => (wordBoundary? blanks rest).map fun (a, r) => (.anchor a, r)
    | 'B' => some (.anchor .noWordBoundary, rest)
    | '<' => some (.anchor .wordStart, rest)
    | '>' => some (.anchor .wordEnd, rest)
    | _ =>
      match controlEscape? c with
      | some d => some (.literal ⟨d, false⟩, rest)
      | none => if isEscapable c then some (.literal ⟨c, false⟩, rest) else none

/-! ## Bracketed sets -/

namespace SetExpr

/-- What is open while a set is read: a bracket, with the items before it and its negation, or an
operation with its left side. -/
inductive Frame where
  | bracket (before : List SetItem) (negated : Bool)
  | operation (op : SetOp) (left : SetExpr)

/-- The set that the innermost operation makes with `right`, if there is one. -/
def closeOperation (right : SetExpr) : List Frame → SetExpr × List Frame
  | .operation op left :: stack => (.operation op left right, stack)
  | stack => (right, stack)

/-- The set that items, read in reverse, make. -/
def ofReversed (items : List SetItem) : SetExpr := .listed items.reverse

/-- The character after the first, past blanks and comments if they are skipped. The look ahead
gives up at the first character of a comment. -/
def peek? (blanks : Bool) (text : List Char) : Option Char :=
  match text with
  | [] => none
  | _ :: rest =>
    if blanks then
      match rest.dropWhile isBlank with
      | '#' :: more =>
        match more.dropWhile isBlank with
        | c :: _ => some c
        | [] => rest.head?
      | c :: _ => some c
      | [] => rest.head?
    else rest.head?

/-- Reads one item of a set, as an atom. -/
def atom? (blanks : Bool) : List Char → Option (Atom × List Char)
  | [] => none
  | '\\' :: rest => escape? blanks rest
  | c :: rest => some (.literal ⟨c, false⟩, rest)

/-- The item that an atom makes. Anchors have no place in a set. -/
def itemOf? : Atom → Option SetItem
  | .literal l => some (.literal l)
  | .shorthand k n => some (.shorthand k n)
  | .property q n => some (.property q n)
  | .dot | .anchor _ => none

/-- Reads an item or a range. A hyphen before the closing bracket or before another hyphen makes
no range. -/
def rangeOrItem? (blanks : Bool) (text : List Char) : Option (SetItem × List Char) := do
  let (first, rest) ← atom? blanks text
  let rest := skip blanks rest
  match rest with
  | [] => none
  | '-' :: more =>
    if peek? blanks rest = some ']' || peek? blanks rest = some '-' then
      return (← itemOf? first, rest)
    else
      match skip blanks more with
      | [] => none
      | more => do
        let (last, rest) ← atom? blanks more
        match first, last with
        | .literal a, .literal b =>
          if a.char ≤ b.char then return (.range a b, rest) else none
        | _, _ => none
  | _ => return (← itemOf? first, rest)

/-- The named sets of ASCII by name. -/
def asciiNames : List (String × AsciiSet) := [
  ("alnum", .alnum), ("alpha", .alpha), ("ascii", .ascii), ("blank", .blank), ("cntrl", .cntrl),
  ("digit", .digit), ("graph", .graph), ("lower", .lower), ("print", .print), ("punct", .punct),
  ("space", .space), ("upper", .upper), ("word", .word), ("xdigit", .xdigit)]

/-- Reads a named set of ASCII such as `[:alpha:]`, after its bracket. -/
def asciiSet? (text : List Char) : Option (SetItem × List Char) :=
  match text with
  | ':' :: rest =>
    let (negated, rest) := match rest with
      | '^' :: more => (true, more)
      | _ => (false, rest)
    let name := rest.takeWhile (· ≠ ':')
    match rest.dropWhile (· ≠ ':') with
    | ':' :: ']' :: more =>
      (asciiNames.find? (·.1 == String.ofList name)).map fun (_, k) => (.ascii k negated, more)
    | _ => none
  | _ => none

/-- The hyphens at the beginning of a set, which stand for themselves. -/
def leadingHyphens (blanks : Bool) : Nat → List SetItem → List Char → List SetItem × List Char
  | 0, items, text => (items, text)
  | fuel + 1, items, text =>
    match text with
    | '-' :: rest => leadingHyphens blanks fuel (.literal ⟨'-', false⟩ :: items) (skip blanks rest)
    | _ => (items, text)

/-- Reads the beginning of a set after its bracket: its negation, hyphens, or a closing bracket
that stands for itself. -/
def opening? (blanks : Bool) (text : List Char) : Option (Bool × List SetItem × List Char) :=
  let text := skip blanks text
  let (negated, text) := match text with
    | '^' :: rest => (true, skip blanks rest)
    | _ => (false, text)
  let (items, text) := leadingHyphens blanks text.length [] text
  let (items, text) := match items, text with
    | [], ']' :: rest => ([SetItem.literal ⟨']', false⟩], skip blanks rest)
    | _, _ => (items, text)
  if text.isEmpty then none else some (negated, items, text)

/-- The operation that a doubled character writes. -/
def operation? : List Char → Option (SetOp × List Char)
  | '&' :: '&' :: rest => some (.intersection, rest)
  | '-' :: '-' :: rest => some (.difference, rest)
  | '~' :: '~' :: rest => some (.symmetricDifference, rest)
  | _ => none

/-- One step of reading a set: the items of the innermost bracket so far, in reverse, and the open
frames. -/
structure State where
  items : List SetItem
  stack : List Frame

/-- A step goes on, or closes the outermost bracket. -/
inductive Step where
  | more (s : State) (rest : List Char)
  | done (negated : Bool) (set : SetExpr) (rest : List Char)

/-- Opens a bracket. -/
def openBracket? (blanks : Bool) (s : State) (text : List Char) : Option Step := do
  let (negated, items, rest) ← opening? blanks text
  return .more ⟨items, .bracket s.items negated :: s.stack⟩ rest

/-- Closes a bracket. -/
def closeBracket? (s : State) (rest : List Char) : Option Step :=
  let (set, stack) := closeOperation (ofReversed s.items) s.stack
  match stack with
  | [.bracket _ negated] => some (.done negated set rest)
  | .bracket before negated :: stack => some (.more ⟨.bracketed negated set :: before, stack⟩ rest)
  | _ => none

/-- Reads the next part of a set. -/
def step? (blanks : Bool) (s : State) (text : List Char) : Option Step :=
  match skip blanks text with
  | [] => none
  | '[' :: rest =>
    match asciiSet? rest with
    | some (item, rest) => some (.more ⟨item :: s.items, s.stack⟩ rest)
    | none => openBracket? blanks s rest
  | ']' :: rest => closeBracket? s rest
  | text =>
    match operation? text with
    | some (op, rest) =>
      let (left, stack) := closeOperation (ofReversed s.items) s.stack
      some (.more ⟨[], .operation op left :: stack⟩ rest)
    | none => do
      let (item, rest) ← rangeOrItem? blanks text
      return .more ⟨item :: s.items, s.stack⟩ rest

/-- Reads a set to its closing bracket. -/
def loop? (blanks : Bool) (s : State) (text : List Char) : Option (Bool × SetExpr × List Char) :=
  match step? blanks s text with
  | none => none
  | some (.done negated set rest) => some (negated, set, rest)
  | some (.more s rest) => if _h : rest.length < text.length then loop? blanks s rest else none
termination_by text.length

/-- Reads a set after its bracket. -/
def parse? (blanks : Bool) (text : List Char) : Option (Bool × SetExpr × List Char) := do
  let (negated, items, rest) ← opening? blanks text
  loop? blanks ⟨items, [.bracket [] negated]⟩ rest

end SetExpr

/-! ## Groups -/

/-- The letter of a flag. -/
def flag? : Char → Option Flag
  | 'i' => some .ignoreCase
  | 'm' => some .multiLine
  | 's' => some .dotAll
  | 'U' => some .swapGreed
  | 'u' => some .unicode
  | 'R' => some .crlf
  | 'x' => some .ignoreBlanks
  | _ => none

/-- Reads flags up to a colon or a closing parenthesis. No flag may come twice, nor the sign that
switches flags off, which must have a flag after it. -/
def flags? (changes : FlagChanges) (off dangling : Bool) :
    List Char → Option (FlagChanges × Char × List Char)
  | [] => none
  | c :: rest =>
    if c = ':' || c = ')' then
      if dangling then none else some (changes.reverse, c, rest)
    else if c = '-' then
      if off then none else flags? changes true true rest
    else
      match flag? c with
      | some f =>
        if changes.any (·.1 == f) then none else flags? ((f, !off) :: changes) off false rest
      | none => none

/-- What a list of changes makes of a flag. -/
def FlagChanges.get? (changes : FlagChanges) (f : Flag) : Option Bool :=
  (changes.find? (·.1 == f)).map (·.2)

/-- Characters that may begin the name of a group. -/
def isNameStart (c : Char) : Bool :=
  c = '_' || Unicode.alphabetic.contains c

/-- Characters that may stand in the name of a group. -/
def isNamePart (c : Char) : Bool :=
  isNameStart c || c = '.' || c = '[' || c = ']'
    || Unicode.numeric.contains c

/-- Reads the name of a group up to its closing bracket. -/
def groupName? (text : List Char) : Option (List Char × List Char) :=
  let name := text.takeWhile (· ≠ '>')
  match name, text.dropWhile (· ≠ '>') with
  | c :: cs, '>' :: rest =>
    if isNameStart c && cs.all isNamePart then some (c :: cs, rest) else none
  | _, _ => none

/-- What an opening parenthesis begins: a change of flags, or a group. -/
inductive Opening where
  | flags (changes : FlagChanges)
  | group (capturing : Bool) (changes : FlagChanges) (name : Option (List Char))

/-- Reads the beginning of a group after its parenthesis. Looking around is not supported. -/
def opening? (text : List Char) : Option (Opening × List Char) :=
  match text with
  | '?' :: '=' :: _ | '?' :: '!' :: _ => none
  | '?' :: '<' :: '=' :: _ | '?' :: '<' :: '!' :: _ => none
  | '?' :: 'P' :: '<' :: rest | '?' :: '<' :: rest => do
    let (name, rest) ← groupName? rest
    return (.group true [] (some name), rest)
  | '?' :: rest => do
    let (changes, stop, rest) ← flags? [] false false rest
    if stop = ')' then
      if changes.isEmpty then none else return (.flags changes, rest)
    else return (.group false changes none, rest)
  | _ => some (.group true [] none, text)

/-! ## Repetition -/

/-- Reads a decimal number with blanks around it. -/
def decimal? (blanks : Bool) : Nat → List Nat → List Char → Option (Nat × List Char)
  | 0, _, _ => none
  | fuel + 1, digits, text =>
    match text with
    | c :: rest =>
      if c.isDigit then decimal? blanks fuel ((c.toNat - 48) :: digits) (skip blanks rest)
      else finish digits (text.dropWhile isBlank)
    | [] => finish digits []
where
  finish (digits : List Nat) (rest : List Char) : Option (Nat × List Char) :=
    let n := digits.foldr (fun d n => n * 10 + d) 0
    if digits.isEmpty || n ≥ UInt32.size then none else some (n, rest)

/-- Reads the number of rounds of a repetition. -/
def count? (blanks : Bool) (text : List Char) : Option (Nat × List Char) :=
  let text := text.dropWhile isBlank
  decimal? blanks (text.length + 1) [] text

/-- Reads the bounds of a repetition after the opening brace, and the sign for fewer rounds. -/
def bounds? (blanks : Bool) (text : List Char) : Option (Nat × Option Nat × List Char) := do
  let (min, rest) ← count? blanks (skip blanks text)
  let (max, rest) ← (match rest with
    | ',' :: rest =>
      match skip blanks rest with
      | '\x7d' :: rest => some (none, '\x7d' :: rest)
      | rest => (count? blanks rest).map fun (m, r) => (some m, r)
    | _ => some (some min, rest) : Option (Option Nat × List Char))
  match rest with
  | '\x7d' :: rest =>
    if max.any (· < min) then none
    else
      match skip blanks rest with
      | '?' :: rest => return (min, max, rest)
      | rest => return (min, max, rest)
  | _ => none

/-! ## The reader -/

namespace Expr

/-- What is open while a pattern is read: a group, with the sequence before it in reverse and the
blanks flag to go back to, or the alternatives of the innermost group, in reverse. -/
inductive Frame where
  | group (before : List Expr) (capturing : Bool) (changes : FlagChanges) (blanks : Bool)
  | alternatives (branches : List Expr)

/-- The state of the reader: the sequence being read, in reverse, the open frames, the blanks
flag, and the names of groups so far. -/
structure State where
  items : List Expr
  stack : List Frame
  blanks : Bool
  names : List (List Char)

/-- The pattern that a sequence, read in reverse, makes. -/
def ofReversed : List Expr → Expr
  | [e] => e
  | es => .sequence es.reverse

/-- Ends the innermost alternatives, if there are any, with a last branch. -/
def closeAlternatives (last : Expr) : List Frame → Expr × List Frame
  | .alternatives branches :: stack => (.alternatives (last :: branches).reverse, stack)
  | stack => (last, stack)

/-- Repeats the last part of the sequence. A change of flags cannot be repeated. -/
def repeatLast? (s : State) (min : Nat) (max : Option Nat) : Option State :=
  match s.items with
  | [] | .flags _ :: _ => none
  | e :: before => some { s with items := .repetition e min max :: before }

/-- Skips the sign for fewer rounds. -/
def skipLazy : List Char → List Char
  | '?' :: rest => rest
  | rest => rest

/-- Opens a group, or changes flags. -/
def openGroup? (s : State) (text : List Char) : Option (State × List Char) := do
  let (opening, rest) ← opening? (skip s.blanks text)
  match opening with
  | .flags changes =>
    return ({ s with
      items := .flags changes :: s.items
      blanks := (changes.get? .ignoreBlanks).getD s.blanks }, rest)
  | .group capturing changes name =>
    if name.any s.names.contains then none
    else
      return ({
        items := []
        stack := .group s.items capturing changes s.blanks :: s.stack
        blanks := (changes.get? .ignoreBlanks).getD s.blanks
        names := name.toList ++ s.names }, rest)

/-- Closes a group. -/
def closeGroup? (s : State) (rest : List Char) : Option (State × List Char) :=
  let (e, stack) := closeAlternatives (ofReversed s.items) s.stack
  match stack with
  | .group before capturing changes blanks :: stack =>
    some ({ s with
      items := .group capturing changes e :: before
      stack := stack
      blanks := blanks }, rest)
  | _ => none

/-- Begins the next alternative. -/
def nextAlternative (s : State) : State :=
  let branch := ofReversed s.items
  match s.stack with
  | .alternatives branches :: stack =>
    { s with items := [], stack := .alternatives (branch :: branches) :: stack }
  | stack => { s with items := [], stack := .alternatives [branch] :: stack }

/-- The pattern that an atom makes. -/
def ofAtom : Atom → Expr
  | .literal l => .literal l
  | .dot => .dot
  | .anchor a => .anchor a
  | .shorthand k n => .shorthand k n
  | .property q n => .property q n

/-- Adds a part to the sequence. -/
def State.push (s : State) (e : Expr) : State := { s with items := e :: s.items }

/-- Reads the next part of a pattern, which begins with `c`. -/
def step? (s : State) (c : Char) (rest : List Char) : Option (State × List Char) :=
  match c with
  | '(' => openGroup? s rest
  | ')' => closeGroup? s rest
  | '|' => some (nextAlternative s, rest)
  | '[' => do
    let (negated, set, rest) ← SetExpr.parse? s.blanks rest
    return (s.push (.bracketed negated set), rest)
  | '?' => (repeatLast? s 0 (some 1)).map (·, skipLazy rest)
  | '*' => (repeatLast? s 0 none).map (·, skipLazy rest)
  | '+' => (repeatLast? s 1 none).map (·, skipLazy rest)
  | '\x7b' => do
    let (min, max, rest) ← bounds? s.blanks rest
    return (← repeatLast? s min max, rest)
  | '\\' => do
    let (atom, rest) ← escape? s.blanks rest
    return (s.push (ofAtom atom), rest)
  | '.' => some (s.push .dot, rest)
  | '^' => some (s.push (.anchor .lineStart), rest)
  | '$' => some (s.push (.anchor .lineEnd), rest)
  | _ => some (s.push (.literal ⟨c, false⟩), rest)

/-- Ends the pattern: no group may be open. -/
def finish? (s : State) : Option Expr :=
  match closeAlternatives (ofReversed s.items) s.stack with
  | (e, []) => some e
  | _ => none

/-- Reads a pattern from a state on. -/
def loop? (s : State) (text : List Char) : Option Expr :=
  match skip s.blanks text with
  | [] => finish? s
  | c :: rest =>
    match step? s c rest with
    | none => none
    | some (s, rest) => if _h : rest.length < text.length then loop? s rest else none
termination_by text.length

/-- Reads a pattern; `none` if the text is no pattern, or nests too deep. -/
def parse? (text : String) : Option Expr := do
  let e ← loop? ⟨[], [], false, []⟩ text.toList
  if e.depth ≤ nestingLimit then some e else none

end Expr

end OpenPulls.Pattern
