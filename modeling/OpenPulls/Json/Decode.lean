import OpenPulls.Json.Scan

/-!
# Decoding JSON into known shapes

A decoder reads a JSON text as a value of one shape, from left to right, and stops at the first
problem, whatever comes later.

**Records** (`Fields`, `record`). A record is an object with known fields in any order, or an
array of exactly all its fields in their order. Unknown fields are skipped: they must be well
formed, but their strings need not be text and their numbers may have any size.
-/

namespace OpenPulls.Json

open OpenPulls.Text (Symbol)

/-! ## Other shapes -/

/-- The error for a value of another shape than was expected. Words, numbers and strings are read
first, for they may be broken themselves. -/
def wrongType (expected : Expected) (text : List Symbol) : Error :=
  let found (f : Found) : Error := .mismatch (.wrongType f expected)
  match text with
  | .char 'n' :: rest => match word ['u', 'l', 'l'] rest with
    | .ok _ => found .null
    | .error e => e
  | .char 't' :: rest => match word ['r', 'u', 'e'] rest with
    | .ok _ => found (.boolean true)
    | .error e => e
  | .char 'f' :: rest => match word ['a', 'l', 's', 'e'] rest with
    | .ok _ => found (.boolean false)
    | .error e => e
  | .char '"' :: rest => match string rest with
    | .ok (s, _) => found (.string s)
    | .error e => e
  | .char '[' :: _ => found .sequence
  | .char '\x7b' :: _ => found .map
  | s :: _ =>
    if s = .char '-' || isDigit s then
      match number text with
      | .ok (n, _) => found (.number n)
      | .error e => e
    else .malformed
  | [] => .malformed

/-! ## Simple values -/

/-- Decodes a truth value. -/
def boolean : Scanner Bool := fun text =>
  match skipBlanks text with
  | [] => .error .unfinished
  | .char 't' :: rest => do return (true, ← word ['r', 'u', 'e'] rest)
  | .char 'f' :: rest => do return (false, ← word ['a', 'l', 's', 'e'] rest)
  | text => .error (wrongType .boolean text)

/-- Decodes an integer of 64 bits without sign. -/
def unsigned : Scanner UInt64 := fun text =>
  match skipBlanks text with
  | [] => .error .unfinished
  | s :: rest =>
    if s = .char '-' || isDigit s then do
      match ← number (s :: rest) with
      | (.unsigned n, rest) => return (n, rest)
      | (.negative n, _) => throw (.mismatch (.wrongValue (.number (.negative n)) .unsigned))
      | (.float f, _) => throw (.mismatch (.wrongType (.number (.float f)) .unsigned))
    else .error (wrongType .unsigned (s :: rest))

/-- Decodes a string. -/
def text : Scanner String := fun text =>
  match skipBlanks text with
  | [] => .error .unfinished
  | .char '"' :: rest => string rest
  | text => .error (wrongType .string text)

/-- Decodes the word for nothing. -/
def unit : Scanner Unit := fun text =>
  match skipBlanks text with
  | [] => .error .unfinished
  | .char 'n' :: rest => do return ((), ← word ['u', 'l', 'l'] rest)
  | text => .error (wrongType .unit text)

/-- Decodes a value that may be replaced by the word for nothing. -/
def optional {α : Type} (decode : Scanner α) : Scanner (Option α) := fun text =>
  match skipBlanks text with
  | .char 'n' :: rest => do return (none, ← word ['u', 'l', 'l'] rest)
  | text => do
    let (a, rest) ← decode text
    return (some a, rest)

/-! ## Skipping -/

/-- What is open while a value is skipped. -/
inductive Bracket where
  | square
  | curly
deriving Repr, BEq, DecidableEq

/-- Skips a key with its colon, in a place where one must stand. -/
def skipKey (text : List Symbol) : Except Error (List Symbol) := do
  match skipBlanks text with
  | [] => throw .unfinished
  | .char '"' :: rest =>
    match skipBlanks (← skipString rest) with
    | [] => throw .unfinished
    | .char ':' :: rest => return rest
    | _ => throw .malformed
  | _ => throw .malformed

/-- Where skipping goes on after a part: with a value, with what follows a value, or nowhere. -/
inductive Skip where
  | value (stack : List Bracket) (rest : List Symbol)
  | after (stack : List Bracket) (rest : List Symbol)

/-- Skips the beginning of a value: all of it, or an opening bracket. In a place where a value must
stand, the end of the text comes too early. -/
def skipValueStep (stack : List Bracket) (text : List Symbol) : Except Error Skip :=
  match skipBlanks text with
  | [] => .error .unfinished
  | .char 'n' :: rest => do return .after stack (← word ['u', 'l', 'l'] rest)
  | .char 't' :: rest => do return .after stack (← word ['r', 'u', 'e'] rest)
  | .char 'f' :: rest => do return .after stack (← word ['a', 'l', 's', 'e'] rest)
  | .char '-' :: rest => do return .after stack (← skipUnsignedPart rest)
  | .char '"' :: rest => do return .after stack (← skipString rest)
  | .char '[' :: rest =>
    match skipBlanks rest with
    | [] => .error .unfinished
    | .char ']' :: rest => .ok (.after stack rest)
    | rest => .ok (.value (.square :: stack) rest)
  | .char '\x7b' :: rest =>
    match skipBlanks rest with
    | [] => .error .unfinished
    | .char '\x7d' :: rest => .ok (.after stack rest)
    | rest => do return .value (.curly :: stack) (← skipKey rest)
  | s :: rest =>
    if isDigit s then do return .after stack (← skipUnsignedPart (s :: rest))
    else .error .malformed

/-- Skips what follows a value inside a bracket: a comma, or the closing bracket. -/
def skipAfterStep (bracket : Bracket) (stack : List Bracket) (text : List Symbol) :
    Except Error Skip :=
  match bracket, skipBlanks text with
  | _, [] => .error .unfinished
  | .square, .char ',' :: rest => .ok (.value (.square :: stack) rest)
  | .square, .char ']' :: rest => .ok (.after stack rest)
  | .curly, .char ',' :: rest => do return .value (.curly :: stack) (← skipKey rest)
  | .curly, .char '\x7d' :: rest => .ok (.after stack rest)
  | _, _ => .error .malformed

/-- Skips the rest of a value. -/
def skipFrom : Skip → Except Error (List Symbol)
  | .after [] rest => .ok rest
  | .after (b :: stack) rest =>
    match skipAfterStep b stack rest with
    | .error e => .error e
    | .ok (.after stack' rest') =>
      if _h : rest'.length < rest.length then skipFrom (.after stack' rest') else .error .malformed
    | .ok (.value stack' rest') =>
      if _h : rest'.length < rest.length then skipFrom (.value stack' rest') else .error .malformed
  | .value stack rest =>
    match skipValueStep stack rest with
    | .error e => .error e
    | .ok (.after stack' rest') =>
      if _h : rest'.length < rest.length then skipFrom (.after stack' rest') else .error .malformed
    | .ok (.value stack' rest') =>
      if _h : rest'.length < rest.length then skipFrom (.value stack' rest') else .error .malformed
termination_by
  s => match s with
    | .after _ rest => rest.length
    | .value _ rest => rest.length

/-- Skips a value of any shape and depth. -/
def skipValue (text : List Symbol) : Except Error (List Symbol) := skipFrom (.value [] text)

/-! ## Sequences -/

/-- Goes to the next element of a sequence, if there is one: past a comma, unless it is the
first. -/
def nextElement (first : Bool) (text : List Symbol) : Except Error (Option (List Symbol)) :=
  match skipBlanks text with
  | [] => .error .unfinished
  | .char ']' :: _ => .ok none
  | .char ',' :: rest =>
    if first then .ok (some (.char ',' :: rest))
    else
      match skipBlanks rest with
      | [] => .error .unfinished
      | .char ']' :: _ => .error .malformed
      | rest => .ok (some rest)
  | text => if first then .ok (some text) else .error .malformed

/-- Ends a sequence. -/
def endSequence (text : List Symbol) : Except Error (List Symbol) :=
  match skipBlanks text with
  | [] => .error .unfinished
  | .char ']' :: rest => .ok rest
  | _ => .error .malformed

/-- Decodes the elements of a sequence; `read` holds those so far, in reverse. -/
def elements {α : Type} (decode : Scanner α) (read : List α) (text : List Symbol) :
    Except Error (List α × List Symbol) :=
  match nextElement read.isEmpty text with
  | .error e => .error e
  | .ok none => do return (read.reverse, ← endSequence text)
  | .ok (some rest) =>
    match decode rest with
    | .error e => .error e
    | .ok (a, rest) =>
      if _h : rest.length < text.length then elements decode (a :: read) rest
      else .error .malformed
termination_by text.length

/-- Decodes a sequence. -/
def listOf {α : Type} (decode : Scanner α) : Scanner (List α) := fun text =>
  match skipBlanks text with
  | [] => .error .unfinished
  | .char '[' :: rest => elements decode [] rest
  | text => .error (wrongType .sequence text)

/-! ## Records -/

/-- A field of a record. A record without it has the value `absent`, or is wrong if there is
none. -/
structure Field (α : Type) where
  name : String
  decode : Scanner α
  absent : Option α

/-- A field that a record must have. -/
def required {α : Type} (name : String) (decode : Scanner α) : Field α := ⟨name, decode, none⟩

/-- A field that may be absent or nothing. -/
def mayLack {α : Type} (name : String) (decode : Scanner α) : Field (Option α) :=
  ⟨name, optional decode, some none⟩

/-- The fields of a record, in order. -/
inductive Fields : Type → Type 1 where
  | nil : Fields Unit
  | cons {α β : Type} (f : Field β) (rest : Fields α) : Fields (β × α)

namespace Fields

/-- The values of the fields of an object that were read so far. -/
def Slots : {α : Type} → Fields α → Type
  | _, .nil => Unit
  | _, @cons _ β _ rest => Option β × rest.Slots

/-- No field was read. -/
def noSlots : {α : Type} → (fs : Fields α) → fs.Slots
  | _, .nil => ()
  | _, .cons _ rest => (none, rest.noSlots)

/-- The number of fields. -/
def count : {α : Type} → Fields α → Nat
  | _, .nil => 0
  | _, .cons _ rest => rest.count + 1

/-- Skips the colon after a key. -/
def colon (text : List Symbol) : Except Error (List Symbol) :=
  match skipBlanks text with
  | [] => .error .unfinished
  | .char ':' :: rest => .ok rest
  | _ => .error .malformed

/-- Reads the member of an object with the given key into its slot; the text begins after the
key. A field may not come twice. An unknown field is skipped. -/
def member : {α : Type} → (fs : Fields α) → String → fs.Slots → List Symbol →
    Except Error (fs.Slots × List Symbol)
  | _, .nil, _, slots, text => do return (slots, ← skipValue (← colon text))
  | _, @cons _ β f rest, key, slots, text =>
    let slots : Option β × rest.Slots := slots
    if key = f.name then
      if slots.1.isSome then .error (.mismatch (.repeatedField f.name))
      else do
        let (value, text) ← f.decode (← colon text)
        return ((some value, slots.2), text)
    else do
      let (others, text) ← rest.member key slots.2 text
      return ((slots.1, others), text)

/-- The values of the fields, once the object has ended. -/
def finish : {α : Type} → (fs : Fields α) → fs.Slots → Except Error α
  | _, .nil, _ => .ok ()
  | _, @cons _ β f rest, slots =>
    let slots : Option β × rest.Slots := slots
    match slots.1.or f.absent with
    | some value => do return (value, ← rest.finish slots.2)
    | none => .error (.mismatch (.missingField f.name))

/-- Goes to the next key of an object, if there is one: past a comma, unless it is the first, and
past the quote. -/
def nextKey (first : Bool) (text : List Symbol) : Except Error (Option (List Symbol)) :=
  match skipBlanks text with
  | [] => .error .unfinished
  | .char '\x7d' :: _ => .ok none
  | .char '"' :: rest => if first then .ok (some rest) else .error .malformed
  | .char ',' :: rest =>
    if first then .error .malformed
    else
      match skipBlanks rest with
      | [] => .error .unfinished
      | .char '"' :: rest => .ok (some rest)
      | _ => .error .malformed
  | _ => .error .malformed

/-- Reads the members of an object after its opening brace. -/
def members {α : Type} (fs : Fields α) (first : Bool) (slots : fs.Slots) (text : List Symbol) :
    Except Error (fs.Slots × List Symbol) :=
  match nextKey first text with
  | .error e => .error e
  | .ok none => .ok (slots, text)
  | .ok (some rest) =>
    match (do let (key, rest) ← string rest; fs.member key slots rest) with
    | .error e => .error e
    | .ok (slots, rest) =>
      if _h : rest.length < text.length then members fs false slots rest else .error .malformed
termination_by text.length

/-- Reads a record as an array of its fields, after the opening bracket; `done` fields were read. -/
def positional (expected : Expected) : {α : Type} → (fs : Fields α) → Nat → List Symbol →
    Except Error (α × List Symbol)
  | _, .nil, _, text => .ok ((), text)
  | _, .cons f rest, done, text => do
    match ← nextElement (done = 0) text with
    | none => throw (.mismatch (.wrongLength done expected))
    | some text =>
      let (value, text) ← f.decode text
      let (values, text) ← rest.positional expected (done + 1) text
      return ((value, values), text)

/-- Ends an object. -/
def endObject (text : List Symbol) : Except Error (List Symbol) :=
  match skipBlanks text with
  | [] => .error .unfinished
  | .char '\x7d' :: rest => .ok rest
  | _ => .error .malformed

end Fields

/-- Decodes a record. -/
def record {α : Type} (name : String) (fs : Fields α) : Scanner α := fun text =>
  match skipBlanks text with
  | [] => .error .unfinished
  | .char '[' :: rest => do
    let (values, rest) ← fs.positional (.recordOf name fs.count) 0 rest
    return (values, ← endSequence rest)
  | .char '\x7b' :: rest => do
    let (slots, rest) ← fs.members true fs.noSlots rest
    let values ← fs.finish slots
    return (values, ← Fields.endObject rest)
  | text => .error (wrongType (.record name) text)

/-! ## Variants -/

/-- Decodes the name of a variant: a string, or an object with the name as its only key and
nothing as its value. -/
def variant : Scanner String := fun text =>
  match skipBlanks text with
  | [] => .error .unfinished
  | .char '"' :: rest => string rest
  | .char '\x7b' :: rest =>
    match skipBlanks rest with
    | [] => .error .unfinished
    | .char '"' :: rest => do
      let (name, rest) ← string rest
      let (_, rest) ← unit (← Fields.colon rest)
      return (name, ← Fields.endObject rest)
    | _ => .error .malformed
  | _ => .error .malformed

/-! ## Whole texts -/

/-- Decodes a text that holds one value and blanks. -/
def decode {α : Type} (scan : Scanner α) (text : List Symbol) : Except Error α := do
  let (a, rest) ← scan text
  if (skipBlanks rest).isEmpty then return a else throw .malformed

/-- Changes what a decoder makes of a value. -/
def map {α β : Type} (f : α → β) (scan : Scanner α) : Scanner β := fun text => do
  let (a, rest) ← scan text
  return (f a, rest)

end OpenPulls.Json
