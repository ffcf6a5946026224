import OpenPulls.Text.Blank
import OpenPulls.Text.Utf8
import OpenPulls.Unicode.Bidi
import OpenPulls.Unicode.Class
import OpenPulls.Unicode.DomainMap
import OpenPulls.Unicode.Joining
import OpenPulls.Unicode.Normal
import OpenPulls.Url.Percent
import OpenPulls.Url.Punycode

/-!
# Domain names

A domain name may be given in any script and in upper case. It is brought into one spelling, its
labels are checked, and labels outside ASCII are written in ASCII. `Domain.ascii?` gives the
result, or `none` for a name that is not valid.
-/

namespace OpenPulls.Domain

open OpenPulls.Text

/-! ## Pieces -/

/-- The parts of a text between separators. There is at least one. -/
def splitWhere (isSeparator : Char → Bool) : List Char → List (List Char)
  | [] => [[]]
  | c :: rest =>
    if isSeparator c then [] :: splitWhere isSeparator rest
    else
      match splitWhere isSeparator rest with
      | part :: parts => (c :: part) :: parts
      | [] => [[c]]

/-- The labels of a name. -/
def labels (name : List Char) : List (List Char) := splitWhere (· == '.') name

/-- No domain name holds this character. -/
def isForbidden (c : Char) : Bool :=
  c.toNat ≤ 0x20 || c == '\x7f'
    || ['%', '#', '/', ':', '<', '>', '?', '@', '[', '\\', ']', '^', '|'].contains c

/-- A character of ASCII. -/
def isAscii (c : Char) : Bool := c.toNat < 0x80

/-- The characters with the given code points. -/
def charsOf (codes : List Nat) : List Char := codes.map Char.ofNat

/-- A text in its composed spelling. -/
def composed (text : List Char) : List Char := charsOf (Unicode.Normal.canonical (text.map Char.toNat))

/-- A name in one spelling: each character is kept, dropped or replaced. -/
def mapped? (name : List Char) : Option (List Char) := do
  let parts ← name.mapM Unicode.DomainMap.replacement?
  return composed (charsOf parts.flatten)

/-! ## Labels -/

/-- The marker of a label that is written in ASCII. -/
def marker : List Char := ['x', 'n', '-', '-']

/-- The number of characters that a label written in ASCII may have after its marker. -/
def maxWritten : Nat := 2000

/-- The number of characters that a label outside ASCII may have. -/
def maxLabel : Nat := 1000

/-- A label in its script: a label with the marker is read. What it says must be outside ASCII and
in the one spelling. -/
def decodeLabel? (label : List Char) : Option (List Char) :=
  if !marker.isPrefixOf label then some label
  else
    let written := label.drop marker.length
    if written.getLast? = some '-' || written.isEmpty || !written.all isAscii
      || maxWritten < written.length then none
    else do
      let said ← Punycode.decode? written
      if said.all Unicode.DomainMap.isKept && composed said == said then some said else none

/-- A label that may be part of a name: it begins with no mark, its joiners stand where they may,
and it is not too long. -/
def isValidLabel (label : List Char) : Bool :=
  (match label with
    | c :: _ => !Unicode.marks.contains c
    | [] => true)
  && Unicode.Joining.isAllowed label
  && !label.any isForbidden
  && (label.all isAscii || label.length ≤ maxLabel)

/-- A label in ASCII. -/
def encodeLabel (label : List Char) : List Char :=
  if label.all isAscii then label else marker ++ Punycode.encode label

/-! ## Names -/

/-- A letter or digit of ASCII, a hyphen or a dot. -/
def isPlain (c : Char) : Bool := c.isAlphanum || c == '-' || c == '.'

/-- The name is of plain characters, and none of its labels is written in ASCII for another one. -/
def isPlainName (name : List Char) : Bool :=
  name.all isPlain && !(labels (name.map Char.toLower)).any (marker.isPrefixOf ·)

/-- A name in ASCII, if it is valid. A plain name is valid as it stands, in lower case. In a name with
letters that run from right to left the direction of every label matters. -/
def ascii? (name : List Char) : Option (List Char) :=
  if isPlainName name then some (name.map Char.toLower)
  else do
    let parts ← (labels (← mapped? name)).mapM decodeLabel?
    if !parts.all isValidLabel then none
    if parts.any (·.any Unicode.Bidi.isRightToLeft) && !parts.all Unicode.Bidi.Label.isAllowed then
      none
    return List.intercalate ['.'] (parts.map encodeLabel)

/-- A name in ASCII that is given with percent-encoding. -/
def ofText? (text : List Char) : Option (List Char) := do
  ascii? (← Utf8.decodeText? (Percent.decode (Utf8.encode text)))

end OpenPulls.Domain
