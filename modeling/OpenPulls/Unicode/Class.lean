import OpenPulls.Unicode.Property

/-!
# Classes of characters

The sets of characters that patterns, texts and names ask for.
-/

namespace OpenPulls.Unicode

/-- Letters and other alphabetic characters. -/
def alphabetic : CharSet := Property.alphabetic.chars

/-- Digits and other numbers. -/
def numeric : CharSet := .ofCategories Category.number

/-- Decimal digits. -/
def decimalDigits : CharSet := .ofCategories [.decimalNumber]

/-- White space. -/
def whiteSpace : CharSet := Property.whiteSpace.chars

/-- Combining marks. -/
def marks : CharSet := .ofCategories Category.mark

/-- Characters that words are made of: alphabetic characters, marks, digits, connectors and
joiners. -/
def wordChars : CharSet :=
  .unions [alphabetic, marks, decimalDigits, .ofCategories [.connectorPunctuation],
    Property.joinControl.chars]

/-- Characters that extend the one before them. -/
def graphemeExtenders : CharSet := Property.graphemeExtend.chars

/-- Characters that can be printed: all but controls, formats, private use, unassigned code points
and blanks other than the space. -/
def printable : CharSet :=
  ((CharSet.ofCategories (Category.other ++ Category.separator)).compl).union (.singleton ' ')

end OpenPulls.Unicode
