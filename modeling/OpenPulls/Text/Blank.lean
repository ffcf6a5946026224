/-!
# Blanks

White space is the property of that name: the blanks and line breaks of all scripts, but no
zero-width characters. `trim` takes blanks off both ends of a text.
-/

namespace OpenPulls.Text

/-- White space, in any script. -/
def isBlank (c : Char) : Bool :=
  let n := c.toNat
  (9 ≤ n && n ≤ 13) || n == 0x20 || n == 0x85 || n == 0xA0 || n == 0x1680
    || (0x2000 ≤ n && n ≤ 0x200A) || n == 0x2028 || n == 0x2029 || n == 0x202F || n == 0x205F
    || n == 0x3000

/-- The text without its last characters that `p` selects. -/
def dropEnd (p : Char → Bool) (text : List Char) : List Char :=
  (text.reverse.dropWhile p).reverse

/-- The text without blanks at its ends. -/
def trim (text : List Char) : List Char :=
  dropEnd isBlank (text.dropWhile isBlank)

@[simp] theorem dropEnd_nil (p : Char → Bool) : dropEnd p [] = [] := rfl

@[simp] theorem dropEnd_concat_of_pos (p : Char → Bool) (text : List Char) (c : Char) (h : p c) :
    dropEnd p (text ++ [c]) = dropEnd p text := by
  simp [dropEnd, h]

@[simp] theorem dropEnd_concat_of_neg (p : Char → Bool) (text : List Char) (c : Char)
    (h : ¬ p c) : dropEnd p (text ++ [c]) = text ++ [c] := by
  simp [dropEnd, h]

end OpenPulls.Text
