import OpenPulls.PullRequest.Basic

/-!
# The table

A listing is printed as a table with a column for the number, one for the branch and one for the
commit. Columns are filled with blanks, and a branch that is too long for its column is cut.
-/

namespace OpenPulls.Cli.Table

/-- The width of the column for numbers. -/
def numberWidth : Nat := 8

/-- The width of the columns for branches and commits. -/
def textWidth : Nat := 40

/-- The width of the rule below the header. -/
def ruleWidth : Nat := 90

/-- What stands for the rest of a text that was cut. -/
def ellipsis : List Char := ['.', '.', '.']

/-- A text with blanks behind it, up to a width. -/
def padded (width : Nat) (text : List Char) : List Char :=
  text ++ List.replicate (width - text.length) ' '

/-- A text that is cut if it is longer than a width. -/
def truncated (width : Nat) (text : List Char) : List Char :=
  if width < text.length then text.take (width - ellipsis.length) ++ ellipsis else text

/-- A line of the table. -/
def line (number branch commit : List Char) : List Char :=
  padded numberWidth number ++ ' ' :: padded textWidth branch ++ ' ' :: padded textWidth commit

/-- The line above the rule. -/
def header : List Char := line "NUMBER".toList "BRANCH".toList "HEAD_SHA".toList

/-- The rule below the header. -/
def rule : List Char := List.replicate ruleWidth '-'

/-- The line for a pull request. -/
def row (p : ResolvedPullRequest) : List Char :=
  line (Nat.toDigits 10 p.number.toNat) (truncated textWidth p.branch.toList) p.head.toList

/-- The lines of the table. -/
def lines (ps : List ResolvedPullRequest) : List (List Char) := header :: rule :: ps.map row

/-- The table, with a line break behind each line. -/
def text (ps : List ResolvedPullRequest) : String :=
  String.ofList ((lines ps).flatMap (· ++ ['\n']))

end OpenPulls.Cli.Table
