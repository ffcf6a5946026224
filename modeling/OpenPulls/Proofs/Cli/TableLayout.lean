import Mathlib.Algebra.Group.Nat.Defs
import Mathlib.Data.List.DropRight
import Mathlib.Data.List.Forall2
import OpenPulls.Cli.Program

/-!
# The layout of the table

The table is read by scripts, which cut its last column out by position.

* `HasLines`: the lines of a text, each with a line feed behind it.
* `Fills`: what a column of some width shows for a text.
* `BranchField`: what is shown for a branch, which never stands out of its column.
* `RowOf`: the three fields of a row.
* `StandsAt`: a text that is found at a position of a line.

`table_layout` says that the table has these rows, in the order of the listing, and that the commit
of a pull request stands at the same position in each, unless its number stands out of its column.
-/

namespace OpenPulls.Cli.Table

variable {p : ResolvedPullRequest} {width : Nat} {text branch field : List Char}

/-! ## Lines -/

/-- A text consists of these lines, each with a line feed behind it. -/
def HasLines (text : String) (ls : List (List Char)) : Prop :=
  text.toList.splitOn '\n' = ls ++ [[]]

/-- Line feeds behind the lines are line feeds between them if an empty line comes last. -/
theorem flatMap_append_singleton (c : Char) (ls : List (List Char)) :
    ls.flatMap (· ++ [c]) = [c].intercalate (ls ++ [[]]) := by
  induction ls with
  | nil => rfl
  | cons l ls ih =>
    have hne : ls ++ [[]] ≠ [] := List.append_ne_nil_of_right_ne_nil ls (List.cons_ne_nil _ _)
    rw [List.flatMap_cons, ih, List.cons_append, List.intercalate_cons_of_ne_nil hne]

theorem hasLines_ofList {ls : List (List Char)} (h : ∀ l ∈ ls, '\n' ∉ l) :
    HasLines (String.ofList (ls.flatMap (· ++ ['\n']))) ls := by
  have hall : ∀ l ∈ ls ++ [[]], '\n' ∉ l := by
    intro l hl
    obtain hl | hl := List.mem_append.mp hl
    · exact h l hl
    · rw [List.mem_singleton.mp hl]
      exact List.not_mem_nil
  rw [HasLines, String.toList_ofList, flatMap_append_singleton]
  exact List.splitOn_intercalate '\n' hall (by simp)

/-! ## Fields -/

/-- A text with blanks behind it that fill a column. A text that is longer stands out. -/
structure Fills (width : Nat) (text field : List Char) : Prop where
  blanks : ∃ n, field = text ++ List.replicate n ' '
  length : field.length = max width text.length

theorem fills_padded (width : Nat) (text : List Char) : Fills width text (padded width text) where
  blanks := ⟨width - text.length, rfl⟩
  length := by
    rw [padded, List.length_append, List.length_replicate]
    omega

namespace Fills

theorem newline_not_mem (h : Fills width text field) (htext : '\n' ∉ text) : '\n' ∉ field := by
  obtain ⟨n, rfl⟩ := h.blanks
  exact List.not_mem_append htext fun hmem => absurd (List.eq_of_mem_replicate hmem) (by decide)

/-- A text without blanks ends where the first blank stands. -/
theorem takeWhile_eq (h : Fills width text field) (htext : ' ' ∉ text) :
    field.takeWhile (· != ' ') = text := by
  obtain ⟨n, rfl⟩ := h.blanks
  have hall : ∀ c ∈ text, (c != ' ') = true := fun c hc => bne_iff_ne.mpr fun h => htext (h ▸ hc)
  rw [List.takeWhile_append_of_pos hall]
  cases n <;> simp [List.replicate_succ]

/-- A text without blanks is what is left without the blanks behind it. -/
theorem rdropWhile_eq (h : Fills width text field) (htext : ' ' ∉ text) :
    field.rdropWhile (· == ' ') = text := by
  obtain ⟨n, rfl⟩ := h.blanks
  clear h
  induction n with
  | zero =>
    rw [List.replicate_zero, List.append_nil, List.rdropWhile_eq_self_iff]
    intro hne hlast
    exact htext (eq_of_beq hlast ▸ List.getLast_mem hne)
  | succ n ih =>
    rw [List.replicate_succ', ← List.append_assoc, List.rdropWhile_concat_pos _ _ _ rfl]
    exact ih

end Fills

/-- What is shown for a branch: all of it if it has room, else its beginning and three dots. -/
inductive BranchField (branch field : List Char) : Prop
  | whole : branch.length ≤ 40 → Fills 40 branch field → BranchField branch field
  | cut : 40 < branch.length → field = branch.take 37 ++ ['.', '.', '.'] → BranchField branch field

theorem BranchField.length_eq (h : BranchField branch field) : field.length = 40 := by
  cases h with
  | whole hle hfills => rw [hfills.length, Nat.max_eq_left hle]
  | cut hlt hfield =>
    have hshort : 37 ≤ branch.length := by omega
    rw [hfield, List.length_append, List.length_take_of_le hshort]
    rfl

theorem BranchField.newline_not_mem (h : BranchField branch field) (hbranch : '\n' ∉ branch) :
    '\n' ∉ field := by
  cases h with
  | whole hle hfills => exact hfills.newline_not_mem hbranch
  | cut hlt hfield =>
    rw [hfield]
    exact List.not_mem_append (fun hmem => hbranch (List.mem_of_mem_take hmem)) (by decide)

/-- What is cut has the width of the column, so that no blanks are put behind the dots. -/
theorem branchField_padded (branch : List Char) :
    BranchField branch (padded textWidth (truncated textWidth branch)) := by
  by_cases hlong : 40 < branch.length
  · have hcut : truncated textWidth branch = branch.take 37 ++ ['.', '.', '.'] := if_pos hlong
    have hlength : (truncated textWidth branch).length = textWidth :=
      (BranchField.cut hlong hcut).length_eq
    refine .cut hlong ?_
    rw [padded, hlength, Nat.sub_self, List.replicate_zero, List.append_nil, hcut]
  · have hwhole : truncated textWidth branch = branch := if_neg hlong
    rw [hwhole]
    exact .whole (Nat.le_of_not_lt hlong) (fills_padded textWidth branch)

/-! ## Rows -/

/-- The row of a pull request: its number, its branch and its commit, with a blank between two. -/
inductive RowOf (p : ResolvedPullRequest) : List Char → Prop
  | fields {number branch commit : List Char} : Fills 8 (toString p.number).toList number →
      BranchField p.branch.toList branch → branch.length = 40 → Fills 40 p.head.toList commit →
      RowOf p (number ++ ' ' :: branch ++ ' ' :: commit)

theorem toList_toString (n : UInt64) : (toString n).toList = Nat.toDigits 10 n.toNat :=
  Nat.toList_repr

theorem newline_not_mem_toString (n : UInt64) : '\n' ∉ (toString n).toList := by
  rw [toList_toString]
  intro hmem
  exact absurd (Nat.isDigit_of_mem_toDigits (by decide) (by decide) hmem) (by decide)

theorem rowOf_row (p : ResolvedPullRequest) : RowOf p (row p) := by
  have hbranch := branchField_padded p.branch.toList
  rw [row, ← toList_toString]
  exact .fields (fills_padded 8 _) hbranch hbranch.length_eq (fills_padded 40 _)

/-- From a position on, a line holds a text and then nothing but blanks. If the text has no blank, it
can be read up to the first blank as well as by taking off the blanks at the end of the line. -/
structure StandsAt (position : Nat) (text line : List Char) : Prop where
  alone : ∃ n, line.drop position = text ++ List.replicate n ' '
  upToBlank : ' ' ∉ text → (line.drop position).takeWhile (· != ' ') = text
  withoutBlanks : ' ' ∉ text → (line.drop position).rdropWhile (· == ' ') = text

theorem Fills.standsAt {position : Nat} {line : List Char}
    (h : Fills width text (line.drop position)) : StandsAt position text line where
  alone := h.blanks
  upToBlank := h.takeWhile_eq
  withoutBlanks := h.rdropWhile_eq

namespace RowOf

variable {line : List Char}

theorem newline_not_mem (h : RowOf p line) (hbranch : '\n' ∉ p.branch.toList)
    (hhead : '\n' ∉ p.head.toList) : '\n' ∉ line := by
  obtain ⟨hnumber, hfield, -, hcommit⟩ := h
  simp only [List.mem_append, List.mem_cons, not_or]
  exact ⟨⟨hnumber.newline_not_mem (newline_not_mem_toString p.number), by decide,
    hfield.newline_not_mem hbranch⟩, by decide, hcommit.newline_not_mem hhead⟩

/-- The number, the branch and two blanks stand in front of the commit. -/
theorem standsAt (h : RowOf p line) (hsmall : p.number.toNat < 10 ^ 8) :
    StandsAt 50 p.head.toList line := by
  obtain @⟨number, branch, commit, hnumber, -, hbranch, hcommit⟩ := h
  have hdigits : (toString p.number).toList.length ≤ 8 := by
    rw [toList_toString]
    exact (Nat.length_toDigits_le_iff (by decide) (by decide)).mpr hsmall
  have hlength : (number ++ ' ' :: branch ++ [' ']).length = 50 := by
    rw [List.length_append, List.length_append, List.length_cons, hnumber.length, hbranch,
      Nat.max_eq_left hdigits, List.length_singleton]
  have hdrop : (number ++ ' ' :: branch ++ ' ' :: commit).drop 50 = commit := by
    rw [List.append_cons]
    exact List.drop_left' hlength
  rw [← hdrop] at hcommit
  exact hcommit.standsAt

end RowOf

/-! ## The table -/

theorem newline_not_mem_header : '\n' ∉ header := by decide

theorem newline_not_mem_rule : '\n' ∉ rule := by decide

/-- The table has a row for each pull request, in the order of the listing, below the header and the
rule. The commit of a pull request stands at the same position in each row, whatever the branch, if
the number has room in its column. -/
theorem table_layout (ps : List ResolvedPullRequest)
    (hps : ∀ p ∈ ps, '\n' ∉ p.branch.toList ∧ '\n' ∉ p.head.toList) :
    ∃ rows, HasLines (Ending.listed .table ps).output (header :: rule :: rows) ∧
      (header :: rule :: rows).length = ps.length + 2 ∧
      List.Forall₂ RowOf ps rows ∧
      List.Forall₂ (fun p line => p.number.toNat < 10 ^ 8 → StandsAt 50 p.head.toList line)
        ps rows := by
  have hfeed : ∀ l ∈ lines ps, '\n' ∉ l := by
    simp only [lines, List.forall_mem_cons, List.forall_mem_map]
    refine ⟨newline_not_mem_header, newline_not_mem_rule, fun p hp => ?_⟩
    exact (rowOf_row p).newline_not_mem (hps p hp).1 (hps p hp).2
  refine ⟨ps.map row, hasLines_ofList hfeed, ?_, ?_, ?_⟩
  · rw [List.length_cons, List.length_cons, List.length_map]
  · exact List.forall₂_map_right_iff.mpr (List.forall₂_same.mpr fun p _ => rowOf_row p)
  · exact List.forall₂_map_right_iff.mpr
      (List.forall₂_same.mpr fun p _ hsmall => (rowOf_row p).standsAt hsmall)

/-- A branch that fills its column, and one that is cut. Their letters take two bytes each. -/
def fullColumns : List ResolvedPullRequest :=
  [⟨7, String.ofList (List.replicate 40 'ä'), "c1"⟩,
    ⟨99999999, String.ofList (List.replicate 41 'ä'), "c2"⟩]

theorem table_layout_fullColumns :
    (∀ p ∈ fullColumns, '\n' ∉ p.branch.toList ∧ '\n' ∉ p.head.toList) ∧
      ∃ full cut, HasLines (Ending.listed .table fullColumns).output [header, rule, full, cut] ∧
        StandsAt 50 ['c', '1'] full ∧ StandsAt 50 ['c', '2'] cut := by
  have hps : ∀ p ∈ fullColumns, '\n' ∉ p.branch.toList ∧ '\n' ∉ p.head.toList := by
    simp [fullColumns]
  refine ⟨hps, ?_⟩
  obtain ⟨rows, hlines, -, -, hstand⟩ := table_layout fullColumns hps
  obtain _ | ⟨hfull, _ | ⟨hcut, ⟨⟩⟩⟩ := hstand
  exact ⟨_, _, hlines, hfull (by decide), hcut (by decide)⟩

end OpenPulls.Cli.Table
