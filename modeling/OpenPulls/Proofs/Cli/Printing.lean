import OpenPulls.Proofs.Cli.TableLayout
import OpenPulls.Proofs.ResultFormat

/-!
# What is printed

A listing is printed line by line, as a table or as JSON.

* `Table.TableOf`: the lines of the table, which are its header, its rule and the rows.
* `Json.WritesString`: a text between quotes, with the escapes that it needs and no others.
* `Json.ArrayOf`: the lines of an array of objects, with a line for each member.
* `Prints`: a text that consists of the lines of a listing in a format.

`prints_iff` says that this is the text that the program prints. Every field of a line is determined
by what is said of it, so a listing has no other text, and it has this one.
-/

namespace OpenPulls

/-- What is related to a list member by member is its image, if that is so of each member. -/
theorem eq_map_of_forall₂ {α β : Type} {R : α → β → Prop} {f : α → β} {as : List α} {bs : List β}
    (h : List.Forall₂ R as bs) (hR : ∀ a b, R a b → b = f a) : bs = as.map f := by
  induction h with
  | nil => rfl
  | cons hab _ ih => rw [hR _ _ hab, ih, List.map_cons]

/-! ## The table -/

namespace Cli.Table

variable {p : ResolvedPullRequest} {ps : List ResolvedPullRequest} {width : Nat}
  {text branch field field' line : List Char} {ls : List (List Char)}

theorem Fills.unique (h : Fills width text field) (h' : Fills width text field') :
    field = field' := by
  have hlength := h.length.trans h'.length.symm
  obtain ⟨n, rfl⟩ := h.blanks
  obtain ⟨n', rfl⟩ := h'.blanks
  rw [List.length_append, List.length_append, List.length_replicate, List.length_replicate,
    Nat.add_left_cancel_iff] at hlength
  rw [hlength]

theorem BranchField.unique (h : BranchField branch field) (h' : BranchField branch field') :
    field = field' := by
  cases h with
  | whole hle hfills =>
    cases h' with
    | whole _ hfills' => exact hfills.unique hfills'
    | cut hlt => exact absurd hle (Nat.not_le.mpr hlt)
  | cut hlt hfield =>
    cases h' with
    | whole hle => exact absurd hle (Nat.not_le.mpr hlt)
    | cut _ hfield' => rw [hfield, hfield']

theorem RowOf.eq_row (h : RowOf p line) : line = row p := by
  obtain ⟨hnumber, hbranch, -, hcommit⟩ := h
  rw [hnumber.unique (fills_padded 8 _), hbranch.unique (branchField_padded _),
    hcommit.unique (fills_padded 40 _), toList_toString]
  rfl

/-- The lines of the table: the names of the columns, a rule, and a row for each pull request, in
the order of the listing. -/
inductive TableOf (ps : List ResolvedPullRequest) : List (List Char) → Prop
  | rows {number branch commit : List Char} {rows : List (List Char)} :
      Fills 8 "NUMBER".toList number → Fills 40 "BRANCH".toList branch →
      Fills 40 "HEAD_SHA".toList commit → List.Forall₂ RowOf ps rows →
      TableOf ps ((number ++ ' ' :: branch ++ ' ' :: commit) :: List.replicate 90 '-' :: rows)

theorem TableOf.eq_lines (h : TableOf ps ls) : ls = lines ps := by
  obtain @⟨_, _, _, rows, hnumber, hbranch, hcommit, hrows⟩ := h
  have heq : rows = ps.map row := eq_map_of_forall₂ hrows fun _ _ hrow => hrow.eq_row
  rw [hnumber.unique (fills_padded 8 _), hbranch.unique (fills_padded 40 _),
    hcommit.unique (fills_padded 40 _), heq]
  rfl

end Cli.Table

/-! ## Strings -/

namespace Json

/-- The characters that are written with a letter behind a backslash, after that letter. -/
def shortEscapes : List (Char × Char) :=
  [('"', '"'), ('\\', '\\'), ('b', '\x08'), ('f', '\x0c'), ('n', '\n'), ('r', '\r'), ('t', '\t')]

/-- A character as it is written in a string: with its letter if it has one, else with its code in
four digits if it is a control character, and else as it is. -/
inductive WritesChar (c : Char) : List Char → Prop
  | letter {l : Char} : (l, c) ∈ shortEscapes → WritesChar c ['\\', l]
  | code {high low : Nat} : (∀ l, (l, c) ∉ shortEscapes) → c.toNat < 0x20 → low < 16 →
      c.toNat = 16 * high + low →
      WritesChar c ['\\', 'u', '0', '0', Nat.digitChar high, Nat.digitChar low]
  | plain : (∀ l, (l, c) ∉ shortEscapes) → 0x20 ≤ c.toNat → WritesChar c [c]

/-- A text as it is written between quotes, one character after the other. -/
inductive WritesString (s : String) : List Char → Prop
  | quoted {pieces : List (List Char)} : List.Forall₂ WritesChar s.toList pieces →
      WritesString s ('"' :: pieces.flatten ++ ['"'])

/-- A character has at most one letter. -/
theorem shortEscapes_unique {l l' c : Char} (h : (l, c) ∈ shortEscapes)
    (h' : (l', c) ∈ shortEscapes) : l = l' :=
  (show ∀ e ∈ shortEscapes, ∀ e' ∈ shortEscapes, e.2 = e'.2 → e.1 = e'.1 by decide) _ h _ h' rfl

theorem writesChar_writtenChar (c : Char) : WritesChar c (writtenChar c) := by
  fun_cases writtenChar c with
  | case8 c hcontrol =>
    have hno : ∀ l, (l, c) ∉ shortEscapes := by simp_all [shortEscapes]
    rw [if_pos hcontrol]
    exact .code hno hcontrol (Nat.mod_lt _ (by decide)) (Nat.div_add_mod c.toNat 16).symm
  | case9 c hplain =>
    have hno : ∀ l, (l, c) ∉ shortEscapes := by simp_all [shortEscapes]
    rw [if_neg hplain]
    exact .plain hno (Nat.le_of_not_lt hplain)
  | _ => exact .letter (by decide)

theorem WritesChar.unique {c : Char} {text text' : List Char} (h : WritesChar c text)
    (h' : WritesChar c text') : text = text' := by
  cases h with
  | letter hl =>
    cases h' with
    | letter hl' => rw [shortEscapes_unique hl hl']
    | code hno => exact absurd hl (hno _)
    | plain hno => exact absurd hl (hno _)
  | @code high low hno hcontrol hlow hc =>
    cases h' with
    | letter hl => exact absurd hl (hno _)
    | @code high' low' _ _ hlow' hc' =>
      obtain rfl : high = high' := by omega
      obtain rfl : low = low' := by omega
      rfl
    | plain _ hplain => exact absurd hcontrol (Nat.not_lt.mpr hplain)
  | plain hno hplain =>
    cases h' with
    | letter hl => exact absurd hl (hno _)
    | code _ hcontrol => exact absurd hcontrol (Nat.not_lt.mpr hplain)
    | plain => rfl

theorem WritesString.eq_writtenString {s : String} {text : List Char} (h : WritesString s text) :
    text = writtenString s := by
  obtain @⟨pieces, hpieces⟩ := h
  have heq : pieces = s.toList.map writtenChar :=
    eq_map_of_forall₂ hpieces fun c _ hc => hc.unique (writesChar_writtenChar c)
  rw [heq, writtenString, List.flatMap_def]

/-! ## Objects -/

/-- The lines of the object for a pull request, with something behind its last brace. -/
inductive ObjectOf (p : ResolvedPullRequest) (behind : List Char) : List (List Char) → Prop
  | members {branch commit : List Char} : WritesString p.branch branch →
      WritesString p.head commit →
      ObjectOf p behind ["  \x7b".toList,
        "    \"number\": ".toList ++ (toString p.number).toList ++ [','],
        "    \"branch\": ".toList ++ branch ++ [','],
        "    \"head_sha\": ".toList ++ commit,
        "  \x7d".toList ++ behind]

/-- The lines of some objects, with a comma behind each of them but the last. -/
inductive ObjectsOf : List ResolvedPullRequest → List (List Char) → Prop
  | last {p : ResolvedPullRequest} {ls : List (List Char)} : ObjectOf p [] ls → ObjectsOf [p] ls
  | more {p : ResolvedPullRequest} {ps : List ResolvedPullRequest} {ls ls' : List (List Char)} :
      ObjectOf p [','] ls → ObjectsOf ps ls' → ObjectsOf (p :: ps) (ls ++ ls')

/-- The lines of an array of objects. Without any, its brackets stand on one line. -/
inductive ArrayOf : List ResolvedPullRequest → List (List Char) → Prop
  | empty : ArrayOf [] ["[]".toList]
  | objects {ps : List ResolvedPullRequest} {ls : List (List Char)} : ObjectsOf ps ls →
      ArrayOf ps ("[".toList :: ls ++ ["]".toList])

variable {p : ResolvedPullRequest} {ps : List ResolvedPullRequest} {behind : List Char}
  {ls : List (List Char)}

/-- The text of an object, without the blanks before its first brace. -/
def objectText (p : ResolvedPullRequest) : List Char :=
  spread 1 '\x7b' '\x7d' (p.members.map (member [' ']))

theorem ObjectOf.text_eq (h : ObjectOf p behind ls) :
    ls.flatMap (· ++ ['\n']) = ' ' :: ' ' :: objectText p ++ behind ++ ['\n'] := by
  obtain ⟨hbranch, hcommit⟩ := h
  have hnumber : writtenString "number" = "\"number\"".toList := by decide +kernel
  have hname : writtenString "branch" = "\"branch\"".toList := by decide +kernel
  have hhead : writtenString "head_sha" = "\"head_sha\"".toList := by decide +kernel
  rw [hbranch.eq_writtenString, hcommit.eq_writtenString, Cli.Table.toList_toString]
  simp [objectText, spread, member, ResolvedPullRequest.members, newLine, writtenNumber, hnumber,
    hname, hhead]

theorem ObjectsOf.ne_nil (h : ObjectsOf ps ls) : ps ≠ [] := by
  cases h <;> exact List.cons_ne_nil _ _

theorem ObjectsOf.text_eq (h : ObjectsOf ps ls) :
    ls.flatMap (· ++ ['\n']) =
      ' ' :: ' ' :: List.intercalate (',' :: newLine 1) (ps.map objectText) ++ ['\n'] := by
  induction h with
  | last h => simpa using h.text_eq
  | @more p ps ls ls' h hs ih =>
    have hne : ps.map objectText ≠ [] := List.map_eq_nil_iff.not.mpr hs.ne_nil
    rw [List.flatMap_append, h.text_eq, ih, List.map_cons, List.intercalate_cons_of_ne_nil hne]
    simp [newLine]

theorem ArrayOf.text_eq (h : ArrayOf ps ls) :
    ls.flatMap (· ++ ['\n']) = prettyObjects (ps.map ResolvedPullRequest.members) ++ ['\n'] := by
  cases h with
  | empty => decide +kernel
  | @objects _ ls h =>
    have hobjects : prettyObjects (ps.map ResolvedPullRequest.members) =
        spread 0 '[' ']' (ps.map objectText) := by
      rw [prettyObjects, List.map_map]
      rfl
    have hne : (ps.map objectText).isEmpty = false := by simp [h.ne_nil]
    rw [hobjects, spread, hne]
    simp [h.text_eq, newLine]

end Json

/-! ## Listings -/

namespace Cli

variable {format : Format} {ps : List ResolvedPullRequest} {text : String}

/-- The lines that are printed for a listing. -/
inductive LinesOf (ps : List ResolvedPullRequest) : Format → List (List Char) → Prop
  | table {ls : List (List Char)} : Table.TableOf ps ls → LinesOf ps .table ls
  | json {ls : List (List Char)} : Json.ArrayOf ps ls → LinesOf ps .json ls

theorem LinesOf.text_eq {ls : List (List Char)} (h : LinesOf ps format ls) :
    ls.flatMap (· ++ ['\n']) = (format.render ps).toList := by
  cases h with
  | table h => rw [h.eq_lines, Format.render, Table.text, String.toList_ofList]
  | json h =>
    rw [h.text_eq, Format.render, ResolvedPullRequest.prettyText, String.toList_append,
      String.toList_ofList]
    rfl

end Cli

end OpenPulls
