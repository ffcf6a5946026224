import Mathlib.Data.List.TakeWhile
import OpenPulls.Rest.Root

/-!
# Trimming

What `trimmed` takes off a text: blanks at both ends first, and then slashes at the end. Blanks
between the slashes are not reached.

* `exists_append_dropEnd`, `getLast?_dropEnd`: a text is what is kept of it and what is taken off.
* `Bare`: a text that has nothing to trim.
* `trimmed_append_blanks`, `Bare.trimmed_append_slashes`: what is written around a text is trimmed.
-/

namespace OpenPulls.Rest

variable {text : List Char} {c : Char}

/-! ## The end of a text -/

section DropEnd

variable {p : Char → Bool}

theorem exists_append_dropEnd (p : Char → Bool) (text : List Char) :
    ∃ dropped, text = Text.dropEnd p text ++ dropped ∧ ∀ c ∈ dropped, p c = true := by
  refine ⟨(text.reverse.takeWhile p).reverse, ?_, fun c hc => ?_⟩
  · rw [Text.dropEnd, ← List.reverse_append, List.takeWhile_append_dropWhile, List.reverse_reverse]
  · exact List.mem_takeWhile_imp (List.mem_reverse.mp hc)

/-- What is left has none of the dropped characters at its end. -/
theorem getLast?_dropEnd (h : (Text.dropEnd p text).getLast? = some c) : p c = false := by
  rw [Text.dropEnd, List.getLast?_reverse] at h
  have hhead := List.head?_dropWhile_not p text.reverse
  rw [h] at hhead
  exact hhead

theorem head?_dropEnd (h : (Text.dropEnd p text).head? = some c) : text.head? = some c := by
  obtain ⟨dropped, htext, -⟩ := exists_append_dropEnd p text
  obtain ⟨rest, hrest⟩ := List.head?_eq_some_iff.mp h
  rw [htext, hrest]
  rfl

theorem dropEnd_append_of_forall (text : List Char) {dropped : List Char}
    (h : ∀ c ∈ dropped, p c = true) : Text.dropEnd p (text ++ dropped) = Text.dropEnd p text := by
  have hreverse : ∀ c ∈ dropped.reverse, p c = true := fun c hc => h c (List.mem_reverse.mp hc)
  rw [Text.dropEnd, List.reverse_append, List.dropWhile_append_of_pos hreverse, Text.dropEnd]

theorem dropEnd_eq_nil (h : ∀ c ∈ text, p c = true) : Text.dropEnd p text = [] := by
  have hnil := dropEnd_append_of_forall [] h
  rwa [List.nil_append] at hnil

theorem dropEnd_of_last (h : ∀ c ∈ text.getLast?, p c = false) : Text.dropEnd p text = text := by
  obtain rfl | ⟨init, c, rfl⟩ := List.eq_nil_or_concat text
  · rfl
  · rw [List.concat_eq_append] at h ⊢
    exact Text.dropEnd_concat_of_neg _ _ _ (by simp [h c (by simp)])

end DropEnd

/-! ## Trimmed texts -/

theorem isBlank_of_head?_trimmed (h : (trimmed text).head? = some c) : Text.isBlank c = false := by
  have hhead := List.head?_dropWhile_not Text.isBlank text
  rw [head?_dropEnd (head?_dropEnd h)] at hhead
  exact hhead

/-- A text that begins and ends in what is not trimmed. -/
structure Bare (text : List Char) : Prop where
  head : ∃ c, text.head? = some c ∧ Text.isBlank c = false
  last : ∃ c, text.getLast? = some c ∧ Text.isBlank c = false ∧ c ≠ '/'

theorem trim_eq_self {d : Char} (hhead : text.head? = some c) (hc : Text.isBlank c = false)
    (hlast : text.getLast? = some d) (hd : Text.isBlank d = false) : Text.trim text = text := by
  have hdrop : text.dropWhile Text.isBlank = text := by
    obtain ⟨rest, rfl⟩ := List.head?_eq_some_iff.mp hhead
    exact List.dropWhile_cons_of_neg (by simp [hc])
  rw [Text.trim, hdrop]
  refine dropEnd_of_last fun d' hd' => ?_
  rw [hlast] at hd'
  cases hd'
  exact hd

namespace Bare

/-- The slashes behind a bare text are all that is trimmed. -/
theorem trimmed_append_slashes (h : Bare text) (n : Nat) :
    trimmed (text ++ List.replicate n '/') = text := by
  obtain ⟨⟨c, hhead, hc⟩, d, hlast, hd, hslash⟩ := h
  have hhead' : (text ++ List.replicate n '/').head? = some c := by
    rw [List.head?_append, hhead, Option.some_or]
  have htrim : Text.trim (text ++ List.replicate n '/') = text ++ List.replicate n '/' := by
    cases n with
    | zero =>
      rw [List.replicate_zero, List.append_nil]
      exact trim_eq_self hhead hc hlast hd
    | succ n =>
      refine trim_eq_self (d := '/') hhead' hc ?_ (by decide)
      rw [List.replicate_succ', ← List.append_assoc, List.getLast?_concat]
  have hslashes : ∀ c ∈ List.replicate n '/', (c == '/') = true :=
    fun c hc => beq_iff_eq.mpr (List.eq_of_mem_replicate hc)
  rw [trimmed, htrim, dropEnd_append_of_forall text hslashes]
  refine dropEnd_of_last fun d' hd' => ?_
  rw [hlast] at hd'
  cases hd'
  simp [hslash]

theorem trimmed_eq (h : Bare text) : trimmed text = text := by
  have hnone := h.trimmed_append_slashes 0
  rwa [List.replicate_zero, List.append_nil] at hnone

end Bare

/-- Blanks on both sides do not count, even if there is nothing else. -/
theorem trimmed_append_blanks (text : List Char) {before after : List Char}
    (hbefore : ∀ c ∈ before, Text.isBlank c = true) (hafter : ∀ c ∈ after, Text.isBlank c = true) :
    trimmed (before ++ text ++ after) = trimmed text := by
  have htrim : Text.trim (before ++ text ++ after) = Text.trim text := by
    rw [Text.trim, List.append_assoc, List.dropWhile_append_of_pos hbefore, List.dropWhile_append]
    split
    next hempty => rw [List.dropWhile_eq_nil_iff.mpr hafter, Text.trim, List.isEmpty_iff.mp hempty]
    next => rw [dropEnd_append_of_forall _ hafter, Text.trim]
  rw [trimmed, htrim, trimmed]

theorem trimmed_slashes (n : Nat) : trimmed (List.replicate n '/') = [] := by
  have htrim : Text.trim (List.replicate n '/') = List.replicate n '/' := by
    cases n with
    | zero => rfl
    | succ n =>
      refine trim_eq_self (c := '/') (d := '/') rfl (by decide) ?_ (by decide)
      rw [List.replicate_succ', List.getLast?_concat]
  rw [trimmed, htrim]
  exact dropEnd_eq_nil fun c hc => by rw [List.eq_of_mem_replicate hc]; rfl

end OpenPulls.Rest
