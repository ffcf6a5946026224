import OpenPulls.Proofs.Json.Layout
import OpenPulls.PullRequest.Json

/-!
# Results are read back as they were written

The JSON text of a list of resolved pull requests is read back as that list, in both layouts and
whatever characters the texts in it have (`listOfJson_written`).

An object is read back because its members are the fields of the decoder in their order
(`written_members`), and that holds with any blanks between the parts, so once for both layouts.
-/

namespace OpenPulls.ResolvedPullRequest

open Json

/-- The members of an object are the values of the fields that the decoder reads. -/
theorem written_members (p : ResolvedPullRequest) :
    (Fields.cons (required "number" unsigned) (.cons (required "branch" Json.text)
      (.cons (required "head_sha" Json.text) .nil))).Written p.members
        (p.number, p.branch, p.head, ()) :=
  .cons (readsBack_unsigned p.number) (.cons (readsBack_text p.branch)
    (.cons (readsBack_text p.head) .nil))

/-- The object for a resolved pull request is read back, with any blanks between its parts. -/
theorem readsBack_object {gap last colonGap : List Char} (hgap : Blanks gap) (hlast : Blanks last)
    (hcolon : Blanks colonGap) (p : ResolvedPullRequest) :
    ReadsBack decoder (laid gap last '\x7b' '\x7d' (p.members.map (member colonGap))) p :=
  (ReadsBack.record p.written_members (by decide) _ hgap hlast hcolon).map _

theorem readsBack_objects {object : ResolvedPullRequest → List Char}
    (h : ∀ p, ReadsBack decoder (object p) p) (ps : List ResolvedPullRequest) :
    List.Forall₂ (ReadsBack decoder) (ps.map object) ps := by
  rw [List.forall₂_map_left_iff, List.forall₂_same]
  exact fun p _ => h p

theorem readsBack_compactObjects (ps : List ResolvedPullRequest) :
    ReadsBack (listOf decoder) (compactObjects (ps.map members)) ps := by
  rw [compactObjects, compact_eq_laid, List.map_map]
  refine .listOf blanks_nil blanks_nil (readsBack_objects (fun p => ?_) ps)
  rw [Function.comp_apply, compact_eq_laid]
  exact readsBack_object blanks_nil blanks_nil blanks_nil p

theorem readsBack_prettyObjects (ps : List ResolvedPullRequest) :
    ReadsBack (listOf decoder) (prettyObjects (ps.map members)) ps := by
  have hcolon : Blanks [' '] := by
    intro c hc
    rw [List.mem_singleton.mp hc]
    rfl
  rw [prettyObjects, spread_eq_laid, List.map_map]
  refine .listOf (blanks_newLine _) (blanks_newLine _) (readsBack_objects (fun p => ?_) ps)
  rw [Function.comp_apply, spread_eq_laid]
  exact readsBack_object (blanks_newLine _) (blanks_newLine _) hcolon p

/-- A text that is read back is decoded, also if it is printed as a line. -/
theorem listOfJson_of_readsBack {text last : List Char} {ps : List ResolvedPullRequest}
    (h : ReadsBack (listOf decoder) text ps) (hlast : Blanks last) :
    listOfJson (String.ofList (text ++ last)) = .ok ps := by
  rw [listOfJson, Text.symbols, String.toList_ofList]
  exact h.decode_eq blanks_nil hlast

/-- **Both JSON texts of a list are read back as the list**, for all numbers and all texts. -/
theorem listOfJson_written (ps : List ResolvedPullRequest) :
    listOfJson (compactText ps) = .ok ps ∧ listOfJson (prettyText ps) = .ok ps := by
  have hcompact := listOfJson_of_readsBack (readsBack_compactObjects ps) blanks_nil
  have hpretty := listOfJson_of_readsBack (readsBack_prettyObjects ps) blanks_nil
  rw [List.append_nil] at hcompact hpretty
  exact ⟨hcompact, hpretty⟩

end OpenPulls.ResolvedPullRequest
