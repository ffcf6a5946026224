import OpenPulls.Proofs.Rest.FixedPoint

/-!
# Spellings of an address

Of the text of an address only what trimming leaves counts for its root (`root_congr`). So blanks
around it, slashes behind it and the name of the interface at its end make no difference.
`root_spelling` says so of all addresses that begin and end in something else, and what it says of a
root holds of the root of every address.
-/

namespace OpenPulls.Rest

/-- A text of so many slashes. -/
def slashes (n : Nat) : String := String.ofList (List.replicate n '/')

theorem toList_slashes (n : Nat) : (slashes n).toList = List.replicate n '/' :=
  String.toList_ofList

section Spelling

variable {address address' text text' : String}

theorem root_congr (h : trimmed address.toList = trimmed address'.toList) :
    root address = root address' := by
  rw [root, root, h]

theorem root_of_trimmed_nil (h : trimmed address.toList = []) : root address = .error .empty := by
  rw [root, h]
  rfl

theorem toList_wrapped (before address after : String) (n : Nat) :
    (before ++ address ++ slashes n ++ after).toList =
      before.toList ++ (address.toList ++ List.replicate n '/') ++ after.toList := by
  rw [String.toList_append, String.toList_append, String.toList_append, toList_slashes,
    List.append_assoc before.toList]

/-- Every root ends in the name of the interface, and begins with no blank. -/
theorem root_shape (h : root address = .ok text) :
    (∃ front, text = front ++ "/rest") ∧ ∀ c ∈ text.toList.head?, Text.isBlank c = false := by
  obtain ⟨hne, htext⟩ := root_eq_ok h
  constructor
  · obtain ⟨front, hfront⟩ := rootPath_suffix_append_ending (trimmed address.toList)
    refine ⟨String.ofList front, String.toList_inj.mp ?_⟩
    rw [htext, ← hfront, String.toList_append, String.toList_ofList]
    rfl
  · intro c hc
    rw [htext, List.head?_append_of_ne_nil _ hne] at hc
    exact isBlank_of_head?_trimmed hc

theorem Bare.append_rootPath {text : List Char} (h : Bare text) : Bare (text ++ rootPath) := by
  obtain ⟨⟨c, hhead, hc⟩, -⟩ := h
  refine ⟨⟨c, ?_, hc⟩, 't', getLast?_of_rootPath (List.suffix_append _ _), by decide, by decide⟩
  rw [List.head?_append, hhead, Option.some_or]

/-- Where the name of the interface is not written, it is added, and where it is, it is kept. -/
theorem root_eq_of_append (hbare : Bare address.toList) (hsuffix : ¬ rootPath <:+ address.toList)
    (h : root address = .ok text) (h' : root (address ++ "/rest") = .ok text') : text = text' := by
  have hlong : (address ++ "/rest").toList = address.toList ++ rootPath := String.toList_append
  have hkept : ending (address.toList ++ rootPath) = [] :=
    if_pos (List.isSuffixOf_iff_suffix.mpr (List.suffix_append _ _))
  have hadded : ending address.toList = rootPath :=
    if_neg fun hs => hsuffix (List.isSuffixOf_iff_suffix.mp hs)
  have htext := (root_eq_ok h).2
  have htext' := (root_eq_ok h').2
  rw [hbare.trimmed_eq, hadded] at htext
  rw [hlong, hbare.append_rootPath.trimmed_eq, hkept, List.append_nil] at htext'
  rw [← String.toList_inj, htext, htext']

end Spelling

/-- **The spelling of an address does not matter.** With blanks around it and slashes behind it, an
address that begins and ends in something else has the same root, or the same fault. The root of any
text ends in the name of the interface and begins with no blank. An address that is accepted with
and without that name at its end has one root. Blanks around slashes and nothing else are an empty
address. -/
theorem root_spelling {before after : String} (hbefore : ∀ c ∈ before.toList, Text.isBlank c = true)
    (hafter : ∀ c ∈ after.toList, Text.isBlank c = true) (n : Nat) :
    (∀ address : String, Bare address.toList →
      root (before ++ address ++ slashes n ++ after) = root address) ∧
    (∀ address text : String, root address = .ok text →
      (∃ front, text = front ++ "/rest") ∧ ∀ c ∈ text.toList.head?, Text.isBlank c = false) ∧
    (∀ address text text' : String, Bare address.toList → ¬ rootPath <:+ address.toList →
      root address = .ok text → root (address ++ "/rest") = .ok text' → text = text') ∧
    root (before ++ slashes n ++ after) = .error .empty ∧
      RootFault.empty.text = "base URL is empty" := by
  refine ⟨fun address hbare => root_congr ?_, fun _ _ => root_shape,
    fun _ _ _ => root_eq_of_append, root_of_trimmed_nil ?_, rfl⟩
  · rw [toList_wrapped, trimmed_append_blanks _ hbefore hafter, hbare.trimmed_append_slashes,
      hbare.trimmed_eq]
  · rw [String.toList_append, String.toList_append, toList_slashes,
      trimmed_append_blanks _ hbefore hafter, trimmed_slashes]

/-- With blanks of two scripts around it and two slashes behind it, and with the name of the
interface. -/
theorem root_spelling_wide :
    root ("\u3000 " ++ "https://h/p" ++ slashes 2 ++ "\t\u2029") = root "https://h/p" ∧
      root "https://h/p" = .ok "https://h/p/rest" ∧
      root ("https://h/p" ++ "/rest") = root "https://h/p" ∧
      root ("\u3000 " ++ "nowhere" ++ slashes 2 ++ "\t\u2029") = root "nowhere" ∧
      root "nowhere" = .error (.invalid "nowhere" .relative) ∧
      root ("\u3000 " ++ slashes 2 ++ "\t\u2029") = .error .empty := by
  have hbare : Bare "https://h/p".toList :=
    ⟨⟨'h', rfl, by decide⟩, 'p', by decide, by decide, by decide⟩
  have hbare' : Bare "nowhere".toList :=
    ⟨⟨'n', rfl, by decide⟩, 'e', by decide, by decide, by decide⟩
  have hbefore : ∀ c ∈ "\u3000 ".toList, Text.isBlank c = true :=
    List.all_eq_true.mp (by decide)
  have hafter : ∀ c ∈ "\t\u2029".toList, Text.isBlank c = true :=
    List.all_eq_true.mp (by decide)
  have hsuffix : ¬ rootPath <:+ "https://h/p".toList := by decide
  have hroot : root "https://h/p" = .ok "https://h/p/rest" := by decide +kernel
  obtain ⟨hspelling, -, hnamed, hempty, -⟩ := root_spelling hbefore hafter 2
  have hlong : (root ("https://h/p" ++ "/rest")).isOk = true := by decide +kernel
  refine ⟨hspelling _ hbare, hroot, ?_, hspelling _ hbare', by decide +kernel, hempty⟩
  cases htext : root ("https://h/p" ++ "/rest") with
  | error fault =>
    rw [htext] at hlong
    cases hlong
  | ok text => rw [hroot, hnamed _ _ _ hbare hsuffix hroot htext]

end OpenPulls.Rest
