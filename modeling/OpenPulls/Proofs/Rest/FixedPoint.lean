import OpenPulls.Proofs.Rest.Interface
import OpenPulls.Proofs.Url.Blanks

/-!
# Roots of roots

The root of the interface is a text that looks like the address of a server. Given as one, it would
be its own root: it ends in the name of the interface, and has no blanks and no slashes to trim. But
the address was read without that name, and with it the text need not be an address any more.

* `Settled`: the root is an address, and its own root.
* `settled_iff_parses`: the root is settled if it is an address at all.
* `settled_of_last`: it is settled if the address ends in a character that counts, and not in `@`.
* `root_settled_iff`: it is settled exactly if the path of the interface fits behind the address.

The other roots are not accepted in their turn (`unsettled_all`).
-/

namespace OpenPulls.Rest

/-! ## The end of a root -/

section RootPath

variable {text : List Char}

theorem rootPath_suffix_append_ending (text : List Char) : rootPath <:+ text ++ ending text := by
  unfold ending
  split
  next h =>
    rw [List.append_nil]
    exact List.isSuffixOf_iff_suffix.mp h
  next => exact List.suffix_append text rootPath

/-- Every root ends in the last letter of the name of the interface. -/
theorem getLast?_of_rootPath (h : rootPath <:+ text) : text.getLast? = some 't' := by
  obtain ⟨front, rfl⟩ := h
  exact List.getLast?_append_of_ne_nil _ (by decide)

end RootPath

/-! ## Roots that are accepted -/

section Settled

variable {address text : String}

/-- The root is an address that is accepted, and the root made of it is the same one. -/
def Settled (text : String) : Prop :=
  (∃ u, Url.parse text.toList = .ok u) ∧ root text = .ok text

theorem exists_parse_of_root (h : root address = .ok text) :
    ∃ u, Url.parse (trimmed address.toList) = .ok u := by
  unfold root at h
  simp only [] at h
  split at h
  next => cases h
  next =>
    split at h
    next => cases h
    next u hu => exact ⟨u, hu⟩

theorem trimmed_root (h : root address = .ok text) : trimmed text.toList = text.toList := by
  obtain ⟨hne, htext⟩ := root_eq_ok h
  obtain ⟨c, rest, htrimmed⟩ := List.exists_cons_of_ne_nil hne
  have hhead : (trimmed address.toList).head? = some c := by
    rw [htrimmed]
    rfl
  have hlast := getLast?_of_rootPath (rootPath_suffix_append_ending (trimmed address.toList))
  rw [← htext] at hlast
  refine Bare.trimmed_eq ⟨⟨c, ?_, isBlank_of_head?_trimmed hhead⟩, 't', hlast, by decide, by decide⟩
  rw [htext, htrimmed]
  rfl

/-- Nothing but a fault of the text keeps a root from being its own root. -/
theorem settled_iff_parses (h : root address = .ok text) :
    Settled text ↔ ∃ u, Url.parse text.toList = .ok u := by
  refine ⟨And.left, fun hok => ⟨hok, ?_⟩⟩
  obtain ⟨u, hu⟩ := hok
  obtain ⟨hne, htext⟩ := root_eq_ok h
  have hsuffix : rootPath.isSuffixOf text.toList = true := by
    rw [htext]
    exact List.isSuffixOf_iff_suffix.mpr (rootPath_suffix_append_ending _)
  have hempty : text.toList.isEmpty = false := by
    rw [htext, List.isEmpty_eq_false_iff]
    exact List.append_ne_nil_of_left_ne_nil hne _
  simp only [root, trimmed_root h, hempty, Bool.false_eq_true, if_false, hu, hsuffix, if_true,
    String.ofList_toList]

/-- Where the name of the interface is not written, it fits. -/
theorem takesPath_of_suffix {text : List Char} (h : rootPath <:+ text) : Url.TakesPath text :=
  Url.takesPath_of_last (getLast?_of_rootPath h) (by decide) (by decide)

theorem parses_iff_takesPath (h : root address = .ok text) :
    (∃ u, Url.parse text.toList = .ok u) ↔ Url.TakesPath (trimmed address.toList) := by
  rw [(root_eq_ok h).2]
  unfold ending
  split
  next hsuffix =>
    rw [List.append_nil]
    exact iff_of_true (exists_parse_of_root h)
      (takesPath_of_suffix (List.isSuffixOf_iff_suffix.mp hsuffix))
  next => exact Url.parse_append_iff (exists_parse_of_root h)

/-- Only a control or a blank at the end of the address, or a lone `@`, can spoil the root. -/
theorem settled_of_last (h : root address = .ok text) {c : Char}
    (hlast : (trimmed address.toList).getLast? = some c) (hc : Url.isEdge c = false)
    (hat : c ≠ '@') : Settled text := by
  rw [settled_iff_parses h, parses_iff_takesPath h]
  exact Url.takesPath_of_last hlast hc hat

/-- **The root of a root.** It is accepted, and the same again, exactly if the path of the interface
fits behind what was left of the address by trimming. -/
theorem root_settled_iff (h : root address = .ok text) :
    Settled text ↔ Url.TakesPath (trimmed address.toList) :=
  (settled_iff_parses h).trans (parses_iff_takesPath h)

/-- The root of a server below a folder is settled. -/
theorem root_settled_iff_folder :
    root "https://h:8443/bitbucket/" = .ok "https://h:8443/bitbucket/rest" ∧
      Settled "https://h:8443/bitbucket/rest" := by
  have hroot : root "https://h:8443/bitbucket/" = .ok "https://h:8443/bitbucket/rest" := by
    decide +kernel
  have hlast : (trimmed "https://h:8443/bitbucket/".toList).getLast? = some 't' := by decide +kernel
  exact ⟨hroot, (root_settled_iff hroot).mpr (Url.takesPath_of_last hlast (by decide) (by decide))⟩

/-- The address is taken for that of a server, but its root is not. -/
def isUnsettled (address : String) : Bool :=
  match root address with
  | .ok text => !(root text).isOk
  | .error _ => false

/-- Addresses with unsettled roots: with a blank behind a port, behind an address in brackets and
behind a host of an unknown scheme, and with a lone `@`. -/
theorem unsettled_all :
    ["http://h:80 /", "http://[::1] /", "x://h /", "x://@"].all isUnsettled = true := by
  decide +kernel

end Settled

end OpenPulls.Rest
