import OpenPulls.Proofs.Encoding
import OpenPulls.Proofs.Json.Records
import OpenPulls.Rest.Envelope
import OpenPulls.Rest.Format

/-!
# Pages are read as they are spelled

A JSON text without blanks is read as a page exactly if it spells that page
(`page_eq_ok_iff_spellsPage`): nothing of the format is refused, and nothing else is accepted.

Each record of the format has one lemma that its decoder decodes its shape. The shape that comes
from the fields of the decoder (`RecordOf`) is matched with the one that the format gives, for
objects and for arrays.
-/

namespace OpenPulls.Rest

open Json

/-! ## Pull requests -/

theorem branchName_inFolder (name : String) : branchName ("refs/heads/" ++ name) = name := by
  have hlist : ("refs/heads/" ++ name).toList = branchFolder ++ name.toList := String.toList_append
  have hprefix : branchFolder.isPrefixOf (branchFolder ++ name.toList) = true :=
    List.isPrefixOf_iff_prefix.mpr (List.prefix_append _ _)
  rw [branchName, hlist, if_pos hprefix, List.drop_left, String.ofList_toList]

theorem branchName_other {ref : String} (h : ∀ name, ref ≠ "refs/heads/" ++ name) :
    branchName ref = ref := by
  rw [branchName, if_neg]
  intro hprefix
  obtain ⟨name, hname⟩ := List.isPrefixOf_iff_prefix.mp hprefix
  have hlist : ("refs/heads/" ++ String.ofList name).toList =
      branchFolder ++ (String.ofList name).toList := String.toList_append
  rw [String.toList_ofList] at hlist
  exact h _ (String.toList_inj.mp (hname.symm.trans hlist.symm))

theorem shortName_iff {ref name : String} : ShortName ref name ↔ name = branchName ref := by
  constructor
  · rintro (_ | h)
    · exact (branchName_inFolder name).symm
    · exact (branchName_other h).symm
  · rintro rfl
    by_cases h : ∃ name, ref = "refs/heads/" ++ name
    · obtain ⟨name, rfl⟩ := h
      rw [branchName_inFolder]
      exact .inFolder name
    · have hother : ∀ name, ref ≠ "refs/heads/" ++ name := fun name hname => h ⟨name, hname⟩
      rw [branchName_other hother]
      exact .other hother

theorem branchName_iff {ref branch : String} {name : Option String} :
    BranchName ref name branch ↔ branch = name.getD (branchName ref) := by
  constructor
  · rintro (_ | h)
    · rfl
    · exact shortName_iff.mp h
  · rintro rfl
    cases name with
    | none => exact .short (shortName_iff.mpr rfl)
    | some name => exact .given name

theorem decodes_ref :
    Decodes ref fun t (ref, name, head, ()) => SpellsRef t (ref, name, head) := by
  refine Decodes.congr (decodes_record _ _ ⟨decodes_text.reads, decodes_text.optional.reads,
    decodes_text.reads, trivial⟩ (by decide)) ?_
  rintro t ⟨ref, name, head, ⟨⟩⟩
  constructor
  · rintro (⟨href, hname, hhead, -⟩ | ⟨t, _, rfl, href, t', _, rfl, hname, t'', _, rfl, hhead, rfl⟩)
    · exact .object ((given_required_iff decodes_text).mp href)
        ((given_mayLack_iff decodes_text).mp hname) ((given_required_iff decodes_text).mp hhead)
    · exact .array (decodes_text.reads_iff.mp href) (decodes_text.optional.reads_iff.mp hname)
        (decodes_text.reads_iff.mp hhead)
  · rintro (⟨href, hname, hhead⟩ | ⟨href, hname, hhead⟩)
    · exact .object ⟨(given_required_iff decodes_text).mpr href,
        (given_mayLack_iff decodes_text).mpr hname, (given_required_iff decodes_text).mpr hhead,
        trivial⟩
    · exact .array ⟨_, _, rfl, decodes_text.reads_iff.mpr href, _, _, rfl,
        decodes_text.optional.reads_iff.mpr hname, _, _, rfl, decodes_text.reads_iff.mpr hhead, rfl⟩

theorem decodes_candidate : Decodes candidate SpellsCandidate := by
  have hrecord := decodes_record "ApiPullRequest"
    (.cons (required "id" unsigned) (.cons (required "fromRef" ref) .nil))
    ⟨decodes_unsigned.reads, decodes_ref.reads, trivial⟩ (by decide)
  refine Decodes.congr (hrecord.map _) ?_
  rintro t ⟨number, branch, ref, head⟩
  constructor
  · rintro ⟨⟨_, ⟨_, name, _, ⟨⟩⟩, ⟨⟩⟩, h, hc⟩
    cases hc
    have hbranch := branchName_iff.mpr (rfl : _ = name.getD (branchName ref))
    obtain ⟨hnumber, href, -⟩ | ⟨t, _, rfl, hnumber, t', _, rfl, href, rfl⟩ := h
    · exact .object ((given_required_iff decodes_unsigned).mp hnumber)
        ((given_required_iff decodes_ref).mp href) hbranch
    · exact .array (decodes_unsigned.reads_iff.mp hnumber) (decodes_ref.reads_iff.mp href) hbranch
  · intro h
    cases h with
    | @object _ _ _ _ _ name hnumber href hbranch =>
      cases branchName_iff.mp hbranch
      exact ⟨(number, (ref, name, head, ()), ()), .object ⟨(given_required_iff decodes_unsigned).mpr
        hnumber, (given_required_iff decodes_ref).mpr href, trivial⟩, rfl⟩
    | @array _ _ _ _ _ _ name hnumber href hbranch =>
      cases branchName_iff.mp hbranch
      have hread := decodes_unsigned.reads_iff.mpr hnumber
      exact ⟨(number, (ref, name, head, ()), ()), .array ⟨_, _, rfl, hread, _, _, rfl,
        decodes_ref.reads_iff.mpr href, rfl⟩, rfl⟩

/-! ## Build statuses -/

theorem stateName_iff {name : String} {s : BuildState} :
    StateName name s ↔ s = BuildState.ofName name := by
  constructor
  · rintro (_ | _ | _ | h)
    · rfl
    · rfl
    · rfl
    · simp only [List.mem_cons, List.not_mem_nil, or_false, not_or] at h
      rw [BuildState.ofName, if_neg h.1, if_neg h.2.1, if_neg h.2.2]
  · rintro rfl
    fun_cases BuildState.ofName name with
    | case1 h => exact h ▸ .successful
    | case2 _ h => exact h ▸ .failed
    | case3 _ _ h => exact h ▸ .inProgress
    | case4 h h' h'' => exact .other (by simp [h, h', h''])

theorem decodes_state : Decodes BuildState.decoder SpellsState := by
  refine Decodes.congr (decodes_variant.map BuildState.ofName) ?_
  intro t s
  simp only [SpellsState, stateName_iff]

theorem buildName_iff {name key : Option String} {called : String} :
    BuildName name key called ↔ called = (name.or key).getD "" := by
  constructor
  · rintro (_ | _ | _) <;> rfl
  · rintro rfl
    cases name with
    | some name => exact .name name key
    | none =>
      cases key with
      | some key => exact .key key
      | none => exact .nameless

theorem decodes_buildStatus : Decodes buildStatus SpellsStatus := by
  have hrecord := decodes_record "ApiBuildStatus"
    (.cons (required "state" BuildState.decoder)
      (.cons (mayLack "name" text) (.cons (mayLack "key" text) .nil)))
    ⟨decodes_state.reads, decodes_text.optional.reads, decodes_text.optional.reads, trivial⟩
    (by decide)
  refine Decodes.congr (hrecord.map _) ?_
  rintro t ⟨called, state⟩
  constructor
  · rintro ⟨⟨_, name, key, ⟨⟩⟩, h, hc⟩
    cases hc
    have hcalled := buildName_iff.mpr (rfl : _ = (name.or key).getD "")
    obtain ⟨hstate, hname, hkey, -⟩ |
      ⟨t, _, rfl, hstate, t', _, rfl, hname, t'', _, rfl, hkey, rfl⟩ := h
    · exact .object ((given_required_iff decodes_state).mp hstate)
        ((given_mayLack_iff decodes_text).mp hname) ((given_mayLack_iff decodes_text).mp hkey)
        hcalled
    · exact .array (decodes_state.reads_iff.mp hstate) (decodes_text.optional.reads_iff.mp hname)
        (decodes_text.optional.reads_iff.mp hkey) hcalled
  · intro h
    cases h with
    | @object _ _ name key _ hstate hname hkey hcalled =>
      cases buildName_iff.mp hcalled
      exact ⟨(state, name, key, ()), .object ⟨(given_required_iff decodes_state).mpr hstate,
        (given_mayLack_iff decodes_text).mpr hname, (given_mayLack_iff decodes_text).mpr hkey,
        trivial⟩, rfl⟩
    | @array _ _ _ _ name key _ hstate hname hkey hcalled =>
      cases buildName_iff.mp hcalled
      exact ⟨(state, name, key, ()), .array ⟨_, _, rfl, decodes_state.reads_iff.mpr hstate, _, _,
        rfl, decodes_text.optional.reads_iff.mpr hname, _, _, rfl,
        decodes_text.optional.reads_iff.mpr hkey, rfl⟩, rfl⟩

/-! ## Commits -/

theorem decodes_commit : Decodes commit SpellsCommit := by
  have hrecord := decodes_record "ApiCommit" (.cons (required "id" text) .nil)
    ⟨decodes_text.reads, trivial⟩ (by decide)
  refine Decodes.congr (hrecord.map _) ?_
  rintro t ⟨id, isTip⟩
  constructor
  · rintro ⟨⟨_, ⟨⟩⟩, h, hc⟩
    cases hc
    obtain ⟨hid, -⟩ | ⟨t, _, rfl, hid, rfl⟩ := h
    · exact .object ((given_required_iff decodes_text).mp hid)
    · exact .array (decodes_text.reads_iff.mp hid)
  · intro h
    cases h with
    | object hid =>
      exact ⟨(id, ()), .object ⟨(given_required_iff decodes_text).mpr hid, trivial⟩, rfl⟩
    | array hid => exact ⟨(id, ()), .array ⟨_, _, rfl, decodes_text.reads_iff.mpr hid, rfl⟩, rfl⟩

theorem decodes_item (r : Resource) : Decodes (item r) (SpellsItem r) := by
  cases r with
  | pullRequests _ => exact decodes_candidate
  | buildStatuses _ => exact decodes_buildStatus
  | commits _ _ => exact decodes_commit

/-! ## Pages -/

theorem decodes_envelope {α : Type} {item : Scanner α} {R : Tree → α → Prop} (h : Decodes item R) :
    Decodes (envelope item) fun t (isLast, items, next, ()) =>
      SpellsEnvelope R t (isLast, items, next) := by
  have hnames : ["isLastPage", "values", "nextPageStart"].Nodup := by decide
  refine Decodes.congr (decodes_record _ _ ⟨decodes_boolean.reads, h.listOf.reads,
    decodes_unsigned.optional.reads, trivial⟩ hnames) ?_
  rintro t ⟨isLast, items, next, ⟨⟩⟩
  constructor
  · rintro (⟨hlast, hitems, hnext, -⟩ |
      ⟨t, _, rfl, hlast, t', _, rfl, hitems, t'', _, rfl, hnext, rfl⟩)
    · exact .object ((given_required_iff decodes_boolean).mp hlast)
        ((given_required_iff h.listOf).mp hitems) ((given_mayLack_iff decodes_unsigned).mp hnext)
    · exact .array (decodes_boolean.reads_iff.mp hlast) (h.listOf.reads_iff.mp hitems)
        (decodes_unsigned.optional.reads_iff.mp hnext)
  · rintro (⟨hlast, hitems, hnext⟩ | ⟨hlast, hitems, hnext⟩)
    · exact .object ⟨(given_required_iff decodes_boolean).mpr hlast,
        (given_required_iff h.listOf).mpr hitems, (given_mayLack_iff decodes_unsigned).mpr hnext,
        trivial⟩
    · exact .array ⟨_, _, rfl, decodes_boolean.reads_iff.mpr hlast, _, _, rfl,
        h.listOf.reads_iff.mpr hitems, _, _, rfl, decodes_unsigned.optional.reads_iff.mpr hnext,
        rfl⟩

/-- **Pages.** The bytes of a JSON text without blanks are read as a page exactly if the text spells
that page. -/
theorem page_eq_ok_iff_spellsPage (r : Resource) (t : Tree) (p : Page r.Item) :
    page (item r) (Text.Utf8.encode t.written) = .ok p ↔ SpellsPage r t p := by
  have henvelope {x} := (decodes_envelope (decodes_item r)).decode_eq_ok_iff (a := x) t
  rw [page, Text.Utf8.decode_encode, bind_eq_ok]
  constructor
  · rintro ⟨⟨isLast, items, next, ⟨⟩⟩, h, hp⟩
    have hspells := henvelope.mp h
    cases isLast with
    | true =>
      cases hp
      exact .last hspells
    | false =>
      cases next with
      | none => cases hp
      | some next =>
        cases hp
        exact .more hspells
  · intro h
    cases h with
    | @last items next h => exact ⟨(true, items, next, ()), henvelope.mpr h, rfl⟩
    | @more items next h => exact ⟨(false, items, some next, ()), henvelope.mpr h, rfl⟩

end OpenPulls.Rest
