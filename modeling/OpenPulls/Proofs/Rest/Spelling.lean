import OpenPulls.Rest.Format

/-!
# How pages are spelled

The format leaves a server some freedom. A tree that it may make of a page gives every known field,
by its name, and no other field (`pageTree`). It spells the page, as long as no commit on the page
has a tip mark (`spellsPage_pageTree`).
-/

namespace OpenPulls

open Json

/-- The item is no commit with a tip mark. A server has no way to mark a commit. -/
def Resource.IsUnmarked : (r : Resource) → r.Item → Prop
  | .pullRequests _, _ | .buildStatuses _, _ => True
  | .commits _ _, k => k.isTip = false

namespace Rest

/-! ## Trees -/

/-- The tree of the branch of a pull request. -/
def refTree (c : Candidate) : Tree :=
  .object [("id", .string c.ref), ("displayId", .string c.branch), ("latestCommit", .string c.head)]

/-- The tree of a pull request. -/
def candidateTree (c : Candidate) : Tree :=
  .object [("id", .number (.unsigned c.number)), ("fromRef", refTree c)]

/-- The tree of a build status. -/
def statusTree (s : BuildStatus) : Tree :=
  .object [("state", .string s.state.name), ("name", .string s.name)]

/-- The tree of a commit. It does not say whether the commit is a tip. -/
def commitTree (k : Commit) : Tree := .object [("id", .string k.id)]

/-- The tree of an item of a resource. -/
def itemTree : (r : Resource) → r.Item → Tree
  | .pullRequests _ => candidateTree
  | .buildStatuses _ => statusTree
  | .commits _ _ => commitTree

/-- The tree of a page. The last page gives no cursor. -/
def pageTree (r : Resource) (page : Page r.Item) : Tree :=
  .object ([("isLastPage", .boolean page.next.isNone),
      ("values", .array (page.items.map (itemTree r)))]
    ++ (page.next.map fun next => ("nextPageStart", .number (.unsigned next))).toList)

/-! ## They spell what they are made of -/

theorem spellsRef_refTree (c : Candidate) : SpellsRef (refTree c) (c.ref, some c.branch, c.head) :=
  .object ⟨_, rfl, rfl⟩ (.inr ⟨_, rfl, .value nofun rfl⟩) ⟨_, rfl, rfl⟩

theorem spellsCandidate_candidateTree (c : Candidate) : SpellsCandidate (candidateTree c) c :=
  .object ⟨_, rfl, rfl⟩ ⟨_, rfl, spellsRef_refTree c⟩ (.given _)

theorem stateName_name (s : BuildState) : StateName s.name s := by
  cases s with
  | successful => exact .successful
  | failed => exact .failed
  | inProgress => exact .inProgress
  | other => exact .other (by decide)

theorem spellsStatus_statusTree (s : BuildStatus) : SpellsStatus (statusTree s) s :=
  .object ⟨_, rfl, _, .string _, stateName_name s.state⟩ (.inr ⟨_, rfl, .value nofun rfl⟩)
    (.inl ⟨rfl, rfl⟩) (.name _ _)

theorem spellsCommit_commitTree {k : Commit} (h : k.isTip = false) :
    SpellsCommit (commitTree k) k := by
  obtain ⟨id, _⟩ := k
  cases h
  exact .object ⟨_, rfl, rfl⟩

theorem spellsItem_itemTree {r : Resource} {i : r.Item} (h : r.IsUnmarked i) :
    SpellsItem r (itemTree r i) i := by
  cases r with
  | pullRequests _ => exact spellsCandidate_candidateTree i
  | buildStatuses _ => exact spellsStatus_statusTree i
  | commits _ _ => exact spellsCommit_commitTree h

/-- **Every page can be spelled** whose commits have no tip marks. -/
theorem spellsPage_pageTree {r : Resource} {page : Page r.Item}
    (h : ∀ i ∈ page.items, r.IsUnmarked i) : SpellsPage r (pageTree r page) page := by
  obtain ⟨items, next⟩ := page
  have hitems : ListOf (SpellsItem r) (.array (items.map (itemTree r))) items :=
    .array (List.forall₂_map_left_iff.mpr
      (List.forall₂_same.mpr fun i hi => spellsItem_itemTree (h i hi)))
  cases next with
  | none => exact .last (.object ⟨_, rfl, rfl⟩ ⟨_, rfl, hitems⟩ (.inl ⟨rfl, rfl⟩))
  | some next =>
    exact .more (.object ⟨_, rfl, rfl⟩ ⟨_, rfl, hitems⟩ (.inr ⟨_, rfl, .value nofun rfl⟩))

end Rest

end OpenPulls
