import OpenPulls.Listing.Run

/-!
# Pages in memory

A table of pages is a source that needs no server. It always gives the same answers, and a request
for a page that is not in the table fails.
-/

namespace OpenPulls

/-- Pages by what they are asked for with: their key, if they need one, and their cursor. -/
structure PageTable where
  pullRequests : Option UInt64 → Option (Page Candidate)
  /-- The key is the commit. -/
  builds : String → Option UInt64 → Option (Page BuildStatus)
  /-- The key is the number of the pull request. -/
  commits : UInt64 → Option UInt64 → Option (Page Commit)

namespace PageTable

/-- The page in the table that a request asks for. -/
def page? (t : PageTable) (r : PageRequest) : Option (Page r.Item) :=
  match r with
  | ⟨.pullRequests _, start⟩ => t.pullRequests start
  | ⟨.buildStatuses commit, start⟩ => t.builds commit start
  | ⟨.commits _ number, start⟩ => t.commits number start

/-- The reason for a failure when a page is not in the table. -/
def missingText (start : Option UInt64) : String :=
  "no fixture for start " ++ (start.map fun n => "Some(" ++ toString n ++ ")").getD "None"

/-- The source that answers from a table. -/
def source (t : PageTable) : Source Unit := fun _ r =>
  match t.page? r with
  | some page => (.ok page, ())
  | none => (.error ⟨r.resource, .other (missingText r.start)⟩, ())

theorem source_eq_ok_iff {t : PageTable} {r : PageRequest} {page : Page r.Item} {state : Unit} :
    (t.source state r).1 = .ok page ↔ t.page? r = some page := by
  unfold source
  cases t.page? r with
  | none => exact iff_of_false nofun nofun
  | some p => simp

end PageTable

end OpenPulls
