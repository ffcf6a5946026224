import OpenPulls.Listing.Run

/-!
# Scripted pages

A script lists pages in advance, each with the key and the cursor that it answers. A request takes
the first page that fits it. A page is used once, unless it is marked to be repeated. A page may
also stand for a failure, and a request that nothing fits fails.
-/

namespace OpenPulls

/-- A page of a script, for the requests with this key and cursor. -/
structure ScriptedPage (κ α : Type) where
  key : κ
  start : Option UInt64
  /-- The page, or the reason for a failure. -/
  answer : Except String (Page α)
  /-- The page is not used up. -/
  repeats : Bool

namespace ScriptedPage

variable {κ α : Type} [DecidableEq κ]

/-- The answer of the first page that fits, with the pages that are left. -/
def take (key : κ) (start : Option UInt64) :
    List (ScriptedPage κ α) → Except String (Page α) × List (ScriptedPage κ α)
  | [] => (.error "no page", [])
  | p :: rest =>
    if p.key = key ∧ p.start = start then (p.answer, if p.repeats then p :: rest else rest)
    else
      let (answer, left) := take key start rest
      (answer, p :: left)

end ScriptedPage

/-- Pages that were written down in advance. -/
structure Script where
  pullRequests : List (ScriptedPage Unit Candidate)
  /-- The key is the commit. -/
  builds : List (ScriptedPage String BuildStatus)
  /-- The key is the number of the pull request. -/
  commits : List (ScriptedPage UInt64 Commit)

namespace Script

/-- The number of pages. -/
def size (s : Script) : Nat := s.pullRequests.length + s.builds.length + s.commits.length

/-- A number of pages that no walk over the script exceeds, unless it goes round in a circle: it
takes each page that is used up once, and passes each of the others once in between. -/
def bound (s : Script) : Nat := (s.size + 2) * (s.size + 2)

/-- The answer of a script to a page request. -/
def answer (s : Script) : (r : Resource) → Option UInt64 → Except String (Page r.Item) × Script
  | .pullRequests _, start =>
    let (a, left) := ScriptedPage.take () start s.pullRequests
    (a, { s with pullRequests := left })
  | .buildStatuses commit, start =>
    let (a, left) := ScriptedPage.take commit start s.builds
    (a, { s with builds := left })
  | .commits _ number, start =>
    let (a, left) := ScriptedPage.take number start s.commits
    (a, { s with commits := left })

/-- The source that answers from a script. -/
def source : Source Script := fun s r =>
  let (a, left) := s.answer r.resource r.start
  (a.mapError fun text => ⟨r.resource, .other text⟩, left)

end Script

end OpenPulls
