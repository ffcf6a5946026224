import OpenPulls.Failure
import OpenPulls.Selection

/-!
# Listing

What is read from a server that hands out pages: all build statuses of a commit, all commits of a
pull request, the decision about one pull request, and the listing of a repository.

Each list is read by `walk`: page after page, from the first to the one that has no successor. The
cursors are those of the server, so nothing but the server makes a walk end. `limit` bounds the
number of pages that each walk may read, and a walk that reaches it gives up.

All of it works in any monad that can read a page.
-/

namespace OpenPulls

/-- The means to read pages. A page that cannot be read ends everything. -/
structure PageReader (m : Type → Type) where
  /-- Reads a page. -/
  page : (r : PageRequest) → m (Page r.Item)
  /-- Ends everything without a result. -/
  giveUp : {α : Type} → m α

namespace Listing

variable {m : Type → Type} [Monad m] {α β : Type}

/-! ## Walks -/

/-- Visits items in order and gathers what the visits give. -/
def gather (visit : α → m (List β)) : List α → m (List β)
  | [] => return []
  | a :: rest => do
    let here ← visit a
    let later ← gather visit rest
    return here ++ later

variable (reader : PageReader m)

/-- Reads at most `limit` pages of a resource, from a cursor on, and visits their items. The next
page is asked for only when all items of a page were visited. -/
def walk (r : Resource) (visit : r.Item → m (List β)) :
    (limit : Nat) → (start : Option UInt64) → m (List β)
  | 0, _ => reader.giveUp
  | limit + 1, start => do
    let page ← reader.page ⟨r, start⟩
    let here ← gather visit page.items
    match page.next with
    | none => return here
    | some next =>
      let later ← walk r visit limit (some next)
      return here ++ later

variable (limit : Nat)

/-! ## Commits -/

/-- All build statuses of a commit. -/
def statuses (commit : String) : m (List BuildStatus) :=
  walk reader (.buildStatuses commit) (fun s => pure [s]) limit none

/-- Whether a commit is green under a policy. Its statuses are read in any case. -/
def isGreen (policy : Policy) (commit : String) : m Bool := do
  return policy.isGreen (← statuses reader limit commit)

/-- All commits of a pull request, the tip of its branch marked. -/
def history (repository : Repository) (c : Candidate) : m (List Commit) :=
  walk reader (.commits repository c.number) (fun k => pure [k.markTip c]) limit none

/-- The first green one of some commits. The tip was judged before and is passed over. -/
def firstGreen (policy : Policy) : List Commit → m (Option String)
  | [] => return none
  | k :: rest =>
    if k.isTip then firstGreen policy rest
    else do
      if ← isGreen reader limit policy k.id then return some k.id
      else firstGreen policy rest

/-! ## Pull requests -/

/-- What becomes of a pull request: the branch is looked at first, then the builds of the head, and
then the older commits, newest first. -/
def resolve (s : Selection) (c : Candidate) : m Resolution :=
  if !s.admits c.branch then return .branchRejected
  else if !s.policy.isEnabled then return .noPolicy
  else do
    if ← isGreen reader limit s.policy c.head then return .headGreen
    else if !s.fallback then return .headNotGreen
    else
      let commits ← history reader limit s.repository c
      match ← firstGreen reader limit s.policy commits with
      | some commit => return .fallbackFound commit
      | none => return .fallbackExhausted

/-- The entries of the listing for one pull request. -/
def entries (s : Selection) (c : Candidate) : m (List ResolvedPullRequest) := do
  return (← resolve reader limit s c).entries c

/-- All open pull requests of the repository that the selection accepts, in the order of the
server. -/
def list (s : Selection) : m (List ResolvedPullRequest) :=
  walk reader (.pullRequests s.repository) (fun c => entries reader limit s c) limit none

/-- A number of pages that no walk exceeds that comes to an end, as long as the answer to a page
request is always the same: a cursor has 64 bits, and one that comes again leads in a circle. -/
def maxPages : Nat := UInt64.size + 1

end Listing

/-! ## Operations -/

/-- What a server can be used for. -/
inductive Operation where
  | list
  | resolve (c : Candidate)
  | isGreen (commit : String)
  | statuses (commit : String)
  | history (c : Candidate)
  /-- A single page. -/
  | page (r : PageRequest)

namespace Operation

/-- What an operation results in. -/
abbrev Result : Operation → Type
  | .list => List ResolvedPullRequest
  | .resolve _ => Resolution
  | .isGreen _ => Bool
  | .statuses _ => List BuildStatus
  | .history _ => List Commit
  | .page r => Page r.Item

/-- Performs an operation. -/
def perform {m : Type → Type} [Monad m] (reader : PageReader m) (limit : Nat) (s : Selection) :
    (o : Operation) → m o.Result
  | .list => Listing.list reader limit s
  | .resolve c => Listing.resolve reader limit s c
  | .isGreen commit => Listing.isGreen reader limit s.policy commit
  | .statuses commit => Listing.statuses reader limit commit
  | .history c => Listing.history reader limit s.repository c
  | .page r => reader.page r

end Operation

end OpenPulls
