/-!
# Pull requests

A repository has open pull requests. Each comes from a branch and has commits, of which the last
one of the branch is its head. What a listing gives is a pull request with the commit to deploy.
-/

namespace OpenPulls

/-- A repository of a project. -/
structure Repository where
  project : String
  slug : String
deriving Repr, DecidableEq

/-- An open pull request. -/
structure Candidate where
  number : UInt64
  /-- The name of its branch. -/
  branch : String
  /-- The full name of its branch among the references of the repository. -/
  ref : String
  /-- The last commit of its branch. -/
  head : String
deriving Repr, DecidableEq

/-- A commit of a pull request. -/
structure Commit where
  id : String
  /-- The commit is the tip of the branch, which is judged as the head. -/
  isTip : Bool
deriving Repr, DecidableEq

/-- The commit with a tip mark if it is the head of the pull request, under either name. -/
def Commit.markTip (c : Candidate) (k : Commit) : Commit :=
  { k with isTip := k.isTip || k.id == c.head || k.id == c.ref }

/-- A pull request with the commit to deploy. -/
structure ResolvedPullRequest where
  number : UInt64
  branch : String
  head : String
deriving Repr, DecidableEq

/-- What was decided about a pull request. -/
inductive Resolution where
  /-- The branch is not one of those asked for. -/
  | branchRejected
  /-- The head is taken without a look at builds. -/
  | noPolicy
  /-- The head is green. -/
  | headGreen
  /-- The head is not green, and older commits are not tried. -/
  | headNotGreen
  /-- An older commit is green. -/
  | fallbackFound (commit : String)
  /-- No commit is green. -/
  | fallbackExhausted
deriving Repr, DecidableEq

namespace Resolution

/-- The commit to deploy, if the pull request is not skipped. -/
def accepted? (c : Candidate) : Resolution → Option String
  | .noPolicy | .headGreen => some c.head
  | .fallbackFound commit => some commit
  | .branchRejected | .headNotGreen | .fallbackExhausted => none

/-- The entries of a listing for the pull request: one, or none if it is skipped. -/
def entries (c : Candidate) (r : Resolution) : List ResolvedPullRequest :=
  ((r.accepted? c).map fun commit => ⟨c.number, c.branch, commit⟩).toList

end Resolution

end OpenPulls
