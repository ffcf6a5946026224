import OpenPulls.Build.Status
import OpenPulls.Page
import OpenPulls.PullRequest.Basic

/-!
# Resources

A resource is a list that a server hands out in pages: the open pull requests of a repository, the
build statuses of a commit, or the commits of a pull request. A page request names the resource
and the cursor of the page, if it is not the first.
-/

namespace OpenPulls

/-- A list that is handed out in pages. -/
inductive Resource where
  | pullRequests (repository : Repository)
  | buildStatuses (commit : String)
  | commits (repository : Repository) (number : UInt64)
deriving Repr, DecidableEq

namespace Resource

/-- What the list consists of. -/
abbrev Item : Resource → Type
  | .pullRequests _ => Candidate
  | .buildStatuses _ => BuildStatus
  | .commits _ _ => Commit

/-- The name of the resource in messages. -/
def description : Resource → String
  | .pullRequests r => "pull requests for " ++ r.project ++ "/" ++ r.slug
  | .buildStatuses commit => "build statuses for " ++ commit
  | .commits r number =>
    "pull request commits for " ++ r.project ++ "/" ++ r.slug ++ " PR-" ++ toString number.toNat

end Resource

/-- A request for a page. -/
structure PageRequest where
  resource : Resource
  /-- The cursor of the page; the first page has none. -/
  start : Option UInt64
deriving Repr, DecidableEq

/-- What a page request asks for. -/
abbrev PageRequest.Item (r : PageRequest) : Type := r.resource.Item

end OpenPulls
