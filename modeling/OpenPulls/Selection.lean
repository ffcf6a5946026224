import OpenPulls.Build.Policy
import OpenPulls.PullRequest.Basic

/-!
# Selections

A selection says which pull requests of a repository are listed, and with which commit.
-/

namespace OpenPulls

/-- Which pull requests are listed, and with which commit. -/
structure Selection where
  repository : Repository
  /-- The branch must match this pattern. -/
  branch : Option Pattern
  /-- What is asked of the builds of the commit. -/
  policy : Policy
  /-- If the head is not green, the newest green commit is taken instead. -/
  fallback : Bool
deriving Repr

/-- The selection asks for branches with this name. -/
def Selection.admits (s : Selection) (branch : String) : Bool :=
  match s.branch with
  | none => true
  | some p => p.isMatch branch

end OpenPulls
