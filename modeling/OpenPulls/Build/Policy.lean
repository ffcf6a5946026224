import OpenPulls.Build.Status
import OpenPulls.Pattern.Basic

/-!
# Build policies

A policy decides from the statuses of a commit whether the commit is green: not at all, only if
all builds are successful, or only if each of some patterns has a successful build that it
matches. Builds that no pattern matches do not count then.
-/

namespace OpenPulls

/-- Whether every build is successful. A commit without builds passes. -/
def allGreen (statuses : List BuildStatus) : Bool := statuses.all BuildStatus.isSuccessful

/-- Whether each pattern matches the name of a successful build. -/
def namedGreen (patterns : List Pattern) (statuses : List BuildStatus) : Bool :=
  patterns.all fun p => statuses.any fun s => p.isMatch s.name && s.isSuccessful

/-- What is asked of the builds of a commit. -/
inductive Policy where
  /-- Builds are not looked at. -/
  | noCheck
  /-- Every build must be successful. -/
  | allGreen
  /-- Each pattern must match a successful build. -/
  | named (patterns : List Pattern)
deriving Repr

namespace Policy

/-- The policy for a list of patterns: without a list builds are not checked, and an empty list
asks for every build. -/
def ofPatterns : Option (List Pattern) → Policy
  | none => .noCheck
  | some [] => .allGreen
  | some patterns => .named patterns

/-- The policy looks at builds. -/
def isEnabled : Policy → Bool
  | .noCheck => false
  | .allGreen | .named _ => true

/-- The patterns of the policy. -/
def patterns : Policy → List Pattern
  | .noCheck | .allGreen => []
  | .named patterns => patterns

/-- A commit with these statuses satisfies the policy. -/
def isGreen : Policy → List BuildStatus → Bool
  | .noCheck, _ => true
  | .allGreen, statuses => OpenPulls.allGreen statuses
  | .named patterns, statuses => namedGreen patterns statuses

end Policy

end OpenPulls
