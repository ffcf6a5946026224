/-!
# Build statuses

A commit carries the statuses of its builds. A build is successful, failed, in progress, or in
some other state that the server may name as it likes.
-/

namespace OpenPulls

/-- The state of a build. -/
inductive BuildState where
  | successful
  | failed
  | inProgress
  | other
deriving Repr, DecidableEq

namespace BuildState

/-- The state with the given name. -/
def ofName (name : String) : BuildState :=
  if name = "SUCCESSFUL" then .successful
  else if name = "FAILED" then .failed
  else if name = "INPROGRESS" then .inProgress
  else .other

/-- The name of a state. -/
def name : BuildState → String
  | .successful => "SUCCESSFUL"
  | .failed => "FAILED"
  | .inProgress => "INPROGRESS"
  | .other => "Other"

@[simp] theorem ofName_name (s : BuildState) : ofName s.name = s := by cases s <;> rfl

end BuildState

/-- The status of a build of a commit. -/
structure BuildStatus where
  name : String
  state : BuildState
deriving Repr, DecidableEq

/-- The build is successful. -/
def BuildStatus.isSuccessful (s : BuildStatus) : Bool := s.state = .successful

end OpenPulls
