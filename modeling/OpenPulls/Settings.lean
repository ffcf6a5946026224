import OpenPulls.Rest.Client
import OpenPulls.Selection
import OpenPulls.Text.Quoted

/-!
# Settings

Settings are what a user writes down: texts that are patterns and the address of a server. They
are read before anything is requested, in a fixed order, and the first bad text is reported: the
pattern for branches, then the patterns for builds in their order, then the address.
-/

namespace OpenPulls

/-- What a user writes down. -/
structure Settings where
  repository : Repository
  /-- The pattern for branches. -/
  branchMatch : Option String
  /-- The patterns for builds: none are checked without a list, all with an empty one. -/
  successfulBuilds : Option (List String)
  findLatestSuccessful : Bool
  credentials : Option Rest.Credentials
  /-- The address of the server. -/
  address : String
deriving Repr, DecidableEq

/-- What is wrong with settings. -/
inductive SettingsFault where
  | branchMatch (pattern : String) (fault : Pattern.Fault)
  | buildName (pattern : String) (fault : Pattern.Fault)
  | address (fault : Rest.RootFault)
deriving Repr, DecidableEq

/-- The wording of a fault. The text of a pattern is quoted; what the library for patterns has
against it, which follows behind a colon, is left out. -/
def SettingsFault.text : SettingsFault → String
  | .branchMatch pattern _ => "Invalid branch match regex " ++ Text.quoted pattern
  | .buildName pattern _ => "Invalid build name regex " ++ Text.quoted pattern
  | .address fault => "Invalid base URL: " ++ fault.text

namespace Settings

/-- Reads a pattern for branches. -/
def branchPattern (pattern : String) : Except SettingsFault Pattern :=
  (Pattern.compile pattern).mapError (.branchMatch pattern)

/-- Reads a pattern for builds. -/
def buildPattern (pattern : String) : Except SettingsFault Pattern :=
  (Pattern.compile pattern).mapError (.buildName pattern)

/-- Reads the patterns. -/
def compile (s : Settings) : Except SettingsFault Selection := do
  let branch ← s.branchMatch.mapM branchPattern
  let builds ← s.successfulBuilds.mapM fun patterns => patterns.mapM buildPattern
  return ⟨s.repository, branch, .ofPatterns builds, s.findLatestSuccessful⟩

/-- The client for the server. -/
def client (s : Settings) : Except SettingsFault Rest.Client := do
  return ⟨← (Rest.root s.address).mapError .address, s.credentials⟩

/-- Reads the patterns and the address. -/
def build (s : Settings) : Except SettingsFault (Selection × Rest.Client) := do
  let selection ← s.compile
  return (selection, ← s.client)

end Settings

end OpenPulls
