import OpenPulls.Build.Status
import OpenPulls.Json.Decode
import OpenPulls.Json.Write
import OpenPulls.PullRequest.Basic

/-!
# JSON of results

Resolved pull requests are written as objects with three members, on one line or spread out, and
both texts can be read back. The state of a build is written as its name.
-/

namespace OpenPulls

namespace ResolvedPullRequest

/-- The members of the object for a resolved pull request. -/
def members (p : ResolvedPullRequest) : Json.Members :=
  [("number", Json.writtenNumber p.number), ("branch", Json.writtenString p.branch),
    ("head_sha", Json.writtenString p.head)]

/-- A list of resolved pull requests as JSON without blanks. -/
def compactText (ps : List ResolvedPullRequest) : String :=
  String.ofList (Json.compactObjects (ps.map members))

/-- A list of resolved pull requests as JSON with a line for each member. -/
def prettyText (ps : List ResolvedPullRequest) : String :=
  String.ofList (Json.prettyObjects (ps.map members))

/-- Decodes a resolved pull request. -/
def decoder : Json.Scanner ResolvedPullRequest :=
  Json.map (fun (number, branch, head, ()) => ⟨number, branch, head⟩)
    (Json.record "ResolvedPullRequest"
      (.cons (Json.required "number" Json.unsigned)
        (.cons (Json.required "branch" Json.text)
          (.cons (Json.required "head_sha" Json.text) .nil))))

/-- Reads a resolved pull request. -/
def ofJson (text : String) : Except Json.Error ResolvedPullRequest :=
  Json.decode decoder (Text.symbols text)

/-- Reads a list of resolved pull requests. -/
def listOfJson (text : String) : Except Json.Error (List ResolvedPullRequest) :=
  Json.decode (Json.listOf decoder) (Text.symbols text)

end ResolvedPullRequest

namespace BuildState

/-- Decodes the state of a build. -/
def decoder : Json.Scanner BuildState := Json.map ofName Json.variant

/-- Reads the state of a build. -/
def ofJson (text : String) : Except Json.Error BuildState :=
  Json.decode decoder (Text.symbols text)

/-- The state of a build as JSON. -/
def jsonText (s : BuildState) : String := String.ofList (Json.writtenString s.name)

end BuildState

end OpenPulls
