import OpenPulls.Failure
import OpenPulls.PullRequest.Json

/-!
# Pages as JSON

The server sends a page as an envelope: whether it is the last page, the items, and the cursor of
the next page. Items have more fields than are needed here; the others are passed over.
-/

namespace OpenPulls.Rest

open OpenPulls.Json

/-- What the names of branches begin with among the references. -/
def branchFolder : List Char := "refs/heads/".toList

/-- The name of a branch, from its full name. -/
def branchName (ref : String) : String :=
  if branchFolder.isPrefixOf ref.toList then String.ofList (ref.toList.drop branchFolder.length)
  else ref

/-- Decodes a reference: its full name, its name if it is given, and its last commit. -/
def ref : Scanner (String × Option String × String × Unit) :=
  record "ApiRef"
    (.cons (required "id" text)
      (.cons (mayLack "displayId" text)
        (.cons (required "latestCommit" text) .nil)))

/-- Decodes a pull request. The name of its branch may be missing. -/
def candidate : Scanner Candidate :=
  map (fun (number, (ref, name, head, ()), ()) => ⟨number, name.getD (branchName ref), ref, head⟩)
    (record "ApiPullRequest"
      (.cons (required "id" unsigned) (.cons (required "fromRef" ref) .nil)))

/-- Decodes a build status. A build without a name is known by its key. -/
def buildStatus : Scanner BuildStatus :=
  map (fun (state, name, key, ()) => ⟨(name.or key).getD "", state⟩)
    (record "ApiBuildStatus"
      (.cons (required "state" BuildState.decoder)
        (.cons (mayLack "name" text)
          (.cons (mayLack "key" text) .nil))))

/-- Decodes a commit. -/
def commit : Scanner Commit :=
  map (fun (id, ()) => ⟨id, false⟩) (record "ApiCommit" (.cons (required "id" text) .nil))

/-- Decodes an item of a resource. -/
def item : (r : Resource) → Scanner r.Item
  | .pullRequests _ => candidate
  | .buildStatuses _ => buildStatus
  | .commits _ _ => commit

/-- Decodes an envelope. -/
def envelope {α : Type} (item : Scanner α) : Scanner (Bool × List α × Option UInt64 × Unit) :=
  record "PagedResponse"
    (.cons (required "isLastPage" boolean)
      (.cons (required "values" (listOf item))
        (.cons (mayLack "nextPageStart" unsigned) .nil)))

/-- Reads a page. A page that is not the last must say where the next one begins. -/
def page {α : Type} (item : Scanner α) (body : List UInt8) : Except Json.Error (Page α) := do
  let (isLast, items, next, ()) ← decode (envelope item) (Text.Utf8.decode body)
  if isLast then return ⟨items, none⟩
  else
    match next with
    | some next => return ⟨items, some next⟩
    | none => throw (.mismatch .missingCursor)

end OpenPulls.Rest
