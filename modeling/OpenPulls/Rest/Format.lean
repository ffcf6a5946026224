import OpenPulls.Json.Shape
import OpenPulls.Resource

/-!
# The format of pages

Which JSON trees are pages, and of what. A record stands as an object or as an array. An object
gives each known field at most once, in any order, and may have other members of any kind. An array
gives all the fields in their order and nothing else; a field without a value is the word for
nothing there.

This is what the server may send, said without a look at how it is read.
-/

namespace OpenPulls.Rest

open Json

/-! ## Pull requests -/

/-- A reference with its full name, its name if it is given, and its last commit. -/
inductive SpellsRef : Tree → String × Option String × String → Prop where
  | object {members : List (String × Tree)} {ref head : String} {name : Option String}
      (href : Once "id" IsString members ref) (hname : AtMostOnce "displayId" IsString members name)
      (hhead : Once "latestCommit" IsString members head) :
      SpellsRef (.object members) (ref, name, head)
  | array {t t' t'' : Tree} {ref head : String} {name : Option String} (href : IsString t ref)
      (hname : Nullable IsString t' name) (hhead : IsString t'' head) :
      SpellsRef (.array [t, t', t'']) (ref, name, head)

/-- The name of a branch without the folder of the branches, if its full name begins with that. -/
inductive ShortName : String → String → Prop where
  | inFolder (name : String) : ShortName ("refs/heads/" ++ name) name
  | other {ref : String} (h : ∀ name, ref ≠ "refs/heads/" ++ name) : ShortName ref ref

/-- The branch has the name that is given, or else its short name. -/
inductive BranchName (ref : String) : Option String → String → Prop where
  | given (name : String) : BranchName ref (some name) name
  | short {name : String} (h : ShortName ref name) : BranchName ref none name

/-- A pull request. -/
inductive SpellsCandidate : Tree → Candidate → Prop where
  | object {members : List (String × Tree)} {number : UInt64} {ref branch head : String}
      {name : Option String} (hnumber : Once "id" IsUnsigned members number)
      (href : Once "fromRef" SpellsRef members (ref, name, head))
      (hbranch : BranchName ref name branch) :
      SpellsCandidate (.object members) ⟨number, branch, ref, head⟩
  | array {t t' : Tree} {number : UInt64} {ref branch head : String} {name : Option String}
      (hnumber : IsUnsigned t number) (href : SpellsRef t' (ref, name, head))
      (hbranch : BranchName ref name branch) :
      SpellsCandidate (.array [t, t']) ⟨number, branch, ref, head⟩

/-! ## Build statuses -/

/-- The server's names for states. -/
inductive StateName : String → BuildState → Prop where
  | successful : StateName "SUCCESSFUL" .successful
  | failed : StateName "FAILED" .failed
  | inProgress : StateName "INPROGRESS" .inProgress
  | other {name : String} (h : name ∉ ["SUCCESSFUL", "FAILED", "INPROGRESS"]) :
      StateName name .other

/-- The state of a build. -/
def SpellsState (t : Tree) (s : BuildState) : Prop := ∃ name, VariantName t name ∧ StateName name s

/-- A build is called by its name, or else by its key. -/
inductive BuildName : Option String → Option String → String → Prop where
  | name (name : String) (key : Option String) : BuildName (some name) key name
  | key (key : String) : BuildName none (some key) key
  | nameless : BuildName none none ""

/-- A build status. -/
inductive SpellsStatus : Tree → BuildStatus → Prop where
  | object {members : List (String × Tree)} {state : BuildState} {name key : Option String}
      {called : String} (hstate : Once "state" SpellsState members state)
      (hname : AtMostOnce "name" IsString members name)
      (hkey : AtMostOnce "key" IsString members key) (hcalled : BuildName name key called) :
      SpellsStatus (.object members) ⟨called, state⟩
  | array {t t' t'' : Tree} {state : BuildState} {name key : Option String} {called : String}
      (hstate : SpellsState t state) (hname : Nullable IsString t' name)
      (hkey : Nullable IsString t'' key) (hcalled : BuildName name key called) :
      SpellsStatus (.array [t, t', t'']) ⟨called, state⟩

/-! ## Commits -/

/-- A commit. The server marks none as the tip of a branch. -/
inductive SpellsCommit : Tree → Commit → Prop where
  | object {members : List (String × Tree)} {id : String} (hid : Once "id" IsString members id) :
      SpellsCommit (.object members) ⟨id, false⟩
  | array {t : Tree} {id : String} (hid : IsString t id) : SpellsCommit (.array [t]) ⟨id, false⟩

/-! ## Pages -/

/-- An item of a resource. -/
def SpellsItem : (r : Resource) → Tree → r.Item → Prop
  | .pullRequests _ => SpellsCandidate
  | .buildStatuses _ => SpellsStatus
  | .commits _ _ => SpellsCommit

/-- An envelope: whether the page is the last one, its items, and the cursor that it gives. -/
inductive SpellsEnvelope {α : Type} (R : Tree → α → Prop) :
    Tree → Bool × List α × Option UInt64 → Prop where
  | object {members : List (String × Tree)} {isLast : Bool} {items : List α} {next : Option UInt64}
      (hlast : Once "isLastPage" IsBoolean members isLast)
      (hitems : Once "values" (ListOf R) members items)
      (hnext : AtMostOnce "nextPageStart" IsUnsigned members next) :
      SpellsEnvelope R (.object members) (isLast, items, next)
  | array {t t' t'' : Tree} {isLast : Bool} {items : List α} {next : Option UInt64}
      (hlast : IsBoolean t isLast) (hitems : ListOf R t' items)
      (hnext : Nullable IsUnsigned t'' next) :
      SpellsEnvelope R (.array [t, t', t'']) (isLast, items, next)

/-- A page of a resource. The last page has no cursor, whatever its envelope says; any other page
has the cursor of its envelope, which must give one. -/
inductive SpellsPage (r : Resource) (t : Tree) : Page r.Item → Prop where
  | last {items : List r.Item} {next : Option UInt64}
      (h : SpellsEnvelope (SpellsItem r) t (true, items, next)) : SpellsPage r t ⟨items, none⟩
  | more {items : List r.Item} {next : UInt64}
      (h : SpellsEnvelope (SpellsItem r) t (false, items, some next)) :
      SpellsPage r t ⟨items, some next⟩

end OpenPulls.Rest
