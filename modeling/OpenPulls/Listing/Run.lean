import OpenPulls.Listing.Basic

/-!
# Runs

A source answers page requests. Its answers may depend on everything that it was asked before, so
a source is a step function on states of its own.

A `Session` runs on a source. It asks for pages one after another, and its `Run` records how it
ended, every page request with its answer in order, and the state that the source was left in. The
first failed page request ends a session. A session may also give up, because it reached the number
of pages that it was allowed to read.
-/

namespace OpenPulls

/-- Answers page requests. The state holds what the answers depend on. -/
abbrev Source (σ : Type) := σ → (r : PageRequest) → Except Failure (Page r.Item) × σ

/-- A page request with its answer. -/
structure Exchange where
  request : PageRequest
  answer : Except Failure (Page request.Item)

/-- How a run ends. -/
inductive Outcome (α : Type) where
  | returned (result : α)
  | failed (failure : Failure)
  /-- The allowed number of pages was reached. -/
  | unfinished

/-- What happened in a session. -/
structure Run (σ α : Type) where
  outcome : Outcome α
  /-- The page requests with their answers, in order. -/
  log : List Exchange
  /-- The state of the source afterwards. -/
  state : σ

/-- Something to do on a source, given its state. -/
def Session (σ α : Type) := σ → Run σ α

namespace Session

variable {σ α β : Type}

/-- Runs a session on a source in the given state. -/
def run (t : Session σ α) (state : σ) : Run σ α := t state

/-- The session without page requests that has the given result. -/
def result (a : α) : Session σ α := fun state => ⟨.returned a, [], state⟩

/-- The session that gives up. -/
def unfinished : Session σ α := fun state => ⟨.unfinished, [], state⟩

/-- The session that goes on with the result of another one, if that has one. -/
def andThen (t : Session σ α) (next : α → Session σ β) : Session σ β := fun state =>
  let first := t state
  match first.outcome with
  | .returned a =>
    let second := next a first.state
    ⟨second.outcome, first.log ++ second.log, second.state⟩
  | .failed f => ⟨.failed f, first.log, first.state⟩
  | .unfinished => ⟨.unfinished, first.log, first.state⟩

instance : Monad (Session σ) where
  pure := result
  bind := andThen

/-- The session that asks for one page. -/
def ask (source : Source σ) (r : PageRequest) : Session σ (Page r.Item) := fun state =>
  let (answer, state') := source state r
  let outcome := match answer with
    | .ok page => .returned page
    | .error f => .failed f
  ⟨outcome, [⟨r, answer⟩], state'⟩

/-- Reads pages from a source. -/
def reader (source : Source σ) : PageReader (Session σ) where
  page := ask source
  giveUp := unfinished

end Session

/-- Runs an operation on a source. -/
def Operation.run {σ : Type} (o : Operation) (source : Source σ) (limit : Nat) (s : Selection)
    (state : σ) : Run σ o.Result :=
  (o.perform (Session.reader source) limit s).run state

end OpenPulls
