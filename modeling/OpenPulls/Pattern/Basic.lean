import OpenPulls.Pattern.Parse
import OpenPulls.Pattern.Resolve
import OpenPulls.Pattern.Size

/-!
# Patterns

A `Pattern` is a text that was read as a pattern, together with what it matches. `compile` reads
it; `isMatch` searches for it anywhere in a text.
-/

namespace OpenPulls

/-- A pattern that can be searched for. -/
structure Pattern where
  /-- The pattern as written. -/
  source : String
  /-- What it matches. -/
  node : Pattern.Node
deriving Repr

namespace Pattern

/-- Why a text is refused as a pattern. -/
inductive Fault where
  /-- It is not written as patterns are. -/
  | malformed
  /-- Its automaton would take too much memory. -/
  | tooBig
deriving Repr, BEq, DecidableEq

/-- What a text matches as a pattern, if it is written as patterns are. -/
def node? (source : String) : Option Node := do
  let e ← Expr.parse? source
  let (n, _) ← e.resolve? Flags.initial
  return n

/-- Reads a pattern. -/
def compile (source : String) : Except Fault Pattern :=
  match node? source with
  | none => .error .malformed
  | some n => if n.isTooBig then .error .tooBig else .ok ⟨source, n⟩

/-- The pattern matches somewhere in the text. -/
def isMatch (p : Pattern) (text : String) : Bool := p.node.isMatch text.toList

end Pattern

end OpenPulls
