import Mathlib.Data.List.Forall2
import OpenPulls.Json.Tree

/-!
# Shapes of trees

A shape says which values a JSON tree stands for. Shapes of records are made from the shapes of
their members: `Once` for a member that an object must have, and `AtMostOnce` for one that it may
lack. Neither says anything about other members, or about the order of members.
-/

namespace OpenPulls.Json

variable {α : Type}

/-- The shape of a truth value. -/
def IsBoolean (t : Tree) (b : Bool) : Prop := t = .boolean b

/-- The shape of an integer of 64 bits, which is written without sign, point and exponent. -/
def IsUnsigned (t : Tree) (n : UInt64) : Prop := t = .number (.unsigned n)

/-- The shape of a string. -/
def IsString (t : Tree) (s : String) : Prop := t = .string s

/-- The shape of a value that may be replaced by the word for nothing. -/
inductive Nullable (R : Tree → α → Prop) : Tree → Option α → Prop where
  | null : Nullable R .null none
  | value {t : Tree} {a : α} (hnull : t ≠ .null) (ha : R t a) : Nullable R t (some a)

/-- The shape of an array of values. -/
inductive ListOf (R : Tree → α → Prop) : Tree → List α → Prop where
  | array {items : List Tree} {as : List α} (h : List.Forall₂ R items as) :
      ListOf R (.array items) as

/-- The shape of the name of a variant: a string, or an object with the name as its only key and
nothing as its value. -/
inductive VariantName : Tree → String → Prop where
  | string (name : String) : VariantName (.string name) name
  | object (name : String) : VariantName (.object [(name, .null)]) name

/-- Exactly one of the members has the key, and its value has the shape. -/
def Once (key : String) (R : Tree → α → Prop) (members : List (String × Tree)) (a : α) : Prop :=
  ∃ t, valuesOf key members = [t] ∧ R t a

/-- No member has the key, or exactly one, whose value has the shape or is nothing. -/
def AtMostOnce (key : String) (R : Tree → α → Prop) (members : List (String × Tree))
    (a : Option α) : Prop :=
  (valuesOf key members = [] ∧ a = none) ∨ Once key (Nullable R) members a

end OpenPulls.Json
