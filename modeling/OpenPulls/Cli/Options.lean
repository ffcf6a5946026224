import OpenPulls.Settings

/-!
# Options

The options of the command line. Each is given by its name, with its value behind `=` or as the
next word. Some can also be given by a variable of the environment, which counts where the command
line is silent. An option is given at most once, unless it collects values.
-/

namespace OpenPulls.Cli

/-! ## What can be given -/

/-- How a listing is printed. -/
inductive Format where
  | table
  | json
deriving Repr, DecidableEq

/-- The format with the given name. -/
def Format.ofName? : String → Option Format
  | "table" => some .table
  | "json" => some .json
  | _ => none

/-- An option with a value. -/
inductive Setting where
  | baseUrl
  | username
  | password
  | project
  | repo
  | branchMatch
  | successfulBuild
  | output
deriving Repr, DecidableEq

namespace Setting

/-- The option with the given name. -/
def ofName? : String → Option Setting
  | "base-url" => some .baseUrl
  | "username" => some .username
  | "password" => some .password
  | "project" => some .project
  | "repo" => some .repo
  | "branch-match" => some .branchMatch
  | "successful-build" => some .successfulBuild
  | "output" => some .output
  | _ => none

/-- The variable of the environment that stands for the option. -/
def envName? : Setting → Option String
  | .baseUrl => some "BITBUCKET_URL"
  | .username => some "BITBUCKET_USERNAME"
  | .password => some "BITBUCKET_PASSWORD"
  | .project => some "BITBUCKET_PROJECT"
  | .repo => some "BITBUCKET_REPO"
  | .branchMatch | .successfulBuild | .output => none

/-- The option collects values. -/
def isCollecting (s : Setting) : Bool := s == .successfulBuild

/-- The option can have this value. -/
def allows (s : Setting) (value : String) : Bool :=
  s != .output || (Format.ofName? value).isSome

end Setting

/-- An option without a value. -/
inductive Flag where
  | requireGreen
  | findLatestSuccessful
  | verbose
  | help
  | version
deriving Repr, DecidableEq

namespace Flag

/-- The option with the given name. -/
def ofName? : String → Option Flag
  | "require-green" => some .requireGreen
  | "find-latest-successful" => some .findLatestSuccessful
  | "verbose" => some .verbose
  | "help" => some .help
  | "version" => some .version
  | _ => none

/-- The option with the given letter. -/
def ofLetter? : Char → Option Flag
  | 'v' => some .verbose
  | 'h' => some .help
  | 'V' => some .version
  | _ => none

end Flag

/-! ## Words -/

/-- What a word of the command line says. -/
inductive Word where
  /-- The options end. -/
  | stop
  /-- An option, perhaps with its value. -/
  | setting (s : Setting) (value : Option String)
  | flags (fs : List Flag)
  /-- No option. -/
  | plain
  /-- Meant as an option, but none that there is. -/
  | unknown
deriving Repr, DecidableEq

namespace Word

/-- The word for a name with an optional value. -/
def ofName (name : String) (value : Option String) : Word :=
  match Setting.ofName? name, Flag.ofName? name, value with
  | some s, _, value => .setting s value
  | none, some f, none => .flags [f]
  | none, _, _ => .unknown

/-- Reads a word. -/
def of (word : String) : Word :=
  match word.toList with
  | ['-', '-'] => .stop
  | '-' :: '-' :: rest =>
    let name := String.ofList (rest.takeWhile (· ≠ '='))
    match rest.dropWhile (· ≠ '=') with
    | [] => ofName name none
    | _ :: value => ofName name (some (String.ofList value))
  | '-' :: c :: rest =>
    match (c :: rest).mapM Flag.ofLetter? with
    | some fs => .flags fs
    | none =>
      -- Letters before the unknown one count, for they may ask for help.
      match ((c :: rest).takeWhile fun c => (Flag.ofLetter? c).isSome).mapM Flag.ofLetter? with
      | some fs => if fs.contains .help || fs.contains .version then .flags fs else .unknown
      | none => .unknown
  | _ => .plain

end Word

/-! ## Command lines -/

/-- What was given on the command line. -/
structure Given where
  settings : List (Setting × String)
  flags : List Flag
deriving Repr, DecidableEq

/-- What a command line comes to. -/
inductive Reading where
  | given (g : Given)
  /-- Help or the version is asked for; what follows does not count. -/
  | asks (f : Flag)
  /-- The command line is wrong. -/
  | wrong
deriving Repr, DecidableEq

namespace Given

/-- Nothing was given. -/
def nothing : Given := ⟨[], []⟩

/-- The values of an option. -/
def values (g : Given) (s : Setting) : List String :=
  (g.settings.filter (·.1 == s)).map Prod.snd

/-- Adds an option with its value. -/
def set? (g : Given) (s : Setting) (value : String) : Option Given :=
  if s.allows value && (s.isCollecting || (g.values s).isEmpty) then
    some { g with settings := g.settings ++ [(s, value)] }
  else none

end Given

/-- Reads options without values and goes on. -/
def readFlags (g : Given) (next : Given → Reading) : List Flag → Reading
  | [] => next g
  | f :: rest =>
    if f = .help ∨ f = .version then .asks f
    else if g.flags.contains f then .wrong
    else readFlags { g with flags := g.flags ++ [f] } next rest

/-- Reads words; `pending` waits for its value. -/
def read (pending : Option Setting) (g : Given) : List String → Reading
  | [] => if pending.isSome then .wrong else .given g
  | word :: rest =>
    match pending, Word.of word with
    | some s, .plain =>
      match g.set? s word with
      | some g => read none g rest
      | none => .wrong
    | some _, _ => .wrong
    | none, .stop => if rest.isEmpty then .given g else .wrong
    | none, .setting s none => read (some s) g rest
    | none, .setting s (some value) =>
      match g.set? s value with
      | some g => read none g rest
      | none => .wrong
    | none, .flags fs => readFlags g (fun g => read none g rest) fs
    | none, .plain => .wrong
    | none, .unknown => .wrong

/-! ## Options -/

/-- What a listing is asked for with. -/
structure Options where
  address : String
  repository : Repository
  credentials : Option Rest.Credentials
  branchMatch : Option String
  successfulBuilds : List String
  requireGreen : Bool
  findLatestSuccessful : Bool
  format : Format
  verbose : Bool
deriving Repr, DecidableEq

namespace Options

/-- The value of an option: from the command line, or else from the environment. -/
def value? (g : Given) (environment : List (String × String)) (s : Setting) : Option String :=
  (g.values s).head?.or (s.envName?.bind fun name => environment.lookup name)

/-- User name and password, which are given together or not at all. -/
def credentials? (username password : Option String) : Option (Option Rest.Credentials) :=
  match username, password with
  | some u, some p => some (some ⟨u, p⟩)
  | none, none => some none
  | _, _ => none

/-- The options of a command line, if it gives all that it has to. -/
def ofGiven? (g : Given) (environment : List (String × String)) : Option Options := do
  let value := value? g environment
  let address ← value .baseUrl
  let project ← value .project
  let slug ← value .repo
  let credentials ← credentials? (value .username) (value .password)
  return {
    address
    repository := ⟨project, slug⟩
    credentials
    branchMatch := value .branchMatch
    successfulBuilds := g.values .successfulBuild
    requireGreen := g.flags.contains .requireGreen
    findLatestSuccessful := g.flags.contains .findLatestSuccessful
    format := ((value .output).bind Format.ofName?).getD .table
    verbose := g.flags.contains .verbose }

/-- The settings that the options stand for. Builds are looked at if there are patterns for them or
all have to be successful. -/
def settings (o : Options) : Settings where
  repository := o.repository
  branchMatch := o.branchMatch
  successfulBuilds :=
    if !o.successfulBuilds.isEmpty || o.requireGreen then some o.successfulBuilds else none
  findLatestSuccessful := o.findLatestSuccessful
  credentials := o.credentials
  address := o.address

end Options

end OpenPulls.Cli
