import OpenPulls.Cli.Options
import OpenPulls.Cli.Table
import OpenPulls.Listing.Run
import OpenPulls.PullRequest.Json

/-!
# The program

The command line is read, the settings are read, the repository is listed, and the listing is
printed. Each of these can end the program. Nothing is printed before the listing is complete.
-/

namespace OpenPulls.Cli

/-- How the program ends. -/
inductive Ending where
  /-- The command line is wrong. -/
  | usage
  | help
  | version
  /-- The settings are wrong. -/
  | misconfigured (fault : SettingsFault)
  /-- A page could not be read. -/
  | failed (failure : Failure)
  | listed (format : Format) (ps : List ResolvedPullRequest)

/-- A listing in a format. -/
def Format.render : Format → List ResolvedPullRequest → String
  | .table, ps => Table.text ps
  | .json, ps => ResolvedPullRequest.prettyText ps ++ "\n"

/-- How the program is called. -/
def usageText : String :=
  "Usage: bitbucket-pr-discovery --base-url <BASE_URL> --project <PROJECT> --repo <REPO> [OPTIONS]\n"

/-- What the options are. -/
def helpText : String :=
  "List open Bitbucket Server pull requests with green commits\n\n" ++ usageText ++ "
Options:
      --base-url <BASE_URL>       Bitbucket Server URL [env: BITBUCKET_URL]
      --username <USERNAME>       Username for basic auth [env: BITBUCKET_USERNAME]
      --password <PASSWORD>       Password for basic auth [env: BITBUCKET_PASSWORD]
      --project <PROJECT>         Project key [env: BITBUCKET_PROJECT]
      --repo <REPO>               Repository slug [env: BITBUCKET_REPO]
      --branch-match <REGEX>      Only keep pull requests whose branch contains a match
      --successful-build <REGEX>  A build with this name must be successful (repeatable)
      --require-green             Every build on the commit must be successful
      --find-latest-successful    Use the latest green commit when the head is not green
      --output <FORMAT>           table or json [default: table]
  -v, --verbose                   Enable verbose logging
  -h, --help                      Print help
  -V, --version                   Print version
"

namespace Ending

/-- The exit code. -/
def code : Ending → Nat
  | .help | .version | .listed _ _ => 0
  | .misconfigured _ | .failed _ => 1
  | .usage => 2

/-- What is printed. -/
def output : Ending → String
  | .usage | .misconfigured _ | .failed _ => ""
  | .help => helpText
  | .version => "bitbucket-pr-discovery 0.1.0\n"
  | .listed format ps => format.render ps

/-- The line that says what went wrong. -/
def errorLine? : Ending → Option String
  | .misconfigured _ => some "Error: Invalid configuration"
  | .failed _ => some "Error: Failed to list pull requests"
  | .usage | .help | .version | .listed _ _ => none

/-- Why it went wrong. -/
def reason? : Ending → Option String
  | .misconfigured fault => some fault.text
  | .failed failure => some failure.message
  | .usage | .help | .version | .listed _ _ => none

end Ending

/-- What is left to do once the command line and the settings are read. -/
inductive Plan where
  | stop (ending : Ending)
  | list (options : Options) (selection : Selection) (client : Rest.Client)

/-- What a command line asks for in an environment. -/
def plan (args : List String) (environment : List (String × String)) : Plan :=
  match read none .nothing args with
  | .wrong => .stop .usage
  | .asks f => .stop (if f = .version then .version else .help)
  | .given g =>
    match Options.ofGiven? g environment with
    | none => .stop .usage
    | some o =>
      match o.settings.build with
      | .error fault => .stop (.misconfigured fault)
      | .ok (selection, client) => .list o selection client

/-- Runs the program against a server. There is no ending if a walk gives up. -/
def run {ς : Type} (server : Http.Server ς) (limit : Nat) (args : List String)
    (environment : List (String × String)) (w : Http.Wire ς) : Option Ending × Http.Wire ς :=
  match plan args environment with
  | .stop ending => (some ending, w)
  | .list options selection client =>
    let run := Operation.list.run (client.source server) limit selection w
    (match run.outcome with
      | .returned ps => some (.listed options.format ps)
      | .failed failure => some (.failed failure)
      | .unfinished => none, run.state)

end OpenPulls.Cli
