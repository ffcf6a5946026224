import OpenPulls.Build.Policy
import OpenPulls.Build.Status
import OpenPulls.Cli.Options
import OpenPulls.Cli.Program
import OpenPulls.Cli.Table
import OpenPulls.Decimal.Shortest
import OpenPulls.Failure
import OpenPulls.Http.Message
import OpenPulls.Http.Route
import OpenPulls.Http.Server
import OpenPulls.Http.Status
import OpenPulls.Json.Decode
import OpenPulls.Json.Error
import OpenPulls.Json.Scan
import OpenPulls.Json.Shape
import OpenPulls.Json.Tree
import OpenPulls.Json.Write
import OpenPulls.Listing.Basic
import OpenPulls.Listing.PageTable
import OpenPulls.Listing.Run
import OpenPulls.Listing.Script
import OpenPulls.Main
import OpenPulls.Page
import OpenPulls.Pattern.Basic
import OpenPulls.Pattern.Expr
import OpenPulls.Pattern.Node
import OpenPulls.Pattern.Parse
import OpenPulls.Pattern.Resolve
import OpenPulls.Pattern.Size
import OpenPulls.Proofs.BranchFilter
import OpenPulls.Proofs.BuildSets
import OpenPulls.Proofs.Decisions
import OpenPulls.Proofs.Descriptions
import OpenPulls.Proofs.Encoding
import OpenPulls.Proofs.FailFast
import OpenPulls.Proofs.Fallback
import OpenPulls.Proofs.Json.Layout
import OpenPulls.Proofs.Json.Numbers
import OpenPulls.Proofs.Json.Parts
import OpenPulls.Proofs.Json.Records
import OpenPulls.Proofs.Json.Skipping
import OpenPulls.Proofs.Json.Strings
import OpenPulls.Proofs.Json.Values
import OpenPulls.Proofs.Multiplicity
import OpenPulls.Proofs.Narrowing
import OpenPulls.Proofs.PageFormat
import OpenPulls.Proofs.Protocol
import OpenPulls.Proofs.Requests
import OpenPulls.Proofs.Rest.Addresses
import OpenPulls.Proofs.Rest.Agreement
import OpenPulls.Proofs.Rest.Endpoints
import OpenPulls.Proofs.Rest.Failures
import OpenPulls.Proofs.Rest.Headers
import OpenPulls.Proofs.Rest.Interface
import OpenPulls.Proofs.Rest.Sent
import OpenPulls.Proofs.Rest.Spelling
import OpenPulls.Proofs.Rest.Targets
import OpenPulls.Proofs.ResultFormat
import OpenPulls.Proofs.Session
import OpenPulls.Proofs.Settings
import OpenPulls.Proofs.Soundness
import OpenPulls.Proofs.Stateless
import OpenPulls.Proofs.Steps
import OpenPulls.Proofs.Termination
import OpenPulls.Proofs.Traversal
import OpenPulls.Proofs.Url.Extension
import OpenPulls.Proofs.Url.Plain
import OpenPulls.Proofs.Url.Segments
import OpenPulls.Proofs.Verdicts
import OpenPulls.PullRequest.Basic
import OpenPulls.PullRequest.Json
import OpenPulls.Resource
import OpenPulls.Rest.Client
import OpenPulls.Rest.Envelope
import OpenPulls.Rest.Format
import OpenPulls.Rest.Root
import OpenPulls.Selection
import OpenPulls.Settings
import OpenPulls.Text.Base64
import OpenPulls.Text.Blank
import OpenPulls.Text.Quoted
import OpenPulls.Text.Utf8
import OpenPulls.Unicode.Bidi
import OpenPulls.Unicode.CaseFold
import OpenPulls.Unicode.Category
import OpenPulls.Unicode.CharSet
import OpenPulls.Unicode.Class
import OpenPulls.Unicode.DomainMap
import OpenPulls.Unicode.Joining
import OpenPulls.Unicode.Normal
import OpenPulls.Unicode.Property
import OpenPulls.Unicode.Script
import OpenPulls.Unicode.Table
import OpenPulls.Url.Basic
import OpenPulls.Url.Domain
import OpenPulls.Url.Host
import OpenPulls.Url.Parse
import OpenPulls.Url.Percent
import OpenPulls.Url.Punycode
import OpenPulls.Proofs.Cli.CommandLine
import OpenPulls.Proofs.Cli.Outcome
import OpenPulls.Proofs.Json.Spellings
import OpenPulls.Proofs.BuildStates
import OpenPulls.Proofs.Pattern.Literals
import OpenPulls.Proofs.PlainPatterns
import OpenPulls.Proofs.SettingsFaults
import OpenPulls.Proofs.Rest.FixedPoint
import OpenPulls.Proofs.Reading
import OpenPulls.Proofs.Budget
import OpenPulls.Proofs.Rest.Trimming
import OpenPulls.Proofs.Rest.RootSpelling
import OpenPulls.Proofs.Cli.TableLayout
import OpenPulls.Proofs.Pattern.Search
import OpenPulls.Proofs.Cli.Printing
