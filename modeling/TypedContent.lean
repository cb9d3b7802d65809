import TypedContent.Collision
import TypedContent.Command.Grammar
import TypedContent.Command.Models
import TypedContent.Command.Outcome
import TypedContent.Command.Preload
import TypedContent.Command.Program
import TypedContent.Distinct
import TypedContent.Double
import TypedContent.Files.Disk
import TypedContent.Files.Path
import TypedContent.Files.Tree
import TypedContent.Identifier
import TypedContent.Json.Reader
import TypedContent.Json.Value
import TypedContent.Json.Writer
import TypedContent.Log.Layout
import TypedContent.Log.Level
import TypedContent.Log.Record
import TypedContent.Log.Setup
import TypedContent.Main
import TypedContent.Net.Host
import TypedContent.Net.Service
import TypedContent.Net.Tokens
import TypedContent.Net.Url
import TypedContent.Preload.Block
import TypedContent.Preload.Discovery
import TypedContent.Preload.Expansion
import TypedContent.Preload.Glob
import TypedContent.Preload.Loader
import TypedContent.Preload.Options
import TypedContent.Preload.Pairs
import TypedContent.Preload.Placeholder
import TypedContent.Preload.Wildcard
import TypedContent.Proofs.Collisions
import TypedContent.Proofs.Command.ExitCode
import TypedContent.Proofs.Command.Explanations
import TypedContent.Proofs.Command.InPlace
import TypedContent.Proofs.Declarations
import TypedContent.Proofs.Fallible
import TypedContent.Proofs.FileNames
import TypedContent.Proofs.Files.Children
import TypedContent.Proofs.Files.Directories
import TypedContent.Proofs.Files.Listing
import TypedContent.Proofs.Files.Making
import TypedContent.Proofs.Json.LongIntegers
import TypedContent.Proofs.Net.Accounts
import TypedContent.Proofs.Net.Destinations
import TypedContent.Proofs.Net.Fetching
import TypedContent.Proofs.Net.Origins
import TypedContent.Proofs.Net.Requests
import TypedContent.Proofs.Net.TokenFiles
import TypedContent.Proofs.Preload.Bindings
import TypedContent.Proofs.Preload.Blocks
import TypedContent.Proofs.Preload.Discovery
import TypedContent.Proofs.Preload.Expansion
import TypedContent.Proofs.Preload.Failures
import TypedContent.Proofs.Preload.Identifiers
import TypedContent.Proofs.Preload.Lookups
import TypedContent.Proofs.Preload.Placeholders
import TypedContent.Proofs.Preload.Selection
import TypedContent.Proofs.Schema.Checks
import TypedContent.Proofs.Schema.Definitions
import TypedContent.Proofs.Settings.EnvFiles
import TypedContent.Proofs.Settings.EnvLines
import TypedContent.Proofs.Settings.Failures
import TypedContent.Proofs.Settings.InlineComments
import TypedContent.Proofs.Settings.Loading
import TypedContent.Proofs.Settings.Precedence
import TypedContent.Proofs.Settings.Sources
import TypedContent.Proofs.Sync.Abort
import TypedContent.Proofs.Sync.Accounting
import TypedContent.Proofs.Sync.CleanRun
import TypedContent.Proofs.Sync.Cleanup
import TypedContent.Proofs.Sync.Confinement
import TypedContent.Proofs.Sync.Exchanges
import TypedContent.Proofs.Sync.FanOut
import TypedContent.Proofs.Sync.Frame
import TypedContent.Proofs.Sync.Idempotence
import TypedContent.Proofs.Sync.Isolation
import TypedContent.Proofs.Sync.ModuleGraph
import TypedContent.Proofs.Sync.Questions
import TypedContent.Proofs.Sync.Refusals
import TypedContent.Proofs.Sync.Removal
import TypedContent.Proofs.Sync.Report
import TypedContent.Proofs.Sync.Schedules
import TypedContent.Proofs.Text.Decoding
import TypedContent.Proofs.Text.Lines
import TypedContent.Proofs.Text.Trimming
import TypedContent.Proofs.TypeScript.Assembly
import TypedContent.Proofs.TypeScript.Comments
import TypedContent.Proofs.TypeScript.Escaping
import TypedContent.Proofs.TypeScript.Keys
import TypedContent.Proofs.TypeScript.KnownTypes
import TypedContent.Proofs.TypeScript.Literals
import TypedContent.Proofs.TypeScript.Lookup
import TypedContent.Proofs.TypeScript.Members
import TypedContent.Proofs.TypeScript.Scope
import TypedContent.Proofs.TypeScript.UnknownTags
import TypedContent.Schema.Definition
import TypedContent.Schema.NetworkError
import TypedContent.Schema.Validation
import TypedContent.Settings.Basic
import TypedContent.Settings.EnvFile
import TypedContent.Settings.Load
import TypedContent.Sync.Cleanup
import TypedContent.Sync.Client
import TypedContent.Sync.FanOut
import TypedContent.Sync.Generation
import TypedContent.Sync.Memory
import TypedContent.Sync.Overview
import TypedContent.Sync.Report
import TypedContent.Sync.Run
import TypedContent.Text.Base64
import TypedContent.Text.Blank
import TypedContent.Text.Casing
import TypedContent.Text.Casing.Table
import TypedContent.Text.CodePoints
import TypedContent.Text.Digits
import TypedContent.Text.Encoding
import TypedContent.Text.Lines
import TypedContent.Text.Printable
import TypedContent.Text.Quoted
import TypedContent.Text.Similar
import TypedContent.Text.Styling
import TypedContent.TypeScript.Comment
import TypedContent.TypeScript.Literal
import TypedContent.TypeScript.Model
import TypedContent.TypeScript.PropertyType
import TypedContent.TypeScript.Registry
import TypedContent.TypeScript.Sections
import TypedContent.TypeScript.SourceFile
import TypedContent.Yaml.Compose
import TypedContent.Yaml.Graph
import TypedContent.Yaml.Merge
import TypedContent.Yaml.Number
import TypedContent.Yaml.Tag
import TypedContent.Yaml.Token.Basic
import TypedContent.Yaml.Token.Cursor
import TypedContent.Yaml.Token.Scalar
import TypedContent.Yaml.Token.Scan
import TypedContent.Yaml.Value
