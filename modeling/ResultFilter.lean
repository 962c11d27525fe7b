import ResultFilter.Cli.Command
import ResultFilter.Cli.Files
import ResultFilter.Cli.Help
import ResultFilter.Cli.Options
import ResultFilter.Cli.Path
import ResultFilter.Cli.Plan
import ResultFilter.Decimal.Binary64
import ResultFilter.Decimal.Shortest
import ResultFilter.Decision
import ResultFilter.Dict
import ResultFilter.Engine
import ResultFilter.Glob
import ResultFilter.Host.Address
import ResultFilter.Host.Basic
import ResultFilter.Host.Direction
import ResultFilter.Host.Idna
import ResultFilter.Host.Joining
import ResultFilter.Host.Mapping
import ResultFilter.Host.Punycode
import ResultFilter.Index.Basic
import ResultFilter.Index.Snapshot
import ResultFilter.Index.Stored
import ResultFilter.Json.Basic
import ResultFilter.Json.Decode
import ResultFilter.Json.Tree
import ResultFilter.Main
import ResultFilter.Pattern
import ResultFilter.Props
import ResultFilter.PublicSuffix
import ResultFilter.Regex.Ast
import ResultFilter.Regex.Basic
import ResultFilter.Regex.ClassName
import ResultFilter.Regex.Pattern
import ResultFilter.Regex.Reader
import ResultFilter.Regex.Search
import ResultFilter.Regex.Size
import ResultFilter.Rule.Basic
import ResultFilter.Rule.Error
import ResultFilter.Rule.Expression
import ResultFilter.Rule.Literal
import ResultFilter.Rule.Stored
import ResultFilter.RuleIndex.Basic
import ResultFilter.RuleIndex.Stored
import ResultFilter.Ruleset.Basic
import ResultFilter.Ruleset.Header
import ResultFilter.Ruleset.Stored
import ResultFilter.Text.Age
import ResultFilter.Text.Basic
import ResultFilter.Text.Blank
import ResultFilter.Text.Canonical
import ResultFilter.Text.CaseFold
import ResultFilter.Text.Category
import ResultFilter.Text.CodeSet
import ResultFilter.Text.Contributory
import ResultFilter.Text.Hex
import ResultFilter.Text.Lower
import ResultFilter.Text.Property
import ResultFilter.Text.Quoted
import ResultFilter.Text.Script
import ResultFilter.Text.Segment
import ResultFilter.Text.Utf8
import ResultFilter.Url
import ResultFilter.Yaml.Anchor
import ResultFilter.Yaml.Basic
import ResultFilter.Yaml.Layout
import ResultFilter.Yaml.Node
import ResultFilter.Yaml.Place
import ResultFilter.Yaml.Scalar
import ResultFilter.Yaml.Schema
import ResultFilter.Yaml.Token
import ResultFilter.Proofs.Index.Table
import ResultFilter.Proofs.Index.Tree
import ResultFilter.Proofs.Index.Filing
import ResultFilter.Proofs.Index.Handles
import ResultFilter.Proofs.Index.Lookup
import ResultFilter.Proofs.Index.Session
import ResultFilter.Proofs.RuleIndex.Order
import ResultFilter.Proofs.RuleIndex.Compiled
import ResultFilter.Proofs.Ruleset.Sheet
import ResultFilter.Proofs.Text
import ResultFilter.Proofs.Host.Labels
import ResultFilter.Proofs.Host.Spelling
import ResultFilter.Proofs.Host.Address
import ResultFilter.Proofs.Host.Reread
import ResultFilter.Proofs.PublicSuffix
import ResultFilter.Proofs.Ruleset.Votes
import ResultFilter.Proofs.Engine.Suggestion
import ResultFilter.Proofs.Engine.Target
import ResultFilter.Proofs.Engine.Decision
import ResultFilter.Proofs.Engine.Patch
import ResultFilter.Proofs.Ruleset.Lines
import ResultFilter.Proofs.Engine.Requests
import ResultFilter.Proofs.Rule.Steps
import ResultFilter.Proofs.Rule.TrailingBlank
import ResultFilter.Proofs.Ruleset.Saved
import ResultFilter.Proofs.Json.Numeral
import ResultFilter.Proofs.Json.Tree
import ResultFilter.Proofs.Dict
import ResultFilter.Proofs.Json.Decode
import ResultFilter.Proofs.Rule.Stored
import ResultFilter.Proofs.Rule.Proper
import ResultFilter.Proofs.Index.Shelves
import ResultFilter.Proofs.Index.Snapshot
import ResultFilter.Proofs.Index.Stored
import ResultFilter.Proofs.Index.Contents
import ResultFilter.Proofs.Index.Reload
import ResultFilter.Proofs.Index.Unnamed
import ResultFilter.Proofs.RuleIndex.Stored
import ResultFilter.Proofs.RuleIndex.Retracted
import ResultFilter.Proofs.RuleIndex.Reload
import ResultFilter.Proofs.Ruleset.Reload
import ResultFilter.Proofs.Index.Nesting
import ResultFilter.Proofs.Ruleset.Nesting
import ResultFilter.Proofs.Rule.Grammar
import ResultFilter.Proofs.Ruleset.Joined
import ResultFilter.Proofs.Engine.Rearranged
import ResultFilter.Proofs.Json.Rest
import ResultFilter.Proofs.Cli.Files
import ResultFilter.Proofs.Cli.Written
import ResultFilter.Proofs.Glob.Expansion
import ResultFilter.Proofs.Glob.Scan
import ResultFilter.Proofs.Pattern
import ResultFilter.Proofs.Rule.Literal
import ResultFilter.Proofs.Rule.Front
import ResultFilter.Proofs.Rule.Composed
import ResultFilter.Proofs.Rule.Spacing
import ResultFilter.Proofs.Lower
import ResultFilter.Proofs.Rule.IgnoreCase
import ResultFilter.Proofs.Engine.Minimal
import ResultFilter.Proofs.Ruleset.Deleted
import ResultFilter.Proofs.SuffixBoundary
import ResultFilter.Proofs.Glob.Characters
import ResultFilter.Proofs.Regex.Search
import ResultFilter.Proofs.Rule.RegexLiteral
import ResultFilter.Proofs.Rule.Cursor
import ResultFilter.Proofs.Rule.Scanners
import ResultFilter.Proofs.Rule.Faults
import ResultFilter.Proofs.Rule.Reread
import ResultFilter.Proofs.Index.Walk
import ResultFilter.Proofs.Ruleset.Coherent
