import ScopePaint.Color
import ScopePaint.CommandLine.Arguments
import ScopePaint.CommandLine.Highlight
import ScopePaint.CommandLine.Schema
import ScopePaint.CommandLine.Usage
import ScopePaint.Configuration
import ScopePaint.Data.Json
import ScopePaint.Data.Markup
import ScopePaint.Data.PropertyList
import ScopePaint.Data.PropertyList.Binary
import ScopePaint.Data.PropertyList.Leaf
import ScopePaint.Data.PropertyList.Part
import ScopePaint.Data.PropertyList.Plain
import ScopePaint.Data.PropertyList.Xml
import ScopePaint.Data.Timestamp
import ScopePaint.Data.Value
import ScopePaint.Document
import ScopePaint.Document.Report
import ScopePaint.Files.Fault
import ScopePaint.Files.Path
import ScopePaint.Files.Source
import ScopePaint.Files.Tree
import ScopePaint.Grammar.EndPattern
import ScopePaint.Grammar.Error
import ScopePaint.Grammar.Grammar
import ScopePaint.Grammar.Include
import ScopePaint.Grammar.Loading
import ScopePaint.Grammar.Record
import ScopePaint.Library
import ScopePaint.Main
import ScopePaint.Number.Double
import ScopePaint.Number.Rounding
import ScopePaint.Number.Single
import ScopePaint.Proofs.Document.Coherence
import ScopePaint.Proofs.Document.FromScratch
import ScopePaint.Proofs.Grammar.Regions
import ScopePaint.Proofs.Library.KnownRules
import ScopePaint.Proofs.Library.Loaded
import ScopePaint.Proofs.Library.Queries
import ScopePaint.Proofs.Outcome
import ScopePaint.Proofs.Regex.SearchRange
import ScopePaint.Proofs.Text.Boundary
import ScopePaint.Proofs.Tokens.Alike
import ScopePaint.Proofs.Tokens.CaptureRow
import ScopePaint.Proofs.Tokens.Equivalence
import ScopePaint.Proofs.Tokens.Lockstep
import ScopePaint.Proofs.Tokens.Row
import ScopePaint.Proofs.Tokens.StackShape
import ScopePaint.Proofs.Tokens.Steps
import ScopePaint.Proofs.Tokens.Termination
import ScopePaint.Proofs.Tokens.Tiling
import ScopePaint.Regex.CharSet
import ScopePaint.Regex.Class
import ScopePaint.Regex.Compile
import ScopePaint.Regex.Escape
import ScopePaint.Regex.Matcher
import ScopePaint.Regex.Node
import ScopePaint.Regex.Pattern
import ScopePaint.Regex.Search
import ScopePaint.ScopeName
import ScopePaint.Style.StyledText
import ScopePaint.Style.TerminalLine
import ScopePaint.Style.TerminalText
import ScopePaint.Style.Value
import ScopePaint.Text.Bytes
import ScopePaint.Text.Pieces
import ScopePaint.Text.Quoted
import ScopePaint.Theme.Attribute
import ScopePaint.Theme.Collection
import ScopePaint.Theme.Default
import ScopePaint.Theme.Error
import ScopePaint.Theme.Json
import ScopePaint.Theme.Selectors
import ScopePaint.Theme.Theme
import ScopePaint.Tokens.Captures
import ScopePaint.Tokens.Scope
import ScopePaint.Tokens.TokenLine
import ScopePaint.Tokens.Tokenizer
import ScopePaint.Unicode.Block
import ScopePaint.Unicode.CaseFolding
import ScopePaint.Unicode.Category
import ScopePaint.Unicode.Derived
import ScopePaint.Unicode.Ranges
import ScopePaint.Unicode.Script
import ScopePaint.Unicode.Segment
import ScopePaint.Unicode.Word
import ScopePaint.Warning
import ScopePaint.Proofs.Tokens.Nesting
import ScopePaint.Proofs.Tokens.CachedStyles
import ScopePaint.Proofs.Library.Destinations
import ScopePaint.Proofs.Library.Includes
import ScopePaint.Proofs.Library.Answers
import ScopePaint.Proofs.Style.EscapeSequences
import ScopePaint.Proofs.Style.Layers
import ScopePaint.Proofs.Theme.Overriding
import ScopePaint.Proofs.Tokens.Application
import ScopePaint.Proofs.Style.StretchEnds
import ScopePaint.Proofs.Style.ByteMap
import ScopePaint.Proofs.Text.Lines
import ScopePaint.Proofs.Tokens.StyledLine
import ScopePaint.Proofs.Document.ReportTexts
import ScopePaint.Proofs.Document.Styling
import ScopePaint.Proofs.Style.Runs
import ScopePaint.Proofs.Document.WholeLines
import ScopePaint.Proofs.CommandLine.WholeText
import ScopePaint.Proofs.Data.JsonTexts
import ScopePaint.Proofs.Data.JsonTrees
import ScopePaint.Proofs.Data.Layouts
import ScopePaint.Proofs.Theme.ColorTexts
import ScopePaint.Proofs.Data.RecordFields
import ScopePaint.Proofs.Theme.JsonAttributes
import ScopePaint.Proofs.Theme.RoundTrip
import ScopePaint.Proofs.Sorting
import ScopePaint.Proofs.Theme.Resolution
import ScopePaint.Proofs.Tokens.TokenAt
import ScopePaint.Proofs.Tokens.LastWrites
import ScopePaint.Proofs.Tokens.ByteScopes
import ScopePaint.Proofs.Tokens.CaptureScopes
import ScopePaint.Proofs.Grammar.Renumbering
import ScopePaint.Proofs.Library.Renumbering
import ScopePaint.Proofs.Library.Registering
import ScopePaint.Proofs.Tokens.RegistrationOrder
import ScopePaint.Proofs.Tokens.ScopeNumbers
import ScopePaint.Proofs.Regex.SearchStart
import ScopePaint.Proofs.Tokens.NextMatch
import ScopePaint.Proofs.Tokens.EndOfLine
import ScopePaint.Proofs.Tokens.EmptyBegins
import ScopePaint.Proofs.Document.Convergence
import ScopePaint.Proofs.Library.DanglingIncludes
import ScopePaint.Proofs.Library.Pruning
import ScopePaint.Proofs.Library.Policies
import ScopePaint.Proofs.Tokens.MissingPolicies
import ScopePaint.Proofs.Style.RunPartition
import ScopePaint.Proofs.Style.EmptyRanges
import ScopePaint.Proofs.Grammar.References
import ScopePaint.Proofs.Regex.EscapedText
import ScopePaint.Proofs.Regex.LiteralSearch
import ScopePaint.Proofs.Grammar.CapturedText
import ScopePaint.Proofs.Library.FoundOnce
import ScopePaint.Proofs.Theme.SelectorSettings
import ScopePaint.Proofs.Theme.RootStyling
import ScopePaint.Proofs.Style.TerminalCells
import ScopePaint.Proofs.Files.Directories
import ScopePaint.Proofs.Grammar.Usable
import ScopePaint.Proofs.Theme.ColorNotation
import ScopePaint.Proofs.Theme.ScopeAncestry
import ScopePaint.Proofs.Theme.ThemeFiles
import ScopePaint.Proofs.Library.GrammarFiles
import ScopePaint.Proofs.Files.Loading
import ScopePaint.Proofs.Tokens.LeastCandidate
import ScopePaint.Proofs.Tokens.Appending
import ScopePaint.Proofs.Tokens.AttributeOrder
import ScopePaint.Proofs.Theme.ColorForms
