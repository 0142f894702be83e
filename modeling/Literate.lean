import Literate.Block
import Literate.Command
import Literate.Command.Arguments
import Literate.Command.Job
import Literate.Condition
import Literate.Datum
import Literate.Directive
import Literate.Expansion
import Literate.Extension
import Literate.Extractor
import Literate.Failure
import Literate.Fault
import Literate.Fence
import Literate.FileTree
import Literate.Filter
import Literate.Fragment
import Literate.Highlight
import Literate.Highlight.Pattern
import Literate.Include
import Literate.Line
import Literate.Main
import Literate.Output
import Literate.Path
import Literate.Reference
import Literate.Run
import Literate.Script.Check
import Literate.Script.Eval
import Literate.Script.Grammar
import Literate.Script.Known
import Literate.Script.Literal
import Literate.Script.Matcher
import Literate.Script.Parser
import Literate.Script.Program
import Literate.Script.Read
import Literate.Script.Reader
import Literate.Script.Rule
import Literate.Script.Scope
import Literate.Script.Store
import Literate.Script.Template
import Literate.Script.Token
import Literate.Script.Tree
import Literate.Script.View
import Literate.SelfTest
import Literate.SelfTest.Documents
import Literate.Settings
import Literate.Settings.EnvFile
import Literate.Settings.Sources
import Literate.Sieve
import Literate.Table
import Literate.Tangle
import Literate.Text.Alphanumeric
import Literate.Text.Basic
import Literate.Text.Blank
import Literate.Text.Case
import Literate.Text.CaseTable
import Literate.Text.Digit
import Literate.Text.Escaped
import Literate.Text.FormTable
import Literate.Text.Identifier
import Literate.Text.Lines
import Literate.Text.NormalForm
import Literate.Text.Number
import Literate.Text.Printable
import Literate.Text.Quoted
import Literate.Text.Ranges
import Literate.Value
import Literate.Weave
import Literate.Proofs.Run
import Literate.Proofs.FileTrees
import Literate.Proofs.AllOrNothing
import Literate.Proofs.Texts
import Literate.Proofs.Segment
import Literate.Proofs.Positions
import Literate.Proofs.Registered
import Literate.Proofs.ExtractBlock
import Literate.Proofs.DepthBound
import Literate.Proofs.Branches
import Literate.Proofs.Escape
import Literate.Proofs.Fences
import Literate.Proofs.Includes
import Literate.Proofs.Tours
import Literate.Proofs.SearchOrder
import Literate.Proofs.Extraction
import Literate.Proofs.Verbatim
import Literate.Proofs.IncludeBound
import Literate.Proofs.FailurePath
import Literate.Proofs.Session
import Literate.Proofs.WholeLines
import Literate.Proofs.Renaming
import Literate.Proofs.Reachability
import Literate.Proofs.Validation
import Literate.Proofs.Weaving
import Literate.Proofs.Merging
import Literate.Proofs.Reordering
import Literate.Proofs.CleanLines
import Literate.Proofs.FullExpansion
import Literate.Proofs.Tokenizing
import Literate.Proofs.Overlaps
import Literate.Proofs.Rendering
import Literate.Proofs.Splicing
import Literate.Proofs.LiteralBodies
import Literate.Proofs.Inlining
import Literate.Proofs.LineBoundaries
import Literate.Proofs.Regions
import Literate.Proofs.CallOrder
import Literate.Proofs.Headers
import Literate.Proofs.DirectiveGrammar
import Literate.Proofs.FilterChains
import Literate.Proofs.Margins
import Literate.Proofs.Highlighting
import Literate.Proofs.Matching
import Literate.Proofs.FenceTokens
import Literate.Proofs.IncludeRecords
import Literate.Proofs.LineSplitting
import Literate.Proofs.FailedLines
