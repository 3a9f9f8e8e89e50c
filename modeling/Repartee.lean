import Repartee.Brain.Basic
import Repartee.Brain.Reply
import Repartee.Condition
import Repartee.Decimal
import Repartee.Dice
import Repartee.Document.Basic
import Repartee.Document.Builder
import Repartee.Document.Json
import Repartee.Json.Basic
import Repartee.Json.Reader
import Repartee.Json.Record
import Repartee.Macro.Basic
import Repartee.Macro.Stock
import Repartee.Macro.Words
import Repartee.Options.Basic
import Repartee.Options.Config
import Repartee.Pattern.Basic
import Repartee.Pattern.Check
import Repartee.Pattern.Matcher
import Repartee.Pattern.Metadata
import Repartee.Regex.Basic
import Repartee.Regex.Engine
import Repartee.Regex.Reader
import Repartee.Regex.Search
import Repartee.Reply.Calls
import Repartee.Reply.Choice
import Repartee.Reply.Expand
import Repartee.Reply.Resolve
import Repartee.Reply.Shorthand
import Repartee.Reply.Turn
import Repartee.Reply.Variables
import Repartee.Script.Basic
import Repartee.Script.Load
import Repartee.Script.Match
import Repartee.Session.History
import Repartee.Session.Store
import Repartee.Session.UserData
import Repartee.Substitution
import Repartee.Table
import Repartee.Text.Alphanumeric
import Repartee.Text.Basic
import Repartee.Text.Blank
import Repartee.Text.CaseIgnorable
import Repartee.Text.CaseTable
import Repartee.Text.Cased
import Repartee.Text.Casing
import Repartee.Text.Category
import Repartee.Text.Digit
import Repartee.Text.Folding
import Repartee.Text.LeadingInt
import Repartee.Text.Numeral
import Repartee.Text.Ranges
import Repartee.Text.Seek
import Repartee.Text.WordChar
import Repartee.Toml.Basic
import Repartee.Toml.Reader
import Repartee.Topic.Graph
import Repartee.Topic.Order
import Repartee.Proofs.Regex.Language
import Repartee.Proofs.Brain.Reachable
import Repartee.Proofs.Pattern.Language
import Repartee.Proofs.Pattern.Legible
import Repartee.Proofs.Pattern.Matching
import Repartee.Proofs.Topic.Graph
import Repartee.Proofs.Topic.Order
import Repartee.Proofs.Brain.History
import Repartee.Proofs.Brain.Selection
import Repartee.Proofs.Brain.Loading
import Repartee.Proofs.Brain.Bookkeeping
import Repartee.Proofs.Script.Normal
import Repartee.Proofs.Brain.Echo
import Repartee.Proofs.Text.Casing
import Repartee.Proofs.Macro.Clear
import Repartee.Proofs.Regex.Captures
import Repartee.Proofs.Script.Clear
import Repartee.Proofs.Reply.Marks
import Repartee.Proofs.Reply.Prepare
import Repartee.Proofs.Reply.Clear
import Repartee.Proofs.Brain.Markers
import Repartee.Proofs.Session.Cell
import Repartee.Proofs.Brain.Fresh
import Repartee.Proofs.Topic.Inheritance
import Repartee.Proofs.Reply.Course
import Repartee.Proofs.Brain.Termination
import Repartee.Proofs.Brain.Splitting
import Repartee.Proofs.Brain.Identifiers
import Repartee.Proofs.Document.Rendering
import Repartee.Proofs.Brain.PassThrough
import Repartee.Proofs.Brain.Ready
import Repartee.Proofs.Pattern.Tidy
import Repartee.Proofs.Pattern.Guarded
import Repartee.Proofs.Pattern.Stars
import Repartee.Proofs.Pattern.Slots
import Repartee.Proofs.Pattern.Optionals
import Repartee.Proofs.Script.Tree
import Repartee.Proofs.Text.Lower
import Repartee.Proofs.Text.Tokens
import Repartee.Proofs.Substitution.Scan
import Repartee.Proofs.Substitution.Found
import Repartee.Proofs.Substitution.Priority
import Repartee.Proofs.Pattern.OwnText
import Repartee.Proofs.Pattern.Numbering
import Repartee.Proofs.Topic.Walks
import Repartee.Proofs.Reply.Template
import Repartee.Proofs.Reply.Verbatim
import Repartee.Proofs.Macro.Words
import Repartee.Proofs.Macro.Layout
import Repartee.Proofs.Reply.Arguments
import Repartee.Proofs.Reply.Weights
import Repartee.Proofs.Reply.Arrays
import Repartee.Proofs.Text.LeadingInt
import Repartee.Proofs.Condition.Reading
import Repartee.Proofs.Reply.Conditions
import Repartee.Proofs.Condition.Check
import Repartee.Proofs.Reply.Arithmetic
import Repartee.Proofs.Text.Gaps
import Repartee.Proofs.Script.Gaps
import Repartee.Proofs.Pattern.Fixed
import Repartee.Proofs.Brain.Redirects
import Repartee.Proofs.Reply.Values
import Repartee.Proofs.Brain.Assignments
import Repartee.Proofs.Pattern.Metadata
import Repartee.Proofs.Pattern.Tags
import Repartee.Proofs.Topic.Rank
import Repartee.Proofs.Topic.Previous
import Repartee.Proofs.Brain.CatchAll
