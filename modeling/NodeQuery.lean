import NodeQuery.Text.Blank
import NodeQuery.Text.Escape
import NodeQuery.Text.Mark
import NodeQuery.Text.Enclosure
import NodeQuery.Text.Scan
import NodeQuery.Text.Letter
import NodeQuery.Text.Visible
import NodeQuery.Number.Binary64
import NodeQuery.Number.Numeral
import NodeQuery.Number.Shortest
import NodeQuery.Text.Quoted
import NodeQuery.Json.Basic
import NodeQuery.Json.Printer
import NodeQuery.Json.Reader
import NodeQuery.Selector.Kind
import NodeQuery.Selector.Error
import NodeQuery.Selector.Value
import NodeQuery.Selector.Attribute
import NodeQuery.Selector.Path
import NodeQuery.Selector.Pseudo
import NodeQuery.Selector.Simple
import NodeQuery.Selector.Sequence
import NodeQuery.Selector.Basic
import NodeQuery.Selector.Reader
import NodeQuery.Selector.Tree
import NodeQuery.Build.Event
import NodeQuery.Build.Registry
import NodeQuery.Build.Builder
import NodeQuery.Filter.Config
import NodeQuery.Filter.PathTable
import NodeQuery.Filter.Pattern
import NodeQuery.Filter.Change
import NodeQuery.Filter.Plan
import NodeQuery.Filter.Listener
import NodeQuery.Command.Arguments
import NodeQuery.Command.Folder
import NodeQuery.Command.Root
import NodeQuery.Command.Run
import NodeQuery.Main
import NodeQuery.Proofs.Outcome
import NodeQuery.Proofs.Number.Grammar
import NodeQuery.Proofs.Number.Nearest
import NodeQuery.Proofs.Number.ReadBack
import NodeQuery.Proofs.Text.Marking
import NodeQuery.Proofs.Text.Search
import NodeQuery.Proofs.Text.Hiding
import NodeQuery.Proofs.Text.Parts
import NodeQuery.Proofs.Selector.Literal
import NodeQuery.Proofs.Selector.Condition
import NodeQuery.Proofs.Selector.Attribute
import NodeQuery.Proofs.Selector.Path
import NodeQuery.Proofs.Selector.Pseudo
import NodeQuery.Proofs.Selector.Simple
import NodeQuery.Proofs.Selector.Sequence
import NodeQuery.Proofs.Selector.Chain
import NodeQuery.Proofs.Selector.SequenceList
import NodeQuery.Proofs.Selector.Editing
import NodeQuery.Proofs.Selector.Shape
import NodeQuery.Proofs.Selector.Reader
import NodeQuery.Proofs.Selector.RoundTrip
import NodeQuery.Proofs.Selector.Agreement
import NodeQuery.Proofs.Selector.Spacing
import NodeQuery.Proofs.Selector.Splitting
import NodeQuery.Proofs.Build.Compiler
import NodeQuery.Proofs.Build.Dispatch
import NodeQuery.Proofs.Build.History
import NodeQuery.Proofs.Filter.Fold
import NodeQuery.Proofs.Filter.Survival
import NodeQuery.Proofs.Filter.Denial
import NodeQuery.Proofs.Filter.Translation
import NodeQuery.Proofs.Filter.Form
import NodeQuery.Proofs.Filter.Repetition
import NodeQuery.Proofs.Selector.Cutting
import NodeQuery.Proofs.Selector.Zeros
import NodeQuery.Proofs.Selector.WellFormed
import NodeQuery.Proofs.Selector.JsonForm
import NodeQuery.Proofs.Selector.Distinction
import NodeQuery.Proofs.Build.Omission
import NodeQuery.Proofs.Build.Transparency
import NodeQuery.Proofs.Filter.Session
import NodeQuery.Proofs.Filter.Ownership
import NodeQuery.Proofs.Text.Slicing
import NodeQuery.Proofs.Filter.Expression
import NodeQuery.Proofs.Filter.Equality
import NodeQuery.Proofs.Selector.Ending
import NodeQuery.Proofs.Selector.Emptiness
import NodeQuery.Proofs.Selector.Filling
import NodeQuery.Proofs.Selector.SequenceSpacing
import NodeQuery.Proofs.Selector.Rereading
import NodeQuery.Proofs.Text.Matching
import NodeQuery.Proofs.Filter.Substring
import NodeQuery.Proofs.Filter.Denotation
import NodeQuery.Proofs.Filter.EscapedPath
import NodeQuery.Proofs.Filter.Independence
import NodeQuery.Proofs.Filter.KeyedWrites
import NodeQuery.Proofs.Filter.Frame
import NodeQuery.Proofs.Selector.SequenceEditing
import NodeQuery.Proofs.Filter.PathLookup
import NodeQuery.Proofs.Command.RootArgument
import NodeQuery.Proofs.Selector.LiteralGrammar
import NodeQuery.Proofs.Text.Trimming
import NodeQuery.Proofs.Text.Guarding
import NodeQuery.Proofs.Text.Enclosing
import NodeQuery.Proofs.Selector.Failure
