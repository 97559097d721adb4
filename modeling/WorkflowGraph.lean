import WorkflowGraph.CommandLine.Arguments
import WorkflowGraph.CommandLine.Execution
import WorkflowGraph.Condition.Evaluation
import WorkflowGraph.Condition.Explanation
import WorkflowGraph.Condition.Expr
import WorkflowGraph.Condition.Operand
import WorkflowGraph.Condition.Parser
import WorkflowGraph.Condition.Reference
import WorkflowGraph.Document.Basic
import WorkflowGraph.Document.Directory
import WorkflowGraph.Document.Format
import WorkflowGraph.Document.Loading
import WorkflowGraph.Graph.Basic
import WorkflowGraph.Graph.Diagnostic
import WorkflowGraph.Graph.Run
import WorkflowGraph.Graph.Selection
import WorkflowGraph.Graph.Trace
import WorkflowGraph.Graph.Validation
import WorkflowGraph.Json.Basic
import WorkflowGraph.Json.Escape
import WorkflowGraph.Json.Fields
import WorkflowGraph.Json.Printer
import WorkflowGraph.Json.Reader
import WorkflowGraph.Main
import WorkflowGraph.Number.Binary64
import WorkflowGraph.Number.Numeral
import WorkflowGraph.Number.Shortest
import WorkflowGraph.Proofs.Acyclic
import WorkflowGraph.Proofs.Budgets
import WorkflowGraph.Proofs.ByteOrder
import WorkflowGraph.Proofs.Changes
import WorkflowGraph.Proofs.Clauses
import WorkflowGraph.Proofs.Connectives
import WorkflowGraph.Proofs.CycleCompleteness
import WorkflowGraph.Proofs.CycleReports
import WorkflowGraph.Proofs.CycleSearch
import WorkflowGraph.Proofs.Declarations
import WorkflowGraph.Proofs.Dependence
import WorkflowGraph.Proofs.Division
import WorkflowGraph.Proofs.Ending
import WorkflowGraph.Proofs.Explanations
import WorkflowGraph.Proofs.Findings
import WorkflowGraph.Proofs.Guard
import WorkflowGraph.Proofs.Itinerary
import WorkflowGraph.Proofs.LastWrites
import WorkflowGraph.Proofs.Literals
import WorkflowGraph.Proofs.Mentions
import WorkflowGraph.Proofs.Operands
import WorkflowGraph.Proofs.Progress
import WorkflowGraph.Proofs.Pruning
import WorkflowGraph.Proofs.Quoting
import WorkflowGraph.Proofs.Reachability
import WorkflowGraph.Proofs.Recognition
import WorkflowGraph.Proofs.Reordering
import WorkflowGraph.Proofs.Replay
import WorkflowGraph.Proofs.Retyping
import WorkflowGraph.Proofs.Selection
import WorkflowGraph.Proofs.Simulation
import WorkflowGraph.Proofs.Spelling
import WorkflowGraph.Proofs.Trimming
import WorkflowGraph.Proofs.Walk
import WorkflowGraph.Schema
import WorkflowGraph.Settings.Budget
import WorkflowGraph.Settings.EnvFile
import WorkflowGraph.Source.Basic
import WorkflowGraph.Source.Record
import WorkflowGraph.Source.Scalar
import WorkflowGraph.State
import WorkflowGraph.Text.AlphanumericRanges
import WorkflowGraph.Text.Blank
import WorkflowGraph.Text.Pieces
import WorkflowGraph.Text.Word
import WorkflowGraph.Text.WordRanges
import WorkflowGraph.Timestamp
import WorkflowGraph.Yaml.Anchor
import WorkflowGraph.Yaml.Cursor
import WorkflowGraph.Yaml.Lexeme
import WorkflowGraph.Yaml.Lexer
import WorkflowGraph.Yaml.Reader
import WorkflowGraph.Yaml.Tag
import WorkflowGraph.Yaml.Token
import WorkflowGraph.Yaml.Tree
import WorkflowGraph.Proofs.Equality
import WorkflowGraph.Proofs.Decimals
import WorkflowGraph.Proofs.Containment
import WorkflowGraph.Proofs.LiteralValues
import WorkflowGraph.Proofs.SchemaChecks
import WorkflowGraph.Proofs.StateChecks
import WorkflowGraph.Proofs.Locations
import WorkflowGraph.Proofs.NestedFields
import WorkflowGraph.Proofs.Decoded
import WorkflowGraph.Proofs.RoundTrip
import WorkflowGraph.Proofs.ArrayNumbers
import WorkflowGraph.Proofs.DecisionBlocks
