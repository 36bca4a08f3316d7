import Refit.Decimal.Binary
import Refit.Decimal.Layout
import Refit.Decimal.Shortest
import Refit.Decimal.Single
import Refit.Digest
import Refit.Error
import Refit.Execution.Handle
import Refit.Execution.Heap
import Refit.Execution.Host
import Refit.Execution.Run
import Refit.Execution.Script
import Refit.Execution.Sequence
import Refit.Execution.StandIn
import Refit.Expression.Evaluation
import Refit.Expression.Token
import Refit.Fault
import Refit.Fitting.Adapter
import Refit.Fitting.Cache
import Refit.Fitting.Fitter
import Refit.Inheritance.Pool
import Refit.Inheritance.Reach
import Refit.Inheritance.Resolution
import Refit.Json.Outline
import Refit.Json.Reader
import Refit.Json.Value
import Refit.Json.Writer
import Refit.Matching.Candidate
import Refit.Matching.Conversion
import Refit.Matching.Matcher
import Refit.Matching.Orders
import Refit.Matching.Rule
import Refit.Proofs.Association
import Refit.Proofs.Decimal.Addition
import Refit.Proofs.Decimal.Characters
import Refit.Proofs.Decimal.Rounding
import Refit.Proofs.Decimal.Singles
import Refit.Proofs.Execution.Calls
import Refit.Proofs.Execution.Carrying
import Refit.Proofs.Execution.Faults
import Refit.Proofs.Execution.Moments
import Refit.Proofs.Execution.Producers
import Refit.Proofs.Execution.Propagation
import Refit.Proofs.Execution.Results
import Refit.Proofs.Execution.Scripts
import Refit.Proofs.Execution.Sights
import Refit.Proofs.Execution.StandIns
import Refit.Proofs.Execution.Unwrapping
import Refit.Proofs.Execution.Worlds
import Refit.Proofs.Execution.Renumbering
import Refit.Proofs.Expression.Likeness
import Refit.Proofs.Execution.Mirrors
import Refit.Proofs.Execution.Isolation
import Refit.Proofs.Execution.Locality
import Refit.Proofs.Execution.Logs
import Refit.Proofs.Execution.Answers
import Refit.Proofs.Execution.Blindness
import Refit.Proofs.Execution.Counterparts
import Refit.Proofs.Execution.Discretion
import Refit.Proofs.Expression.Evaluation
import Refit.Proofs.Firsts
import Refit.Proofs.Fitting.Cache
import Refit.Proofs.Fitting.Dependencies
import Refit.Proofs.Fitting.Feasibility
import Refit.Proofs.Fitting.Fingerprint
import Refit.Proofs.Fitting.Generation
import Refit.Proofs.Fitting.Reordering
import Refit.Proofs.Fitting.Soundness
import Refit.Proofs.Fitting.Transparency
import Refit.Proofs.Fitting.WellFormed
import Refit.Proofs.Inheritance.Chains
import Refit.Proofs.Inheritance.Closure
import Refit.Proofs.Inheritance.Hierarchies
import Refit.Proofs.Inheritance.Incremental
import Refit.Proofs.Inheritance.Reach
import Refit.Proofs.Inheritance.Shadowing
import Refit.Proofs.Inheritance.Subtyping
import Refit.Proofs.Json.Compact
import Refit.Proofs.Json.Outlines
import Refit.Proofs.Json.Quoting
import Refit.Proofs.Matching.Arrangements
import Refit.Proofs.Matching.Backtracking
import Refit.Proofs.Matching.Candidates
import Refit.Proofs.Matching.Completeness
import Refit.Proofs.Matching.Conversion
import Refit.Proofs.Matching.Preservation
import Refit.Proofs.Matching.Soundness
import Refit.Proofs.Mentions
import Refit.Proofs.Ranking.Choices
import Refit.Proofs.Ranking.Combinations
import Refit.Proofs.Ranking.EditDistance
import Refit.Proofs.Ranking.GreedyCuts
import Refit.Proofs.Ranking.Order
import Refit.Proofs.Ranking.Products
import Refit.Proofs.Ranking.Pruning
import Refit.Proofs.Ranking.Repetitions
import Refit.Proofs.Ranking.Ties
import Refit.Proofs.Ranking.Truncation
import Refit.Proofs.Sheet.Markers
import Refit.Proofs.Sheet.Order
import Refit.Proofs.Sheet.Paired
import Refit.Proofs.Sheet.Recorded
import Refit.Proofs.Sheet.References
import Refit.Proofs.Sheet.Referents
import Refit.Proofs.Sheet.Shape
import Refit.Proofs.Sheet.Counterparts
import Refit.Proofs.Trial.Numbering
import Refit.Proofs.Trial.Independence
import Refit.Proofs.Signature.Declarations
import Refit.Proofs.Signature.Describing
import Refit.Proofs.Signature.Reading
import Refit.Proofs.Signature.Writing
import Refit.Proofs.Store.Batches
import Refit.Proofs.Store.Ledger
import Refit.Proofs.Store.Ordering
import Refit.Proofs.Text.Pieces
import Refit.Proofs.Text.Trimming
import Refit.Proofs.Traversal
import Refit.Proofs.Trial.Agreement
import Refit.Proofs.Trial.Completeness
import Refit.Proofs.Trial.Journal
import Refit.Proofs.Trial.Statements
import Refit.Proofs.Trial.Storing
import Refit.Ranking.Cap
import Refit.Ranking.Combinations
import Refit.Ranking.Distance
import Refit.Ranking.NameDistance
import Refit.Ranking.Rank
import Refit.Samples.Echo
import Refit.Samples.Stacks
import Refit.Settings.Basic
import Refit.Settings.Files
import Refit.Sheet.Basic
import Refit.Sheet.Cell
import Refit.Sheet.Recorder
import Refit.Signature.Component
import Refit.Signature.Interface
import Refit.Signature.Member
import Refit.Signature.NameSet
import Refit.Signature.Primitive
import Refit.Signature.ValueType
import Refit.Store.Files
import Refit.Store.Folder
import Refit.Store.Ledger
import Refit.Store.Scope
import Refit.Text.Blank
import Refit.Text.Letter
import Refit.Text.Lower
import Refit.Text.Printable
import Refit.Text.Quoted
import Refit.Text.Ranges
import Refit.Trial.Report
import Refit.Trial.Run
import Refit.Trial.Similarity
import Refit.Value
import Refit.Wire.Candidates
import Refit.Wire.Declarations
import Refit.Wire.Hosts
import Refit.Wire.Reports
import Refit.Wire.Runs
import Refit.Wire.Settings
import Refit.Wire.Shape
import Refit.Wire.Values
import Refit.Proofs.Store.Documents
import Refit.Proofs.Store.Files
import Refit.Proofs.Store.Paths
import Refit.Proofs.Store.Folder
import Refit.Proofs.Store.Sharing
import Refit.Proofs.Store.Refusals
import Refit.Proofs.Decimal.Counting
import Refit.Proofs.Trial.Disjointness
import Refit.Proofs.Trial.Verdicts
import Refit.Proofs.Expression.Lexemes
import Refit.Proofs.Expression.Operators
import Refit.Proofs.Expression.Reading
import Refit.Proofs.Expression.Literals
import Refit.Proofs.Expression.Grammar
