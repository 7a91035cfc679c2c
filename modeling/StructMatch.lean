import StructMatch.Assoc
import StructMatch.Capture.Bindings
import StructMatch.Literal.Basic
import StructMatch.Matching.Execution
import StructMatch.Number.Layout
import StructMatch.Options
import StructMatch.Pattern.Plain
import StructMatch.Pattern.Printer
import StructMatch.Program.Listing
import StructMatch.Program.Lowering
import StructMatch.Regex.Engine
import StructMatch.Rule.Cache
import StructMatch.Value.Printer
import StructMatch.Proofs.Matching.Equations
import StructMatch.Proofs.Pattern.Induction
import StructMatch.Proofs.Pattern.WellFormed
import StructMatch.Proofs.Program.Layout
import StructMatch.Proofs.Program.Refusal
import StructMatch.Proofs.Program.Running
import StructMatch.Proofs.Assoc.Members
import StructMatch.Proofs.Pattern.Constructible
import StructMatch.Proofs.Matching.Denotation
import StructMatch.Proofs.Matching.Runs
import StructMatch.Proofs.Rule.Selection
import StructMatch.Proofs.Rule.Specializing
import StructMatch.Proofs.Assoc.Distinct
import StructMatch.Proofs.Number.Place
import StructMatch.Proofs.Value.Equality
import StructMatch.Proofs.Literal.Agreement
import StructMatch.Proofs.Matching.Meaning
import StructMatch.Proofs.Matching.Lifting
import StructMatch.Proofs.Matching.Congruence
import StructMatch.Proofs.Matching.Replacing
import StructMatch.Proofs.Program.Range
import StructMatch.Proofs.Rule.Answering
import StructMatch.Proofs.Rule.History
import StructMatch.Proofs.Number.Real
import StructMatch.Proofs.Matching.Frame
import StructMatch.Proofs.Value.Similarity
import StructMatch.Proofs.Matching.EntryOrder
import StructMatch.Proofs.Matching.SelfMatching
import StructMatch.Proofs.Pattern.Crowded
import StructMatch.Proofs.Program.Induction
import StructMatch.Proofs.Matching.DefiniteKeys
import StructMatch.Proofs.Program.Windows
import StructMatch.Proofs.Rule.DefiniteKeys
import StructMatch.Proofs.Matching.Leaves
import StructMatch.Proofs.Matching.Events
import StructMatch.Proofs.Assoc.Filling
import StructMatch.Proofs.Rule.Lenience
import StructMatch.Proofs.Matching.Relaxing
import StructMatch.Proofs.Program.Evaluation
import StructMatch.Proofs.Program.Listing
import StructMatch.Proofs.Matching.Grouping
import StructMatch.Proofs.Capture.LastWrites
