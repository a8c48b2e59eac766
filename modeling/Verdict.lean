import Verdict.Main
import Verdict.Proofs.Calendar.Days
import Verdict.Proofs.Calendar.Differences
import Verdict.Proofs.Calendar.Moves
import Verdict.Proofs.Calendar.Seconds
import Verdict.Proofs.Compare.Coherence
import Verdict.Proofs.Compare.Failure
import Verdict.Proofs.Compare.Items
import Verdict.Proofs.Compare.Mirror
import Verdict.Proofs.Compare.Parts
import Verdict.Proofs.Decimal.Difference
import Verdict.Proofs.Definition.Acceptance
import Verdict.Proofs.Definition.RoundTrip
import Verdict.Proofs.Definition.Writing
import Verdict.Proofs.Equation.Forms
import Verdict.Proofs.Equation.Runs
import Verdict.Proofs.Formula.Compact
import Verdict.Proofs.Formula.Cuts
import Verdict.Proofs.Formula.Filter
import Verdict.Proofs.Formula.Negation
import Verdict.Proofs.Formula.Recognition
import Verdict.Proofs.Formula.Repair
import Verdict.Proofs.Formula.Sentence
import Verdict.Proofs.Keyed
import Verdict.Proofs.Paths
import Verdict.Proofs.RuleSet.Formula
import Verdict.Proofs.RuleSet.History
import Verdict.Proofs.RuleSet.Isolation
import Verdict.Proofs.RuleSet.Listing
import Verdict.Proofs.RuleSet.Numbering
import Verdict.Proofs.RuleSet.Reachable
import Verdict.Proofs.RuleSet.Records
import Verdict.Proofs.RuleSet.Trace
import Verdict.Proofs.Store.Map
import Verdict.Proofs.Store.Requests
import Verdict.Proofs.Store.Sessions
import Verdict.Proofs.Tree.Meaning
import Verdict.Proofs.Tree.Ranges
import Verdict.Proofs.Value.Dates
import Verdict.Proofs.Value.Durations
import Verdict.Proofs.Value.Inference
import Verdict.Proofs.Value.Kinds
import Verdict.Proofs.Value.Marks
import Verdict.Proofs.Value.Reports
import Verdict.Proofs.Value.Surroundings
import Verdict.Proofs.Value.Wholes
