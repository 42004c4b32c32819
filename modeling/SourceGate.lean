import SourceGate.Guard.Desk
import SourceGate.Main
import SourceGate.Proofs.Tree.Children
import SourceGate.Proofs.Verdict.Occurrence
import SourceGate.Proofs.Verdict.Walk
import SourceGate.Proofs.Tree.Subterm
import SourceGate.Proofs.Verdict.Silence
import SourceGate.Proofs.Verdict.Reach
import SourceGate.Proofs.Verdict.Hit
import SourceGate.Proofs.Verdict.Reported
import SourceGate.Proofs.Verdict.Grounds
import SourceGate.Proofs.Verdict.Leaves
import SourceGate.Proofs.Recast.Tree
import SourceGate.Proofs.Recast.Following
import SourceGate.Proofs.Recast.Walk
import SourceGate.Proofs.Recast.Folding
import SourceGate.Proofs.Recast.Splitting
import SourceGate.Proofs.Renaming.Tree
import SourceGate.Proofs.Renaming.Verdict
import SourceGate.Proofs.Verdict.Surface
import SourceGate.Proofs.Verdict.Relaxing
import SourceGate.Proofs.Verdict.Blocks
import SourceGate.Proofs.Verdict.Nested
import SourceGate.Proofs.Verdict.Scope
import SourceGate.Proofs.Verdict.Lookup
import SourceGate.Proofs.Verdict.Computed
import SourceGate.Proofs.Verdict.Indirection
import SourceGate.Proofs.Verdict.Owner
import SourceGate.Proofs.Verdict.Listing
import SourceGate.Proofs.Verdict.Opening
import SourceGate.Proofs.Verdict.Shadow
import SourceGate.Proofs.Verdict.Identity
import SourceGate.Proofs.Script.Census
import SourceGate.Proofs.Lowering.Image
import SourceGate.Proofs.Lowering.Expression
import SourceGate.Proofs.Lowering.Statement
import SourceGate.Proofs.Lowering.Accounting
import SourceGate.Proofs.Lowering.Stores
import SourceGate.Proofs.Lowering.Pattern
import SourceGate.Proofs.Lowering.Routes
import SourceGate.Proofs.Lowering.Identities
import SourceGate.Proofs.Lowering.Distinct
import SourceGate.Proofs.Guard.Single
import SourceGate.Proofs.Guard.Stale
import SourceGate.Proofs.Namespace.Imports
import SourceGate.Proofs.Namespace.Symbols
import SourceGate.Proofs.Namespace.Names
import SourceGate.Proofs.Policy.Stream
import SourceGate.Proofs.Policy.Tables
import SourceGate.Proofs.Policy.Lists
import SourceGate.Proofs.Config.Loaded
import SourceGate.Proofs.Config.Layering
import SourceGate.Proofs.Config.Durations
import SourceGate.Proofs.Config.InPlace
import SourceGate.Proofs.CommandLine.Status
import SourceGate.Proofs.Gate.Cancellation
import SourceGate.Proofs.Gate.Sessions
import SourceGate.Proofs.Gate.Account
import SourceGate.Proofs.Run.Alike
import SourceGate.Proofs.Gate.Discretion
import SourceGate.Proofs.Gate.Overload
import SourceGate.Proofs.Text.LineStarts
import SourceGate.Proofs.Verdict.Selection
import SourceGate.Proofs.Lowering.Integers
