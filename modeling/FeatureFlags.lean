import FeatureFlags.Client.Perform
import FeatureFlags.Expression.Evaluator
import FeatureFlags.Flag.Register
import FeatureFlags.Impression.Hub
import FeatureFlags.Json.Attribute
import FeatureFlags.Log
import FeatureFlags.Proofs.Grammar
import FeatureFlags.Proofs.Meaning
import FeatureFlags.Proofs.Lexeme
import FeatureFlags.Proofs.Change
import FeatureFlags.Proofs.Conduct
import FeatureFlags.Proofs.History
import FeatureFlags.Proofs.Performing
import FeatureFlags.Proofs.Noting
import FeatureFlags.Proofs.Binding
import FeatureFlags.Proofs.Report
import FeatureFlags.Proofs.Refresh
import FeatureFlags.Proofs.Dynamic
import FeatureFlags.Proofs.Refusal
import FeatureFlags.Proofs.Traffic
import FeatureFlags.Proofs.Overtaking
import FeatureFlags.Proofs.Asking
import FeatureFlags.Proofs.HalfAdded
import FeatureFlags.Proofs.Stepping
import FeatureFlags.Proofs.Balance
import FeatureFlags.Proofs.Fanout
import FeatureFlags.Proofs.Truncation
import FeatureFlags.Proofs.Control
import FeatureFlags.Proofs.Percentage
import FeatureFlags.Proofs.Decision
import FeatureFlags.Proofs.Versions
import FeatureFlags.Proofs.Interference
import FeatureFlags.Proofs.Overlay
import FeatureFlags.Proofs.Announcing
import FeatureFlags.Proofs.Registration
import FeatureFlags.Proofs.Options
import FeatureFlags.Proofs.Logic
import FeatureFlags.Proofs.Rounding
import FeatureFlags.Proofs.Shortest
import FeatureFlags.Proofs.Rendering
import FeatureFlags.Proofs.Properties
