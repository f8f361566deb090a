import Reconciler.CommandLine
import Reconciler.Json.Pointer
import Reconciler.Main
import Reconciler.Proofs.Attempts
import Reconciler.Proofs.ConditionHistory
import Reconciler.Proofs.Incarnations
import Reconciler.Proofs.Instances
import Reconciler.Proofs.Leftovers
import Reconciler.Proofs.NamedInstances
import Reconciler.Proofs.PagedLookup
import Reconciler.Proofs.Progress
import Reconciler.Proofs.ProviderErrors
import Reconciler.Proofs.Publication
import Reconciler.Proofs.Quiescence
import Reconciler.Proofs.Storage
import Reconciler.Proofs.Tokens
import Reconciler.Proofs.Vanished
import Reconciler.Proofs.Waking
import Reconciler.Proofs.Withdrawal
import Reconciler.Proofs.Workspaces
import Reconciler.Simulation.Format
import Reconciler.Web
