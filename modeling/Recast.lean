import Recast.Main
import Recast.Proofs.Run.Step
import Recast.Proofs.Run.Frame
import Recast.Proofs.Pattern.Ends
import Recast.Proofs.Pattern.Threads
import Recast.Proofs.Pattern.Bridges
import Recast.Proofs.Braced
import Recast.Proofs.Catalog.AuthAccess
import Recast.Proofs.Catalog.HandlerText
import Recast.Proofs.Catalog.ImportEdits
import Recast.Proofs.Catalog.Migration
import Recast.Proofs.Catalog.Restoration
import Recast.Proofs.Run.Account
import Recast.Proofs.Run.DryRun
import Recast.Proofs.Run.Recovery
import Recast.Proofs.Catalog.Enums
import Recast.Proofs.Catalog.Reruns
import Recast.Proofs.OneShot
import Recast.Proofs.Catalog.Nesting
import Recast.Proofs.Catalog.ExtensionGroup
import Recast.Proofs.Catalog.Imports
import Recast.Proofs.Shuffling
import Recast.Proofs.Catalog.Orders
import Recast.Proofs.Cli.Arguments
import Recast.Proofs.Cli.OutputFlags
import Recast.Proofs.Run.Lockstep
import Recast.Proofs.Catalog.ImportPatches
import Recast.Proofs.Catalog.RevertedAccess
import Recast.Proofs.Catalog.FixedAccess
import Recast.Proofs.Catalog.AccessOrder
import Recast.Proofs.Catalog.AccessRoundTrip
import Recast.Proofs.Catalog.AccessCommutes
import Recast.Proofs.Catalog.AppStateImport
import Recast.Proofs.ByteSearch
import Recast.Proofs.Diff.Hunks
import Recast.Proofs.Diff.Reading
import Recast.Proofs.Diff.Unified
import Recast.Proofs.Pattern.Leftmost
import Recast.Proofs.Sweeps
import Recast.Proofs.Greedy
import Recast.Proofs.LineBlocks
import Recast.Proofs.Items
import Recast.Proofs.Acceptance
import Recast.Proofs.Run.Firings
import Recast.Proofs.Catalog.AuthParameter
import Recast.Proofs.Catalog.PoolTypes
import Recast.Proofs.Catalog.CountStatements
import Recast.Proofs.Catalog.EnumRepair
import Recast.Proofs.Catalog.UnusedState
import Recast.Proofs.Catalog.ImportGroups
import Recast.Proofs.Pattern.Avoids
import Recast.Proofs.Linewise
import Recast.Proofs.Catalog.InPlace
