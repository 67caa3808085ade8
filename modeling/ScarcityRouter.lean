import ScarcityRouter.Selector.Lowered
import ScarcityRouter.Routing.PublicDocument
import ScarcityRouter.Routing.Reordering
import ScarcityRouter.Gateway.Tombstones
import ScarcityRouter.Worker.Settlements
import ScarcityRouter.Worker.Rotation
import ScarcityRouter.ServerStore.Evidence
import ScarcityRouter.ServerStore.Producer
import ScarcityRouter.Worker.Deadline
import ScarcityRouter.Gateway.LogicalModels
import ScarcityRouter.Gateway.Dispatches
import ScarcityRouter.ControlPlane.KeyRevocation
import ScarcityRouter.Gateway.Framing
import ScarcityRouter.Gateway.ResponsesOutcome
import ScarcityRouter.Gateway.Synthesis
import ScarcityRouter.Gateway.ResponsesInput
import ScarcityRouter.ControlPlane.AuditSink
import ScarcityRouter.ControlPlane.ResourceEdits
import ScarcityRouter.Worker.ResultConversion
import ScarcityRouter.Providers.CodexEligibility
import ScarcityRouter.Providers.ZaiAcquisition
import ScarcityRouter.Selector.Simulation
import ScarcityRouter.MiEvidence
import ScarcityRouter.Worker.LocalRecords
import ScarcityRouter.ServerStore.RecoveryCrashes
import ScarcityRouter.Registry.Normalization
import ScarcityRouter.ScarcityContract
import ScarcityRouter.WeeklyWindows
import ScarcityRouter.Gateway.KernelBinding
import ScarcityRouter.Registry.DerivedIds
import ScarcityRouter.Providers.BoundedLines
import ScarcityRouter.Gateway.SafeIdentifiers
