import K8sClue.Timeline.PinSets
import K8sClue.SourcePatch.Reapplied
import K8sClue.SourcePatch.Rollback
import K8sClue.Recovery.MergeScope
import K8sClue.Recovery.EvidenceRaces
import K8sClue.Recovery.WorkflowRuns
import K8sClue.Recovery.Attempts
import K8sClue.History.Resources
import K8sClue.Timeline.ClosedGaps
import K8sClue.Inventory.LedgerAgreement
import K8sClue.Inventory.StaleSnapshots
import K8sClue.Inventory.EventsTold
import K8sClue.Evidence.FairLimits
import K8sClue.Evidence.PodDeletions
import K8sClue.Events.Acknowledgements
import K8sClue.Events.RelayRuns
import K8sClue.Events.DeadLetters
import K8sClue.Inventory.LateLockRuns
import K8sClue.Inventory.EventKeys
import K8sClue.Timeline.ReplayRuns
import K8sClue.Rca.MergedCauses
import K8sClue.Rca.EvidenceKeys
import K8sClue.Evidence.WindowRuns
import K8sClue.Catalog.QualityRuns
import K8sClue.Catalog.Lineage
import K8sClue.Catalog.DailyStatus
import K8sClue.Catalog.Pages
import K8sClue.EvidenceJobs.QueueRuns
import K8sClue.Rca.Webhook
import K8sClue.SourcePatch.PatchTargets
import K8sClue.Security.Redaction
