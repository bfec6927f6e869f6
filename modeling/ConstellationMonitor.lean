import ConstellationMonitor.Evaluation.Lineage
import ConstellationMonitor.Evaluation.Escalations
import ConstellationMonitor.Runtime.Registration
import ConstellationMonitor.Runtime.Scheduler
import ConstellationMonitor.Runtime.Qualified
import ConstellationMonitor.Runtime.Isolation
import ConstellationMonitor.Runtime.Arrivals
import ConstellationMonitor.Runtime.PolicyIdentity
import ConstellationMonitor.Custody.Replay
import ConstellationMonitor.Journal.Recovery
import ConstellationMonitor.Attention.Faults
import ConstellationMonitor.Attention.Trace
import ConstellationMonitor.Attention.Retries
import ConstellationMonitor.Remediation.PriorCampaign
import ConstellationMonitor.Concerns.Producer
import ConstellationMonitor.Concerns.Termination
import ConstellationMonitor.Support.Predicate
import ConstellationMonitor.Support.Intake
import ConstellationMonitor.Status.FilesystemCapacity
import ConstellationMonitor.Status.Render
import ConstellationMonitor.Concerns.Timestamp
