import K8sR8r.ClusterGone
import K8sR8r.RivalReplications
import K8sR8r.FinalizerHandshake
import K8sR8r.DiscoveryEvents
import K8sR8r.SpokeWirer
import K8sR8r.MalformedRequests
import K8sR8r.RecreatedSources
import K8sR8r.RenderedReplicas
import K8sR8r.ClusterManager
import K8sR8r.DriftDetector
import K8sR8r.PayloadSecrecy
import K8sR8r.PolicyDecisions
import K8sR8r.OptionLattice
import K8sR8r.ConflictWarning
import K8sR8r.StatusStability
import K8sR8r.EventLimiter
import K8sR8r.TargetResolution
import K8sR8r.FailedReads
import K8sR8r.ReadinessFlaps
import K8sR8r.AuthorityMark
import K8sR8r.TokenRotator
import K8sR8r.ProbeBackoff
import K8sR8r.BackoffOverflow
import K8sR8r.ReplicationNames
import K8sR8r.RevocationDetection
import K8sR8r.GarbageAccounting
import K8sR8r.VersionNegotiation
