import K8sR8r.ClusterDiscovery
import K8sR8r.EngineStatus
import K8sR8r.InteractionSystem
import K8sR8r.ReplicaConflict

/-!
# What the controllers call

Every effect of the controllers as a typed call: hub API requests, transport
requests to the spokes, discovery lookups, process memory, and the events and
metrics they emit.  The programs of the later modules are built from these
calls alone.
-/

namespace K8sR8r

/-! ## The hub API -/

/-- The metadata of a source object that a metadata-only client reads. -/
structure PartialObjectMetadata where
  groupVersionKind : GroupVersionKind
  ns : String
  name : String
  uid : String
  resourceVersion : Nat
  annotations : StringMap
  finalizers : List String
  deletionTimestamp : Option Nat
  deriving DecidableEq

def PartialObjectMetadata.key (obj : PartialObjectMetadata) : NamespacedName :=
  ⟨obj.ns, obj.name⟩

/-- Requests to the hub.  `patchSourceFinalizers` is the merge patch with
optimistic lock: it carries the resource version that was read and the new
finalizer list. -/
inductive HubCall where
  | getReplication (key : NamespacedName)
  | createReplication (rep : Replication)
  | updateReplication (rep : Replication)
  | updateReplicationStatus (rep : Replication)
  | deleteReplication (key : NamespacedName)
  | getSource (gvk : GroupVersionKind) (key : NamespacedName)
  | getSourceMetadata (gvk : GroupVersionKind) (key : NamespacedName)
  | patchSourceFinalizers (obj : PartialObjectMetadata)
  | listPolicies
  | getNamespaceLabels (name : String)

/-- Writes return the object as the server stored it. -/
@[reducible] def HubCall.Reply : HubCall → Type
  | .getReplication _ => ApiResult Replication
  | .createReplication _ => ApiResult Replication
  | .updateReplication _ => ApiResult Replication
  | .updateReplicationStatus _ => ApiResult Replication
  | .deleteReplication _ => ApiResult Unit
  | .getSource _ _ => ApiResult Unstructured
  | .getSourceMetadata _ _ => ApiResult PartialObjectMetadata
  | .patchSourceFinalizers _ => ApiResult PartialObjectMetadata
  | .listPolicies => ApiResult PolicyList
  | .getNamespaceLabels _ => ApiResult StringMap

/-! ## Events and metrics -/

structure SlotInfo where
  cluster : String
  ns : String
  name : String
  deriving DecidableEq

/-- The events the engine emits on a Replication. -/
inductive EngineEvent where
  | revocationRetained (cluster ns : String) (replicas : Nat)
  | revocationDeleted (cluster ns : String) (replicas : Nat)
  | ownershipRepaired (slot : SlotInfo)
  | driftCorrected (slot : SlotInfo) (observed expected : String)
  | conflict (slot : SlotInfo) (message : String)
  | adopted (slot : SlotInfo)
  | conflictOverwritten (slot : SlotInfo)
  | clusterGone (entry : InventoryEntry)
  | replicaOrphaned (entry : InventoryEntry)
  | ownershipStripped (entry : InventoryEntry)
  | cleanedUp (entry : InventoryEntry)
  | replicated (message : String)
  | notReady (reason message : String)
  deriving DecidableEq

structure ReplicaCounts where
  desired : Nat
  ready : Nat
  failed : Nat
  deriving DecidableEq

/-- Outcomes of the ownership-lost counter. -/
inductive OwnershipLostAction where
  | repaired
  | orphaned
  | deleted
  deriving DecidableEq

inductive EngineMetric where
  | revocation (action : RevocationPolicy)
  | policyDenial (dimension : Option Dimension)
  | ownershipLost (cluster : String) (action : OwnershipLostAction)
  | driftCorrection (cluster : String)
  | conflict (action : ConflictAction)
  | observeReplicas (owner : NamespacedName)
      (perCluster : List (String × ReplicaCounts))
  | forgetReplicas (owner : NamespacedName)
  deriving DecidableEq

/-- One event or metric, as handed to the recorder or the registry. -/
inductive EngineSignal where
  | event (event : EngineEvent)
  | metric (metric : EngineMetric)
  deriving DecidableEq

/-! ## The engine's calls -/

inductive EngineCall where
  | hub (call : HubCall)
  | lookupCluster (name : String)
  | transportGet (cluster : String) (gvk : GroupVersionKind)
      (key : NamespacedName)
  | transportApply (cluster : String) (obj : Unstructured)
  | transportDelete (cluster : String) (gvk : GroupVersionKind)
      (key : NamespacedName)
  | previousResult (uid : String)
  | storeResult (uid : String) (result : PolicyResult)
  | forgetResult (uid : String)
  | backoffFailure (rep : NamespacedName) (cluster : String)
  | backoffSuccess (rep : NamespacedName) (cluster : String)
  | backoffForget (rep : NamespacedName)
  | limiterForget (uid : String)
  | ensureWatch (cluster : String) (gvk : GroupVersionKind)
  | now
  | emit (signal : EngineSignal)

@[reducible] def EngineCall.Reply : EngineCall → Type
  | .hub call => call.Reply
  | .lookupCluster _ => Option ClusterRecord
  | .transportGet _ _ _ => ApiResult Unstructured
  | .transportApply _ _ => ApiResult Unit
  | .transportDelete _ _ _ => ApiResult Unit
  | .previousResult _ => Option PolicyResult
  | .storeResult _ _ => Unit
  | .forgetResult _ => Unit
  | .backoffFailure _ _ => Nat
  | .backoffSuccess _ _ => Unit
  | .backoffForget _ => Unit
  | .limiterForget _ => Unit
  | .ensureWatch _ _ => Unit
  | .now => Nat
  | .emit _ => Unit

abbrev EngineProgram := Interaction.Program EngineCall.Reply

def slotOf (cluster : String) (gvk : GroupVersionKind) (key : NamespacedName) :
    SlotKey :=
  ⟨cluster, key.ns, key.name, gvk.group, gvk.kind⟩

def SlotInfo.key (slot : SlotInfo) (gvk : GroupVersionKind) : SlotKey :=
  ⟨slot.cluster, slot.ns, slot.name, gvk.group, gvk.kind⟩

def Unstructured.key (obj : Unstructured) : NamespacedName :=
  ⟨obj.ns, obj.name⟩

end K8sR8r
