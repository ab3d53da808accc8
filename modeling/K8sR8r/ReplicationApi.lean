import K8sR8r.PolicyRevocation

/-!
# The Replication resource

`api/v1alpha1/replication_types.go`: the canonical object that carries one
source's resolved fanout, its status and the inventory of created replicas,
together with the metadata helpers of `controllerutil` and `metav1` that the
controllers apply to it.
-/

namespace K8sR8r

structure SourceReference where
  kind : String
  ns : String
  name : String
  uid : String
  deriving DecidableEq

structure ResolvedTarget where
  clusterName : String
  namespaces : List String
  targetName : String
  deriving DecidableEq

inductive ReplicationOrigin where
  | annotated
  deriving DecidableEq

structure ReplicationSpec where
  sourceRef : SourceReference
  origin : ReplicationOrigin
  resolvedTargets : List ResolvedTarget
  deriving DecidableEq

structure TargetSummary where
  desiredTargets : Nat
  readyTargets : Nat
  failedTargets : Nat
  deriving DecidableEq

structure NonReadyTarget where
  clusterName : String
  ns : String
  name : String
  reason : String
  message : String
  lastTransitionTime : Nat
  deriving DecidableEq

structure InventoryEntry where
  clusterName : String
  ns : String
  name : String
  group : String
  kind : String
  lastAppliedHash : String
  deriving DecidableEq

@[ext] structure ReplicationStatus where
  summary : TargetSummary
  sourceHash : String
  conditions : List Condition
  nonReadyTargets : List NonReadyTarget
  nonReadyOverflow : Nat
  inventory : List InventoryEntry
  deriving DecidableEq

def ReplicationStatus.empty : ReplicationStatus :=
  ⟨⟨0, 0, 0⟩, "", [], [], 0, []⟩

structure OwnerReference where
  apiVersion : String
  kind : String
  name : String
  uid : String
  controller : Bool
  deriving DecidableEq

structure Replication where
  ns : String
  name : String
  uid : String
  resourceVersion : Nat
  generation : Nat
  labels : StringMap
  ownerReferences : List OwnerReference
  finalizers : List String
  deletionTimestamp : Option Nat
  spec : ReplicationSpec
  status : ReplicationStatus
  deriving DecidableEq

def Replication.key (rep : Replication) : NamespacedName :=
  ⟨rep.ns, rep.name⟩

/-! ## Condition types and reasons -/

def replicationConditionReady : String := "Ready"
def replicationConditionTargetsResolved : String := "TargetsResolved"

def reasonPolicyDenied : String := "PolicyDenied"
def reasonPolicyRevoked : String := "PolicyRevoked"
def reasonNotAuthoritative : String := "NotAuthoritative"
def reasonConflict : String := "Conflict"
def reasonNoTargets : String := "NoTargets"
def reasonTargetsResolved : String := "TargetsResolved"

/-! ## Metadata helpers -/

/-- `metav1.GetControllerOf`. -/
def Replication.getControllerOf (rep : Replication) : Option OwnerReference :=
  rep.ownerReferences.find? OwnerReference.controller

/-- `controllerutil.AddFinalizer` on a finalizer list. -/
def addFinalizer (finalizers : List String) (finalizer : String) : List String :=
  if finalizers.contains finalizer then finalizers
  else finalizers ++ [finalizer]

/-- `controllerutil.RemoveFinalizer` on a finalizer list. -/
def removeFinalizer (finalizers : List String) (finalizer : String) : List String :=
  finalizers.filter fun other => other ≠ finalizer

@[simp] theorem mem_addFinalizer_iff (finalizers : List String) (finalizer other : String) :
    other ∈ addFinalizer finalizers finalizer ↔ other ∈ finalizers ∨ other = finalizer := by
  unfold addFinalizer
  by_cases hmem : finalizer ∈ finalizers
  · rw [if_pos (by simpa using hmem)]
    constructor
    · exact .inl
    · rintro (h | rfl)
      · exact h
      · exact hmem
  · rw [if_neg (by simpa using hmem)]
    simp

@[simp] theorem mem_removeFinalizer_iff (finalizers : List String) (finalizer other : String) :
    other ∈ removeFinalizer finalizers finalizer ↔ other ∈ finalizers ∧ other ≠ finalizer := by
  simp [removeFinalizer]

end K8sR8r
