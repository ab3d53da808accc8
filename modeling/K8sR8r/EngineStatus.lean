import K8sR8r.ReplicaInventory

/-!
# Building the Replication status

`internal/engine/status.go`: the next status is assembled from the per-slot
outcomes of one reconcile.  Counters are natural numbers; the source's `int32`
never overflows for a list of states that fits in memory.
-/

namespace K8sR8r

def reasonNamespaceMissing : String := "NamespaceMissing"
def reasonClusterUnreachable : String := "ClusterUnreachable"
def reasonApplyFailed : String := "ApplyFailed"
def reasonSourceMissing : String := "SourceMissing"
def reasonAllTargetsReady : String := "AllTargetsReady"
def conditionPolicyRevoked : String := "PolicyRevoked"
def maxNonReadyTargets : Nat := 20

structure TargetState where
  cluster : String
  ns : String
  name : String
  ready : Bool
  desired : Bool
  reason : String
  message : String
  deriving DecidableEq

def reasonPriority : List String :=
  [reasonConflict, reasonPolicyRevoked, reasonPolicyDenied,
    reasonNamespaceMissing, reasonClusterUnreachable, reasonApplyFailed,
    reasonSourceMissing]

def dominantReason (states : List TargetState) (fallback : String) : String :=
  let present := fun reason =>
    states.any fun state => !state.ready && state.reason = reason
  match reasonPriority.find? present with
  | some reason => reason
  | none => if fallback ≠ "" then fallback else reasonApplyFailed

/-- The maps of previous reasons and transition times keep the last entry of a
slot; a slot without one reads as the zero value. -/
def previousNonReady (prev : ReplicationStatus) (state : TargetState) : String × Nat :=
  match prev.nonReadyTargets.reverse.find? fun target =>
      target.clusterName = state.cluster && target.ns = state.ns && target.name = state.name with
  | none => ("", 0)
  | some target => (target.reason, target.lastTransitionTime)

structure StatusTally where
  summary : TargetSummary
  nonReadyTargets : List NonReadyTarget
  nonReadyOverflow : Nat
  firstReason : String
  deriving DecidableEq

def nonReadyEntry (prev : ReplicationStatus) (now : Nat) (state : TargetState) :
    NonReadyTarget :=
  let previous := previousNonReady prev state
  { clusterName := state.cluster
    ns := state.ns
    name := state.name
    reason := state.reason
    message := state.message
    lastTransitionTime :=
      if previous.1 = state.reason then previous.2 else now }

def tallyState (prev : ReplicationStatus) (now : Nat) (tally : StatusTally) (state : TargetState) :
    StatusTally :=
  let desired :=
    tally.summary.desiredTargets + if state.desired then 1 else 0
  if state.ready then
    { tally with
      summary := ⟨desired, tally.summary.readyTargets + 1, tally.summary.failedTargets⟩ }
  else
    let room := tally.nonReadyTargets.length < maxNonReadyTargets
    { summary := ⟨desired, tally.summary.readyTargets, tally.summary.failedTargets + 1⟩
      nonReadyTargets :=
        if room then
          tally.nonReadyTargets ++ [nonReadyEntry prev now state]
        else tally.nonReadyTargets
      nonReadyOverflow :=
        if room then tally.nonReadyOverflow else tally.nonReadyOverflow + 1
      firstReason :=
        if tally.firstReason = "" then state.reason else tally.firstReason }

def tallyStates (prev : ReplicationStatus) (now : Nat) (states : List TargetState) :
    StatusTally :=
  states.foldl (tallyState prev now) ⟨⟨0, 0, 0⟩, [], 0, ""⟩

def readyCondition (rep : Replication) (states : List TargetState) (tally : StatusTally) :
    Condition :=
  let summary := tally.summary
  let counts := toString summary.readyTargets ++ "/" ++
    toString summary.desiredTargets ++ " targets ready"
  if summary.failedTargets = 0 ∧ summary.desiredTargets = 0 ∧
      rep.deletionTimestamp = none then
    { type := replicationConditionReady
      status := .conditionFalse
      observedGeneration := rep.generation
      lastTransitionTime := 0
      reason := reasonNoTargets
      message := "no targets resolved; nothing is being replicated" }
  else if summary.failedTargets = 0 then
    { type := replicationConditionReady
      status := .conditionTrue
      observedGeneration := rep.generation
      lastTransitionTime := 0
      reason := reasonAllTargetsReady
      message := counts }
  else
    { type := replicationConditionReady
      status := .conditionFalse
      observedGeneration := rep.generation
      lastTransitionTime := 0
      reason := dominantReason states tally.firstReason
      message := counts ++ ", " ++ toString summary.failedTargets ++ " not ready" }

def policyRevokedCondition (rep : Replication) : Condition :=
  { type := conditionPolicyRevoked
    status := .conditionTrue
    observedGeneration := rep.generation
    lastTransitionTime := 0
    reason := reasonPolicyRevoked
    message := "policy no longer permits one or more targets; existing " ++
      "replicas are retained but no longer updated" }

def buildStatus (rep : Replication) (sourceHash : String) (states : List TargetState)
    (inventory : List InventoryEntry) (revokedRetained : Bool) (now : Nat) :
    ReplicationStatus :=
  let tally := tallyStates rep.status now states
  let conditions := setStatusCondition now rep.status.conditions
    (readyCondition rep states tally)
  { summary := tally.summary
    sourceHash := sourceHash
    conditions :=
      if revokedRetained then
        setStatusCondition now conditions (policyRevokedCondition rep)
      else removeStatusCondition conditions conditionPolicyRevoked
    nonReadyTargets := tally.nonReadyTargets
    nonReadyOverflow := tally.nonReadyOverflow
    inventory := inventory }

end K8sR8r
