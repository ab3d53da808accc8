import K8sR8r.EngineInterface

/-!
# The replication engine

`internal/engine/reconciler.go` as a program over `EngineCall`.  The text
follows the source top to bottom: pure decisions are functions, and every hub,
transport, discovery or memory access is one call, so that a run can be stopped
between any two of them.

Slices have value semantics here: each function returns the inventory it
leaves behind.
-/

namespace K8sR8r

open Interaction

structure EngineConfig where
  renderer : Renderer
  kindGVKs : List (String × GroupVersionKind)
  driftResync : Nat
  backoffMax : Nat

structure ReconcileOutcome where
  requeueAfter : Nat
  deriving DecidableEq

def minute : Nat := 60

def hub (call : HubCall) : EngineProgram call.Reply :=
  Program.perform (EngineCall.hub call)

@[simp] theorem hub_bind {α : Type} (call : HubCall) (next : call.Reply → EngineProgram α) :
    hub call >>= next = .call (EngineCall.hub call) next := rfl

def emitAll : List EngineSignal → EngineProgram Unit
  | [] => pure ()
  | signal :: rest => do
    Program.perform (EngineCall.emit signal)
    emitAll rest

/-! ## Targets and revocations -/

/-- The source name replaces an empty target name. -/
def ResolvedTarget.slotName (tgt : ResolvedTarget) (sourceName : String) :
    String :=
  if tgt.targetName = "" then sourceName else tgt.targetName

def flattenTarget (sourceName : String) (tgt : ResolvedTarget) (labels : StringMap) :
    List (SlotInfo × PolicyTarget) :=
  tgt.namespaces.map fun ns =>
    (⟨tgt.clusterName, ns, tgt.slotName sourceName⟩, ⟨tgt.clusterName, labels, ns⟩)

/-- One discovery lookup for each resolved target, in order. -/
def flattenTargets (sourceName : String) :
    List ResolvedTarget → EngineProgram (List (SlotInfo × PolicyTarget))
  | [] => pure []
  | tgt :: rest => do
    let found ← Program.perform (EngineCall.lookupCluster tgt.clusterName)
    let labels := (found.map ClusterRecord.labels).getD ∅
    let more ← flattenTargets sourceName rest
    pure (flattenTarget sourceName tgt labels ++ more)

/-- Best effort: a failed read sees no labels. -/
def namespaceLabels (ns : String) : EngineProgram StringMap := do
  match ← hub (.getNamespaceLabels ns) with
  | .ok labels => pure labels
  | .error _ => pure ∅

/-- Denied targets with recorded replicas are revoked, whether or not the
previous evaluation saw it happen. -/
def addInventoryRevocations (revocations : List Revocation) (current : PolicyResult)
    (inv : List InventoryEntry) : List Revocation :=
  current.decisions.foldl (fun revs dec =>
      if dec.allowed ||
          revs.any (fun rev =>
            rev.target.clusterName = dec.target.clusterName && rev.target.ns = dec.target.ns) ||
          (entriesInNamespace inv dec.target.clusterName dec.target.ns).isEmpty then revs
      else
        revs ++ [⟨dec.target,
          { target := dec.target
            allowed := true
            matchedPolicies := []
            deniedDimension := none
            reason := "" }, some dec⟩])
    revocations

def sourceMatchingPolicies (policies : List ReplicationPolicy) (rev : Revocation)
    (src : PolicySource) : List ReplicationPolicy :=
  policies.filter fun policy =>
    let d := decideTarget src rev.target [policy]
    d.allowed || d.deniedDimension = some .targetCluster ||
      d.deniedDimension = some .targetNamespace

def effectiveRevocationPolicy (policies : List ReplicationPolicy) (rev : Revocation)
    (src : PolicySource) : RevocationPolicy :=
  let granting := policiesByName policies rev.previous.matchedPolicies
  if !rev.previous.matchedPolicies.isEmpty && !granting.isEmpty then
    (resolveOptions granting).revocationPolicy
  else
    let subset := sourceMatchingPolicies policies rev src
    if subset.isEmpty then .delete
    else (resolveOptions subset).revocationPolicy

/-- What handling the revocations leaves behind: the retained slots, the
(cluster, namespace) pairs being cleared, and the signals in order. -/
structure RevocationOutcome where
  retained : List SlotKey
  revokedDelete : List (String × String)
  anyRetained : Bool
  signals : List EngineSignal
  deriving DecidableEq

def applyRevocation (policies : List ReplicationPolicy) (src : PolicySource)
    (inv : List InventoryEntry) (outcome : RevocationOutcome) (rev : Revocation) :
    RevocationOutcome :=
  let cluster := rev.target.clusterName
  let ns := rev.target.ns
  let entries := entriesInNamespace inv cluster ns
  -- A target that left the selection is plain garbage, not a revocation.
  if rev.current.isNone || entries.isEmpty then outcome
  else
    match effectiveRevocationPolicy policies rev src with
    | .retain =>
      { outcome with
        retained := outcome.retained ++ entries.map keyForEntry
        anyRetained := true
        signals := outcome.signals ++ [.metric (.revocation .retain),
            .event (.revocationRetained cluster ns entries.length)] }
    | .delete =>
      { outcome with
        revokedDelete := outcome.revokedDelete ++ [(cluster, ns)]
        signals := outcome.signals ++ [.metric (.revocation .delete),
            .event (.revocationDeleted cluster ns entries.length)] }

def applyRevocations (revocations : List Revocation) (policies : List ReplicationPolicy)
    (src : PolicySource) (inv : List InventoryEntry) : RevocationOutcome :=
  revocations.foldl (applyRevocation policies src inv) ⟨[], [], false, []⟩

/-! ## Planning -/

def plannedEntry (slot : SlotInfo) (gvk : GroupVersionKind) : InventoryEntry :=
  ⟨slot.cluster, slot.ns, slot.name, gvk.group, gvk.kind, ""⟩

/-- Allowed slots without an entry get a placeholder. -/
def planInventory (gvk : GroupVersionKind) (slots : List (SlotInfo × Decision))
    (inv : List InventoryEntry) : List InventoryEntry :=
  slots.foldl (fun inv slot =>
      if slot.2.allowed && !hasEntry inv (slot.1.key gvk) then
        inv ++ [plannedEntry slot.1 gvk]
      else inv)
    inv

/-- Placeholders are persisted before anything is created.  The plan only
appends, so it differs from the recorded inventory exactly when it planned
something. -/
def persistPlanned (rep : Replication) (inv : List InventoryEntry) :
    EngineProgram (ApiResult Replication) :=
  if inv = rep.status.inventory then pure (.ok rep)
  else
    hub (.updateReplicationStatus
      { rep with status := { rep.status with inventory := inv } })

/-! ## Converging one slot -/

inductive NamespaceResult where
  | ensured
  | missing (text : String)
  | failed (err : ApiError)

def ensureNamespace (cluster ns : String) (allowCreate : Bool) : EngineProgram NamespaceResult := do
  match ← Program.perform
      (EngineCall.transportGet cluster namespaceGVK ⟨"", ns⟩) with
  | .ok _ => pure .ensured
  | .error err =>
    if !err.isNotFound then pure (.failed err)
    else if !allowCreate then
      pure (.missing ("namespace " ++ quoted ns ++
        ": target namespace does not exist and no matching policy " ++
        "allows namespace creation"))
    else
      match ← Program.perform
          (EngineCall.transportApply cluster (namespacePayload ns)) with
      | .ok _ => pure .ensured
      | .error err => pure (.failed err)

/-- On an immutable-field rejection the object is deleted and recreated. -/
def applyWithRecreate (cluster : String) (desired : Unstructured) :
    EngineProgram (ApiResult Unit) := do
  match ← Program.perform (EngineCall.transportApply cluster desired) with
  | .ok () => pure (.ok ())
  | .error err =>
    if !err.isInvalid then pure (.error err)
    else
      match ← Program.perform (EngineCall.transportDelete cluster
          desired.groupVersionKind desired.key) with
      | .ok () =>
        Program.perform (EngineCall.transportApply cluster desired)
      | .error delErr =>
        if !delErr.isNotFound then pure (.error delErr)
        else Program.perform (EngineCall.transportApply cluster desired)

def classifyTransportErr (err : ApiError) : String :=
  if err.reason = .clusterUnavailable then reasonClusterUnreachable
  else reasonApplyFailed

/-- How converging a slot ended: ready, failed and to be retried, or refused
without any write. -/
inductive SlotVerdict where
  | ready
  | retry (reason message : String)
  | refused (reason message : String)
  deriving DecidableEq

def SlotVerdict.ofErr (err : ApiError) : SlotVerdict :=
  .retry (classifyTransportErr err) err.text

/-- The object at the slot carries this source's UID but not the managed-by
label: restore the marks and the content. -/
def repairStripped (config : EngineConfig) (slot : SlotInfo) (desired : Unstructured)
    (hash : String) (existing : Unstructured) :
    EngineProgram SlotVerdict := do
  let observed := config.renderer.sourceHash existing
  match ← applyWithRecreate slot.cluster desired with
  | .error err => pure (.ofErr err)
  | .ok () =>
    emitAll ([.metric (.ownershipLost slot.cluster .repaired), .event (.ownershipRepaired slot)] ++
        if observed ≠ hash then
          [.metric (.driftCorrection slot.cluster), .event (.driftCorrected slot observed hash)]
        else [])
    pure .ready

def convergeExisting (config : EngineConfig) (src : Unstructured) (gvk : GroupVersionKind)
    (slot : SlotInfo) (allowed : List ConflictPolicy) (desired : Unstructured) (hash : String)
    (existing : Unstructured) :
    EngineProgram SlotVerdict :=
  let decision := decideConflict config.renderer existing src hash allowed
  match decision.action with
  | .fail => do
    emitAll [.metric (.conflict .fail), .event (.conflict slot decision.message)]
    pure (.refused reasonConflict decision.message)
  | .adopt => do
    emitAll [.metric (.conflict .adopt)]
    match ← Program.perform (EngineCall.transportApply slot.cluster
        (config.renderer.adoptPatch src gvk slot.ns slot.name hash)) with
    | .error err => pure (.ofErr err)
    | .ok () => do
      emitAll [.event (.adopted slot)]
      pure .ready
  | .overwrite => do
    emitAll [.metric (.conflict .overwrite)]
    match ← applyWithRecreate slot.cluster desired with
    | .error err => pure (.ofErr err)
    | .ok () => do
      emitAll [.event (.conflictOverwritten slot)]
      pure .ready
  | .apply =>
    -- An own replica is written only when its content or its hash
    -- annotation is off; only content counts as drift.
    let observed := config.renderer.sourceHash existing
    let corrected := observed ≠ hash
    if StringMap.get existing.annotations annotationSourceHash ≠ hash ∨
        corrected then do
      match ← applyWithRecreate slot.cluster desired with
      | .error err => pure (.ofErr err)
      | .ok () => do
        emitAll (if corrected then
          [.metric (.driftCorrection slot.cluster),
            .event (.driftCorrected slot observed hash)] else [])
        pure .ready
    else pure .ready

def convergeSlot (config : EngineConfig) (src : Unstructured) (gvk : GroupVersionKind)
    (slot : SlotInfo) (allowed : List ConflictPolicy) :
    EngineProgram SlotVerdict := do
  let (desired, hash) := config.renderer.render src slot.ns slot.name
  match ← Program.perform (EngineCall.transportGet slot.cluster gvk
      ⟨slot.ns, slot.name⟩) with
  | .error err =>
    if err.isNotFound then
      match ← Program.perform
          (EngineCall.transportApply slot.cluster desired) with
      | .error err => pure (.ofErr err)
      | .ok () => pure .ready
    else pure (.ofErr err)
  | .ok existing =>
    if classifyReplicaOwnership existing.labels src.uid = .stripped then
      repairStripped config slot desired hash existing
    else
      convergeExisting config src gvk slot allowed desired hash existing

/-- The outcome of one slot: its state, a retry delay (0 for none) and the
inventory left behind. -/
structure TargetOutcome where
  state : TargetState
  delay : Nat
  inv : List InventoryEntry
  deriving DecidableEq

def slotState (slot : SlotInfo) (ready : Bool) (reason message : String) :
    TargetState :=
  ⟨slot.cluster, slot.ns, slot.name, ready, true, reason, message⟩

/-- Record the verdict: a refusal wrote nothing, so its placeholder goes. -/
def settleSlot (nn : NamespacedName) (gvk : GroupVersionKind) (slot : SlotInfo) (hash : String)
    (inv : List InventoryEntry) :
    SlotVerdict → EngineProgram TargetOutcome
  | .retry reason message => do
    let delay ← Program.perform
      (EngineCall.backoffFailure nn slot.cluster)
    pure ⟨slotState slot false reason message, delay, inv⟩
  | .refused reason message =>
    pure ⟨slotState slot false reason message, 0, removeEntry inv (slot.key gvk)⟩
  | .ready => do
    Program.perform (EngineCall.backoffSuccess nn slot.cluster)
    Program.perform (EngineCall.ensureWatch slot.cluster gvk)
    pure ⟨slotState slot true "" "", 0,
      upsertEntry ⟨slot.cluster, slot.ns, slot.name, gvk.group, gvk.kind, hash⟩ inv⟩

def applyTarget (config : EngineConfig) (nn : NamespacedName) (src : Unstructured)
    (gvk : GroupVersionKind) (slot : SlotInfo) (eff : EffectiveOptions)
    (inv : List InventoryEntry) : EngineProgram TargetOutcome := do
  let hash := config.renderer.sourceHash src
  match ← ensureNamespace slot.cluster slot.ns
      eff.allowNamespaceCreation with
  | .missing text =>
    let delay ← Program.perform
      (EngineCall.backoffFailure nn slot.cluster)
    pure ⟨slotState slot false reasonNamespaceMissing text, delay, removeEntry inv (slot.key gvk)⟩
  | .failed err =>
    settleSlot nn gvk slot hash inv (if err.reason = .clusterUnavailable then
        .retry reasonClusterUnreachable err.text
      else .retry reasonApplyFailed ("ensuring namespace: " ++ err.text))
  | .ensured => do
    let verdict ← convergeSlot config src gvk slot
      eff.allowedConflictPolicies
    settleSlot nn gvk slot hash inv verdict

/-! ## Denied slots -/

def deniedState (slot : SlotInfo) (dec : Decision) (outcome : RevocationOutcome)
    (inv : List InventoryEntry) (gvk : GroupVersionKind) :
    TargetState × List EngineSignal :=
  if outcome.retained.contains (slot.key gvk) then
    (slotState slot false reasonPolicyRevoked
      ("permission withdrawn; replica retained but no longer updated " ++
        "(revocationPolicy Retain)"), [])
  else if outcome.revokedDelete.contains (slot.cluster, slot.ns) &&
      hasEntry inv (slot.key gvk) then
    (slotState slot false reasonPolicyRevoked
      "permission withdrawn; deleting replica (revocationPolicy Delete)", [])
  else
    (slotState slot false reasonPolicyDenied dec.reason,
      [.metric (.policyDenial dec.deniedDimension)])

structure FanOut where
  states : List TargetState
  delays : List Nat
  inv : List InventoryEntry
  deriving DecidableEq

def fanOutSlot (config : EngineConfig) (nn : NamespacedName) (src : Unstructured)
    (gvk : GroupVersionKind) (policies : List ReplicationPolicy) (outcome : RevocationOutcome)
    (fan : FanOut) (slot : SlotInfo × Decision) : EngineProgram FanOut :=
  if slot.2.allowed then do
    let eff := resolveOptions
      (policiesByName policies slot.2.matchedPolicies)
    let out ← applyTarget config nn src gvk slot.1 eff fan.inv
    pure ⟨fan.states ++ [out.state],
      if 0 < out.delay then fan.delays ++ [out.delay] else fan.delays,
      out.inv⟩
  else do
    let denied := deniedState slot.1 slot.2 outcome fan.inv gvk
    emitAll denied.2
    pure { fan with states := fan.states ++ [denied.1] }

/-! ## Garbage collection -/

structure GCPlan where
  delete : List InventoryEntry
  release : List InventoryEntry
  deriving DecidableEq

/-- One discovery lookup for each entry that is not kept, in order. -/
def planGC (keep : List SlotKey) : List InventoryEntry → EngineProgram GCPlan
  | [] => pure ⟨[], []⟩
  | entry :: rest =>
    if keep.contains (keyForEntry entry) then planGC keep rest
    else do
      let found ← Program.perform
        (EngineCall.lookupCluster entry.clusterName)
      let plan ← planGC keep rest
      match found with
      | none => pure { plan with release := entry :: plan.release }
      | some _ => pure { plan with delete := entry :: plan.delete }

def releaseEntries : List InventoryEntry → List InventoryEntry → EngineProgram (List InventoryEntry)
  | [], inv => pure inv
  | entry :: rest, inv => do
    Program.perform (EngineCall.emit (.event (.clusterGone entry)))
    releaseEntries rest (removeEntry inv (keyForEntry entry))

def gvkForEntry (config : EngineConfig) (entry : InventoryEntry) : Option GroupVersionKind :=
  (config.kindGVKs.map Prod.snd).find? fun gvk =>
    gvk.kind = entry.kind && gvk.group = entry.group

def entryState (entry : InventoryEntry) (reason message : String) :
    TargetState :=
  ⟨entry.clusterName, entry.ns, entry.name, false, false, reason, message⟩

/-- An entry that could not be dealt with stays and is retried. -/
def retryEntry (nn : NamespacedName) (gc : FanOut) (entry : InventoryEntry) (step : String)
    (err : ApiError) : EngineProgram FanOut := do
  let delay : Nat ← Program.perform
    (EngineCall.backoffFailure nn entry.clusterName)
  pure
    { gc with
      states := gc.states ++ [entryState entry (classifyTransportErr err) (step ++ err.text)]
      delays := gc.delays ++ [delay] }

def dropEntry (gc : FanOut) (entry : InventoryEntry) : FanOut :=
  { gc with inv := removeEntry gc.inv (keyForEntry entry) }

def cleanedEntry (nn : NamespacedName) (gc : FanOut) (entry : InventoryEntry) :
    EngineProgram FanOut := do
  Program.perform (EngineCall.backoffSuccess nn entry.clusterName)
  Program.perform (EngineCall.emit (.event (.cleanedUp entry)))
  pure (dropEntry gc entry)

def deleteEntry (nn : NamespacedName) (gc : FanOut) (entry : InventoryEntry)
    (gvk : GroupVersionKind) : EngineProgram FanOut := do
  match ← Program.perform (EngineCall.transportDelete entry.clusterName gvk
      ⟨entry.ns, entry.name⟩) with
  | .ok () => cleanedEntry nn gc entry
  | .error err =>
    if err.isNotFound then cleanedEntry nn gc entry
    else retryEntry nn gc entry "deleting replica: " err

/-- Only objects that carry this replication's source UID are deleted. -/
def collectEntry (config : EngineConfig) (nn : NamespacedName) (sourceUID : String) (gc : FanOut)
    (entry : InventoryEntry) : EngineProgram FanOut :=
  match gvkForEntry config entry with
  | none =>
    pure
      { gc with
        states := gc.states ++ [entryState entry reasonApplyFailed
            ("cannot delete replica: kind " ++ quoted entry.kind ++
              " (group " ++ quoted entry.group ++
              ") is not on the engine allowlist")] }
  | some gvk => do
    match ← Program.perform (EngineCall.transportGet entry.clusterName gvk
        ⟨entry.ns, entry.name⟩) with
    | .error err =>
      if err.isNotFound then do
        Program.perform (EngineCall.backoffSuccess nn entry.clusterName)
        pure (dropEntry gc entry)
      else
        retryEntry nn gc entry "checking replica before delete: " err
    | .ok existing =>
      match classifyReplicaOwnership existing.labels sourceUID with
      | .foreign => do
        emitAll [.metric (.ownershipLost entry.clusterName .orphaned),
          .event (.replicaOrphaned entry)]
        pure (dropEntry gc entry)
      | .stripped => do
        emitAll [.metric (.ownershipLost entry.clusterName .deleted),
          .event (.ownershipStripped entry)]
        deleteEntry nn gc entry gvk
      | .managed => deleteEntry nn gc entry gvk

def collectGarbage (config : EngineConfig) (nn : NamespacedName) (sourceUID : String)
    (keep : List SlotKey) (inv : List InventoryEntry) :
    EngineProgram FanOut := do
  let plan ← planGC keep inv
  let inv ← releaseEntries plan.release inv
  plan.delete.foldlM (collectEntry config nn sourceUID) ⟨[], [], inv⟩

/-! ## Status and results -/

def writeStatusIfChanged (rep : Replication) (next : ReplicationStatus) :
    EngineProgram (ApiResult Replication) :=
  if rep.status = next then pure (.ok rep)
  else hub (.updateReplicationStatus { rep with status := next })

def minDelay (delays : List Nat) : Nat :=
  delays.foldl (fun least d => if 0 < d && (least = 0 || d < least) then d else least) 0

def requeue (delays : List Nat) (otherwise : Nat) : ReconcileOutcome :=
  ⟨if 0 < minDelay delays then minDelay delays else otherwise⟩

def countState (counts : List (String × ReplicaCounts)) (state : TargetState) :
    List (String × ReplicaCounts) :=
  if state.cluster = "" then counts
  else
    let old := (counts.lookup state.cluster).getD ⟨0, 0, 0⟩
    let new : ReplicaCounts :=
      { desired := old.desired + if state.desired then 1 else 0
        ready := old.ready + if state.ready then 1 else 0
        failed := old.failed + if state.ready then 0 else 1 }
    if (counts.lookup state.cluster).isSome then
      counts.map fun entry =>
        if entry.1 = state.cluster then (entry.1, new) else entry
    else counts ++ [(state.cluster, new)]

def replicaCountsByCluster (states : List TargetState) : List (String × ReplicaCounts) :=
  states.foldl countState []

/-- Events for a Ready condition that changed its verdict. -/
def transitionEvents (prev next : Option Condition) : List EngineSignal :=
  match next with
  | none => []
  | some next =>
    if next.status = .conditionTrue then
      if (prev.map Condition.status) ≠ some .conditionTrue then
        [.event (.replicated next.message)]
      else []
    else if next.status = .conditionFalse ∧
        (next.reason = reasonPolicyDenied ∨ next.reason = reasonNoTargets) ∧
        (prev.map Condition.reason) ≠ some next.reason then
      [.event (.notReady next.reason next.message)]
    else []

def finishSimple (rep : Replication) (reason message : String) (requeueAfter : Nat) :
    EngineProgram (ApiResult ReconcileOutcome) := do
  let now ← Program.perform EngineCall.now
  let next := buildStatus rep rep.status.sourceHash
    [⟨"", "", "", false, false, reason, message⟩] rep.status.inventory
    false now
  match ← writeStatusIfChanged rep next with
  | .error err => pure (.error err)
  | .ok _ => pure (.ok ⟨requeueAfter⟩)

/-! ## Reconciling -/

def released (rep : Replication) : Replication :=
  { rep with
    status := { rep.status with inventory := [] }
    finalizers := removeFinalizer rep.finalizers finalizerName }

def finishDeletion (config : EngineConfig) (nn : NamespacedName) (rep : Replication) (gc : FanOut) :
    EngineProgram (ApiResult ReconcileOutcome) :=
  if gc.inv.isEmpty then do
    match ← hub (.updateReplication (released rep)) with
    | .error err => pure (.error err)
    | .ok _ => do
      Program.perform (EngineCall.backoffForget nn)
      Program.perform (EngineCall.forgetResult rep.uid)
      emitAll [.metric (.forgetReplicas nn)]
      Program.perform (EngineCall.limiterForget rep.uid)
      pure (.ok ⟨0⟩)
  else do
    let now ← Program.perform EngineCall.now
    let next := buildStatus rep rep.status.sourceHash gc.states gc.inv
      false now
    match ← writeStatusIfChanged rep next with
    | .error err => pure (.error err)
    | .ok _ => pure (.ok (requeue gc.delays config.backoffMax))

def reconcileDeletion (config : EngineConfig) (nn : NamespacedName) (rep : Replication) :
    EngineProgram (ApiResult ReconcileOutcome) :=
  if !rep.finalizers.contains finalizerName then pure (.ok ⟨0⟩)
  else do
    let gc ← collectGarbage config nn rep.spec.sourceRef.uid []
      rep.status.inventory
    finishDeletion config nn rep gc

def allowedKeys (gvk : GroupVersionKind) (slots : List (SlotInfo × Decision)) : List SlotKey :=
  (slots.filter fun slot => slot.2.allowed).map fun slot => slot.1.key gvk

/-- Write the status of a finished fanout and report its transition. -/
def finishFanOut (config : EngineConfig) (nn : NamespacedName) (rep : Replication)
    (srcHash : String) (states : List TargetState) (delays : List Nat) (inv : List InventoryEntry)
    (revokedRetained : Bool) :
    EngineProgram (ApiResult ReconcileOutcome) := do
  emitAll [.metric (.observeReplicas nn (replicaCountsByCluster states))]
  let now ← Program.perform EngineCall.now
  let next := buildStatus rep srcHash states inv revokedRetained now
  match ← writeStatusIfChanged rep next with
  | .error err => pure (.error err)
  | .ok _ => do
    emitAll (transitionEvents (findStatusCondition rep.status.conditions replicationConditionReady)
      (findStatusCondition next.conditions replicationConditionReady))
    pure (.ok (requeue delays config.driftResync))

/-- The status that the final one is compared with.  A planned write leaves it
with the array of the working inventory, which both loops update in place, at
the length it was written with.  What removals leave behind `inv` only makes the
lengths differ, and the planned entries stand for it.  Without a planned write
the status has an array of its own. -/
def shareInventory (planned : Bool) (status : ReplicationStatus) (inv : List InventoryEntry) :
    ReplicationStatus :=
  if planned then
    { status with inventory := inv ++ status.inventory.drop inv.length }
  else status

/-- Everything after the decisions: persist the plan, converge every slot,
collect garbage, write the status. -/
def converge (config : EngineConfig) (nn : NamespacedName) (rep : Replication)
    (src : Unstructured) (gvk : GroupVersionKind) (policies : List ReplicationPolicy)
    (slots : List (SlotInfo × Decision)) (outcome : RevocationOutcome) :
    EngineProgram (ApiResult ReconcileOutcome) := do
  let inv := planInventory gvk slots rep.status.inventory
  match ← persistPlanned rep inv with
  | .error err => pure (.error err)
  | .ok saved => do
    let fan ← slots.foldlM
      (fanOutSlot config nn src gvk policies outcome) ⟨[], [], inv⟩
    let gc ← collectGarbage config nn saved.spec.sourceRef.uid
      (outcome.retained ++ allowedKeys gvk slots) fan.inv
    finishFanOut config nn
      { saved with
        status := shareInventory (inv ≠ rep.status.inventory) saved.status gc.inv }
      (config.renderer.sourceHash src)
      (fan.states ++ gc.states) (fan.delays ++ gc.delays) gc.inv
      outcome.anyRetained

def handleRevocations (prev : Option PolicyResult) (result : PolicyResult)
    (policies : List ReplicationPolicy) (src : PolicySource) (inv : List InventoryEntry) :
    RevocationOutcome :=
  applyRevocations (addInventoryRevocations (detectRevocations (prev.getD ⟨[]⟩) result) result inv)
    policies src inv

def reconcileSource (config : EngineConfig) (nn : NamespacedName) (rep : Replication)
    (gvk : GroupVersionKind) (src : Unstructured) :
    EngineProgram (ApiResult ReconcileOutcome) := do
  match ← hub .listPolicies with
  | .error err => pure (.error err)
  | .ok policies => do
    let ref := rep.spec.sourceRef
    let labels ← namespaceLabels ref.ns
    let srcMeta : PolicySource := ⟨ref.kind, ref.ns, labels⟩
    let targets ← flattenTargets src.name rep.spec.resolvedTargets
    let result := evaluate ⟨srcMeta, targets.map Prod.snd⟩ policies.items
    let prev ← Program.perform (EngineCall.previousResult rep.uid)
    Program.perform (EngineCall.storeResult rep.uid result)
    let outcome := handleRevocations prev result policies.items srcMeta
      rep.status.inventory
    emitAll outcome.signals
    converge config nn rep src gvk policies.items
      ((targets.map Prod.fst).zip result.decisions) outcome

def reconcileLive (config : EngineConfig) (nn : NamespacedName) (rep : Replication) :
    EngineProgram (ApiResult ReconcileOutcome) :=
  let ref := rep.spec.sourceRef
  match config.kindGVKs.lookup ref.kind with
  | none =>
    finishSimple rep reasonApplyFailed ("source kind " ++ quoted ref.kind ++
        " is not on the engine allowlist") minute
  | some gvk => do
    match ← hub (.getSource gvk ⟨ref.ns, ref.name⟩) with
    | .error err =>
      if err.isNotFound then
        finishSimple rep reasonSourceMissing "source object not found or its UID changed" minute
      else pure (.error err)
    | .ok src =>
      if src.uid ≠ ref.uid then
        finishSimple rep reasonSourceMissing "source object not found or its UID changed" minute
      else reconcileSource config nn rep gvk src

/-- The engine finalizer goes on before anything else is done. -/
def ensureFinalizer (rep : Replication) : EngineProgram (ApiResult Replication) :=
  if rep.finalizers.contains finalizerName then pure (.ok rep)
  else
    hub (.updateReplication
      { rep with finalizers := addFinalizer rep.finalizers finalizerName })

/-- The defensive check for hand-authored objects. -/
def isNotAuthoritative (rep : Replication) : Bool :=
  match findStatusCondition rep.status.conditions
      replicationConditionReady with
  | none => false
  | some condition => condition.reason = reasonNotAuthoritative

def reconcile (config : EngineConfig) (nn : NamespacedName) :
    EngineProgram (ApiResult ReconcileOutcome) := do
  match ← hub (.getReplication nn) with
  | .error err =>
    if err.isNotFound then do
      Program.perform (EngineCall.backoffForget nn)
      emitAll [.metric (.forgetReplicas nn)]
      pure (.ok ⟨0⟩)
    else pure (.error err)
  | .ok rep =>
    if rep.deletionTimestamp.isSome then reconcileDeletion config nn rep
    else if isNotAuthoritative rep then pure (.ok ⟨0⟩)
    else do
      match ← ensureFinalizer rep with
      | .error err => pure (.error err)
      | .ok rep => reconcileLive config nn rep

end K8sR8r
