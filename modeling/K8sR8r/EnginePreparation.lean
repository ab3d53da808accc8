import K8sR8r.EngineReconciler

/-!
# Preparing a reconcile

A reconcile reads first and acts afterwards.  This file cuts it there: `prepare`
gathers the Replication, its source, the policies and the decisions, and
`carryOut` does the rest.  Properties of the reads are proved once about
`prepare`, under whatever world the second half is studied in.
-/

namespace K8sR8r

open Interaction

/-- How the reads of a reconcile end. -/
inductive Prepared where
  | ended (result : ApiResult ReconcileOutcome)
  | deleting (rep : Replication)
  | simple (rep : Replication) (reason message : String)
  | fanOut (rep : Replication) (src : Unstructured) (gvk : GroupVersionKind)
      (policies : List ReplicationPolicy)
      (slots : List (SlotInfo × Decision)) (outcome : RevocationOutcome)

def prepareSource (rep : Replication) (gvk : GroupVersionKind) (src : Unstructured) :
    EngineProgram Prepared := do
  match ← hub .listPolicies with
  | .error err => pure (.ended (.error err))
  | .ok policies => do
    let ref := rep.spec.sourceRef
    let labels ← namespaceLabels ref.ns
    let srcMeta : PolicySource := ⟨ref.kind, ref.ns, labels⟩
    let targets ← flattenTargets src.name rep.spec.resolvedTargets
    let result := evaluate ⟨srcMeta, targets.map Prod.snd⟩ policies.items
    let prev ← Program.perform (EngineCall.previousResult rep.uid)
    Program.perform (EngineCall.storeResult rep.uid result)
    pure (.fanOut rep src gvk policies.items ((targets.map Prod.fst).zip result.decisions)
      (handleRevocations prev result policies.items srcMeta rep.status.inventory))

def prepareLive (config : EngineConfig) (rep : Replication) : EngineProgram Prepared :=
  let ref := rep.spec.sourceRef
  match config.kindGVKs.lookup ref.kind with
  | none =>
    pure (.simple rep reasonApplyFailed ("source kind " ++ quoted ref.kind ++
        " is not on the engine allowlist"))
  | some gvk => do
    match ← hub (.getSource gvk ⟨ref.ns, ref.name⟩) with
    | .error err =>
      if err.isNotFound then
        pure (.simple rep reasonSourceMissing "source object not found or its UID changed")
      else pure (.ended (.error err))
    | .ok src =>
      if src.uid ≠ ref.uid then
        pure (.simple rep reasonSourceMissing "source object not found or its UID changed")
      else prepareSource rep gvk src

def prepare (config : EngineConfig) (nn : NamespacedName) : EngineProgram Prepared := do
  match ← hub (.getReplication nn) with
  | .error err =>
    if err.isNotFound then do
      Program.perform (EngineCall.backoffForget nn)
      emitAll [.metric (.forgetReplicas nn)]
      pure (.ended (.ok ⟨0⟩))
    else pure (.ended (.error err))
  | .ok rep =>
    if rep.deletionTimestamp.isSome then pure (.deleting rep)
    else if isNotAuthoritative rep then pure (.ended (.ok ⟨0⟩))
    else do
      match ← ensureFinalizer rep with
      | .error err => pure (.ended (.error err))
      | .ok rep => prepareLive config rep

def carryOut (config : EngineConfig) (nn : NamespacedName) :
    Prepared → EngineProgram (ApiResult ReconcileOutcome)
  | .ended result => pure result
  | .deleting rep => reconcileDeletion config nn rep
  | .simple rep reason message => finishSimple rep reason message minute
  | .fanOut rep src gvk policies slots outcome => do
    emitAll outcome.signals
    converge config nn rep src gvk policies slots outcome

theorem reconcileSource_eq (config : EngineConfig) (nn : NamespacedName) (rep : Replication)
    (gvk : GroupVersionKind) (src : Unstructured) :
    reconcileSource config nn rep gvk src = prepareSource rep gvk src >>= carryOut config nn := by
  unfold reconcileSource prepareSource
  rw [Program.bind_assoc]
  refine Program.bind_congr _ ?_
  intro reply
  cases reply with
  | error err => rfl
  | ok policies =>
    dsimp only
    rw [Program.bind_assoc]
    refine Program.bind_congr _ fun labels => ?_
    rw [Program.bind_assoc]
    rfl

theorem reconcileLive_eq (config : EngineConfig) (nn : NamespacedName) (rep : Replication) :
    reconcileLive config nn rep = prepareLive config rep >>= carryOut config nn := by
  unfold reconcileLive prepareLive
  dsimp only
  cases config.kindGVKs.lookup rep.spec.sourceRef.kind with
  | none => rfl
  | some gvk =>
    dsimp only
    rw [Program.bind_assoc]
    refine Program.bind_congr _ ?_
    intro reply
    cases reply with
    | error err =>
      dsimp only
      split_ifs
      · rfl
      · rfl
    | ok src =>
      dsimp only
      split_ifs
      · rfl
      · exact reconcileSource_eq config nn rep gvk src

theorem reconcile_eq (config : EngineConfig) (nn : NamespacedName) :
    reconcile config nn = prepare config nn >>= carryOut config nn := by
  unfold reconcile prepare
  rw [Program.bind_assoc]
  refine Program.bind_congr _ ?_
  intro reply
  cases reply with
  | error err =>
    dsimp only
    split_ifs
    · rfl
    · rfl
  | ok rep =>
    dsimp only
    split_ifs
    · rfl
    · rfl
    · rw [Program.bind_assoc]
      refine Program.bind_congr _ ?_
      intro result
      cases result with
      | error err => rfl
      | ok stored => exact reconcileLive_eq config nn stored

end K8sR8r
