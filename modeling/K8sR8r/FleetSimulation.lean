import K8sR8r.HubHistory

/-!
# A fleet that answers deterministically

Among the answers a fleet may give, the ones of a fleet in which nothing fails
by itself: a call succeeds whenever its preconditions hold, discovery answers
with the first record in key order, and server-side apply keeps every field it
was not given.  Concrete runs are computed with it.
-/

namespace K8sR8r

open Interaction

/-! ## The hub -/

def readReply {α : Type} (stored : Option α) : ApiResult α :=
  match stored with
  | some value => .ok value
  | none => .error ⟨.notFound, "not found"⟩

theorem readsAs_readReply {α : Type} (fails : Prop) (stored : Option α) :
    ReadsAs fails stored (readReply stored) := by
  cases stored with
  | some value => rfl
  | none => simp [ReadsAs, readReply, ApiError.isNotFound]

def writeReply {α : Type} (hub : Hub) (accepted : Option (α × Hub)) : ApiResult α × Hub :=
  match accepted with
  | some (value, after) => (.ok value, after)
  | none => (.error ⟨.conflict, "rejected"⟩, hub)

theorem writesAs_writeReply {α : Type} (fails : Prop) (hub : Hub) (accepted : Option (α × Hub)) :
    WritesAs fails hub accepted (writeReply hub accepted).1 (writeReply hub accepted).2 := by
  cases accepted with
  | some result => rfl
  | none => exact ⟨rfl, .inl rfl⟩

def Hub.handle (hub : Hub) : (call : HubCall) → call.Reply × Hub
  | .getReplication key => (readReply (hub.replications key), hub)
  | .createReplication rep => writeReply hub (hub.acceptCreate rep)
  | .updateReplication rep => writeReply hub (hub.acceptUpdate rep)
  | .updateReplicationStatus rep =>
    writeReply hub (hub.acceptStatusUpdate rep)
  | .deleteReplication key => writeReply hub (hub.acceptDelete key)
  | .getSource gvk key =>
    (readReply ((hub.sources gvk key).map (Hub.objectAt gvk key)), hub)
  | .getSourceMetadata gvk key =>
    (readReply ((hub.sources gvk key).map (Hub.metadataAt gvk key)), hub)
  | .patchSourceFinalizers obj => writeReply hub (hub.acceptPatch obj)
  | .listPolicies => (readReply (some hub.policies), hub)
  | .getNamespaceLabels name => (readReply (hub.namespaces name), hub)

theorem Hub.answers_handle (fails : Prop) (hub : Hub) (call : HubCall) :
    hub.Answers fails call (hub.handle call).1 (hub.handle call).2 := by
  cases call with
  | getReplication key => exact ⟨readsAs_readReply _ _, rfl⟩
  | createReplication rep => exact writesAs_writeReply _ _ _
  | updateReplication rep => exact writesAs_writeReply _ _ _
  | updateReplicationStatus rep => exact writesAs_writeReply _ _ _
  | deleteReplication key => exact writesAs_writeReply _ _ _
  | getSource gvk key => exact ⟨readsAs_readReply _ _, rfl⟩
  | getSourceMetadata gvk key => exact ⟨readsAs_readReply _ _, rfl⟩
  | patchSourceFinalizers obj => exact writesAs_writeReply _ _ _
  | listPolicies => exact ⟨readsAs_readReply _ _, rfl⟩
  | getNamespaceLabels name => exact ⟨readsAs_readReply _ _, rfl⟩

/-! ## The spokes -/

/-- The applied keys win, all others stay. -/
def mergeApplied (existing : Option Unstructured) (payload : Unstructured) :
    Unstructured :=
  { groupVersionKind := payload.groupVersionKind
    ns := payload.ns
    name := payload.name
    uid := ((existing.map Unstructured.uid).getD "")
    labels := payload.labels ∪ (existing.map Unstructured.labels).getD ∅
    annotations := payload.annotations ∪ (existing.map Unstructured.annotations).getD ∅
    metadata := (existing.map Unstructured.metadata).getD ∅
    fields := payload.fields ∪ (existing.map Unstructured.fields).getD ∅ }

theorem appliesMap_union {κ : Type} [DecidableEq κ]
    (existing payload : Finmap (fun _ : κ => String)) :
    AppliesMap existing payload (payload ∪ existing) := by
  intro key
  cases hlookup : payload.lookup key with
  | some value =>
    exact Finmap.mem_lookup_union.mpr (.inl hlookup)
  | none =>
    have hkey : key ∉ payload := Finmap.lookup_eq_none.mp hlookup
    exact .inr (Finmap.lookup_union_right hkey)

theorem serverSideApply_mergeApplied (existing : Option Unstructured) (payload : Unstructured) :
    ServerSideApply existing payload (mergeApplied existing payload) :=
  ⟨rfl, rfl, rfl, appliesMap_union _ _, appliesMap_union _ _, appliesMap_union _ _⟩

namespace Spokes

def handleGet (spokes : Spokes) (slot : SlotKey) : ApiResult Unstructured :=
  if slot.name = "" then .error ⟨.other, "resource name may not be empty"⟩
  else readReply (spokes slot)

theorem answersGet_handleGet (fails : Prop) (spokes : Spokes) (slot : SlotKey) :
    spokes.AnswersGet fails slot (spokes.handleGet slot) := by
  unfold handleGet
  split_ifs with hname
  · simp [AnswersGet, ApiError.isNotFound, hname]
  · cases hslot : spokes slot with
    | some obj => exact ⟨hname, hslot⟩
    | none => simp [AnswersGet, readReply, ApiError.isNotFound, hname, hslot]

def handleApply (spokes : Spokes) (slot : SlotKey) (payload : Unstructured) :
    ApiResult Unit × Spokes :=
  if spokes.Admits slot then
    (.ok (), Function.update spokes slot (some (mergeApplied (spokes slot) payload)))
  else (.error ⟨.other, "not admitted"⟩, spokes)

theorem answersApply_handleApply (fails : Prop) (spokes : Spokes) (slot : SlotKey)
    (payload : Unstructured) :
    spokes.AnswersApply fails slot payload (spokes.handleApply slot payload).1
      (spokes.handleApply slot payload).2 := by
  unfold handleApply
  split_ifs with hadmits
  · exact ⟨hadmits, _, serverSideApply_mergeApplied _ _, rfl⟩
  · exact ⟨rfl, .inr hadmits⟩

def handleDelete (spokes : Spokes) (slot : SlotKey) : ApiResult Unit × Spokes :=
  if (spokes slot).isSome then (.ok (), spokes.erase slot)
  else (.error ⟨.notFound, "not found"⟩, spokes)

theorem answersDelete_handleDelete (fails : Prop) (spokes : Spokes) (slot : SlotKey) :
    spokes.AnswersDelete fails slot (spokes.handleDelete slot).1 (spokes.handleDelete slot).2 := by
  unfold handleDelete
  split_ifs with hsome
  · exact ⟨hsome, rfl⟩
  · exact ⟨rfl, by simpa [ApiError.isNotFound] using hsome⟩

end Spokes

/-! ## The fleet -/

def Fleet.handle (fleet : Fleet) : (call : EngineCall) → call.Reply × Fleet
  | .hub call =>
    let answer := fleet.hub.handle call
    (answer.1, { fleet with hub := answer.2 })
  | .lookupCluster name => (fleet.records.lookupRecord name, fleet)
  | .transportGet cluster gvk key =>
    (fleet.spokes.handleGet (slotOf cluster gvk key), fleet)
  | .transportApply cluster obj =>
    let answer := fleet.spokes.handleApply
      (slotOf cluster obj.groupVersionKind obj.key) obj
    (answer.1, { fleet with spokes := answer.2 })
  | .transportDelete cluster gvk key =>
    let answer := fleet.spokes.handleDelete (slotOf cluster gvk key)
    (answer.1, { fleet with spokes := answer.2 })
  | .previousResult uid => (fleet.lastResults uid, fleet)
  | .storeResult uid result =>
    ((), { fleet with
      lastResults := Function.update fleet.lastResults uid (some result) })
  | .forgetResult uid =>
    ((), { fleet with
      lastResults := Function.update fleet.lastResults uid none })
  | .backoffFailure _ _ => (1, fleet)
  | .backoffSuccess _ _ => ((), fleet)
  | .backoffForget _ => ((), fleet)
  | .limiterForget _ => ((), fleet)
  | .ensureWatch _ _ => ((), fleet)
  | .now => (fleet.hub.clock, fleet)
  | .emit _ => ((), fleet)

theorem Fleet.answers_handle (fails : EngineCall → Prop) (fleet : Fleet) (call : EngineCall) :
    fleet.Answers fails call (fleet.handle call).1 (fleet.handle call).2 := by
  cases call with
  | hub call => exact ⟨_, Hub.answers_handle _ _ _, rfl⟩
  | lookupCluster name =>
    exact ⟨ClusterRecords.finds_lookupRecord _ _, rfl⟩
  | transportGet cluster gvk key =>
    exact ⟨Spokes.answersGet_handleGet _ _ _, rfl⟩
  | transportApply cluster obj =>
    exact ⟨_, Spokes.answersApply_handleApply _ _ _ _, rfl⟩
  | transportDelete cluster gvk key =>
    exact ⟨_, Spokes.answersDelete_handleDelete _ _ _, rfl⟩
  | previousResult uid => exact ⟨rfl, rfl⟩
  | _ => rfl

/-! ## A small fleet

One source, one policy and one spoke cluster.  Concrete runs start from
variations of it. -/

namespace Sample

def configMapGVK : GroupVersionKind := ⟨"", "v1", "ConfigMap"⟩

/-- The digest of the sample reads the one data leaf the sample has. -/
def engine : EngineConfig where
  renderer :=
    { hubName := "hub"
      extraStrippedKeys := []
      extraStrippedStarts := []
      digest := fun payload =>
        (payload.fields.lookup ["data", "key"]).getD "" }
  kindGVKs := [("ConfigMap", configMapGVK)]
  driftResync := 600
  backoffMax := 60

def sourceUID : String := "7e3c"

def source : Unstructured where
  groupVersionKind := configMapGVK
  ns := "team"
  name := "settings"
  uid := sourceUID
  labels := ∅
  annotations := (((∅ : StringMap).insert keyReplicate "true").insert
    keyTargetClusters "env=prod").insert keyTargetNamespaces "app"
  metadata := ∅
  fields := (∅ : FieldMap).insert ["data", "key"] "value"

def policy : ReplicationPolicy where
  name := "team-to-app"
  sources := ⟨["team"], none, ["ConfigMap"]⟩
  targets := ⟨⟨∅, []⟩, ["app"]⟩
  options := ⟨false, [], none⟩

def overwritePolicies : PolicyList :=
  ⟨[{ policy with options := ⟨false, [.overwrite], none⟩ }], by decide⟩

def key : NamespacedName := ⟨"team", "configmap-settings-5f2c9a01"⟩

def replication : Replication where
  ns := key.ns
  name := key.name
  uid := "51aa"
  resourceVersion := 3
  generation := 1
  labels := ∅
  ownerReferences := [⟨"v1", "ConfigMap", "settings", sourceUID, true⟩]
  finalizers := []
  deletionTimestamp := none
  spec :=
    { sourceRef := ⟨"ConfigMap", "team", "settings", sourceUID⟩
      origin := .annotated
      resolvedTargets := [⟨"east", ["app"], ""⟩] }
  status := .empty

def slot : SlotKey := ⟨"east", "app", "settings", "", "ConfigMap"⟩

def cluster : ClusterObject :=
  ⟨"fleet", "east", (∅ : StringMap).insert "env" "prod", [("ControlPlaneReady", "True")]⟩

def hub : Hub where
  nextVersion := 10
  freshUID := fun version => "uid-" ++ toString version
  clock := 100
  replications := fun other => if other = key then some replication else none
  sources := fun gvk other =>
    if gvk = configMapGVK ∧ other = ⟨"team", "settings"⟩ then
      some ⟨source, 2, [], none⟩
    else none
  policies := ⟨[policy], by decide⟩
  namespaces := fun name => if name = "team" then some ∅ else none

def namespaceObject : Unstructured :=
  ⟨namespaceGVK, "", "app", "90b2", ∅, ∅, ∅, ∅⟩

def spokes : Spokes :=
  fun other =>
    if other = namespaceSlot "east" "app" then some namespaceObject else none

def fleet : Fleet where
  hub := hub
  spokes := spokes
  clusters := fun name => if name = cluster.key then some cluster else none
  records := (ClusterRecords.upsert ∅ cluster).1
  lastResults := fun _ => none

theorem hub_consistent : hub.Consistent where
  key := by
    intro other rep hrep
    simp only [hub] at hrep
    split_ifs at hrep with hkey
    cases hrep
    exact hkey.symm
  version := by
    intro other rep hrep
    simp only [hub] at hrep
    split_ifs at hrep
    cases hrep
    decide
  sourceVersion := by
    intro gvk other source hsource
    simp only [hub] at hsource
    split_ifs at hsource
    cases hsource
    decide

theorem spokes_wellPlaced : spokes.WellPlaced := by
  intro other hother
  unfold spokes at hother
  split_ifs at hother with heq
  · subst other
    exact .inl rfl
  · cases hother

def emitted : EngineCall → Option EngineSignal
  | .emit signal => some signal
  | _ => none

theorem eq_emit_of_emitted {call : EngineCall} {signal : EngineSignal}
    (hemitted : emitted call = some signal) : call = .emit signal := by
  cases call with
  | emit other => exact congrArg EngineCall.emit (Option.some.inj hemitted)
  | _ => cases hemitted

theorem exists_emit_of_any {trace : List (Exchange Fleet EngineCall.Reply)}
    {signal : EngineSignal}
    (hany : trace.any (fun exchange => emitted exchange.request = some signal) = true) :
    ∃ exchange ∈ trace, exchange.request = .emit signal := by
  obtain ⟨exchange, hmem, hemitted⟩ := List.any_eq_true.mp hany
  exact ⟨exchange, hmem, eq_emit_of_emitted (of_decide_eq_true hemitted)⟩

end Sample

end K8sR8r
