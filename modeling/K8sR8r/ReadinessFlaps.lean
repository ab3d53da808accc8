import K8sR8r.InteractionReplies
import K8sR8r.RequestedReadiness

/-!
# Clusters whose readiness flaps

The request controller resolves targets on ready clusters only, the engine
collects what the spec no longer has, and collection asks whether a cluster is
known, not whether it is ready.  A cluster that is not ready for one resolution
therefore loses its replicas as soon as it can be reached.  A replica is safe
as long as its cluster is ready whenever the request controller looks.
-/

namespace K8sR8r

open Interaction

/-- An apply at the slot that is answered as invalid; the engine would delete
the object and create it again. -/
def EngineCall.Rejects (slot : SlotKey) : (call : EngineCall) → call.Reply → Prop
  | .transportApply cluster obj, reply =>
    slotOf cluster obj.groupVersionKind obj.key = slot ∧
      ∃ err, reply = .error err ∧ err.isInvalid = true
  | _, _ => False

/-- A replica that its source requests, together with what stands still while
it is watched: the policies, the source's annotations, the labels of its
namespace and the labels of the cluster. -/
structure Placement where
  policies : PolicyList
  sourceLabels : StringMap
  clusterLabels : StringMap
  gvk : GroupVersionKind
  source : NamespacedName
  annotations : StringMap
  nn : NamespacedName
  slot : SlotInfo

namespace Placement

variable (placement : Placement)

def key : SlotKey := placement.slot.key placement.gvk

def policySource : PolicySource :=
  ⟨placement.gvk.kind, placement.source.ns, placement.sourceLabels⟩

def target : PolicyTarget :=
  ⟨placement.slot.cluster, placement.clusterLabels, placement.slot.ns⟩

/-- The annotations ask for replication, to this slot unless they are
malformed, and a policy permits it. -/
structure Entitled (library : ParserLibrary) : Prop where
  replicates : replicates placement.annotations = true
  asked : ∀ parsed,
    parseAnnotations library placement.annotations = .ok (some parsed) →
      parsed.clusterSelector.matches placement.clusterLabels = true ∧
      placement.slot.ns ∈ parsed.effectiveNamespaces placement.source.ns ∧
      placement.slot = parsed.slot placement.source.name
        placement.slot.cluster placement.slot.ns
  permitted : ∃ policy ∈ placement.policies.items,
    policy.Permits placement.policySource placement.target

structure Has (spec : ReplicationSpec) : Prop where
  kind : spec.sourceRef.kind = placement.gvk.kind
  ns : spec.sourceRef.ns = placement.source.ns
  name : spec.sourceRef.name = placement.source.name
  slot : placement.slot ∈ specSlots placement.source.name spec.resolvedTargets

/-- Every record of the cluster has its labels, and there is one; its readiness
is left open. -/
def Known (records : ClusterRecords) : Prop :=
  ∀ found, records.Finds placement.slot.cluster found →
    found.map ClusterRecord.labels = some placement.clusterLabels

def Ready (records : ClusterRecords) : Prop :=
  ∃ key record, records.lookup key = some record ∧
    record.name = placement.slot.cluster ∧ record.ready = true

/-- The Replication has the target and nothing is being deleted. -/
structure Kept (fleet : Fleet) : Prop where
  policies : fleet.hub.policies = placement.policies
  labels : (fleet.hub.namespaces placement.source.ns).getD ∅ =
    placement.sourceLabels
  known : placement.Known fleet.records
  consistent : fleet.hub.Consistent
  stored : ∃ rep, fleet.hub.replications placement.nn = some rep ∧
    rep.deletionTimestamp = none ∧ placement.Has rep.spec
  requested : ∃ source,
    fleet.hub.sources placement.gvk placement.source = some source ∧
      source.deletionTimestamp = none ∧
      source.object.annotations = placement.annotations

/-! ## Runs -/

/-- What happens besides the two controllers: anything that leaves the
policies, the source's request, the Replication and the labels alone.  Discovery
records may change in every way that keeps the cluster and its labels. -/
structure Happens (before after : Fleet) : Prop where
  policies : after.hub.policies = before.hub.policies
  labels : after.hub.namespaces placement.source.ns =
    before.hub.namespaces placement.source.ns
  known : placement.Known before.records → placement.Known after.records
  consistent : before.hub.Consistent → after.hub.Consistent
  replication : after.hub.replications placement.nn =
    before.hub.replications placement.nn
  request : ∀ source,
    before.hub.sources placement.gvk placement.source = some source →
      ∃ next, after.hub.sources placement.gvk placement.source = some next ∧
        next.object.annotations = source.object.annotations ∧
        next.deletionTimestamp = source.deletionTimestamp

/-- Any call may fail, transport calls to the cluster included, with two
exceptions: the read of the source namespace does not fail, and no apply of the
replica is rejected as invalid. -/
@[reducible] def Answers (fleet : Fleet) :
    (role : Controller) → (call : role.Call) → role.Reply call → Fleet → Prop
  | .engine, call, reply, after =>
    fleet.Answers (· ≠ .hub (.getNamespaceLabels placement.source.ns)) call reply after ∧
      ¬ call.Rejects placement.key reply
  | .request, call, reply, after =>
    fleet.AnswersRequest (· ≠ .hub (.getNamespaceLabels placement.source.ns)) call reply after
  | .authority, call, reply, after =>
    fleet.AnswersAuthority (fun _ => True) call reply after

def system (config : EngineConfig) (request : RequestConfig) :
    System Fleet Controller.Reply Controller.Outcome where
  semantics := fun role =>
    { interfere := fun before after =>
        placement.Kept before → placement.Kept after
      answers := fun before => placement.Answers before role
      interfere_refl := fun _ kept => kept
      interfere_trans := fun head tail kept => tail (head kept) }
  starts
    | .engine, program => program = reconcile config placement.nn
    | .request, program => program = reconcileRequest request placement.source
    | .authority, _ => False
  outside := fun state => placement.Happens state.world
  restart := fun _ _ => False

/-- The cluster is ready whenever the request controller lists clusters. -/
def readyWhenListed : (role : Controller) → Fleet → role.Call → Prop
  | .request, fleet, .listClusters => placement.Ready fleet.records
  | _, _, _ => True

def steadySystem (config : EngineConfig) (request : RequestConfig) :
    System Fleet Controller.Reply Controller.Outcome :=
  (placement.system config request).restrict placement.readyWhenListed fun _ _ => True

def Deleting (state : PlaneState) : Prop :=
  ∃ cluster gvk key next, state.running .engine =
      some (.call (.transportDelete cluster gvk key) next) ∧
    slotOf cluster gvk key = placement.key

/-! ## Provider updates -/

variable {placement} in
theorem Known.upsert {records : ClusterRecords} (known : placement.Known records)
    {cluster : ClusterObject} (hname : cluster.name = placement.slot.cluster)
    (hlabels : cluster.labels = placement.clusterLabels) :
    placement.Known (records.upsert cluster).1 := by
  have hinsert : placement.Known (records.insert cluster.key (recordFromCluster cluster)) := by
    intro found hfound
    cases found with
    | none =>
      exact (hfound cluster.key _ (Finmap.lookup_insert _) hname).elim
    | some record =>
      obtain ⟨hrecord, key, hlookup⟩ := hfound
      by_cases hkey : key = cluster.key
      · rw [hkey, Finmap.lookup_insert] at hlookup
        cases hlookup
        exact congrArg some hlabels
      · rw [Finmap.lookup_insert_of_ne _ hkey] at hlookup
        exact known (some record) ⟨hrecord, key, hlookup⟩
  unfold ClusterRecords.upsert
  dsimp only
  split
  · exact hinsert
  · split_ifs
    · exact known
    · exact hinsert

theorem happens_of_records {fleet : Fleet} {records : ClusterRecords}
    (known : placement.Known fleet.records → placement.Known records) :
    placement.Happens fleet { fleet with records := records } where
  policies := rfl
  labels := rfl
  known := known
  consistent := id
  replication := rfl
  request := fun source hsource => ⟨source, hsource, rfl, rfl⟩

/-! ## Hub writes -/

def HubAllowed : HubCall → Prop
  | .updateReplication rep => rep.key = placement.nn → placement.Has rep.spec
  | .deleteReplication _ => False
  | _ => True

variable {placement} {fleet : Fleet} {hub : Hub}

variable {rep stored : Replication}

theorem Kept.hub_answers (kept : placement.Kept fleet) {call : HubCall} {reply : call.Reply}
    {fails : Prop} (allowed : placement.HubAllowed call)
    (answer : fleet.hub.Answers fails call reply hub) :
    placement.Kept { fleet with hub := hub } := by
  obtain ⟨rep, hrep, hlive, hhas⟩ := kept.stored
  obtain ⟨source, hsource, hrequested⟩ := kept.requested
  have hundeleted : ∀ key, call ≠ .deleteReplication key := by
    rintro key rfl
    exact allowed
  obtain ⟨hpolicies, hlabels⟩ := answer.background
  obtain ⟨now, hnow, hnowlive, _, hspec, _⟩ :=
    answer.effect.keeps_replication hrep hlive hundeleted
  obtain ⟨version, finalizers, hsource⟩ := answer.effect.keeps_source hsource hrequested.1
  refine ⟨hpolicies.trans kept.policies, ?_, kept.known, kept.consistent.answers answer,
    ⟨now, hnow, hnowlive, ?_⟩, ⟨_, hsource, hrequested⟩⟩
  · rw [hlabels]
    exact kept.labels
  · rcases hspec with hspec | ⟨new, rfl, hkey, hspec⟩
    · rw [hspec]
      exact hhas
    · rw [hspec]
      exact allowed hkey

/-! ## What the replies tell -/

def labelsRead : ApiResult StringMap → StringMap
  | .ok labels => labels
  | .error _ => ∅

variable (placement) in
def HubPromise : (call : HubCall) → call.Reply → Prop
  | .getReplication key, reply => ∀ rep, reply = .ok rep →
      key = placement.nn → rep.key = placement.nn ∧
        rep.deletionTimestamp = none ∧ placement.Has rep.spec
  | .updateReplication rep, reply => ∀ stored, reply = .ok stored →
      stored.key = rep.key ∧ stored.spec = rep.spec
  | .getSource _ key, reply => ∀ src, reply = .ok src → src.name = key.name
  | .getSourceMetadata gvk key, reply => ∀ obj, reply = .ok obj →
      gvk = placement.gvk → key = placement.source → obj.key = key ∧ obj.deletionTimestamp = none ∧
          obj.annotations = placement.annotations
  | .patchSourceFinalizers obj, reply => ∀ stored, reply = .ok stored →
      stored.key = obj.key
  | .listPolicies, reply => ∀ policies, reply = .ok policies →
      policies = placement.policies
  | .getNamespaceLabels ns, reply => ns = placement.source.ns →
      labelsRead reply = placement.sourceLabels
  | _, _ => True

theorem Kept.hub_promise (kept : placement.Kept fleet) {call : HubCall} {reply : call.Reply}
    {fails : Prop} (reads : call = .getNamespaceLabels placement.source.ns → ¬ fails)
    (answer : fleet.hub.Answers fails call reply hub) :
    placement.HubPromise call reply := by
  cases call with
  | getReplication key =>
    rintro rep rfl rfl
    have hrep : fleet.hub.replications placement.nn = some rep := answer.1
    obtain ⟨stored, hstored, hhas⟩ := kept.stored
    rw [hrep] at hstored
    cases hstored
    exact ⟨kept.consistent.key _ _ hrep, hhas⟩
  | updateReplication rep =>
    rintro stored rfl
    obtain ⟨hspec, hkey⟩ := Stake.acceptUpdate_stored answer
    exact ⟨hkey, hspec⟩
  | getSource gvk key =>
    rintro src rfl
    obtain ⟨source, _, rfl⟩ := Option.map_eq_some_iff.mp answer.1
    rfl
  | getSourceMetadata gvk key =>
    rintro obj rfl rfl rfl
    obtain ⟨source, hsource, hlive, hannotations⟩ := kept.requested
    obtain ⟨found, hfound, rfl⟩ := Option.map_eq_some_iff.mp answer.1
    rw [hsource] at hfound
    cases hfound
    exact ⟨rfl, hlive, hannotations⟩
  | patchSourceFinalizers obj =>
    rintro stored rfl
    obtain ⟨cur, _, heq⟩ := Option.map_eq_some_iff.mp answer
    obtain ⟨rfl, _⟩ := Prod.mk.inj heq
    rfl
  | listPolicies =>
    rintro policies rfl
    have hlisted : some fleet.hub.policies = some policies := answer.1
    rw [← Option.some.inj hlisted]
    exact kept.policies
  | getNamespaceLabels ns =>
    rintro rfl
    have hread := answer.1
    rw [← kept.labels]
    cases reply with
    | ok labels =>
      have hlabels : fleet.hub.namespaces placement.source.ns = some labels := hread
      rw [hlabels]
      rfl
    | error err =>
      -- The only error left is a namespace that does not exist.
      have hmissing : if err.isNotFound = true then
          fleet.hub.namespaces placement.source.ns = none else fails :=
        hread
      split_ifs at hmissing
      · rw [hmissing]
        rfl
      · exact (reads rfl hmissing).elim
  | _ => trivial

/-! ## The engine -/

section Engine

variable (placement)

def EnginePromise : (call : EngineCall) → call.Reply → Prop
  | .hub call, reply => placement.HubPromise call reply
  | .lookupCluster name, found => name = placement.slot.cluster →
      found.map ClusterRecord.labels = some placement.clusterLabels
  | .transportApply cluster obj, reply =>
    ¬ (EngineCall.transportApply cluster obj).Rejects placement.key reply
  | _, _ => True

def EngineAllowed : EngineCall → Prop
  | .hub call => placement.HubAllowed call
  | .transportDelete cluster gvk key => slotOf cluster gvk key ≠ placement.key
  | _ => True

end Engine

theorem engineAllowed_of_passive {call : EngineCall} (passive : call.IsPassive) :
    placement.EngineAllowed call := by
  cases call with
  | hub call =>
    cases call with
    | updateReplication rep => exact passive.elim
    | deleteReplication key => exact passive.elim
    | _ => trivial
  | transportDelete cluster gvk key => exact passive.elim
  | _ => trivial

theorem engineAllowed_of_records {call : EngineCall} {inv : List InventoryEntry}
    (records : call.RecordsInventory inv) : placement.EngineAllowed call := by
  cases call with
  | hub call =>
    cases call with
    | updateReplicationStatus rep => trivial
    | _ => exact records.elim
  | _ => exact records.elim

/-- Parts of the engine that write nothing but spoke objects never delete, as
long as no apply of the replica is rejected. -/
abbrev Calm (placement : Placement) {α : Type} (program : EngineProgram α) :
    Prop :=
  program.Promised placement.EnginePromise placement.EngineAllowed fun _ => True

theorem calm_of_passive {α : Type} {program : EngineProgram α} {post : α → Prop}
    (passive : program.Within EngineCall.IsPassive post) :
    placement.Calm program :=
  (passive.weaken (fun _ => engineAllowed_of_passive) fun _ _ => trivial).promised

theorem emitAll_calm (signals : List EngineSignal) : placement.Calm (emitAll signals) := by
  have hcalls : (emitAll signals).AllCalls placement.EngineAllowed :=
    emitAll_allCalls fun _ _ => trivial
  exact hcalls.promised

theorem emitAll_then_calm {α : Type} (signals : List EngineSignal) (value : α) :
    placement.Calm (emitAll signals >>= fun _ => pure value) :=
  (emitAll_calm signals).bind fun _ _ => trivial

theorem applyWithRecreate_calm (cluster : String) (desired : Unstructured) :
    placement.Calm (applyWithRecreate cluster desired) := by
  have hagain : placement.Calm (Program.perform (EngineCall.transportApply cluster desired) :
        EngineProgram (ApiResult Unit)) :=
    ⟨trivial, fun _ _ => trivial⟩
  unfold applyWithRecreate
  rw [Program.perform_bind]
  refine ⟨trivial, ?_⟩
  intro reply hreply
  cases reply with
  | ok _ => trivial
  | error err =>
    dsimp only
    by_cases hinvalid : err.isInvalid = true
    · rw [if_neg (by simpa using hinvalid), Program.perform_bind]
      constructor
      · exact fun hslot => hreply ⟨hslot, err, rfl, hinvalid⟩
      · intro deleted _
        cases deleted with
        | ok _ => exact hagain
        | error delErr =>
          dsimp only
          split_ifs
          · trivial
          · exact hagain
    · rw [if_pos (by simpa using hinvalid)]
      trivial

theorem apply_then_report_calm {program : EngineProgram (ApiResult Unit)}
    (calm : placement.Calm program) (signals : List EngineSignal) :
    placement.Calm (do
      match ← program with
      | .error err => pure (SlotVerdict.ofErr err)
      | .ok () => do
        emitAll signals
        pure SlotVerdict.ready) := by
  apply calm.bind
  intro result _
  cases result with
  | error err => trivial
  | ok _ => exact emitAll_then_calm signals _

theorem convergeExisting_calm (config : EngineConfig) (src : Unstructured)
    (gvk : GroupVersionKind) (slot : SlotInfo) (allowed : List ConflictPolicy)
    (desired : Unstructured) (hash : String) (existing : Unstructured) :
    placement.Calm (convergeExisting config src gvk slot allowed desired hash existing) := by
  have happly : placement.Calm (applyWithRecreate slot.cluster desired) :=
    applyWithRecreate_calm _ _
  unfold convergeExisting
  dsimp only
  cases (decideConflict config.renderer existing src hash allowed).action with
  | fail => exact emitAll_then_calm _ _
  | adopt =>
    apply (emitAll_calm _).bind
    intro _ _
    refine ⟨trivial, fun reply _ => ?_⟩
    cases reply with
    | error err => trivial
    | ok _ => exact emitAll_then_calm _ _
  | overwrite =>
    apply (emitAll_calm _).bind
    intro _ _
    exact apply_then_report_calm happly _
  | apply =>
    dsimp only
    by_cases hwrite : StringMap.get existing.annotations annotationSourceHash ≠ hash ∨
          config.renderer.sourceHash existing ≠ hash
    · rw [if_pos hwrite]
      exact apply_then_report_calm happly _
    · rw [if_neg hwrite]
      trivial

theorem convergeSlot_calm (config : EngineConfig) (src : Unstructured) (gvk : GroupVersionKind)
    (slot : SlotInfo) (allowed : List ConflictPolicy) :
    placement.Calm (convergeSlot config src gvk slot allowed) := by
  unfold convergeSlot
  dsimp only
  rw [Program.perform_bind]
  refine ⟨trivial, fun reply _ => ?_⟩
  cases reply with
  | error err =>
    dsimp only
    split_ifs
    · refine ⟨trivial, fun reply _ => ?_⟩
      cases reply with
      | error err => trivial
      | ok _ => trivial
    · trivial
  | ok existing =>
    dsimp only
    split_ifs
    · exact apply_then_report_calm (applyWithRecreate_calm _ _) _
    · exact convergeExisting_calm _ _ _ _ _ _ _ _

theorem applyTarget_calm (config : EngineConfig) (nn : NamespacedName) (src : Unstructured)
    (gvk : GroupVersionKind) (slot : SlotInfo) (eff : EffectiveOptions)
    (inv : List InventoryEntry) :
    placement.Calm (applyTarget config nn src gvk slot eff inv) := by
  have hsettle : ∀ verdict, placement.Calm (settleSlot nn gvk slot
      (config.renderer.sourceHash src) inv verdict) :=
    fun verdict => calm_of_passive (within_passive (settleSlot_within nn gvk slot _ inv verdict))
  have hensure : (ensureNamespace slot.cluster slot.ns
      eff.allowNamespaceCreation).AllCalls placement.EngineAllowed := by
    apply (ensureNamespace_calls slot.cluster slot.ns
      eff.allowNamespaceCreation).weaken _ fun _ h => h
    rintro call (rfl | ⟨_, rfl⟩)
    · trivial
    · trivial
  unfold applyTarget
  dsimp only
  apply hensure.promised.bind
  intro result _
  cases result with
  | missing text => exact ⟨trivial, fun _ _ => trivial⟩
  | failed err => exact hsettle _
  | ensured =>
    apply (convergeSlot_calm config src gvk slot eff.allowedConflictPolicies).bind
    exact fun verdict _ => hsettle verdict

theorem fanOutSlot_calm (config : EngineConfig) (nn : NamespacedName) (src : Unstructured)
    (gvk : GroupVersionKind) (policies : List ReplicationPolicy) (outcome : RevocationOutcome)
    (fan : FanOut) (slot : SlotInfo × Decision) :
    placement.Calm (fanOutSlot config nn src gvk policies outcome fan slot) := by
  unfold fanOutSlot
  split_ifs
  · exact (applyTarget_calm _ _ _ _ _ _ _).bind fun _ _ => trivial
  · exact emitAll_then_calm _ _

theorem collectGarbage_calm (config : EngineConfig) (nn : NamespacedName) (sourceUID : String)
    {keep : List SlotKey} (inv : List InventoryEntry) (kept : placement.key ∈ keep) :
    placement.Calm (collectGarbage config nn sourceUID keep inv) := by
  apply Program.Within.promised
  apply (collectGarbage_within config nn sourceUID keep inv).weaken _ fun _ _ => trivial
  rintro call (hpassive | ⟨entry, _, hkeep, rfl | hdeletes⟩)
  · exact engineAllowed_of_passive hpassive
  · trivial
  · cases call with
    | transportDelete cluster gvk key =>
      intro hslot
      have hentry : slotOf cluster gvk key = keyForEntry entry := hdeletes
      rw [← hentry, hslot] at hkeep
      exact hkeep kept
    | _ => exact hdeletes.elim

theorem converge_calm (config : EngineConfig) (nn : NamespacedName) (rep : Replication)
    (src : Unstructured) {gvk : GroupVersionKind} (policies : List ReplicationPolicy)
    {slots : List (SlotInfo × Decision)} (outcome : RevocationOutcome)
    (kept : placement.key ∈ allowedKeys gvk slots) :
    placement.Calm (converge config nn rep src gvk policies slots outcome) := by
  have hrecords : ∀ {α : Type} {inv : List InventoryEntry}
      {program : EngineProgram α}, program.AllCalls
        (fun call => call.IsMinor ∨ call.RecordsInventory inv) → placement.Calm program := by
    intro α inv program hcalls
    apply Program.Within.promised
    apply hcalls.weaken _ fun _ h => h
    intro call hcall
    rcases hcall with hminor | hrecords
    · exact engineAllowed_of_passive hminor.passive
    · exact engineAllowed_of_records hrecords
  unfold converge
  dsimp only
  have hpersist := hrecords ((persistPlanned_calls rep
    (planInventory gvk slots rep.status.inventory)).weaken (fun _ => .inr) fun _ h => h)
  apply hpersist.bind
  intro stored _
  cases stored with
  | error err => trivial
  | ok rep =>
    apply Program.Promised.bind (Program.Promised.foldlM
      (fun slot _ fan _ => fanOutSlot_calm config nn src gvk policies outcome fan slot) trivial)
    intro fan _
    apply (collectGarbage_calm config nn _ fan.inv (List.mem_append_right _ kept)).bind
    intro gc _
    exact hrecords (finishFanOut_calls config nn _ _ _ _ _ _)

/-! ### Preparing -/

/-- The preparation of the watched Replication ends without a verdict, or in a
fanout that allows the slot. -/
def Settles (placement : Placement) : Prepared → Prop
  | .ended _ => True
  | .deleting _ => False
  | .simple _ _ _ => True
  | .fanOut _ _ gvk _ slots _ => placement.key ∈ allowedKeys gvk slots

def Flattens (placement : Placement) (sourceName : String) (resolved : List ResolvedTarget)
    (targets : List (SlotInfo × PolicyTarget)) : Prop :=
  ∀ slot ∈ specSlots sourceName resolved, slot.cluster = placement.slot.cluster →
      (slot, ⟨slot.cluster, placement.clusterLabels, slot.ns⟩) ∈ targets

theorem flattenTargets_promised (sourceName : String) (resolved : List ResolvedTarget) :
    (flattenTargets sourceName resolved).Promised placement.EnginePromise placement.EngineAllowed
      (placement.Flattens sourceName resolved) := by
  induction resolved with
  | nil =>
    intro slot hslot
    simp [specSlots] at hslot
  | cons tgt rest ih =>
    refine ⟨trivial, fun found hfound => ih.bind ?_⟩
    intro more hmore slot hslot hcluster
    rw [specSlots, List.flatMap_cons, List.mem_append] at hslot
    apply List.mem_append.mpr
    rcases hslot with hhead | htail
    · left
      obtain ⟨ns, hns, rfl⟩ := List.mem_map.mp hhead
      have hlabels : (found.map ClusterRecord.labels).getD ∅ =
          placement.clusterLabels := by
        rw [hfound hcluster]
        rfl
      rw [hlabels]
      exact List.mem_map.mpr ⟨ns, hns, rfl⟩
    · exact .inr (hmore slot htail hcluster)

theorem namespaceLabels_promised :
    (namespaceLabels placement.source.ns).Promised placement.EnginePromise
      placement.EngineAllowed (· = placement.sourceLabels) := by
  unfold namespaceLabels
  rw [hub_bind]
  refine ⟨trivial, fun reply hreply => ?_⟩
  cases reply with
  | ok labels => exact hreply rfl
  | error err => exact hreply rfl

section Prepare

variable {library : ParserLibrary} (entitled : placement.Entitled library)

include entitled

variable {config : EngineConfig}

theorem prepareSource_promised {src : Unstructured} (has : placement.Has rep.spec)
    (hname : src.name = placement.source.name) :
    (prepareSource rep placement.gvk src).Promised placement.EnginePromise
      placement.EngineAllowed placement.Settles := by
  unfold prepareSource
  rw [hub_bind]
  refine ⟨trivial, fun reply hreply => ?_⟩
  cases reply with
  | error err => trivial
  | ok policies =>
    obtain rfl := hreply policies rfl
    dsimp only
    rw [has.ns]
    apply namespaceLabels_promised.bind
    rintro labels rfl
    apply (flattenTargets_promised src.name rep.spec.resolvedTargets).bind
    intro targets htargets
    refine ⟨trivial, fun prev _ => ⟨trivial, fun _ _ => ?_⟩⟩
    have hslot : placement.slot ∈ specSlots src.name
        rep.spec.resolvedTargets := by
      rw [hname]
      exact has.slot
    have hmem := htargets placement.slot hslot rfl
    have hallowed : (decideTarget placement.policySource placement.target
        placement.policies.items).allowed = true :=
      (decideTarget_allowed_iff _ _ _).mpr entitled.permitted
    apply (mem_allowedKeys_iff _ _ _).mpr
    rw [zip_decisions, has.kind]
    exact ⟨_, List.mem_map.mpr ⟨_, hmem, rfl⟩, hallowed, rfl⟩

variable (configured : config.kindGVKs.lookup placement.gvk.kind = some placement.gvk)
include configured

theorem prepareLive_promised (has : placement.Has rep.spec) :
    (prepareLive config rep).Promised placement.EnginePromise
      placement.EngineAllowed placement.Settles := by
  unfold prepareLive
  dsimp only
  rw [has.kind, configured]
  dsimp only
  rw [hub_bind]
  refine ⟨trivial, fun reply hreply => ?_⟩
  cases reply with
  | error err =>
    dsimp only
    split_ifs
    · trivial
    · trivial
  | ok src =>
    dsimp only
    split_ifs
    · trivial
    · exact prepareSource_promised entitled has ((hreply src rfl).trans has.name)

theorem prepare_promised :
    (prepare config placement.nn).Promised placement.EnginePromise
      placement.EngineAllowed placement.Settles := by
  unfold prepare
  rw [hub_bind]
  refine ⟨trivial, fun reply hreply => ?_⟩
  cases reply with
  | error err =>
    dsimp only
    split_ifs
    · exact ⟨trivial, fun _ _ => (emitAll_calm _).bind fun _ _ => trivial⟩
    · trivial
  | ok rep =>
    obtain ⟨hkey, hlive, has⟩ := hreply rep rfl rfl
    dsimp only
    rw [hlive]
    split_ifs with hdeleted
    · cases hdeleted
    · trivial
    · have hfinalizer : (ensureFinalizer rep).Promised
          placement.EnginePromise placement.EngineAllowed
          fun held => ∀ rep, held = .ok rep → placement.Has rep.spec := by
        unfold ensureFinalizer
        split_ifs
        · rintro _ ⟨⟩
          exact has
        · refine ⟨fun _ => has, fun reply hreply => ?_⟩
          rintro stored rfl
          rw [(hreply stored rfl).2]
          exact has
      apply hfinalizer.bind
      intro held hheld
      cases held with
      | error err => trivial
      | ok rep =>
        exact prepareLive_promised entitled configured (hheld rep rfl)

theorem reconcile_calm : placement.Calm (reconcile config placement.nn) := by
  rw [reconcile_eq]
  apply (prepare_promised entitled configured).bind
  intro prepared hsettles
  cases prepared with
  | ended result => trivial
  | deleting rep => exact hsettles.elim
  | simple rep reason message =>
    apply Program.Within.promised
    apply (finishSimple_calls rep reason message minute).weaken _ fun _ h => h
    intro call hcall
    rcases hcall with hpassive | hrecords
    · exact engineAllowed_of_passive hpassive
    · exact engineAllowed_of_records hrecords
  | fanOut rep src gvk policies slots outcome =>
    apply (emitAll_calm outcome.signals).bind
    intro _ _
    exact converge_calm config placement.nn rep src policies outcome hsettles

end Prepare

/-! ## The request controller -/

section Request

variable (placement)

def RequestPromise : (call : RequestCall) → call.Reply → Prop
  | .hub call, reply => placement.HubPromise call reply
  | .listClusters, clusters => ∃ record ∈ clusters,
      record.name = placement.slot.cluster ∧ record.ready = true ∧
        record.labels = placement.clusterLabels
  | _, _ => True

def RequestAllowed : RequestCall → Prop
  | .hub call => placement.HubAllowed call
  | _ => True

/-- The request controller neither drops the target nor deletes the
Replication. -/
abbrev Obliging (placement : Placement) {α : Type} (program : RequestProgram α) (post : α → Prop) :
    Prop :=
  program.Promised placement.RequestPromise placement.RequestAllowed post

end Request

theorem mem_candidateTargets {parsed : AnnotationRequest} {clusters : List ClusterRecord}
    {record : ClusterRecord} {sourceNamespace ns : String} (hrecord : record ∈ clusters)
    (hready : record.ready = true)
    (hselected : parsed.clusterSelector.matches record.labels = true)
    (hns : ns ∈ parsed.effectiveNamespaces sourceNamespace) :
    (⟨record.name, record.labels, ns⟩ : PolicyTarget) ∈
      candidateTargets parsed sourceNamespace clusters := by
  unfold candidateTargets
  simp only [List.mem_flatMap, List.mem_filter, List.mem_insertionSort,
    Bool.and_eq_true, List.mem_map]
  exact ⟨record, ⟨hrecord, hready, hselected⟩, ns, hns, rfl⟩

section Obliging

variable {request : RequestConfig} (entitled : placement.Entitled request.library)
  (hkind : request.gvk = placement.gvk)

include entitled hkind

variable {obj : PartialObjectMetadata} {parsed : AnnotationRequest}

theorem resolveTargets_obliging (hobj : obj.key = placement.source)
    (hparsed : parseAnnotations request.library placement.annotations = .ok (some parsed)) :
    placement.Obliging (resolveTargets request obj parsed) fun result =>
      ∀ targets, result = .ok targets →
        placement.slot ∈ specSlots placement.source.name targets.1 := by
  obtain ⟨hselected, hns, hslot⟩ := entitled.asked parsed hparsed
  have hsource : obj.ns = placement.source.ns :=
    congrArg NamespacedName.ns hobj
  unfold resolveTargets
  rw [Program.perform_bind, hsource]
  refine ⟨trivial, fun clusters hclusters => ?_⟩
  obtain ⟨record, hrecord, hname, hready, hlabels⟩ := hclusters
  have hcandidate : placement.target ∈ candidateTargets parsed placement.source.ns clusters := by
    have hmem := mem_candidateTargets hrecord hready (by rw [hlabels]; exact hselected) hns
    rw [hname, hlabels] at hmem
    exact hmem
  dsimp only
  rw [if_neg (by
    rw [List.isEmpty_iff]
    exact List.ne_nil_of_mem hcandidate)]
  have hlabels : placement.Obliging (requestLabels placement.source.ns)
      (· = placement.sourceLabels) := by
    unfold requestLabels
    rw [requestHub_bind]
    refine ⟨trivial, fun reply hreply => ?_⟩
    cases reply with
    | ok labels => exact hreply rfl
    | error err => exact hreply rfl
  apply hlabels.bind
  rintro labels rfl
  rw [requestHub_bind]
  refine ⟨trivial, fun reply hreply => ?_⟩
  cases reply with
  | error err =>
    rintro targets ⟨⟩
  | ok policies =>
    obtain rfl := hreply policies rfl
    rintro targets ⟨⟩
    rw [mem_specSlots_foldl_addResolved (by simp), hkind]
    right
    refine ⟨decideTarget placement.policySource placement.target
      placement.policies.items, List.mem_filter.mpr ⟨?_, ?_⟩, ?_⟩
    · rw [evaluate_decisions]
      exact List.mem_map.mpr ⟨_, hcandidate, rfl⟩
    · exact (decideTarget_allowed_iff _ _ _).mpr entitled.permitted
    · rw [decisionSlot, decideTarget_target]
      exact hslot

theorem materialize_obliging (hobj : obj.key = placement.source)
    (hparsed : parseAnnotations request.library placement.annotations = .ok (some parsed)) :
    placement.Obliging (materialize request obj parsed) fun _ => True := by
  have hhold : placement.Obliging (holdSource obj)
      fun held => ∀ obj, held = .ok obj → obj.key = placement.source := by
    unfold holdSource
    split_ifs
    · rintro _ ⟨⟩
      exact hobj
    · refine ⟨trivial, fun reply hreply => ?_⟩
      rintro stored rfl
      exact (hreply stored rfl).trans hobj
  unfold materialize
  apply hhold.bind
  intro held hheld
  cases held with
  | error err => trivial
  | ok obj =>
    have hobj := hheld obj rfl
    apply (resolveTargets_obliging entitled hkind hobj hparsed).bind
    intro result hresult
    cases result with
    | error err => trivial
    | ok targets =>
      have hhas : placement.Has (desiredReplication request obj targets.1).spec :=
        ⟨congrArg GroupVersionKind.kind hkind, congrArg NamespacedName.ns hobj,
          congrArg NamespacedName.name hobj, hresult targets rfl⟩
      have hannounce : placement.Obliging (announceDenied targets.2) fun _ => True :=
        (announceDenied_allCalls (fun _ => trivial) _).promised
      have hwrite : placement.Obliging (writeReplication request obj targets.1) fun _ => True :=
        (writeReplication_allCalls request obj targets.1 (fun _ => trivial) (fun _ => trivial)
          trivial fun _ hspec _ => hspec ▸ hhas).promised
      apply hannounce.bind
      intro _ _
      unfold placeReplication
      apply hwrite.bind
      intro written _
      match written with
      | .error err => trivial
      | .ok false => trivial
      | .ok true =>
        exact (reportTargetResolution_allCalls _ _ _ trivial (fun _ => trivial)
          fun _ => trivial).promised

/-- While the cluster is ready whenever it is listed, the request controller
keeps the target. -/
theorem reconcileRequest_obliging : placement.Obliging (reconcileRequest request placement.source)
      fun _ => True := by
  unfold reconcileRequest
  rw [requestHub_bind]
  refine ⟨trivial, fun reply hreply => ?_⟩
  cases reply with
  | error err => trivial
  | ok obj =>
    obtain ⟨hobj, hlive, hannotations⟩ := hreply obj rfl hkind rfl
    dsimp only
    rw [hlive, hannotations, entitled.replicates]
    split_ifs with _ _ hrelease
    · exact ⟨trivial, fun _ _ => trivial⟩
    · trivial
    · simp at hrelease
    · cases hparsed : parseAnnotations request.library placement.annotations with
      | error errs => exact ⟨trivial, fun _ _ => trivial⟩
      | ok parsed =>
        cases parsed with
        | none => trivial
        | some parsed =>
          exact materialize_obliging entitled hkind hobj hparsed

end Obliging

/-! ## Whole runs -/

variable {after : Fleet}

theorem Kept.engine_answers (kept : placement.Kept fleet) {call : EngineCall} {reply : call.Reply}
    (allowed : placement.EngineAllowed call)
    (answer : placement.Answers fleet .engine call reply after) :
    placement.EnginePromise call reply ∧ placement.Kept after := by
  obtain ⟨hanswer, haccepted⟩ := answer
  have hspokes : ∀ spokes, placement.Kept { fleet with spokes := spokes } :=
    fun spokes => ⟨kept.policies, kept.labels, kept.known, kept.consistent,
      kept.stored, kept.requested⟩
  have hmemory : ∀ results, placement.Kept { fleet with lastResults := results } :=
    fun results => ⟨kept.policies, kept.labels, kept.known, kept.consistent,
      kept.stored, kept.requested⟩
  cases call with
  | hub call =>
    obtain ⟨hub, hhub, rfl⟩ := hanswer
    refine ⟨kept.hub_promise ?_ hhub, kept.hub_answers allowed hhub⟩
    rintro rfl hfails
    exact hfails rfl
  | lookupCluster name =>
    obtain ⟨hfinds, rfl⟩ := hanswer
    refine ⟨?_, kept⟩
    rintro rfl
    exact kept.known reply hfinds
  | transportApply cluster obj =>
    obtain ⟨spokes, _, rfl⟩ := hanswer
    exact ⟨haccepted, hspokes spokes⟩
  | transportDelete cluster gvk key =>
    obtain ⟨spokes, _, rfl⟩ := hanswer
    exact ⟨trivial, hspokes spokes⟩
  | transportGet cluster gvk key =>
    rw [hanswer.2]
    exact ⟨trivial, kept⟩
  | previousResult uid =>
    rw [hanswer.2]
    exact ⟨trivial, kept⟩
  | storeResult uid result =>
    cases hanswer
    exact ⟨trivial, hmemory _⟩
  | forgetResult uid =>
    cases hanswer
    exact ⟨trivial, hmemory _⟩
  | _ =>
    cases hanswer
    exact ⟨trivial, kept⟩

theorem Kept.listed (kept : placement.Kept fleet) (ready : placement.Ready fleet.records)
    {clusters : List ClusterRecord} (lists : fleet.records.Lists clusters) :
    placement.RequestPromise .listClusters clusters := by
  obtain ⟨key, record, hlookup, hname, hready⟩ := ready
  have hlabels := kept.known (some record) ⟨hname, key, hlookup⟩
  exact ⟨record, (lists.mem_iff record).mpr ⟨key, hlookup⟩, hname, hready, Option.some.inj hlabels⟩

theorem Kept.request_answers (kept : placement.Kept fleet) {call : RequestCall}
    {reply : call.Reply} (allowed : placement.RequestAllowed call)
    (ready : placement.readyWhenListed .request fleet call)
    (answer : placement.Answers fleet .request call reply after) :
    placement.RequestPromise call reply ∧ placement.Kept after := by
  cases call with
  | hub call =>
    obtain ⟨hub, hhub, rfl⟩ := answer
    refine ⟨kept.hub_promise ?_ hhub, kept.hub_answers allowed hhub⟩
    rintro rfl hfails
    exact hfails rfl
  | listClusters =>
    obtain ⟨hlists, rfl⟩ := answer
    exact ⟨kept.listed ready hlists, kept⟩
  | now =>
    cases answer
    exact ⟨trivial, kept⟩
  | emit event =>
    cases answer
    exact ⟨trivial, kept⟩

theorem Happens.kept (happens : placement.Happens fleet after) (kept : placement.Kept fleet) :
    placement.Kept after where
  policies := happens.policies.trans kept.policies
  labels := by
    rw [happens.labels]
    exact kept.labels
  known := happens.known kept.known
  consistent := happens.consistent kept.consistent
  stored := by
    rw [happens.replication]
    exact kept.stored
  requested := by
    obtain ⟨source, hsource, hlive, hannotations⟩ := kept.requested
    obtain ⟨next, hnext, hsame, hdeletion⟩ := happens.request source hsource
    exact ⟨next, hnext, hdeletion.trans hlive, hsame.trans hannotations⟩

variable (placement) in
def guards : (role : Controller) → Fleet → role.Call → Prop
  | .engine, fleet, call => placement.Kept fleet ∧
      placement.EngineAllowed call
  | .request, fleet, call => placement.Kept fleet ∧
      placement.RequestAllowed call
  | .authority, _, _ => False

theorem steadySystem_certified {config : EngineConfig} {request : RequestConfig}
    (entitled : placement.Entitled request.library) (hkind : request.gvk = placement.gvk)
    (configured : config.kindGVKs.lookup placement.gvk.kind = some placement.gvk) :
    (placement.steadySystem config request).Certified placement.Kept placement.guards where
  outside_invariant := fun kept change => change.1.kept kept
  outside_tolerated := fun _ _ _ _ _ change => change.1.kept
  restart_invariant := fun _ change => change.elim
  guard_invariant := by
    intro role fleet call hguard
    cases role with
    | engine => exact hguard.1
    | request => exact hguard.1
    | authority => exact hguard.elim
  start_safe := by
    intro role program fleet hstarts kept
    have hstable : ∀ role, Stable ((placement.steadySystem config
        request).semantics role) placement.Kept :=
      fun _ _ _ kept change => change kept
    cases role with
    | engine =>
      cases hstarts
      apply (Safe.of_promised (reconcile_calm entitled configured)
        (hstable .engine) kept (fun hcall hkept => ⟨hkept, hcall⟩)
        ?_).weaken fun _ _ h => h.2
      intro current call reply after hcall hkept answer
      exact hkept.engine_answers hcall answer.1
    | request =>
      cases hstarts
      apply (Safe.of_promised (reconcileRequest_obliging entitled hkind)
        (hstable .request) kept (fun hcall hkept => ⟨hkept, hcall⟩)
        ?_).weaken fun _ _ h => h.2
      intro current call reply after hcall hkept answer
      exact hkept.request_answers hcall answer.2 answer.1
    | authority => exact hstarts.elim
  call_tolerated := by
    intro role other fleet call reply after _ hguard answer kept
    cases role with
    | engine => exact (kept.engine_answers hguard.2 answer.1).2
    | request => exact (kept.request_answers hguard.2 answer.2 answer.1).2
    | authority => exact hguard.elim

end Placement

/-! ## A flap that deletes -/

namespace Sample

def placement : Placement where
  policies := granting
  sourceLabels := ∅
  clusterLabels := (∅ : StringMap).insert "env" "prod"
  gvk := configMapGVK
  source := sourceKey
  annotations := source.annotations
  nn := key
  slot := ⟨"east", "app", "settings"⟩

def placed : Fleet := reconciled (fleet.withPolicies granting)

def discovering (start : Fleet) (cluster : ClusterObject) : Fleet :=
  { start with records := (start.records.upsert cluster).1 }

def failing : ClusterObject :=
  { cluster with conditions := [("ControlPlaneReady", "False")] }

theorem placement_entitled : placement.Entitled request.library where
  replicates := by decide +kernel
  asked := by
    intro parsed hparsed
    have hasked : parseAnnotations request.library placement.annotations =
        .ok (some (asked ["app"])) := rfl
    rw [hasked] at hparsed
    cases hparsed
    decide +kernel
  permitted := by decide +kernel

theorem placement_kept : placement.Kept placed := by
  have hshows : placed.Shows (stake granting).sight "team" :=
    reconciled_shows (fleet_shows granting)
  have hstored : ∃ rep ∈ placed.hub.replications key, rep.deletionTimestamp = none ∧
      rep.spec.sourceRef.kind = "ConfigMap" ∧
      rep.spec.sourceRef.ns = "team" ∧ rep.spec.sourceRef.name = "settings" ∧
      placement.slot ∈ specSlots "settings" rep.spec.resolvedTargets := by
    decide +kernel
  have hrequested : ∃ found ∈ placed.hub.sources configMapGVK sourceKey,
      found.deletionTimestamp = none ∧
      found.object.annotations = source.annotations := by
    decide +kernel
  obtain ⟨rep, hrep, hlive, hkind, hns, hname, hslot⟩ := hstored
  exact
    { policies := hshows.policies
      labels := hshows.labels
      known := by
        intro found hfound
        rw [hshows.inventory "east" found hfound]
        decide +kernel
      consistent := reconciled_consistent (withPolicies_consistent granting hub_consistent)
      stored := ⟨rep, hrep, hlive, hkind, hns, hname, hslot⟩
      requested := hrequested }

/-- The cluster fails after the request controller has listed it. -/
def failed : Fleet :=
  discovering (soloRequest placed).final failing

theorem failed_not_ready : ¬ placement.Ready failed.records := by
  have hrecords : failed.records =
      (∅ : ClusterRecords).insert cluster.key (recordFromCluster failing) := by
    decide +kernel
  rintro ⟨key, record, hlookup, _, hready⟩
  rw [hrecords] at hlookup
  by_cases hkey : key = cluster.key
  · rw [hkey, Finmap.lookup_insert] at hlookup
    cases hlookup
    revert hready
    decide +kernel
  · rw [Finmap.lookup_insert_of_ne _ hkey, Finmap.lookup_empty] at hlookup
    cases hlookup

theorem not_rejects_handle (start : Fleet) (call : EngineCall) :
    ¬ call.Rejects placement.key (start.handle call).1 := by
  cases call with
  | transportApply cluster obj =>
    rintro ⟨_, err, hreply, hinvalid⟩
    have hanswer : (start.spokes.handleApply (slotOf cluster obj.groupVersionKind obj.key) obj).1 =
          .error err := hreply
    unfold Spokes.handleApply at hanswer
    split_ifs at hanswer
    cases hanswer
    simp [ApiError.isInvalid] at hinvalid
  | _ => exact id

theorem reconcile_answered (start : Fleet) :
    Answered ((placement.system engine request).semantics .engine)
      (execute Fleet.handle (reconcile engine key) start).trace := by
  apply execute_answered
  intro world call
  exact ⟨Fleet.answers_handle (· ≠ .hub (.getNamespaceLabels "team")) world call,
    not_rejects_handle world call⟩

theorem soloRequest_answered (start : Fleet) :
    Answered ((placement.system engine request).semantics .request) (soloRequest start).trace :=
  execute_answered (fun world call =>
    Fleet.answersRequest_handleRequest (· ≠ .hub (.getNamespaceLabels "team")) world call) _ _

theorem failed_reachable : (placement.steadySystem engine request).Reachable
    (System.idle placed) (System.idle failed) := by
  have hlisted : ∀ exchange ∈ (soloRequest placed).trace,
      exchange.before.records.lookup cluster.key = some (recordFromCluster cluster) := by
    decide +kernel
  have hready : ∀ exchange ∈ (soloRequest placed).trace,
      placement.Ready exchange.before.records :=
    fun exchange hmem => ⟨_, _, hlisted exchange hmem, rfl, by decide⟩
  have hresolved := System.reachable_execute_idle (placement.steadySystem engine request)
    Controller.request rfl ((soloRequest_answered placed).restrict fun exchange hmem => by
      have hexchange := hready exchange hmem
      unfold Placement.readyWhenListed
      split
      · exact hexchange
      · trivial)
  exact hresolved.tail (.outside ⟨placement.happens_of_records
    fun known => known.upsert rfl rfl, trivial⟩)

end Sample

/-- However the readiness of the cluster flaps, its replica is not deleted in
any run in which the cluster is ready whenever the request controller lists
clusters. -/
theorem flapping_spares_replica (placement : Placement) (config : EngineConfig)
    (request : RequestConfig)
    (entitled : placement.Entitled request.library)
    (hkind : request.gvk = placement.gvk)
    (configured : config.kindGVKs.lookup placement.gvk.kind = some placement.gvk)
    (start : Fleet)
    (kept : placement.Kept start)
    (state : PlaneState)
    (reach : (placement.steadySystem config request).Reachable (System.idle start) state) :
    ¬ placement.Deleting state := by
  rintro ⟨cluster, gvk, key, next, hwaiting, hslot⟩
  have hcertified := Placement.steadySystem_certified entitled hkind configured
  exact (hcertified.guard_reachable kept reach hwaiting).2 hslot

open Sample

/-- The request controller lists a ready cluster, the cluster fails, and the
engine reconciles to the end. -/
theorem flapping_spares_replica_sample :
    ¬ placement.Ready failed.records ∧
    (execute Fleet.handle (reconcile engine key) failed).value = .ok ⟨600⟩ ∧
    ∀ exchange ∈ (execute Fleet.handle (reconcile engine key) failed).trace,
      deletedSlot exchange.request ≠ some slot := by
  refine ⟨failed_not_ready, by decide +kernel, ?_⟩
  intro exchange hmem hdeleted
  obtain ⟨cluster, gvk, key, hcall, hslot⟩ := deletedSlot_eq_some hdeleted
  obtain ⟨state, hreach, _, next, hwaiting⟩ := System.reachable_idle_exchange
    (placement.steadySystem engine request) .engine rfl
    ((reconcile_answered failed).restrict fun _ _ => trivial) hmem hcall
  exact flapping_spares_replica placement engine request
    placement_entitled rfl rfl placed placement_kept state
    (failed_reachable.trans hreach) ⟨cluster, gvk, key, next, hwaiting, hslot⟩

namespace Sample

theorem discovering_reachable (start : Fleet) (changed : ClusterObject)
    (hname : changed.name = "east") (hlabels : changed.labels = cluster.labels) :
    (placement.system engine request).Reachable (System.idle start)
      (System.idle (discovering start changed)) := by
  apply Relation.ReflTransGen.single
  apply System.Step.outside
  apply Placement.happens_of_records
  exact fun known => known.upsert hname hlabels

theorem resolving_reachable (start : Fleet) :
    (placement.system engine request).Reachable (System.idle start)
      (System.idle (soloRequest start).final) := by
  exact System.reachable_execute_idle _ Controller.request rfl (soloRequest_answered start)

def flapped : Fleet :=
  discovering (soloRequest (discovering placed failing)).final cluster

theorem flapped_reachable : (placement.system engine request).Reachable (System.idle placed)
      (System.idle flapped) :=
  ((discovering_reachable placed failing rfl rfl).trans (resolving_reachable _)).trans
      (discovering_reachable _ cluster rfl rfl)

theorem flapped_deleting :
    ∃ state,
      (placement.system engine request).Reachable (System.idle flapped) state ∧
      placement.Deleting state := by
  have hdeletes : ∃ exchange ∈ (execute Fleet.handle (reconcile engine key)
      flapped).trace, deletedSlot exchange.request = some slot := by
    decide +kernel
  obtain ⟨exchange, hmem, hslot⟩ := hdeletes
  obtain ⟨cluster, gvk, key, hcall, hslot⟩ := deletedSlot_eq_some hslot
  obtain ⟨state, hreach, _, next, hwaiting⟩ :=
    System.reachable_idle_exchange (placement.system engine request)
      .engine rfl (reconcile_answered flapped) hmem hcall
  exact ⟨state, hreach, cluster, gvk, key, next, hwaiting, hslot⟩

end Sample

/-- The cluster is not ready for one resolution and recovers: the engine
deletes the replica. -/
theorem flap_deletes_replica :
    placement.Entitled request.library ∧
    placement.Kept placed ∧
    ∃ state,
      (placement.system engine request).Reachable (System.idle placed) state ∧
      placement.Deleting state := by
  obtain ⟨state, hreach, hdeleting⟩ := flapped_deleting
  exact ⟨placement_entitled, placement_kept, state,
    flapped_reachable.trans hreach, hdeleting⟩

end K8sR8r
