import K8sR8r.InteractionLockstep
import K8sR8r.SoloReconcile

/-!
# What telemetry says about payloads

Events, status writes and metrics of a reconcile are the same in two worlds
that differ only in payloads of equal hash.

The engine is put in lockstep with itself.  The calls of the two sides may
differ in the payload of what they apply and in nothing else, and the objects
they read may differ in payloads with the same hash.
-/

namespace K8sR8r

open Interaction

/-! ## Objects and fleets up to payloads -/

/-- The two objects differ in payload fields only. -/
def Unstructured.SameMetadata (first second : Unstructured) : Prop :=
  { first with fields := second.fields } = second
deriving Decidable

/-- They differ in payload fields only and have the same hash. -/
def Renderer.Alike (renderer : Renderer) (first second : Unstructured) :
    Prop :=
  first.SameMetadata second ∧ renderer.sourceHash first = renderer.sourceHash second
deriving Decidable

def Renderer.AlikeAt (renderer : Renderer) : Option Unstructured → Option Unstructured → Prop
  | some first, some second => renderer.Alike first second
  | none, none => True
  | _, _ => False

instance (renderer : Renderer) (first second : Option Unstructured) :
    Decidable (renderer.AlikeAt first second) :=
  match first, second with
  | some first, some second =>
    inferInstanceAs (Decidable (renderer.Alike first second))
  | none, none => isTrue trivial
  | some _, none => isFalse fun h => h
  | none, some _ => isFalse fun h => h

/-- Replies to a read: the same error, or alike objects. -/
def Renderer.ReadsAlike (renderer : Renderer) :
    ApiResult Unstructured → ApiResult Unstructured → Prop
  | .ok first, .ok second => renderer.Alike first second
  | .error first, .error second => first = second
  | _, _ => False

/-- The worlds agree on everything but payloads, and payloads have equal
hashes. -/
structure Fleet.SameButPayload
    (renderer : Renderer) (first second : Fleet) : Prop where
  hub : second.hub = { first.hub with sources := second.hub.sources }
  clusters : second.clusters = first.clusters
  records : second.records = first.records
  lastResults : second.lastResults = first.lastResults
  sources : ∀ gvk key, renderer.AlikeAt
    ((first.hub.sources gvk key).map (Hub.objectAt gvk key))
    ((second.hub.sources gvk key).map (Hub.objectAt gvk key))
  sourceMetadata : ∀ gvk key,
    (first.hub.sources gvk key).map (Hub.metadataAt gvk key) =
      (second.hub.sources gvk key).map (Hub.metadataAt gvk key)
  spokes : ∀ slot, renderer.AlikeAt (first.spokes slot) (second.spokes slot)

/-! ## Corresponding calls -/

/-- The hub requests of the engine, reading the source apart. -/
def HubCall.IsPlain : HubCall → Prop
  | .getReplication _ => True
  | .updateReplication _ => True
  | .updateReplicationStatus _ => True
  | .listPolicies => True
  | .getNamespaceLabels _ => True
  | _ => False

/-- Calls that name no payload and whose replies carry none. -/
def EngineCall.IsPlain : EngineCall → Prop
  | .hub call => call.IsPlain
  | .transportGet _ _ _ => False
  | .transportApply _ _ => False
  | _ => True

/-- Applied objects correspond up to payload, read objects up to payloads of
equal hash; everything else is equal. -/
inductive PayloadPairing (renderer : Renderer) : Pairing EngineCall.Reply
  | source {gvk : GroupVersionKind} {key : NamespacedName} :
      PayloadPairing renderer (.hub (.getSource gvk key))
        (.hub (.getSource gvk key)) renderer.ReadsAlike
  | get {cluster : String} {gvk : GroupVersionKind} {key : NamespacedName} :
      PayloadPairing renderer (.transportGet cluster gvk key)
        (.transportGet cluster gvk key) renderer.ReadsAlike
  | apply {cluster : String} {obj other : Unstructured}
      (same : obj.SameMetadata other) :
      PayloadPairing renderer (.transportApply cluster obj)
        (.transportApply cluster other) Eq
  | plain {call : EngineCall} (plain : call.IsPlain) :
      PayloadPairing renderer call call Eq

theorem EngineCall.IsReport.plain {call : EngineCall} (report : call.IsReport) : call.IsPlain := by
  cases call with
  | hub call =>
    cases call with
    | updateReplication rep => trivial
    | updateReplicationStatus rep => trivial
    | _ => exact report.elim
  | transportGet cluster gvk key => exact report
  | transportApply cluster obj => exact report
  | _ => trivial

theorem AllCalls.reportsAlike {α : Type} {program : EngineProgram α} (renderer : Renderer)
    (reports : program.AllCalls EngineCall.IsReport) :
    program.AllCalls fun call => PayloadPairing renderer call call Eq :=
  reports.weaken (fun _ hreport => .plain hreport.plain) fun _ => id

theorem AllCalls.localAlike {α : Type} {program : EngineProgram α} (renderer : Renderer)
    (isLocal : program.AllCalls EngineCall.IsLocal) :
    program.AllCalls fun call => PayloadPairing renderer call call Eq :=
  AllCalls.reportsAlike renderer (AllCalls.reports isLocal)

/-! ## Rendering and deciding -/

section Alike

variable {renderer : Renderer} {src other : Unstructured}

variable (alike : renderer.Alike src other)
include alike

theorem Renderer.Alike.uid : src.uid = other.uid := by
  rw [← alike.1]

theorem Renderer.Alike.name : src.name = other.name := by
  rw [← alike.1]

theorem Renderer.Alike.labels : src.labels = other.labels := by
  rw [← alike.1]

theorem Renderer.Alike.annotations : src.annotations = other.annotations := by
  rw [← alike.1]

theorem Renderer.Alike.render (ns name : String) :
    (renderer.render src ns name).1.SameMetadata (renderer.render other ns name).1 := by
  obtain ⟨hsame, hhash⟩ := alike
  unfold Unstructured.SameMetadata Renderer.render
  dsimp only
  rw [hhash, ← hsame]
  rfl

theorem Renderer.Alike.adoptPatch (gvk : GroupVersionKind) (ns name hash : String) :
    renderer.adoptPatch src gvk ns name hash = renderer.adoptPatch other gvk ns name hash := by
  rw [← alike.1]
  rfl

theorem Renderer.Alike.decideConflict {existing found : Unstructured}
    (occupied : renderer.Alike existing found) (hash : String) (allowed : List ConflictPolicy) :
    K8sR8r.decideConflict renderer existing src hash allowed =
      K8sR8r.decideConflict renderer found other hash allowed := by
  unfold K8sR8r.decideConflict
  rw [occupied.labels, occupied.2, alike.uid, alike.annotations]

end Alike

/-! ## The engine in lockstep with itself -/

section Lockstep

variable {config : EngineConfig}

variable {renderer : Renderer} {desired other src twin : Unstructured}

theorem applyWithRecreate_lockstep (cluster : String) (same : desired.SameMetadata other) :
    (applyWithRecreate cluster desired).Lockstep (PayloadPairing renderer) Eq
      (applyWithRecreate cluster other) := by
  have happly : ∀ reply answer : ApiResult Unit, reply = answer →
      (Program.done reply : EngineProgram _).Lockstep (PayloadPairing renderer) Eq (.done answer) :=
    fun _ _ heq => heq
  have hagain : (Program.perform (EngineCall.transportApply cluster desired) :
      EngineProgram (ApiResult Unit)).Lockstep (PayloadPairing renderer) Eq
        (Program.perform (EngineCall.transportApply cluster other)) :=
    ⟨Eq, .apply same, happly⟩
  have hkind : desired.groupVersionKind = other.groupVersionKind := by
    rw [← same]
  have hkey : desired.key = other.key := by
    rw [← same]
    rfl
  unfold applyWithRecreate
  simp only [Program.perform_bind]
  refine ⟨Eq, .apply same, ?_⟩
  rintro (err | ⟨⟩) _ rfl
  · dsimp only
    split_ifs
    · exact rfl
    · rw [hkind, hkey]
      refine ⟨Eq, .plain trivial, ?_⟩
      rintro (failed | ⟨⟩) _ rfl
      · dsimp only
        split_ifs
        · exact rfl
        · exact hagain
      · exact hagain
  · exact rfl

theorem ensureNamespace_lockstep (cluster ns : String) (allowCreate : Bool) :
    (ensureNamespace cluster ns allowCreate).Lockstep (PayloadPairing renderer) Eq
      (ensureNamespace cluster ns allowCreate) := by
  unfold ensureNamespace
  simp only [Program.perform_bind]
  refine ⟨_, .get, ?_⟩
  rintro (err | found) (err' | found') hreads
  · obtain rfl : err = err' := hreads
    dsimp only
    split_ifs
    · exact rfl
    · exact rfl
    · refine ⟨Eq, .apply rfl, ?_⟩
      rintro (failed | ⟨⟩) _ rfl
      · exact rfl
      · exact rfl
  · exact hreads.elim
  · exact hreads.elim
  · exact rfl

theorem emitAll_lockstep {α : Type} (signals : List EngineSignal) (value : α) :
    (emitAll signals >>= fun _ => pure value).Lockstep (PayloadPairing renderer) Eq
      (emitAll signals >>= fun _ => pure value) :=
  .after (AllCalls.localAlike renderer (emitAll_local signals)) fun _ => rfl

theorem repairStripped_lockstep {existing found : Unstructured} (slot : SlotInfo) (hash : String)
    (same : desired.SameMetadata other) (occupied : config.renderer.Alike existing found) :
    (repairStripped config slot desired hash existing).Lockstep (PayloadPairing config.renderer) Eq
      (repairStripped config slot other hash found) := by
  unfold repairStripped
  rw [occupied.2]
  apply (applyWithRecreate_lockstep slot.cluster same).bind
  rintro (err | ⟨⟩) _ rfl
  · exact rfl
  · exact emitAll_lockstep _ _

theorem convergeExisting_lockstep {existing found : Unstructured} (gvk : GroupVersionKind)
    (slot : SlotInfo) (allowed : List ConflictPolicy) (hash : String)
    (alike : config.renderer.Alike src twin) (same : desired.SameMetadata other)
    (occupied : config.renderer.Alike existing found) :
    (convergeExisting config src gvk slot allowed desired hash
        existing).Lockstep (PayloadPairing config.renderer) Eq
      (convergeExisting config twin gvk slot allowed other hash found) := by
  unfold convergeExisting
  rw [alike.decideConflict occupied, alike.adoptPatch, occupied.2, occupied.annotations]
  dsimp only
  cases (decideConflict config.renderer found twin hash allowed).action with
  | fail => exact emitAll_lockstep _ _
  | adopt =>
    refine .after (AllCalls.localAlike _ (emitAll_local _)) fun _ => ?_
    simp only [Program.perform_bind]
    refine ⟨Eq, .apply rfl, ?_⟩
    rintro (err | ⟨⟩) _ rfl
    · exact rfl
    · exact emitAll_lockstep _ _
  | overwrite =>
    refine .after (AllCalls.localAlike _ (emitAll_local _)) fun _ => ?_
    apply (applyWithRecreate_lockstep slot.cluster same).bind
    rintro (err | ⟨⟩) _ rfl
    · exact rfl
    · exact emitAll_lockstep _ _
  | apply =>
    dsimp only
    by_cases hoff : StringMap.get found.annotations annotationSourceHash ≠ hash ∨
          config.renderer.sourceHash found ≠ hash
    · rw [if_pos hoff, if_pos hoff]
      apply (applyWithRecreate_lockstep slot.cluster same).bind
      rintro (err | ⟨⟩) _ rfl
      · exact rfl
      · exact emitAll_lockstep _ _
    · rw [if_neg hoff, if_neg hoff]
      exact rfl

theorem convergeSlot_lockstep (gvk : GroupVersionKind) (slot : SlotInfo)
    (allowed : List ConflictPolicy) (alike : config.renderer.Alike src twin) :
    (convergeSlot config src gvk slot allowed).Lockstep (PayloadPairing config.renderer) Eq
      (convergeSlot config twin gvk slot allowed) := by
  have hdesired := alike.render slot.ns slot.name
  unfold convergeSlot
  simp only [Program.perform_bind]
  refine ⟨_, .get, ?_⟩
  rintro (err | existing) (err' | found) hreads
  · obtain rfl : err = err' := hreads
    dsimp only
    split_ifs
    · refine ⟨Eq, .apply hdesired, ?_⟩
      rintro (failed | ⟨⟩) _ rfl
      · exact rfl
      · exact rfl
    · exact rfl
  · exact hreads.elim
  · exact hreads.elim
  · have hoccupied : config.renderer.Alike existing found := hreads
    dsimp only
    rw [config.renderer.render_hash, config.renderer.render_hash, alike.2,
      alike.uid, hoccupied.labels]
    split_ifs
    · exact repairStripped_lockstep slot _ hdesired hoccupied
    · exact convergeExisting_lockstep gvk slot allowed _ alike hdesired hoccupied

theorem applyTarget_lockstep (nn : NamespacedName) (gvk : GroupVersionKind) (slot : SlotInfo)
    (eff : EffectiveOptions) (inv : List InventoryEntry) (alike : config.renderer.Alike src twin) :
    (applyTarget config nn src gvk slot eff inv).Lockstep (PayloadPairing config.renderer) Eq
      (applyTarget config nn twin gvk slot eff inv) := by
  unfold applyTarget
  rw [alike.2]
  apply (ensureNamespace_lockstep _ _ _).bind
  rintro (_ | text | err) _ rfl
  · apply (convergeSlot_lockstep gvk slot _ alike).bind
    rintro verdict _ rfl
    exact .refl (AllCalls.localAlike _ (settleSlot_local _ _ _ _ _ _))
  · exact .refl ⟨.plain trivial, fun _ => trivial⟩
  · exact .refl (AllCalls.localAlike _ (settleSlot_local _ _ _ _ _ _))

theorem fanOutSlot_lockstep (nn : NamespacedName) (gvk : GroupVersionKind)
    (policies : List ReplicationPolicy) (outcome : RevocationOutcome) (fan : FanOut)
    (slot : SlotInfo × Decision) (alike : config.renderer.Alike src twin) :
    (fanOutSlot config nn src gvk policies outcome fan slot).Lockstep
      (PayloadPairing config.renderer) Eq
      (fanOutSlot config nn twin gvk policies outcome fan slot) := by
  unfold fanOutSlot
  split_ifs
  · apply (applyTarget_lockstep nn gvk slot.1 _ fan.inv alike).bind
    rintro out _ rfl
    exact rfl
  · exact emitAll_lockstep _ _

/-! ## Garbage collection and status -/

/-- Of the object at the entry only its labels are looked at. -/
theorem collectEntry_lockstep (nn : NamespacedName) (sourceUID : String) (gc : FanOut)
    (entry : InventoryEntry) :
    (collectEntry config nn sourceUID gc entry).Lockstep (PayloadPairing config.renderer) Eq
      (collectEntry config nn sourceUID gc entry) := by
  unfold collectEntry
  cases gvkForEntry config entry with
  | none => exact rfl
  | some gvk =>
    simp only [Program.perform_bind]
    refine ⟨_, .get, ?_⟩
    rintro (err | existing) (err' | found) hreads
    · obtain rfl : err = err' := hreads
      dsimp only
      split_ifs
      · exact .refl ⟨.plain trivial, fun _ => trivial⟩
      · exact .refl ⟨.plain trivial, fun _ => trivial⟩
    · exact hreads.elim
    · exact hreads.elim
    · have hoccupied : config.renderer.Alike existing found := hreads
      dsimp only
      rw [hoccupied.labels]
      cases classifyReplicaOwnership found.labels sourceUID with
      | foreign => exact emitAll_lockstep _ _
      | stripped =>
        refine .after (AllCalls.localAlike _ (emitAll_local _)) fun _ => ?_
        exact .refl (AllCalls.localAlike _ (deleteEntry_local nn gc entry gvk))
      | managed =>
        exact .refl (AllCalls.localAlike _ (deleteEntry_local nn gc entry gvk))

theorem collectGarbage_lockstep (nn : NamespacedName) (sourceUID : String) (keep : List SlotKey)
    (inv : List InventoryEntry) :
    (collectGarbage config nn sourceUID keep inv).Lockstep (PayloadPairing config.renderer) Eq
      (collectGarbage config nn sourceUID keep inv) := by
  unfold collectGarbage
  refine .after (AllCalls.localAlike _ (planGC_allCalls keep inv fun _ => trivial)) fun plan => ?_
  refine .after (AllCalls.localAlike _ (releaseEntries_local _ _)) fun left => ?_
  apply Program.Lockstep.foldlM
  · rintro entry _ gc _ rfl
    exact collectEntry_lockstep nn sourceUID gc entry
  · rfl

theorem namespaceLabels_alike (ns : String) :
    (namespaceLabels ns).AllCalls fun call =>
      PayloadPairing renderer call call Eq :=
  namespaceLabels_allCalls (.plain trivial)

/-! ## Whole reconciles -/

theorem converge_lockstep (nn : NamespacedName) (rep : Replication) (gvk : GroupVersionKind)
    (policies : List ReplicationPolicy) (slots : List (SlotInfo × Decision))
    (outcome : RevocationOutcome) (alike : config.renderer.Alike src twin) :
    (converge config nn rep src gvk policies slots outcome).Lockstep
      (PayloadPairing config.renderer) Eq
      (converge config nn rep twin gvk policies slots outcome) := by
  unfold converge
  rw [alike.2]
  refine .after (AllCalls.reportsAlike _ (persistPlanned_reports _ _)) ?_
  rintro (err | stored)
  · exact rfl
  · have hfan : (slots.foldlM (fanOutSlot config nn src gvk policies outcome)
        ⟨[], [], planInventory gvk slots rep.status.inventory⟩).Lockstep
          (PayloadPairing config.renderer) Eq
        (slots.foldlM (fanOutSlot config nn twin gvk policies outcome)
          ⟨[], [], planInventory gvk slots rep.status.inventory⟩) := by
      apply Program.Lockstep.foldlM
      · rintro slot _ fan _ rfl
        exact fanOutSlot_lockstep nn gvk policies outcome fan slot alike
      · rfl
    apply hfan.bind
    rintro fan _ rfl
    apply (collectGarbage_lockstep nn _ _ _).bind
    rintro gc _ rfl
    exact .refl (AllCalls.reportsAlike _ (finishFanOut_reports _ _ _ _ _ _ _ _))

theorem reconcileSource_lockstep (nn : NamespacedName) (rep : Replication)
    (gvk : GroupVersionKind) (alike : config.renderer.Alike src twin) :
    (reconcileSource config nn rep gvk src).Lockstep (PayloadPairing config.renderer) Eq
      (reconcileSource config nn rep gvk twin) := by
  unfold reconcileSource
  rw [alike.name, hub_bind, hub_bind]
  refine ⟨Eq, .plain trivial, ?_⟩
  rintro (err | policies) _ rfl
  · exact rfl
  · refine .after (namespaceLabels_alike _) fun labels => ?_
    refine .after (AllCalls.localAlike _ (flattenTargets_allCalls _ _ fun _ => trivial))
      fun targets => ?_
    refine ⟨Eq, .plain trivial, ?_⟩
    rintro prev _ rfl
    simp only [Program.perform_bind]
    refine ⟨Eq, .plain trivial, ?_⟩
    rintro _ _ rfl
    refine .after (AllCalls.localAlike _ (emitAll_local _)) fun _ => ?_
    exact converge_lockstep nn rep gvk _ _ _ alike

theorem reconcileLive_lockstep (nn : NamespacedName) (rep : Replication) :
    (reconcileLive config nn rep).Lockstep (PayloadPairing config.renderer) Eq
      (reconcileLive config nn rep) := by
  unfold reconcileLive
  dsimp only
  cases config.kindGVKs.lookup rep.spec.sourceRef.kind with
  | none => exact .refl (AllCalls.reportsAlike _ (finishSimple_reports _ _ _ _))
  | some gvk =>
    dsimp only
    rw [hub_bind]
    refine ⟨_, .source, ?_⟩
    rintro (err | src) (err' | twin) hreads
    · obtain rfl : err = err' := hreads
      dsimp only
      split_ifs
      · exact .refl (AllCalls.reportsAlike _ (finishSimple_reports _ _ _ _))
      · exact rfl
    · exact hreads.elim
    · exact hreads.elim
    · have halike : config.renderer.Alike src twin := hreads
      dsimp only
      rw [halike.uid]
      split_ifs
      · exact .refl (AllCalls.reportsAlike _ (finishSimple_reports _ _ _ _))
      · exact reconcileSource_lockstep nn rep gvk halike

theorem reconcileDeletion_lockstep (nn : NamespacedName) (rep : Replication) :
    (reconcileDeletion config nn rep).Lockstep (PayloadPairing config.renderer) Eq
      (reconcileDeletion config nn rep) := by
  unfold reconcileDeletion
  split_ifs
  · exact rfl
  · apply (collectGarbage_lockstep nn _ _ _).bind
    rintro gc _ rfl
    unfold finishDeletion
    split_ifs
    · rw [hub_bind]
      refine ⟨Eq, .plain trivial, ?_⟩
      rintro (err | stored) _ rfl
      · exact rfl
      · exact .refl ⟨.plain trivial, fun _ => ⟨.plain trivial, fun _ =>
          ⟨.plain trivial, fun _ => ⟨.plain trivial, fun _ => trivial⟩⟩⟩⟩
    · rw [Program.perform_bind]
      refine ⟨Eq, .plain trivial, ?_⟩
      rintro now _ rfl
      refine .after (AllCalls.reportsAlike _ (writeStatusIfChanged_reports _ _)) ?_
      rintro (err | stored)
      · exact rfl
      · exact rfl

theorem reconcile_lockstep (nn : NamespacedName) :
    (reconcile config nn).Lockstep (PayloadPairing config.renderer) Eq (reconcile config nn) := by
  unfold reconcile
  rw [hub_bind]
  refine ⟨Eq, .plain trivial, ?_⟩
  rintro (err | rep) _ rfl
  · dsimp only
    split_ifs
    · exact .refl ⟨.plain trivial, fun _ => ⟨.plain trivial, fun _ => trivial⟩⟩
    · exact rfl
  · dsimp only
    split_ifs
    · exact reconcileDeletion_lockstep nn rep
    · exact rfl
    · refine .after (AllCalls.reportsAlike _ (ensureFinalizer_reports _)) ?_
      rintro (err | stored)
      · exact rfl
      · exact reconcileLive_lockstep nn stored

end Lockstep

/-! ## Two agreeing worlds -/

/-- What a world leaves open about a call: whether it fails and how, which
record discovery finds, the clock and the backoff delays. -/
inductive CallOutcome where
  | done
  | failed (err : ApiError)
  | found (record : Option ClusterRecord)
  | number (value : Nat)
  deriving DecidableEq

def CallOutcome.ofResult {α : Type} : ApiResult α → CallOutcome
  | .ok _ => .done
  | .error err => .failed err

def HubCall.outcome : (call : HubCall) → call.Reply → CallOutcome
  | .getReplication _, reply => .ofResult reply
  | .createReplication _, reply => .ofResult reply
  | .updateReplication _, reply => .ofResult reply
  | .updateReplicationStatus _, reply => .ofResult reply
  | .deleteReplication _, reply => .ofResult reply
  | .getSource _ _, reply => .ofResult reply
  | .getSourceMetadata _ _, reply => .ofResult reply
  | .patchSourceFinalizers _, reply => .ofResult reply
  | .listPolicies, reply => .ofResult reply
  | .getNamespaceLabels _, reply => .ofResult reply

def EngineCall.outcome : (call : EngineCall) → call.Reply → CallOutcome
  | .hub call, reply => call.outcome reply
  | .lookupCluster _, reply => .found reply
  | .transportGet _ _ _, reply => .ofResult reply
  | .transportApply _ _, reply => .ofResult reply
  | .transportDelete _ _ _, reply => .ofResult reply
  | .backoffFailure _ _, reply => .number reply
  | .now, reply => .number reply
  | _, _ => .done

def EngineCall.appliedSlot : EngineCall → Option SlotKey
  | .transportApply cluster obj =>
    some (slotOf cluster obj.groupVersionKind obj.key)
  | _ => none

/-- The two calls had the same outcome, and what an apply left is the same up
to payloads of equal hash. -/
def SameOutcome (renderer : Renderer) (first second : Exchange Fleet EngineCall.Reply) :
    Prop :=
  first.request.outcome first.reply = second.request.outcome second.reply ∧
    ∀ slot ∈ first.request.appliedSlot,
      renderer.AlikeAt (first.after.spokes slot) (second.after.spokes slot)
deriving Decidable

section

variable {renderer : Renderer} {fails fails' : Prop} {reply reply' : ApiResult Unit}
  {spokes spokes' : Spokes} {slot : SlotKey}

theorem ReadsAs.alike {stored stored' : Option Unstructured}
    {reply reply' : ApiResult Unstructured} (halike : renderer.AlikeAt stored stored')
    (reads : ReadsAs fails stored reply) (reads' : ReadsAs fails' stored' reply')
    (outcome : CallOutcome.ofResult reply = CallOutcome.ofResult reply') :
    renderer.ReadsAlike reply reply' := by
  cases reply with
  | ok obj =>
    cases reply' with
    | ok obj' =>
      obtain rfl : stored = some obj := reads
      obtain rfl : stored' = some obj' := reads'
      exact halike
    | error err => cases outcome
  | error err =>
    cases reply' with
    | ok obj => cases outcome
    | error err' => exact CallOutcome.failed.inj outcome

theorem ReadsAs.same {α : Type} {stored stored' : Option α} {reply reply' : ApiResult α}
    (hstored : stored = stored') (reads : ReadsAs fails stored reply)
    (reads' : ReadsAs fails' stored' reply')
    (outcome : CallOutcome.ofResult reply = CallOutcome.ofResult reply') :
    reply = reply' := by
  cases reply with
  | ok value =>
    cases reply' with
    | ok value' =>
      have hvalue : some value = some value' :=
        reads.symm.trans (hstored.trans reads')
      rw [Option.some.inj hvalue]
    | error err => cases outcome
  | error err =>
    cases reply' with
    | ok value => cases outcome
    | error err' => rw [CallOutcome.failed.inj outcome]

theorem WritesAs.same {α : Type} {hub hub' after after' : Hub}
    {accepted accepted' : Option (α × Hub)} {reply reply' : ApiResult α}
    (hhub : hub' = { hub with sources := hub'.sources })
    (haccepted : accepted' = accepted.map fun stored =>
      (stored.1, { stored.2 with sources := hub'.sources }))
    (hkept : ∀ stored ∈ accepted, stored.2.sources = hub.sources)
    (writes : WritesAs fails hub accepted reply after)
    (writes' : WritesAs fails' hub' accepted' reply' after')
    (outcome : CallOutcome.ofResult reply = CallOutcome.ofResult reply') :
    reply = reply' ∧ after' = { after with sources := hub'.sources } ∧
      after.sources = hub.sources := by
  cases reply with
  | ok value =>
    cases reply' with
    | ok value' =>
      have hstored : accepted = some (value, after) := writes
      have hstored' : accepted' = some (value', after') := writes'
      rw [hstored, hstored', Option.map_some, Option.some.injEq, Prod.mk.injEq] at haccepted
      exact ⟨by rw [haccepted.1], haccepted.2,
        hkept (value, after) hstored⟩
    | error err => cases outcome
  | error err =>
    cases reply' with
    | ok value => cases outcome
    | error err' =>
      obtain ⟨rfl, _⟩ := writes
      obtain ⟨rfl, _⟩ := writes'
      exact ⟨by rw [CallOutcome.failed.inj outcome], hhub, rfl⟩

theorem Hub.acceptUpdate_sources (hub : Hub)
    (sources : GroupVersionKind → NamespacedName → Option SourceObject) (rep : Replication) :
    ({ hub with sources := sources } : Hub).acceptUpdate rep =
      (hub.acceptUpdate rep).map fun stored =>
        (stored.1, { stored.2 with sources := sources }) := by
  unfold Hub.acceptUpdate
  rw [Option.map_map]
  rfl

theorem Hub.acceptStatusUpdate_sources (hub : Hub)
    (sources : GroupVersionKind → NamespacedName → Option SourceObject) (rep : Replication) :
    ({ hub with sources := sources } : Hub).acceptStatusUpdate rep =
      (hub.acceptStatusUpdate rep).map fun stored =>
        (stored.1, { stored.2 with sources := sources }) := by
  unfold Hub.acceptStatusUpdate
  rw [Option.map_map]
  rfl

theorem Hub.answers_same {hub hub' after after' : Hub} {call : HubCall}
    {reply reply' : call.Reply} (hhub : hub' = { hub with sources := hub'.sources })
    (plain : call.IsPlain) (answer : hub.Answers fails call reply after)
    (answer' : hub'.Answers fails' call reply' after')
    (outcome : call.outcome reply = call.outcome reply') :
    reply = reply' ∧ after' = { after with sources := hub'.sources } ∧
      after.sources = hub.sources := by
  have hread : after = hub → after' = hub' → after' = { after with sources := hub'.sources } ∧
        after.sources = hub.sources := by
    rintro rfl rfl
    exact ⟨hhub, rfl⟩
  cases call with
  | getReplication key =>
    have hstored : hub.replications key = hub'.replications key := by
      rw [hhub]
    exact ⟨ReadsAs.same hstored answer.1 answer'.1 outcome, hread answer.2 answer'.2⟩
  | listPolicies =>
    have hstored : some hub.policies = some hub'.policies := by
      rw [hhub]
    exact ⟨ReadsAs.same hstored answer.1 answer'.1 outcome, hread answer.2 answer'.2⟩
  | getNamespaceLabels name =>
    have hstored : hub.namespaces name = hub'.namespaces name := by
      rw [hhub]
    exact ⟨ReadsAs.same hstored answer.1 answer'.1 outcome, hread answer.2 answer'.2⟩
  | updateReplication rep =>
    apply WritesAs.same hhub _ _ answer answer' outcome
    · rw [← Hub.acceptUpdate_sources, ← hhub]
    · intro stored hstored
      obtain ⟨cur, _, rfl⟩ := Option.map_eq_some_iff.mp hstored
      rfl
  | updateReplicationStatus rep =>
    apply WritesAs.same hhub _ _ answer answer' outcome
    · rw [← Hub.acceptStatusUpdate_sources, ← hhub]
    · intro stored hstored
      obtain ⟨cur, _, rfl⟩ := Option.map_eq_some_iff.mp hstored
      rfl
  | _ => exact plain.elim

theorem Spokes.AnswersGet.alike {reply reply' : ApiResult Unstructured}
    (halike : renderer.AlikeAt (spokes slot) (spokes' slot))
    (answer : spokes.AnswersGet fails slot reply)
    (answer' : spokes'.AnswersGet fails' slot reply')
    (outcome : CallOutcome.ofResult reply = CallOutcome.ofResult reply') :
    renderer.ReadsAlike reply reply' := by
  cases reply with
  | ok obj =>
    cases reply' with
    | ok obj' =>
      have hobj : spokes slot = some obj := answer.2
      have hobj' : spokes' slot = some obj' := answer'.2
      rwa [hobj, hobj'] at halike
    | error err => cases outcome
  | error err =>
    cases reply' with
    | ok obj => cases outcome
    | error err' => exact CallOutcome.failed.inj outcome

/-- An apply changes nothing but its slot. -/
theorem Spokes.AnswersApply.alike {after after' : Spokes} {payload payload' : Unstructured}
    (halike : ∀ other, renderer.AlikeAt (spokes other) (spokes' other))
    (answer : spokes.AnswersApply fails slot payload reply after)
    (answer' : spokes'.AnswersApply fails' slot payload' reply' after')
    (applied : renderer.AlikeAt (after slot) (after' slot)) (other : SlotKey) :
    renderer.AlikeAt (after other) (after' other) := by
  have hframe : ∀ {fails : Prop} {spokes after : Spokes}
      {payload : Unstructured} {reply : ApiResult Unit},
      spokes.AnswersApply fails slot payload reply after → other ≠ slot →
        after other = spokes other := by
    intro fails spokes after payload reply hanswer hne
    cases reply with
    | ok done =>
      obtain ⟨_, result, _, rfl⟩ := hanswer
      exact Function.update_of_ne hne _ _
    | error err => rw [hanswer.1]
  by_cases heq : other = slot
  · rw [heq]
    exact applied
  · rw [hframe answer heq, hframe answer' heq]
    exact halike other

theorem Spokes.AnswersDelete.alike {after after' : Spokes}
    (halike : ∀ other, renderer.AlikeAt (spokes other) (spokes' other))
    (answer : spokes.AnswersDelete fails slot reply after)
    (answer' : spokes'.AnswersDelete fails' slot reply' after')
    (outcome : CallOutcome.ofResult reply = CallOutcome.ofResult reply') (other : SlotKey) :
    renderer.AlikeAt (after other) (after' other) := by
  cases reply with
  | ok done =>
    cases reply' with
    | ok done' =>
      obtain ⟨_, rfl⟩ := answer
      obtain ⟨_, rfl⟩ := answer'
      unfold Spokes.erase
      split_ifs
      · trivial
      · exact halike other
    | error err => cases outcome
  | error err =>
    cases reply' with
    | ok done => cases outcome
    | error err' =>
      rw [answer.1, answer'.1]
      exact halike other

theorem CallOutcome.ofResult_unit
    (outcome : CallOutcome.ofResult reply = CallOutcome.ofResult reply') :
    reply = reply' := by
  cases reply with
  | ok done =>
    cases reply' with
    | ok done' => rfl
    | error err => cases outcome
  | error err =>
    cases reply' with
    | ok done => cases outcome
    | error err' => rw [CallOutcome.failed.inj outcome]

/-- Corresponding calls in agreeing worlds: the replies correspond and the
worlds agree afterwards. -/
theorem Fleet.answers_alike {fails fails' : EngineCall → Prop}
    (first second : Exchange Fleet EngineCall.Reply)
    (agree : first.request.Reply → second.request.Reply → Prop)
    (pair : PayloadPairing renderer first.request second.request agree)
    (answer : first.before.Answers fails first.request first.reply first.after)
    (answer' : second.before.Answers fails' second.request second.reply second.after)
    (related : first.before.SameButPayload renderer second.before)
    (same : SameOutcome renderer first second) :
    agree first.reply second.reply ∧ first.after.SameButPayload renderer second.after := by
  obtain ⟨fleet, request, reply, after⟩ := first
  obtain ⟨fleet', request', reply', after'⟩ := second
  obtain ⟨houtcome, happlied⟩ := same
  dsimp only at *
  cases pair with
  | source =>
    obtain ⟨_, ⟨hreads, rfl⟩, rfl⟩ := answer
    obtain ⟨_, ⟨hreads', rfl⟩, rfl⟩ := answer'
    exact ⟨ReadsAs.alike (related.sources _ _) hreads hreads' houtcome, related⟩
  | get =>
    obtain ⟨hget, rfl⟩ := answer
    obtain ⟨hget', rfl⟩ := answer'
    exact ⟨Spokes.AnswersGet.alike (related.spokes _) hget hget' houtcome, related⟩
  | @apply cluster obj other hsame =>
    obtain ⟨spokes, happly, rfl⟩ := answer
    obtain ⟨spokes', happly', rfl⟩ := answer'
    have hslot : slotOf cluster other.groupVersionKind other.key =
        slotOf cluster obj.groupVersionKind obj.key := by
      rw [← hsame]
      rfl
    rw [hslot] at happly'
    refine ⟨CallOutcome.ofResult_unit houtcome, { related with spokes := ?_ }⟩
    exact happly.alike related.spokes happly' (happlied _ rfl)
  | plain hplain =>
    cases request with
    | hub call =>
      obtain ⟨hub, hanswer, rfl⟩ := answer
      obtain ⟨hub', hanswer', rfl⟩ := answer'
      obtain ⟨rfl, hhub, hsources⟩ := Hub.answers_same related.hub hplain hanswer hanswer' houtcome
      have hsources' : hub'.sources = fleet'.hub.sources := by
        rw [hhub]
      refine ⟨rfl, ?_⟩
      exact
        { related with
          hub := by
            dsimp only
            rw [hsources']
            exact hhub
          sources := by
            dsimp only
            rw [hsources, hsources']
            exact related.sources
          sourceMetadata := by
            dsimp only
            rw [hsources, hsources']
            exact related.sourceMetadata }
    | lookupCluster name =>
      obtain ⟨_, rfl⟩ := answer
      obtain ⟨_, rfl⟩ := answer'
      exact ⟨CallOutcome.found.inj houtcome, related⟩
    | transportGet cluster gvk key => exact hplain.elim
    | transportApply cluster obj => exact hplain.elim
    | transportDelete cluster gvk key =>
      obtain ⟨spokes, hdelete, rfl⟩ := answer
      obtain ⟨spokes', hdelete', rfl⟩ := answer'
      refine ⟨CallOutcome.ofResult_unit houtcome,
        { related with spokes := ?_ }⟩
      exact hdelete.alike related.spokes hdelete' houtcome
    | previousResult uid =>
      obtain ⟨rfl, rfl⟩ := answer
      obtain ⟨rfl, rfl⟩ := answer'
      exact ⟨by rw [related.lastResults], related⟩
    | storeResult uid result =>
      obtain rfl := answer
      obtain rfl := answer'
      refine ⟨rfl, { related with lastResults := ?_ }⟩
      dsimp only
      rw [related.lastResults]
    | forgetResult uid =>
      obtain rfl := answer
      obtain rfl := answer'
      refine ⟨rfl, { related with lastResults := ?_ }⟩
      dsimp only
      rw [related.lastResults]
    | backoffFailure nn cluster =>
      obtain rfl := answer
      obtain rfl := answer'
      exact ⟨CallOutcome.number.inj houtcome, related⟩
    | now =>
      obtain rfl := answer
      obtain rfl := answer'
      exact ⟨CallOutcome.number.inj houtcome, related⟩
    | _ =>
      obtain rfl := answer
      obtain rfl := answer'
      exact ⟨rfl, related⟩

/-! ## Telemetry -/

/-- Events, metrics and writes of the Replication. -/
def EngineCall.isTelemetry : EngineCall → Bool
  | .emit _ => true
  | .hub (.updateReplication _) => true
  | .hub (.updateReplicationStatus _) => true
  | _ => false

def telemetry (trace : List (Exchange Fleet EngineCall.Reply)) : List EngineCall :=
  (trace.map Exchange.request).filter EngineCall.isTelemetry

theorem PayloadPairing.telemetry {first second : EngineCall}
    (pairs : (PayloadPairing renderer).Pairs first second) :
    [first].filter EngineCall.isTelemetry = [second].filter EngineCall.isTelemetry := by
  obtain ⟨agree, hpair⟩ := pairs
  cases hpair with
  | source => rfl
  | get => rfl
  | apply same => rfl
  | plain plain => rfl

theorem telemetry_of_pairs {trace trace' : List (Exchange Fleet EngineCall.Reply)}
    (pairs : List.Forall₂ (fun first second =>
      (PayloadPairing renderer).Pairs first.request second.request) trace trace') :
    telemetry trace = telemetry trace' := by
  induction pairs with
  | nil => rfl
  | @cons first second rest others hpair _ ih =>
    have hhead := PayloadPairing.telemetry hpair
    unfold telemetry at ih ⊢
    rw [List.map_cons, List.map_cons, ← List.singleton_append,
      List.filter_append, hhead, ih, ← List.filter_append,
      List.singleton_append]

/-- Two runs of a reconcile, or of a deletion, in worlds that differ in
payloads of equal hash, with the same outcomes of the calls: the same events,
metrics and status writes in the same order. -/
theorem telemetry_hides_payload {config : EngineConfig} {nn : NamespacedName}
    {program : EngineProgram (ApiResult ReconcileOutcome)}
    (entry : program = reconcile config nn ∨ ∃ rep, program = reconcileDeletion config nn rep)
    {fails fails' : EngineCall → Prop} {fleet fleet' final final' : Fleet}
    {trace trace' : List (Exchange Fleet EngineCall.Reply)}
    {value value' : ApiResult ReconcileOutcome}
    (agree : fleet.SameButPayload config.renderer fleet')
    (run : Run (Fleet.alone fails) fleet program trace final (.done value))
    (run' : Run (Fleet.alone fails') fleet' program trace' final' (.done value'))
    (outcomes : Accords (PayloadPairing config.renderer) (SameOutcome config.renderer) trace
      trace') :
    telemetry trace = telemetry trace' := by
  have hlockstep : program.Lockstep (PayloadPairing config.renderer) Eq
      program := by
    rcases entry with rfl | ⟨rep, rfl⟩
    · exact reconcile_lockstep nn
    · exact reconcileDeletion_lockstep nn rep
  obtain ⟨hpairs, _⟩ := hlockstep.runs Fleet.answers_alike run run' agree outcomes
  exact telemetry_of_pairs hpairs

end

namespace Sample

/-- The sample with one more leaf in the source and in a replica that was
edited on the spoke.  The digest does not see the leaf. -/
def withToken (token : String) : Fleet :=
  let fields : FieldMap := (∅ : FieldMap).insert ["data", "token"] token
  { fleet with
    hub :=
      { hub with
        sources := fun gvk other =>
          if gvk = configMapGVK ∧ other = ⟨"team", "settings"⟩ then
            some ⟨{ source with
              fields := fields.insert ["data", "key"] "value" }, 2, [], none⟩
          else none }
    spokes := Function.update spokes slot
      (some { (engine.renderer.render source "app" "settings").1 with
        fields := fields.insert ["data", "key"] "edited" }) }

def tokenRun (token : String) : Execution Fleet EngineCall.Reply (ApiResult ReconcileOutcome) :=
  execute Fleet.handle (reconcile engine key) (withToken token)

theorem withToken_same : (withToken "red").SameButPayload engine.renderer (withToken "blue") where
  hub := rfl
  clusters := rfl
  records := rfl
  lastResults := rfl
  sources := by
    intro gvk other
    by_cases hkey : gvk = configMapGVK ∧ other = ⟨"team", "settings"⟩
    · obtain ⟨rfl, rfl⟩ := hkey
      decide +kernel
    · simp only [withToken, if_neg hkey]
      trivial
  sourceMetadata := by
    intro gvk other
    by_cases hkey : gvk = configMapGVK ∧ other = ⟨"team", "settings"⟩
    · simp only [withToken, if_pos hkey]
      rfl
    · simp only [withToken, if_neg hkey]
  spokes := by
    intro other
    by_cases hslot : other = slot
    · subst other
      decide +kernel
    · simp only [withToken, Function.update_of_ne hslot]
      by_cases hns : other = namespaceSlot "east" "app"
      · subst other
        decide +kernel
      · rw [spokes, if_neg hns]
        trivial

end Sample

open Sample

/-- An edited replica is corrected and reported in the same words, whatever
the token is. -/
theorem telemetry_hides_payload_sample :
    (∃ exchange ∈ (tokenRun "red").trace,
      exchange.request = .emit (.metric (.driftCorrection "east"))) ∧
    telemetry (tokenRun "red").trace = telemetry (tokenRun "blue").trace := by
  have hrun : ∀ token, Run (Fleet.alone fun _ => False)
      (withToken token) (reconcile engine key)
      (tokenRun token).trace (tokenRun token).final
      (.done (tokenRun token).value) := fun token =>
    run_execute (execute_answered
      (fun fleet call => Fleet.answers_handle (fun _ => False) fleet call)
      _ _)
  refine ⟨?_, telemetry_hides_payload (.inl rfl) withToken_same
    (hrun "red") (hrun "blue") (Accords.of_forall₂ ?_)⟩
  · have hany : (tokenRun "red").trace.any (fun exchange =>
        emitted exchange.request = some (.metric (.driftCorrection "east"))) = true := by
      decide +kernel
    exact exists_emit_of_any hany
  · decide +kernel

end K8sR8r
