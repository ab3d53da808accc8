import K8sR8r.EngineReconciler

/-!
# Which calls the parts of the engine issue

Most of what the engine calls only reads, remembers or reports.  These frame
lemmas say so for whole subprograms, independently of any world, so that later
proofs walk only through the calls that write.
-/

namespace K8sR8r

open Interaction

def HubCall.IsRead : HubCall → Prop
  | .getReplication _ => True
  | .getSource _ _ => True
  | .getSourceMetadata _ _ => True
  | .listPolicies => True
  | .getNamespaceLabels _ => True
  | _ => False

/-- The event with which an entry is given up without cleanup. -/
def EngineSignal.IsRelease : EngineSignal → Prop
  | .event (.clusterGone _) => True
  | _ => False

def EngineSignal.IsOrphaning : EngineSignal → Prop
  | .event (.replicaOrphaned _) => True
  | _ => False

/-- Signals that give up no entry, with or without cleanup. -/
def EngineSignal.IsMinor (signal : EngineSignal) : Prop :=
  ¬ signal.IsRelease ∧ ¬ signal.IsOrphaning

/-- Calls that write no object, on the hub or on a spoke, and release no
entry. -/
def EngineCall.IsQuiet : EngineCall → Prop
  | .hub call => call.IsRead
  | .transportApply _ _ => False
  | .transportDelete _ _ _ => False
  | .emit signal => ¬ signal.IsRelease
  | _ => True

/-- Quiet calls that leave the process memory alone as well. -/
def EngineCall.IsPassive : EngineCall → Prop
  | .hub call => call.IsRead
  | .transportApply _ _ => False
  | .transportDelete _ _ _ => False
  | .storeResult _ _ => False
  | .forgetResult _ => False
  | .emit signal => ¬ signal.IsRelease
  | _ => True

/-- Passive calls off the hub that report nothing given up. -/
def EngineCall.IsMinor : EngineCall → Prop
  | .hub _ => False
  | .transportApply _ _ => False
  | .transportDelete _ _ _ => False
  | .storeResult _ _ => False
  | .forgetResult _ => False
  | .emit signal => signal.IsMinor
  | _ => True

variable {call : EngineCall} {gvk : GroupVersionKind} {α : Type} {program : EngineProgram α}

theorem EngineCall.IsPassive.quiet (passive : call.IsPassive) : call.IsQuiet := by
  cases call with
  | hub call => exact passive
  | emit signal => exact passive
  | transportApply cluster obj => exact passive
  | transportDelete cluster gvk key => exact passive
  | _ => trivial

theorem EngineCall.IsMinor.passive (minor : call.IsMinor) : call.IsPassive := by
  cases call with
  | hub call => exact minor.elim
  | emit signal => exact minor.1
  | transportApply cluster obj => exact minor
  | transportDelete cluster gvk key => exact minor
  | storeResult uid result => exact minor
  | forgetResult uid => exact minor
  | _ => trivial

theorem within_passive {post : α → Prop} (minor : program.Within EngineCall.IsMinor post) :
    program.Within EngineCall.IsPassive post :=
  minor.weaken (fun _ => EngineCall.IsMinor.passive) fun _ h => h

variable {allowed : EngineCall → Prop}

@[simp] theorem EngineSignal.isMinor_metric (metric : EngineMetric) :
    (EngineSignal.metric metric).IsMinor :=
  ⟨id, id⟩

@[simp] theorem EngineSignal.isMinor_event {event : EngineEvent} :
    (EngineSignal.event event).IsMinor ↔
      (∀ entry, event ≠ .clusterGone entry) ∧ ∀ entry, event ≠ .replicaOrphaned entry := by
  cases event <;> simp [IsMinor, IsRelease, IsOrphaning]

theorem emitAll_allCalls {signals : List EngineSignal}
    (hsignals : ∀ signal ∈ signals, allowed (.emit signal)) :
    (emitAll signals).AllCalls allowed := by
  induction signals with
  | nil => trivial
  | cons signal rest ih =>
    have hrest : ∀ other ∈ rest, allowed (.emit other) :=
      fun other hmem => hsignals other (List.mem_cons_of_mem _ hmem)
    exact ⟨hsignals signal List.mem_cons_self, fun _ => ih hrest⟩

theorem namespaceLabels_allCalls {ns : String}
    (hread : allowed (.hub (.getNamespaceLabels ns))) : (namespaceLabels ns).AllCalls allowed := by
  unfold namespaceLabels
  rw [hub_bind]
  refine ⟨hread, ?_⟩
  intro reply
  cases reply with
  | ok labels => trivial
  | error err => trivial

theorem flattenTargets_allCalls (sourceName : String) (targets : List ResolvedTarget)
    (hlookup : ∀ name, allowed (.lookupCluster name)) :
    (flattenTargets sourceName targets).AllCalls allowed := by
  induction targets with
  | nil => trivial
  | cons tgt rest ih => exact ⟨hlookup _, fun _ => ih.bind fun _ => trivial⟩

theorem planGC_allCalls (keep : List SlotKey) (inv : List InventoryEntry)
    (hlookup : ∀ name, allowed (.lookupCluster name)) : (planGC keep inv).AllCalls allowed := by
  induction inv with
  | nil => trivial
  | cons entry rest ih =>
    unfold planGC
    split_ifs with hkeep
    · exact ih
    · refine ⟨hlookup _, fun found => ih.bind fun plan => ?_⟩
      cases found with
      | none => trivial
      | some record => trivial

/-- Recording a verdict does not change what a ready one found. -/
theorem settleSlot_still {World : Type}
    {answers : World → (call : EngineCall) → call.Reply → World → Prop}
    (still : ∀ {before call reply after}, call.IsPassive →
      answers before call reply after → after = before) {nn : NamespacedName} {slot : SlotInfo}
    {hash : String} {inv : List InventoryEntry} {verdict : SlotVerdict} {assertion : World → Prop}
    {world : World} (hready : verdict = .ready → assertion world) :
    Safe (.undisturbed answers) unguarded (settleSlot nn gvk slot hash inv verdict)
      (fun out current => out.state.ready = true → assertion current)
      world := by
  cases verdict with
  | retry reason message =>
    exact Safe.undisturbed_call trivial fun _ _ _ =>
      Safe.undisturbed_done fun h => nomatch h
  | refused reason message =>
    exact Safe.undisturbed_done fun h => nomatch h
  | ready =>
    have hsuccess : (EngineCall.backoffSuccess nn slot.cluster).IsPassive :=
      trivial
    have hwatch : (EngineCall.ensureWatch slot.cluster gvk).IsPassive :=
      trivial
    refine Safe.undisturbed_call trivial ?_
    intro _ middle answer
    obtain rfl := still hsuccess answer
    refine Safe.undisturbed_call trivial ?_
    intro _ later answer
    obtain rfl := still hwatch answer
    exact Safe.undisturbed_done fun _ => hready rfl

theorem applyRevocations_minor (revocations : List Revocation) (policies : List ReplicationPolicy)
    (src : PolicySource) (inv : List InventoryEntry) :
    ∀ signal ∈ (applyRevocations revocations policies src inv).signals, signal.IsMinor := by
  unfold applyRevocations
  suffices h : ∀ outcome : RevocationOutcome, (∀ signal ∈ outcome.signals, signal.IsMinor) →
      ∀ signal ∈ (revocations.foldl (applyRevocation policies src inv)
        outcome).signals, signal.IsMinor from h _ (by simp)
  induction revocations with
  | nil => exact fun _ h => h
  | cons rev rest ih =>
    intro outcome houtcome
    apply ih
    unfold applyRevocation
    dsimp only
    split_ifs
    · exact houtcome
    · split <;>
        simp only [List.mem_append, List.mem_cons, List.not_mem_nil, or_false] <;>
        rintro signal (h | rfl | rfl) <;>
        first
          | exact houtcome signal h
          | exact ⟨id, id⟩

theorem deniedState_minor (slot : SlotInfo) (dec : Decision) (outcome : RevocationOutcome)
    (inv : List InventoryEntry) (gvk : GroupVersionKind) :
    ∀ signal ∈ (deniedState slot dec outcome inv gvk).2, signal.IsMinor := by
  unfold deniedState
  split_ifs
  · simp
  · simp
  · simp only [List.mem_cons, List.not_mem_nil, or_false]
    rintro signal rfl
    exact ⟨id, id⟩

theorem transitionEvents_minor (prev next : Option Condition) :
    ∀ signal ∈ transitionEvents prev next, signal.IsMinor := by
  unfold transitionEvents
  cases next with
  | none => simp
  | some next =>
    dsimp only
    split_ifs <;>
      simp only [List.mem_cons, List.not_mem_nil, or_false, false_imp_iff, implies_true] <;>
      rintro signal rfl <;> exact ⟨id, id⟩

/-! ## Off the hub -/

def EngineCall.IsOffHub : EngineCall → Prop
  | .hub _ => False
  | _ => True

/-- Calls that stay in the process: neither to the hub nor to a spoke, deletes
apart, which carry no object. -/
def EngineCall.IsLocal : EngineCall → Prop
  | .hub _ => False
  | .transportGet _ _ _ => False
  | .transportApply _ _ => False
  | _ => True

theorem EngineCall.IsLocal.offHub (isLocal : call.IsLocal) : call.IsOffHub := by
  cases call with
  | hub call => exact isLocal
  | _ => trivial

theorem emitAll_local (signals : List EngineSignal) :
    (emitAll signals).AllCalls EngineCall.IsLocal :=
  emitAll_allCalls fun _ _ => trivial

theorem settleSlot_local (nn : NamespacedName) (gvk : GroupVersionKind) (slot : SlotInfo)
    (hash : String) (inv : List InventoryEntry) (verdict : SlotVerdict) :
    (settleSlot nn gvk slot hash inv verdict).AllCalls
      EngineCall.IsLocal := by
  cases verdict with
  | ready => exact ⟨trivial, fun _ => ⟨trivial, fun _ => trivial⟩⟩
  | retry reason message => exact ⟨trivial, fun _ => trivial⟩
  | refused reason message => trivial

theorem releaseEntries_local (entries inv : List InventoryEntry) :
    (releaseEntries entries inv).AllCalls EngineCall.IsLocal := by
  induction entries generalizing inv with
  | nil => trivial
  | cons entry rest ih => exact ⟨trivial, fun _ => ih _⟩

theorem deleteEntry_local (nn : NamespacedName) (gc : FanOut) (entry : InventoryEntry)
    (gvk : GroupVersionKind) :
    (deleteEntry nn gc entry gvk).AllCalls EngineCall.IsLocal := by
  have hcleaned : (cleanedEntry nn gc entry).AllCalls EngineCall.IsLocal :=
    ⟨trivial, fun _ => ⟨trivial, fun _ => trivial⟩⟩
  unfold deleteEntry
  rw [Program.perform_bind]
  refine ⟨trivial, ?_⟩
  rintro (err | ⟨⟩)
  · dsimp only
    split_ifs
    · exact hcleaned
    · exact ⟨trivial, fun _ => trivial⟩
  · exact hcleaned

theorem AllCalls.offHub (isLocal : program.AllCalls EngineCall.IsLocal) :
    program.AllCalls EngineCall.IsOffHub :=
  isLocal.weaken (fun _ => EngineCall.IsLocal.offHub) fun _ => id

/-! ## The calls for one target -/

theorem EngineCall.IsMinor.offHub (minor : call.IsMinor) : call.IsOffHub := by
  cases call with
  | hub call => exact minor
  | _ => trivial

/-- The calls with which a target is applied: its replica may be written, recreated or adopted, and
its Namespace created where that is allowed. -/
inductive EngineCall.WorksOn (config : EngineConfig) (src : Unstructured) (gvk : GroupVersionKind)
    (slot : SlotInfo) (create : Bool) : EngineCall → Prop where
  | minor {call : EngineCall} (minor : call.IsMinor) : WorksOn config src gvk slot create call
  | creates (allowed : create = true) : WorksOn config src gvk slot create
      (.transportApply slot.cluster (namespacePayload slot.ns))
  | writes : WorksOn config src gvk slot create
      (.transportApply slot.cluster (config.renderer.render src slot.ns slot.name).1)
  | recreates : WorksOn config src gvk slot create
      (.transportDelete slot.cluster
        (config.renderer.render src slot.ns slot.name).1.groupVersionKind
        (config.renderer.render src slot.ns slot.name).1.key)
  | adopts (hash : String) : WorksOn config src gvk slot create
      (.transportApply slot.cluster (config.renderer.adoptPatch src gvk slot.ns slot.name hash))

section WorksOn

variable {config : EngineConfig} {src : Unstructured} {slot : SlotInfo} {create : Bool}
  {signals : List EngineSignal}

theorem EngineCall.WorksOn.offHub (works : call.WorksOn config src gvk slot create) :
    call.IsOffHub := by
  cases works with
  | minor minor => exact minor.offHub
  | _ => trivial

theorem emitAll_works (hsignals : ∀ signal ∈ signals, signal.IsMinor) :
    (emitAll signals).AllCalls (EngineCall.WorksOn config src gvk slot create) :=
  emitAll_allCalls fun signal hmem => .minor (hsignals signal hmem)

theorem applyWithRecreate_works :
    (applyWithRecreate slot.cluster (config.renderer.render src slot.ns slot.name).1).AllCalls
      (EngineCall.WorksOn config src gvk slot create) := by
  unfold applyWithRecreate
  rw [Program.perform_bind]
  refine ⟨.writes, ?_⟩
  intro reply
  cases reply with
  | ok _ => trivial
  | error err =>
    dsimp only
    split_ifs
    · trivial
    · rw [Program.perform_bind]
      refine ⟨.recreates, ?_⟩
      intro reply
      cases reply with
      | ok _ => exact ⟨.writes, fun _ => trivial⟩
      | error failed =>
        dsimp only
        split_ifs
        · trivial
        · exact ⟨.writes, fun _ => trivial⟩

theorem rewrite_works (hsignals : ∀ signal ∈ signals, signal.IsMinor) :
    (do
      match ← applyWithRecreate slot.cluster (config.renderer.render src slot.ns slot.name).1 with
      | .error err => pure (SlotVerdict.ofErr err)
      | .ok () => do
        emitAll signals
        pure SlotVerdict.ready).AllCalls (EngineCall.WorksOn config src gvk slot create) := by
  refine applyWithRecreate_works.bind ?_
  intro result
  cases result with
  | error err => trivial
  | ok _ => exact (emitAll_works hsignals).bind fun _ => trivial

theorem convergeExisting_works (allowed : List ConflictPolicy) (existing : Unstructured) :
    (convergeExisting config src gvk slot allowed (config.renderer.render src slot.ns slot.name).1
      (config.renderer.render src slot.ns slot.name).2
      existing).AllCalls (EngineCall.WorksOn config src gvk slot create) := by
  unfold convergeExisting
  dsimp only
  cases (decideConflict config.renderer existing src
      (config.renderer.render src slot.ns slot.name).2 allowed).action with
  | fail => exact (emitAll_works (by simp)).bind fun _ => trivial
  | adopt =>
    refine (emitAll_works (by simp)).bind fun _ => ⟨.adopts _, ?_⟩
    intro reply
    cases reply with
    | error err => trivial
    | ok _ => exact (emitAll_works (by simp)).bind fun _ => trivial
  | overwrite => exact (emitAll_works (by simp)).bind fun _ => rewrite_works (by simp)
  | apply =>
    dsimp only
    by_cases hwrite : StringMap.get existing.annotations annotationSourceHash ≠
            (config.renderer.render src slot.ns slot.name).2 ∨
          config.renderer.sourceHash existing ≠ (config.renderer.render src slot.ns slot.name).2
    · rw [if_pos hwrite]
      refine rewrite_works ?_
      split_ifs <;> simp
    · rw [if_neg hwrite]
      trivial

theorem convergeSlot_works (allowed : List ConflictPolicy) :
    (convergeSlot config src gvk slot allowed).AllCalls
      (EngineCall.WorksOn config src gvk slot create) := by
  unfold convergeSlot
  dsimp only
  rw [Program.perform_bind]
  refine ⟨.minor trivial, ?_⟩
  intro reply
  cases reply with
  | error err =>
    dsimp only
    split_ifs
    · refine ⟨.writes, ?_⟩
      intro reply
      cases reply with
      | error err => trivial
      | ok _ => trivial
    · trivial
  | ok existing =>
    dsimp only
    split_ifs
    · unfold repairStripped
      refine rewrite_works ?_
      split_ifs <;> simp
    · exact convergeExisting_works allowed existing

end WorksOn

/-! ## Reporting -/

/-- Local calls and writes of the Replication. -/
def EngineCall.IsReport : EngineCall → Prop
  | .hub (.updateReplication _) => True
  | .hub (.updateReplicationStatus _) => True
  | call => call.IsLocal

theorem EngineCall.IsLocal.report (isLocal : call.IsLocal) : call.IsReport := by
  cases call with
  | hub call => exact isLocal.elim
  | _ => exact isLocal

theorem AllCalls.reports (isLocal : program.AllCalls EngineCall.IsLocal) :
    program.AllCalls EngineCall.IsReport :=
  isLocal.weaken (fun _ => EngineCall.IsLocal.report) fun _ => id

theorem writeStatusIfChanged_reports (rep : Replication) (next : ReplicationStatus) :
    (writeStatusIfChanged rep next).AllCalls EngineCall.IsReport := by
  unfold writeStatusIfChanged
  split_ifs
  · trivial
  · exact ⟨trivial, fun _ => trivial⟩

theorem finishSimple_reports (rep : Replication) (reason message : String) (requeueAfter : Nat) :
    (finishSimple rep reason message requeueAfter).AllCalls
      EngineCall.IsReport := by
  unfold finishSimple
  refine ⟨trivial, fun now => (writeStatusIfChanged_reports _ _).bind ?_⟩
  rintro (err | stored)
  · trivial
  · trivial

theorem finishFanOut_reports (config : EngineConfig) (nn : NamespacedName) (rep : Replication)
    (srcHash : String) (states : List TargetState) (delays : List Nat) (inv : List InventoryEntry)
    (revokedRetained : Bool) :
    (finishFanOut config nn rep srcHash states delays inv
      revokedRetained).AllCalls EngineCall.IsReport := by
  unfold finishFanOut
  refine (AllCalls.reports (emitAll_local _)).bind fun _ => ⟨trivial, fun now => ?_⟩
  apply (writeStatusIfChanged_reports _ _).bind
  rintro (err | stored)
  · trivial
  · exact (AllCalls.reports (emitAll_local _)).bind fun _ => trivial

theorem persistPlanned_reports (rep : Replication) (inv : List InventoryEntry) :
    (persistPlanned rep inv).AllCalls EngineCall.IsReport := by
  unfold persistPlanned
  split_ifs
  · trivial
  · exact ⟨trivial, fun _ => trivial⟩

theorem ensureFinalizer_reports (rep : Replication) :
    (ensureFinalizer rep).AllCalls EngineCall.IsReport := by
  unfold ensureFinalizer
  split_ifs
  · trivial
  · exact ⟨trivial, fun _ => trivial⟩

/-! ## The planned inventory -/

/-- The namespace is looked up, and created when that is allowed. -/
theorem ensureNamespace_calls (cluster ns : String) (allowCreate : Bool) :
    (ensureNamespace cluster ns allowCreate).AllCalls fun call =>
      call = .transportGet cluster namespaceGVK ⟨"", ns⟩ ∨
        allowCreate = true ∧ call = .transportApply cluster (namespacePayload ns) := by
  unfold ensureNamespace
  rw [Program.perform_bind]
  refine ⟨.inl rfl, ?_⟩
  intro reply
  cases reply with
  | ok obj => trivial
  | error err =>
    dsimp only
    split_ifs with hfound hcreate
    · trivial
    · trivial
    · refine ⟨.inr ⟨by simpa using hcreate, rfl⟩, ?_⟩
      intro reply
      cases reply with
      | ok _ => trivial
      | error err => trivial

theorem shareInventory_conditions (planned : Bool) (status : ReplicationStatus)
    (inv : List InventoryEntry) :
    (shareInventory planned status inv).conditions = status.conditions := by
  unfold shareInventory
  split_ifs
  · rfl
  · rfl

theorem buildStatus_shareInventory (rep : Replication) (planned : Bool)
    (shared : List InventoryEntry) (srcHash : String) (states : List TargetState)
    (inv : List InventoryEntry) (retained : Bool) (now : Nat) :
    buildStatus { rep with status := shareInventory planned rep.status shared } srcHash states
      inv retained now = buildStatus rep srcHash states inv retained now := by
  unfold shareInventory
  split_ifs
  · rfl
  · rfl

/-- A status that shows what was built differs from it in the inventory only. -/
theorem eq_buildStatus_of_shared {rep : Replication} {planned : Bool} {srcHash : String}
    {states : List TargetState} {inv : List InventoryEntry} {retained : Bool} {now : Nat}
    (shared : shareInventory planned rep.status inv =
      buildStatus rep srcHash states inv retained now) :
    rep.status = buildStatus rep srcHash states rep.status.inventory retained now := by
  have hstatus := congrArg (fun status : ReplicationStatus =>
    { status with inventory := rep.status.inventory }) shared
  unfold shareInventory at hstatus
  split_ifs at hstatus
  · exact hstatus
  · exact hstatus

theorem recorded_planInventory_iff (gvk : GroupVersionKind) (slots : List (SlotInfo × Decision))
    (inv : List InventoryEntry) (key : SlotKey) :
    Recorded (planInventory gvk slots inv) key ↔ Recorded inv key ∨
        ∃ slot ∈ slots, slot.2.allowed = true ∧ slot.1.key gvk = key := by
  induction slots generalizing inv with
  | nil => simp [planInventory]
  | cons slot rest ih =>
    have hkey : keyForEntry (plannedEntry slot.1 gvk) = slot.1.key gvk := rfl
    have hstep : Recorded (if slot.2.allowed && !hasEntry inv (slot.1.key gvk) then
          inv ++ [plannedEntry slot.1 gvk] else inv) key ↔
        Recorded inv key ∨ slot.2.allowed = true ∧ slot.1.key gvk = key := by
      split_ifs with hplan
      · simp only [Bool.and_eq_true] at hplan
        simp [recorded_append_iff, recorded_cons_iff, not_recorded_nil, hkey, hplan.1]
      · -- A slot that is not planned is denied or recorded already.
        simp only [Bool.and_eq_true, Bool.not_eq_true', not_and,
          Bool.not_eq_false, hasEntry_iff] at hplan
        constructor
        · exact .inl
        · rintro (h | ⟨hallowed, rfl⟩)
          · exact h
          · exact hplan hallowed
    rw [planInventory, List.foldl_cons, ← planInventory, ih, hstep]
    simp only [List.mem_cons, exists_eq_or_imp]
    tauto

/-! ## The slots that are written -/

theorem slotOf_render (renderer : Renderer) {src : Unstructured} {slot : SlotInfo}
    (hname : slot.name = "" → src.name = "") :
    slotOf slot.cluster (renderer.render src slot.ns slot.name).1.groupVersionKind
        (renderer.render src slot.ns slot.name).1.key =
      slot.key src.groupVersionKind := by
  by_cases hempty : slot.name = ""
  · simp [slotOf, Unstructured.key, SlotInfo.key, Renderer.render, hempty,
      hname hempty, stripServerManaged]
  · simp [slotOf, Unstructured.key, SlotInfo.key, Renderer.render, hempty, stripServerManaged]

theorem slotOf_adoptPatch (renderer : Renderer) (src : Unstructured) (gvk : GroupVersionKind)
    (slot : SlotInfo) (hash : String) :
    slotOf slot.cluster (renderer.adoptPatch src gvk slot.ns slot.name hash).groupVersionKind
        (renderer.adoptPatch src gvk slot.ns slot.name hash).key =
      slot.key gvk := rfl

theorem slotOf_gvkForEntry {config : EngineConfig} {entry : InventoryEntry}
    (hgvk : gvkForEntry config entry = some gvk) :
    slotOf entry.clusterName gvk ⟨entry.ns, entry.name⟩ = keyForEntry entry := by
  have hfound := List.find?_some hgvk
  simp only [Bool.and_eq_true, decide_eq_true_eq] at hfound
  simp [slotOf, keyForEntry, hfound]

end K8sR8r
