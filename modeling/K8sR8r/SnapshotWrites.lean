import K8sR8r.ControlPlane
import K8sR8r.EngineSight

/-!
# Writing from snapshots

A controller reads a Replication once and carries that copy through a whole
reconcile.  Each of its writes is the copy with a finalizer or a status
changed, under the version of the copy, so a write that the API server accepts
changes nothing else.
-/

namespace K8sR8r

open Interaction

/-! ## Conditions of other writers -/

/-- The conditions of these types are as they were, in their order. -/
def KeepsConditions (types : String → Bool) (before after : List Condition) :
    Prop :=
  (after.filter fun condition => types condition.type) =
    before.filter fun condition => types condition.type

section Conditions

variable {types : String → Bool} {first second third : List Condition}

theorem KeepsConditions.refl (conditions : List Condition) :
    KeepsConditions types conditions conditions := rfl

theorem KeepsConditions.trans (head : KeepsConditions types first second)
    (tail : KeepsConditions types second third) :
    KeepsConditions types first third :=
  Eq.trans tail head

theorem keepsConditions_update (now : Nat) {fresh : Condition} (hother : types fresh.type = false)
    (conditions : List Condition) :
    KeepsConditions types conditions (updateStatusCondition now fresh conditions) := by
  unfold KeepsConditions
  induction conditions with
  | nil => rfl
  | cons head rest ih =>
    by_cases htype : head.type = fresh.type
    · simp [updateStatusCondition, htype, hother]
    · simp only [updateStatusCondition, if_neg htype, List.filter_cons, ih]

theorem keepsConditions_set (now : Nat) {fresh : Condition} (hother : types fresh.type = false)
    (conditions : List Condition) :
    KeepsConditions types conditions (setStatusCondition now conditions fresh) := by
  unfold setStatusCondition
  cases findStatusCondition conditions fresh.type with
  | none => simp [KeepsConditions, hother]
  | some condition => exact keepsConditions_update now hother conditions

theorem keepsConditions_remove {type : String} (hother : types type = false)
    (conditions : List Condition) :
    KeepsConditions types conditions (removeStatusCondition conditions type) := by
  unfold KeepsConditions removeStatusCondition
  rw [List.filter_filter]
  refine List.filter_congr ?_
  intro condition _
  by_cases htype : condition.type = type
  · simp [htype, hother]
  · simp [htype]

end Conditions

/-! ## Copies in hand -/

namespace Hub

variable {hub after : Hub} {fails : Prop} {base rep stored : Replication}

theorem Holds.eq_of_current (holds : hub.Holds base) (hkey : rep.key = base.key)
    (hversion : rep.resourceVersion = base.resourceVersion) {cur : Replication}
    (hcur : hub.current rep = some cur) : cur = base := by
  obtain ⟨hstored, hcurrent⟩ := current_eq_some hcur
  rw [hkey] at hstored
  exact holds.2 cur hstored (hcurrent.trans hversion)

theorem holds_of_update (answer : hub.Answers fails (.updateReplication rep) (.ok stored) after) :
    after.Holds stored := by
  obtain ⟨cur, _, heq⟩ := Option.map_eq_some_iff.mp answer
  obtain ⟨rfl, rfl⟩ := Prod.mk.inj heq
  refine ⟨Nat.lt_succ_self _, ?_⟩
  intro other hother _
  have hkept := setReplication_self hub rep.key _ ▸ hother
  exact keepUnlessReleased_eq_some hkept

theorem Consistent.holds_of_statusUpdate (consistent : hub.Consistent)
    (answer : hub.Answers fails (.updateReplicationStatus rep) (.ok stored) after) :
    after.Holds stored := by
  obtain ⟨cur, hcur, heq⟩ := Option.map_eq_some_iff.mp answer
  obtain ⟨rfl, rfl⟩ := Prod.mk.inj heq
  have hkey := consistent.key _ cur (current_eq_some hcur).1
  refine ⟨Nat.lt_succ_self _, ?_⟩
  intro other hother _
  have hsame : cur.key = rep.key := hkey
  change (hub.setReplication rep.key _).replications cur.key = some other at hother
  rw [hsame, setReplication_self] at hother
  exact (Option.some.inj hother).symm

end Hub

/-! ## Worlds with a hub -/

/-- Others and the role's own calls move the hub on. -/
structure Versioned {World Call : Type} {Reply : Call → Type}
    (semantics : Semantics World Reply) (hubOf : World → Hub) : Prop where
  interferes : ∀ {before after}, semantics.interfere before after →
    (hubOf before).Consistent →
      (hubOf before).Newer (hubOf after) ∧ (hubOf after).Consistent
  moves : ∀ {before call reply after},
    semantics.answers before call reply after → (hubOf before).Consistent →
      (hubOf before).Newer (hubOf after) ∧ (hubOf after).Consistent

/-- A consistent hub and a copy of one of its Replications. -/
structure Snapshot (rep : Replication) (hub : Hub) : Prop where
  consistent : hub.Consistent
  holds : hub.Holds rep

namespace Versioned

variable {World Call : Type} {Reply : Call → Type}
  {semantics : Semantics World Reply} {hubOf : World → Hub}
  {guard : World → Call → Prop} {world : World} {rep : Replication}

theorem consistent_stable (versioned : Versioned semantics hubOf) :
    Stable semantics fun world => (hubOf world).Consistent :=
  fun consistent change => (versioned.interferes change consistent).2

theorem snapshot_stable (versioned : Versioned semantics hubOf) :
    Stable semantics fun world => Snapshot rep (hubOf world) := by
  intro world current snapshot change
  have hmoved := versioned.interferes change snapshot.consistent
  exact ⟨hmoved.2, snapshot.holds.newer hmoved.1⟩

theorem snapshot_answers (versioned : Versioned semantics hubOf) {call : Call}
    {reply : Reply call} {after : World} (snapshot : Snapshot rep (hubOf world))
    (answer : semantics.answers world call reply after) :
    Snapshot rep (hubOf after) := by
  have hmoved := versioned.moves answer snapshot.consistent
  exact ⟨hmoved.2, snapshot.holds.newer hmoved.1⟩

variable {α : Type} {program : Program Reply α}

theorem within_safe (versioned : Versioned semantics hubOf) {allowed : Call → Prop}
    {value : α → Prop} (within : program.Within allowed value)
    (admitted : ∀ {current call}, allowed call →
      Snapshot rep (hubOf current) → guard current call) (snapshot : Snapshot rep (hubOf world)) :
    Safe semantics guard program (fun result current =>
      value result ∧ Snapshot rep (hubOf current)) world :=
  Safe.of_within within versioned.snapshot_stable snapshot admitted
    fun _ hcurrent answer => versioned.snapshot_answers hcurrent answer

theorem calls_safe (versioned : Versioned semantics hubOf) {allowed : Call → Prop}
    {value : α → Prop} (within : program.Within allowed value)
    (admitted : ∀ {current call}, allowed call → (hubOf current).Consistent → guard current call)
    (consistent : (hubOf world).Consistent) :
    Safe semantics guard program (fun result current =>
      value result ∧ (hubOf current).Consistent) world :=
  Safe.of_within within versioned.consistent_stable consistent admitted
    fun _ hcurrent answer => (versioned.moves answer hcurrent).2

theorem done (versioned : Versioned semantics hubOf) {value : α}
    (consistent : (hubOf world).Consistent) :
    Safe semantics guard (.done value) (fun _ current => (hubOf current).Consistent) world :=
  Safe.done_of_stable versioned.consistent_stable consistent

end Versioned

/-! ## The engine -/

/-- The conditions the engine must not touch. -/
def foreignConditions (type : String) : Bool :=
  type = replicationConditionTargetsResolved || type = conditionNotAuthoritative

def EngineFrame (before after : ReplicationStatus) : Prop :=
  KeepsConditions foreignConditions before.conditions after.conditions

theorem engineFrame_buildStatus (rep : Replication) (sourceHash : String)
    (states : List TargetState) (inventory : List InventoryEntry) (revokedRetained : Bool)
    (now : Nat) :
    EngineFrame rep.status (buildStatus rep sourceHash states inventory revokedRetained now) := by
  have htype : ∀ tally, (readyCondition rep states tally).type =
      replicationConditionReady := by
    intro tally
    unfold readyCondition
    dsimp only
    split_ifs
    · rfl
    · rfl
    · rfl
  have hready : KeepsConditions foreignConditions rep.status.conditions
      (setStatusCondition now rep.status.conditions
        (readyCondition rep states (tallyStates rep.status now states))) :=
    keepsConditions_set now (by rw [htype]; decide) _
  unfold EngineFrame buildStatus
  dsimp only
  split_ifs
  · exact hready.trans (keepsConditions_set now rfl _)
  · exact hready.trans (keepsConditions_remove rfl _)

def EngineCall.WritesFrom (base : Replication) : EngineCall → Prop
  | .hub (.updateReplication rep) =>
    rep = finalized base ∨ rep = released base
  | .hub (.updateReplicationStatus rep) =>
    ∃ next, rep = { base with status := next } ∧
      EngineFrame base.status next
  | call => call.SparesHub

variable {call : EngineCall}

theorem EngineCall.SparesHub.writesFrom (spares : call.SparesHub) (base : Replication) :
    call.WritesFrom base := by
  cases call with
  | hub call =>
    cases call with
    | updateReplication rep => exact spares.elim
    | updateReplicationStatus rep => exact spares.elim
    | _ => exact spares
  | _ => trivial

theorem writeStatusIfChanged_writesFrom (rep : Replication) (seen : ReplicationStatus)
    {next : ReplicationStatus} (frame : EngineFrame rep.status next) :
    (writeStatusIfChanged { rep with status := seen } next).AllCalls
      (EngineCall.WritesFrom rep) := by
  unfold writeStatusIfChanged
  split_ifs
  · trivial
  · exact ⟨⟨next, rfl, frame⟩, fun _ => trivial⟩

theorem finishSimple_writesFrom (rep : Replication) (reason message : String) (requeueAfter : Nat) :
    (finishSimple rep reason message requeueAfter).AllCalls (EngineCall.WritesFrom rep) := by
  unfold finishSimple
  rw [Program.perform_bind]
  refine ⟨trivial, fun now => ?_⟩
  refine Program.AllCalls.bind (writeStatusIfChanged_writesFrom rep rep.status
    (engineFrame_buildStatus _ _ _ _ _ _)) ?_
  intro result
  cases result with
  | ok stored => trivial
  | error err => trivial

theorem finishFanOut_writesFrom (config : EngineConfig) (nn : NamespacedName) (rep : Replication)
    (seen : ReplicationStatus) (hseen : seen.conditions = rep.status.conditions)
    (srcHash : String) (states : List TargetState) (delays : List Nat) (inv : List InventoryEntry)
    (revokedRetained : Bool) :
    (finishFanOut config nn { rep with status := seen } srcHash states delays inv
      revokedRetained).AllCalls (EngineCall.WritesFrom rep) := by
  unfold finishFanOut
  refine Program.AllCalls.bind (emitAll_allCalls fun _ _ => trivial) fun _ => ?_
  rw [Program.perform_bind]
  refine ⟨trivial, fun now => ?_⟩
  refine Program.AllCalls.bind (writeStatusIfChanged_writesFrom rep seen ?_) ?_
  · unfold EngineFrame
    rw [← hseen]
    exact engineFrame_buildStatus { rep with status := seen } _ _ _ _ _
  · intro result
    cases result with
    | error err => trivial
    | ok stored =>
      exact Program.AllCalls.bind (emitAll_allCalls fun _ _ => trivial) fun _ => trivial

theorem collectGarbage_sparesHub (config : EngineConfig) (nn : NamespacedName)
    (sourceUID : String) (keep : List SlotKey) (inv : List InventoryEntry) :
    (collectGarbage config nn sourceUID keep inv).AllCalls
      EngineCall.SparesHub := by
  refine (collectGarbage_within config nn sourceUID keep inv).weaken ?_ fun _ _ => trivial
  rintro call (hpassive | ⟨entry, _, _, rfl | hdeletes⟩)
  · exact hpassive.sparesHub
  · trivial
  · exact hdeletes.sparesHub

theorem reconcileDeletion_writesFrom (config : EngineConfig) (nn : NamespacedName)
    (rep : Replication) :
    (reconcileDeletion config nn rep).AllCalls (EngineCall.WritesFrom rep) := by
  unfold reconcileDeletion
  split_ifs
  · trivial
  · refine Program.AllCalls.bind ((collectGarbage_sparesHub _ _ _ _ _).weaken
      (fun _ hspares => hspares.writesFrom rep) fun _ h => h) fun gc => ?_
    unfold finishDeletion
    split_ifs
    · rw [hub_bind]
      refine ⟨.inr rfl, fun reply => ?_⟩
      cases reply with
      | error err => trivial
      | ok stored =>
        exact ⟨trivial, fun _ => ⟨trivial, fun _ =>
          ⟨trivial, fun _ => ⟨trivial, fun _ => trivial⟩⟩⟩⟩
    · rw [Program.perform_bind]
      refine ⟨trivial, fun now => ?_⟩
      refine Program.AllCalls.bind (writeStatusIfChanged_writesFrom rep rep.status
        (engineFrame_buildStatus _ _ _ _ _ _)) ?_
      intro result
      cases result with
      | error err => trivial
      | ok stored => trivial

theorem fanOut_sparesHub (config : EngineConfig) (nn : NamespacedName) {src : Unstructured}
    {gvk : GroupVersionKind} (hkind : src.groupVersionKind = gvk)
    (policies : List ReplicationPolicy) (outcome : RevocationOutcome)
    {slots : List (SlotInfo × Decision)}
    (hname : ∀ slot ∈ slots, slot.1.name = "" → src.name = "") (fan : FanOut) :
    (slots.foldlM (fanOutSlot config nn src gvk policies outcome)
      fan).AllCalls EngineCall.SparesHub := by
  refine (fanOut_within config nn hkind policies outcome hname fan).weaken ?_ fun _ _ => trivial
  rintro call (hpassive | ⟨slot, _, _, hserves⟩)
  · exact hpassive.sparesHub
  · exact hserves.sparesHub

/-- Every write of the engine starts from a copy that is in hand. -/
def EngineCall.FromSnapshot (hub : Hub) (call : EngineCall) : Prop :=
  hub.Consistent ∧ (call.SparesHub ∨ ∃ base, hub.Holds base ∧ call.WritesFrom base)

theorem Snapshot.admits {rep : Replication} {hub : Hub} (snapshot : Snapshot rep hub)
    (writes : call.WritesFrom rep) :
    call.FromSnapshot hub :=
  ⟨snapshot.consistent, .inr ⟨rep, snapshot.holds, writes⟩⟩

/-- A write of the engine keeps the owners and the spec of what is stored. -/
theorem EngineCall.FromSnapshot.rewrites {fails : EngineCall → Prop} {fleet after : Fleet}
    {reply : call.Reply} (writes : call.FromSnapshot fleet.hub)
    (answer : fleet.Answers fails call reply after) :
    after.hub = fleet.hub ∨ ∃ key cur next, fleet.hub.replications key = some cur ∧
      after.hub = fleet.hub.setReplication key next ∧
      ∀ new, next = some new →
        new.ownerReferences = cur.ownerReferences ∧ new.spec = cur.spec := by
  obtain ⟨_, hspares | ⟨base, holds, hwrites⟩⟩ := writes
  · exact .inl (Fleet.answers_sparesHub hspares answer)
  · cases Fleet.answers_effect answer with
    | hub hanswer =>
      cases hanswer.effect with
      | same => exact .inl rfl
      | @updated rep cur stored hcur hstored =>
        have hsame : rep.key = base.key ∧ rep.resourceVersion = base.resourceVersion ∧
            rep.ownerReferences = base.ownerReferences ∧ rep.spec = base.spec := by
          rcases hwrites with rfl | rfl
          · exact ⟨rfl, rfl, rfl, rfl⟩
          · exact ⟨rfl, rfl, rfl, rfl⟩
        obtain rfl := holds.eq_of_current hsame.1 hsame.2.1 hcur
        refine .inr ⟨_, cur, _, (Hub.current_eq_some hcur).1, rfl, fun new hnew => ?_⟩
        rw [Hub.keepUnlessReleased_eq_some hnew, hstored]
        exact hsame.2.2
      | statusUpdated hcur hstored =>
        refine .inr ⟨_, _, _, (Hub.current_eq_some hcur).1, rfl, ?_⟩
        rintro new ⟨⟩
        rw [hstored]
        exact ⟨rfl, rfl⟩
      | _ => exact hwrites.elim
    | _ => exact .inl rfl

structure Operates {World : Type}
    (semantics : Semantics World EngineCall.Reply) (hubOf : World → Hub) :
    Prop extends Versioned semantics hubOf where
  answers : ∀ {before call reply after},
    semantics.answers before (.hub call) reply after →
      ∃ fails, (hubOf before).Answers fails call reply (hubOf after)

namespace Operates

variable {World : Type} {semantics : Semantics World EngineCall.Reply}
  {hubOf : World → Hub} {world : World} {rep : Replication}
  {nn : NamespacedName}

theorem writes_safe (operates : Operates semantics hubOf) {α : Type} {program : EngineProgram α}
    (calls : program.AllCalls (EngineCall.WritesFrom rep)) (snapshot : Snapshot rep (hubOf world)) :
    Safe semantics (fun world => EngineCall.FromSnapshot (hubOf world))
      program (fun _ current => (hubOf current).Consistent) world :=
  (operates.within_safe calls (fun writes hcurrent => hcurrent.admits writes)
    snapshot).weaken fun _ _ h => h.2.consistent

theorem spares_safe (operates : Operates semantics hubOf) {α : Type} {program : EngineProgram α}
    {value : α → Prop} (calls : program.Within EngineCall.SparesHub value)
    (snapshot : Snapshot rep (hubOf world)) :
    Safe semantics (fun world => EngineCall.FromSnapshot (hubOf world))
      program (fun result current =>
        value result ∧ Snapshot rep (hubOf current)) world :=
  operates.within_safe calls (fun spares hcurrent => ⟨hcurrent.consistent, .inl spares⟩) snapshot

def Refreshed (hubOf : World → Hub) (result : ApiResult Replication) (current : World) : Prop :=
  (hubOf current).Consistent ∧ ∀ stored, result = .ok stored → Snapshot stored (hubOf current)

theorem refreshed (operates : Operates semantics hubOf) {result : ApiResult Replication}
    (consistent : (hubOf world).Consistent)
    (holds : ∀ stored, result = .ok stored → (hubOf world).Holds stored) :
    Safe semantics (fun world => EngineCall.FromSnapshot (hubOf world))
      (.done result) (Refreshed hubOf) world := by
  intro current change
  refine ⟨operates.consistent_stable consistent change, fun stored hresult => ?_⟩
  exact operates.snapshot_stable ⟨consistent, holds stored hresult⟩ change

theorem ensureFinalizer_safe (operates : Operates semantics hubOf)
    (snapshot : Snapshot rep (hubOf world)) :
    Safe semantics (fun world => EngineCall.FromSnapshot (hubOf world))
      (ensureFinalizer rep) (Refreshed hubOf) world := by
  unfold ensureFinalizer
  split_ifs
  · refine operates.refreshed snapshot.consistent ?_
    rintro stored ⟨⟩
    exact snapshot.holds
  · refine Safe.call_of_stable operates.snapshot_stable snapshot
      (fun current h => h.admits (.inl rfl)) ?_
    intro current reply after hcurrent answer
    obtain ⟨fails, hanswer⟩ := operates.answers answer
    refine operates.refreshed (operates.snapshot_answers hcurrent answer).consistent ?_
    rintro stored rfl
    exact Hub.holds_of_update hanswer

theorem persistPlanned_safe (operates : Operates semantics hubOf) (inv : List InventoryEntry)
    (snapshot : Snapshot rep (hubOf world)) :
    Safe semantics (fun world => EngineCall.FromSnapshot (hubOf world))
      (persistPlanned rep inv) (Refreshed hubOf) world := by
  unfold persistPlanned
  split_ifs
  · refine operates.refreshed snapshot.consistent ?_
    rintro stored ⟨⟩
    exact snapshot.holds
  · refine Safe.call_of_stable operates.snapshot_stable snapshot
      (fun current h => h.admits ⟨_, rfl, .refl _⟩) ?_
    intro current reply after hcurrent answer
    obtain ⟨fails, hanswer⟩ := operates.answers answer
    refine operates.refreshed (operates.snapshot_answers hcurrent answer).consistent ?_
    rintro stored rfl
    exact hcurrent.consistent.holds_of_statusUpdate hanswer

variable {gvk : GroupVersionKind}

theorem converge_safe (operates : Operates semantics hubOf) (config : EngineConfig)
    {src : Unstructured} (hkind : src.groupVersionKind = gvk) (policies : List ReplicationPolicy)
    {slots : List (SlotInfo × Decision)}
    (hname : ∀ slot ∈ slots, slot.1.name = "" → src.name = "") (outcome : RevocationOutcome)
    (snapshot : Snapshot rep (hubOf world)) :
    Safe semantics (fun world => EngineCall.FromSnapshot (hubOf world))
      (converge config nn rep src gvk policies slots outcome)
      (fun _ current => (hubOf current).Consistent) world := by
  unfold converge
  dsimp only
  refine Safe.seq (operates.persistPlanned_safe _ snapshot) ?_
  rintro result current ⟨hcurrent, hstored⟩
  cases result with
  | error err => exact operates.done hcurrent
  | ok stored =>
    refine Safe.seq (operates.spares_safe (fanOut_sparesHub config nn hkind
      policies outcome hname _) (hstored stored rfl)) ?_
    rintro fan current ⟨_, hcurrent⟩
    refine Safe.seq (operates.spares_safe (collectGarbage_sparesHub config nn _ _ _) hcurrent) ?_
    rintro gc current ⟨_, hcurrent⟩
    exact operates.writes_safe (finishFanOut_writesFrom config nn stored _
      (shareInventory_conditions _ _ _) _ _ _ _ _) hcurrent

theorem reconcileSource_safe (operates : Operates semantics hubOf) (config : EngineConfig)
    {src : Unstructured} (hkind : src.groupVersionKind = gvk)
    (snapshot : Snapshot rep (hubOf world)) :
    Safe semantics (fun world => EngineCall.FromSnapshot (hubOf world))
      (reconcileSource config nn rep gvk src)
      (fun _ current => (hubOf current).Consistent) world := by
  have hcall : ∀ (call : EngineCall) {current : World}, call.SparesHub →
      Snapshot rep (hubOf current) →
        Safe semantics (fun world => EngineCall.FromSnapshot (hubOf world)) (Program.perform call)
          (fun _ current => True ∧ Snapshot rep (hubOf current)) current :=
    fun call current hspares hcurrent =>
      operates.spares_safe ⟨hspares, fun _ => trivial⟩ hcurrent
  unfold reconcileSource
  refine Safe.seq (hcall (.hub .listPolicies) trivial snapshot) ?_
  rintro listed current ⟨_, hcurrent⟩
  cases listed with
  | error err => exact operates.done hcurrent.consistent
  | ok policies =>
    refine Safe.seq (operates.spares_safe (namespaceLabels_allCalls trivial) hcurrent) ?_
    rintro labels current ⟨_, hcurrent⟩
    refine Safe.seq (operates.spares_safe ((flattenTargets_within _
      _).weaken (fun _ hpassive => hpassive.sparesHub) fun _ h => h) hcurrent) ?_
    rintro targets current ⟨hflat, hcurrent⟩
    refine Safe.seq (hcall (.previousResult rep.uid) trivial hcurrent) ?_
    rintro prev current ⟨_, hcurrent⟩
    refine Safe.seq (hcall (.storeResult rep.uid _) trivial hcurrent) ?_
    rintro _ current ⟨_, hcurrent⟩
    refine Safe.seq (operates.spares_safe (emitAll_allCalls fun _ _ => trivial) hcurrent) ?_
    rintro _ current ⟨_, hcurrent⟩
    refine operates.converge_safe config hkind policies.items ?_ _ hcurrent
    rw [zip_decisions]
    intro slot hmem
    obtain ⟨target, htarget, rfl⟩ := List.mem_map.mp hmem
    exact hflat.named target htarget

theorem reconcileLive_safe (operates : Operates semantics hubOf) (config : EngineConfig)
    (snapshot : Snapshot rep (hubOf world)) :
    Safe semantics (fun world => EngineCall.FromSnapshot (hubOf world))
      (reconcileLive config nn rep)
      (fun _ current => (hubOf current).Consistent) world := by
  have hsimple : ∀ reason message {current : World}, Snapshot rep (hubOf current) →
        Safe semantics (fun world => EngineCall.FromSnapshot (hubOf world))
          (finishSimple rep reason message minute)
          (fun _ current => (hubOf current).Consistent) current :=
    fun reason message current hcurrent =>
      operates.writes_safe (finishSimple_writesFrom rep _ _ _) hcurrent
  unfold reconcileLive
  dsimp only
  cases config.kindGVKs.lookup rep.spec.sourceRef.kind with
  | none => exact hsimple _ _ snapshot
  | some gvk =>
    dsimp only
    rw [hub_bind]
    refine Safe.call_of_stable operates.snapshot_stable snapshot
      (fun _ h => ⟨h.consistent, .inl trivial⟩) ?_
    intro current reply after hcurrent answer
    have hafter := operates.snapshot_answers hcurrent answer
    obtain ⟨fails, hread, _⟩ := operates.answers answer
    cases reply with
    | error err =>
      dsimp only
      split_ifs
      · exact hsimple _ _ hafter
      · exact operates.done hafter.consistent
    | ok src =>
      obtain ⟨stored, _, hsrc⟩ := Option.map_eq_some_iff.mp hread
      have hkind : src.groupVersionKind = gvk := by
        rw [← hsrc]
        rfl
      dsimp only
      split_ifs
      · exact hsimple _ _ hafter
      · exact operates.reconcileSource_safe config hkind hafter

/-- Whatever happens around it, a reconcile writes to the hub only from copies
that are still good. -/
theorem reconcile_safe (operates : Operates semantics hubOf) (config : EngineConfig)
    (nn : NamespacedName) (consistent : (hubOf world).Consistent) :
    Safe semantics (fun world => EngineCall.FromSnapshot (hubOf world)) (reconcile config nn)
      (fun _ current => (hubOf current).Consistent) world := by
  unfold reconcile
  rw [hub_bind]
  refine Safe.call_of_stable operates.consistent_stable consistent (fun _ h => ⟨h, .inl trivial⟩) ?_
  intro current reply after hcurrent answer
  have hafter := (operates.moves answer hcurrent).2
  obtain ⟨fails, hread, hsame⟩ := operates.answers answer
  cases reply with
  | error err =>
    dsimp only
    split_ifs
    · have hcalls : (do
          Program.perform (EngineCall.backoffForget nn)
          emitAll [.metric (.forgetReplicas nn)]
          pure (.ok ⟨0⟩) : EngineProgram (ApiResult
            ReconcileOutcome)).AllCalls EngineCall.SparesHub :=
        ⟨trivial, fun _ => ⟨trivial, fun _ => trivial⟩⟩
      exact (operates.calls_safe hcalls (fun spares h => ⟨h, .inl spares⟩)
        hafter).weaken fun _ _ h => h.2
    · exact operates.done hafter
  | ok rep =>
    have hsnapshot : Snapshot rep (hubOf after) :=
      ⟨hafter, by rw [hsame]; exact hcurrent.holds hread⟩
    dsimp only
    split_ifs
    · exact operates.writes_safe (reconcileDeletion_writesFrom config nn rep) hsnapshot
    · exact operates.done hafter
    · refine Safe.seq (operates.ensureFinalizer_safe hsnapshot) ?_
      rintro result later ⟨hlater, hstored⟩
      cases result with
      | error err => exact operates.done hlater
      | ok stored =>
        exact operates.reconcileLive_safe config (hstored stored rfl)

end Operates

end K8sR8r
