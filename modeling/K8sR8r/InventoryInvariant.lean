import K8sR8r.FleetSimulation
import K8sR8r.InventoryReconcile

/-!
# The inventory under crashes, conflicts and concurrent users

The engine reconciles one Replication, call by call.  Any call may fail, the
process may die between two calls and lose its memory, and users edit the
Replication, the policies, the source and the spokes at any time.  In every
state that can be reached, a replica that exists is recorded in the persisted
inventory unless the engine released it because its cluster was gone.
-/

namespace K8sR8r

open Interaction

namespace Ledger

variable {nn : NamespacedName} {before after : Ledger}

/-! ## The users -/

/-- What everybody but the engine may do.  Users never strip the engine
finalizer, never touch the recorded inventory and never change a source UID,
neither of the Replication nor on a spoke object. -/
inductive UserStep (nn : NamespacedName) : Ledger → Ledger → Prop where
  | editReplication {ledger : Ledger} {old new : Replication}
      (stored : ledger.fleet.hub.replications nn = some old)
      (version : new.resourceVersion = ledger.fleet.hub.nextVersion)
      (key : new.key = old.key)
      (sourceUID : new.spec.sourceRef.uid = old.spec.sourceRef.uid)
      (inventory : new.status.inventory = old.status.inventory)
      (finalizer : finalizerName ∈ old.finalizers →
        finalizerName ∈ new.finalizers) :
      UserStep nn ledger { ledger with fleet := { ledger.fleet with
        hub := ledger.fleet.hub.setReplication nn (some new) } }
  | createReplication {ledger : Ledger} {new : Replication}
      (absent : ledger.fleet.hub.replications nn = none)
      (version : new.resourceVersion = ledger.fleet.hub.nextVersion)
      (key : new.key = nn) (sourceUID : new.spec.sourceRef.uid ≠ "") :
      UserStep nn ledger { ledger with fleet := { ledger.fleet with
        hub := ledger.fleet.hub.setReplication nn (some new) } }
  | removeReplication {ledger : Ledger} {old : Replication}
      (stored : ledger.fleet.hub.replications nn = some old)
      (finalizer : finalizerName ∉ old.finalizers) :
      UserStep nn ledger { ledger with fleet := { ledger.fleet with
        hub := ledger.fleet.hub.setReplication nn none } }
  -- Policies, sources, namespaces and all other Replications.
  | editHub {ledger : Ledger} {hub : Hub}
      (replication :
        hub.replications nn = ledger.fleet.hub.replications nn)
      (versions : ledger.fleet.hub.nextVersion ≤ hub.nextVersion) :
      UserStep nn ledger
        { ledger with fleet := { ledger.fleet with hub := hub } }
  | editSpokes {ledger : Ledger} {spokes : Spokes}
      (placed : spokes.WellPlaced)
      (sourceUID : ∀ slot old new, ledger.fleet.spokes slot = some old →
        spokes slot = some new →
          StringMap.get new.labels labelSourceUID =
            StringMap.get old.labels labelSourceUID) :
      UserStep nn ledger
        { ledger with
          fleet := { ledger.fleet with spokes := spokes }
          owned := ledger.owned.filter fun replica =>
            (spokes replica.1).isSome = true }
  | discover {ledger : Ledger} {clusters : String → Option ClusterObject}
      {records : ClusterRecords} :
      UserStep nn ledger { ledger with fleet := { ledger.fleet with
        clusters := clusters, records := records } }

theorem interferes_of_store {next : Option Replication}
    (hafter : after = { before with fleet := { before.fleet with
      hub := before.fleet.hub.setReplication nn next } }) (hgood : before.Good nn → after.Good nn)
    (hversion : ∀ stored, next = some stored →
      stored.resourceVersion = before.fleet.hub.nextVersion)
    (hheld : ∀ rep, before.fleet.hub.replications nn = some rep → finalizerName ∈ rep.finalizers →
        ∃ stored, next = some stored ∧ finalizerName ∈ stored.finalizers ∧
          stored.status.inventory = rep.status.inventory ∧
          stored.spec.sourceRef.uid = rep.spec.sourceRef.uid) :
    Interferes nn before after := by
  have hstored : after.fleet.hub.replications nn = next := by
    rw [hafter]
    simp [Hub.setReplication]
  refine ⟨hgood, by rw [hafter], by rw [hafter], ?_, ?_, ?_⟩
  · rw [hafter]
    exact Nat.le_succ _
  · intro rep hrep hold
    rw [hstored] at hrep
    rw [hversion rep hrep] at hold
    exact (lt_irrefl _ hold).elim
  · intro rep hrep hfin
    obtain ⟨stored, hsome, hrest⟩ := hheld rep hrep hfin
    exact ⟨stored, by rw [hstored, hsome], hrest⟩

theorem UserStep.interferes (step : UserStep nn before after) (good : before.Good nn) :
    Interferes nn before after := by
  cases step with
  | @editReplication old new stored version key sourceUID inventory
      finalizer =>
      refine interferes_of_store rfl (fun _ => ?_) ?_ ?_
      · refine good.store rfl rfl le_rfl ?_ ?_
        · rintro other ⟨⟩
          obtain ⟨hkey, hUID⟩ := good.identity old stored
          exact ⟨version, key.trans hkey, by rwa [sourceUID]⟩
        · intro replica live
          obtain ⟨cur, hcur, hUID, hfin, hrec⟩ := good.recorded replica live
          rw [stored, Option.some.injEq] at hcur
          subst cur
          exact ⟨new, rfl, sourceUID.trans hUID, finalizer hfin,
            by rwa [inventory]⟩
      · rintro other ⟨⟩
        exact version
      · intro rep hrep hfin
        rw [stored, Option.some.injEq] at hrep
        subst rep
        exact ⟨new, rfl, finalizer hfin, inventory, sourceUID⟩
  | @createReplication new absent version key sourceUID =>
    refine interferes_of_store rfl (fun _ => ?_) ?_ ?_
    · refine good.store rfl rfl le_rfl ?_ ?_
      · rintro other ⟨⟩
        exact ⟨version, key, sourceUID⟩
      · intro replica live
        obtain ⟨cur, hcur, _⟩ := good.recorded replica live
        rw [absent] at hcur
        cases hcur
    · rintro other ⟨⟩
      exact version
    · intro rep hrep
      rw [absent] at hrep
      cases hrep
  | @removeReplication old stored finalizer =>
    refine interferes_of_store rfl (fun _ => ?_) (by simp) ?_
    · refine good.store rfl rfl le_rfl (by simp) ?_
      intro replica live
      obtain ⟨cur, hcur, _, hfin, _⟩ := good.recorded replica live
      rw [stored, Option.some.injEq] at hcur
      exact (finalizer (hcur ▸ hfin)).elim
    · intro rep hrep hfin
      rw [stored, Option.some.injEq] at hrep
      exact (finalizer (hrep ▸ hfin)).elim
  | @editHub hub replication versions =>
    refine ⟨fun _ => ⟨good.placed, ?_, ?_, good.marked, ?_⟩, le_rfl, rfl, versions, ?_, ?_⟩
    · intro rep hrep
      exact (good.versions rep (replication ▸ hrep)).trans_le versions
    · intro rep hrep
      exact good.identity rep (replication ▸ hrep)
    · intro replica live
      dsimp only
      rw [replication]
      exact good.recorded replica live
    · intro rep hrep _
      exact replication ▸ hrep
    · intro rep hrep hfin
      exact ⟨rep, replication ▸ hrep, hfin, rfl, rfl⟩
  | @editSpokes spokes placed sourceUID =>
    refine interferes_of_spokes rfl (fun _ => placed) (Finset.filter_subset _ _) ?_ rfl
    intro replica hmem
    obtain ⟨howned, hsome⟩ := Finset.mem_filter.mp hmem
    obtain ⟨_, old, hold, hlabel⟩ := good.marked replica howned
    obtain ⟨new, hnew⟩ := Option.isSome_iff_exists.mp hsome
    exact ⟨new, hnew, (sourceUID _ old new hold hnew).trans hlabel⟩
  | discover =>
    exact interferes_of_spokes rfl id le_rfl (fun replica hmem => (good.marked replica hmem).2) rfl

/-! ## Executing with a ledger -/

def applied : (call : EngineCall) → call.Reply → Finset Replica
  | .transportApply cluster obj, reply =>
    match reply, obj.labels.lookup labelSourceUID with
    | .ok (), some uid =>
      {(slotOf cluster obj.groupVersionKind obj.key, uid)}
    | _, _ => ∅
  | _, _ => ∅

theorem mem_applied_iff (call : EngineCall) (reply : call.Reply) (replica : Replica) :
    replica ∈ applied call reply ↔ AppliedFor call reply replica := by
  cases call with
  | transportApply cluster obj =>
    rcases reply with err | _
    · simp [applied, AppliedFor]
    · cases hlabel : obj.labels.lookup labelSourceUID with
      | none => simp [applied, AppliedFor, hlabel]
      | some uid =>
        simp only [applied, AppliedFor, hlabel, Finset.mem_singleton, Option.some.injEq, true_and]
        constructor
        · rintro rfl
          exact ⟨rfl, rfl⟩
        · rintro ⟨hslot, rfl⟩
          exact Prod.ext hslot rfl
  | _ => simp [applied, AppliedFor]

def releases (nn : NamespacedName) (hub : Hub) : EngineCall → Finset Replica
  | .emit (.event (.clusterGone entry)) =>
    match hub.replications nn with
    | some rep => {(keyForEntry entry, rep.spec.sourceRef.uid)}
    | none => ∅
  | _ => ∅

theorem mem_releases_iff (nn : NamespacedName) (hub : Hub) (call : EngineCall) (replica : Replica) :
    replica ∈ releases nn hub call ↔ ReleasedBy nn hub call replica := by
  cases call with
  | emit signal =>
    cases signal with
    | metric metric => simp [releases, ReleasedBy]
    | event event =>
      cases event with
      | clusterGone entry =>
        cases hrep : hub.replications nn with
        | none => simp [releases, ReleasedBy, hrep]
        | some rep =>
          simp only [releases, ReleasedBy, hrep, Finset.mem_singleton, Option.some.injEq,
            exists_eq_left']
          constructor
          · rintro rfl
            exact ⟨rfl, rfl⟩
          · rintro ⟨hslot, hUID⟩
            exact Prod.ext hslot hUID.symm
      | _ => simp [releases, ReleasedBy]
  | _ => simp [releases, ReleasedBy]

def records : (call : EngineCall) → call.Reply → Finset Replica
  | .hub (.updateReplicationStatus _), reply =>
    match reply with
    | .ok stored => (stored.status.inventory.map fun entry =>
      (keyForEntry entry, stored.spec.sourceRef.uid)).toFinset
    | .error _ => ∅
  | _, _ => ∅

theorem mem_records_iff (call : EngineCall) (reply : call.Reply) (replica : Replica) :
    replica ∈ records call reply ↔ RecordedBy call reply replica := by
  cases call with
  | hub call =>
    cases call with
    | updateReplicationStatus rep =>
      rcases reply with err | stored
      · simp [records, RecordedBy]
      · simp only [records, RecordedBy, Recorded, List.mem_toFinset,
          List.mem_map, Except.ok.injEq, exists_eq_left']
        constructor
        · rintro ⟨entry, hmem, rfl⟩
          exact ⟨rfl, entry, hmem, rfl⟩
        · rintro ⟨hUID, entry, hmem, hkey⟩
          exact ⟨entry, hmem, Prod.ext hkey hUID⟩
    | _ => simp [records, RecordedBy]
  | _ => simp [records, RecordedBy]

def handle (nn : NamespacedName) (ledger : Ledger) (call : EngineCall) : call.Reply × Ledger :=
  let answer := ledger.fleet.handle call
  (answer.1,
    { fleet := answer.2
      owned := (ledger.owned ∪ applied call answer.1).filter fun replica =>
        answer.2.spokes.Carries replica.1 replica.2
      released := ((ledger.released ∪ releases nn ledger.fleet.hub call) \
        applied call answer.1) \ records call answer.1 })

theorem answers_handle (nn : NamespacedName) (ledger : Ledger) (call : EngineCall) :
    (semantics nn).answers ledger call (handle nn ledger call).1 (handle nn ledger call).2 where
  fleet := Fleet.answers_handle (fun _ => True) ledger.fleet call
  owned := by simp [handle, mem_applied_iff]
  released := by
    simp [handle, mem_applied_iff, mem_releases_iff, mem_records_iff, and_assoc]

/-! ## The system -/

def restarted (ledger : Ledger) : Ledger :=
  { ledger with fleet := ledger.fleet.restarted }

/-- The engine's reconciles of one Replication among users and crashes. -/
def inventorySystem (config : EngineConfig) (nn : NamespacedName) :
    System Ledger (fun (_ : Unit) => EngineCall.Reply) (fun _ => ApiResult ReconcileOutcome) where
  semantics := fun _ => semantics nn
  starts := fun _ program => program = reconcile config nn
  outside := fun state => UserStep nn state.world
  restart := fun before after => after = before.restarted

theorem inventorySystem_certified (config : EngineConfig) (nn : NamespacedName) :
    (inventorySystem config nn).Certified (Good nn) (fun _ => inventoryGuard nn) where
  outside_invariant := fun good step => (step.interferes good).good good
  outside_tolerated := fun _ _ _ _ good step => step.interferes good
  restart_invariant := by
    rintro world _ good rfl
    exact ⟨good.placed, good.versions, good.identity, good.marked, good.recorded⟩
  guard_invariant := fun _ _ _ good => good
  start_safe := by
    rintro _ _ world rfl good
    exact reconcile_safe config good
  call_tolerated := fun role other _ _ _ _ hne => (hne rfl).elim

/-- Before the engine has done anything: nothing is owned, and the stored
Replication, if there is one, is a Kubernetes object. -/
structure Initial (nn : NamespacedName) (ledger : Ledger) : Prop where
  placed : ledger.fleet.spokes.WellPlaced
  stored : ∀ rep, ledger.fleet.hub.replications nn = some rep →
    rep.key = nn ∧ rep.spec.sourceRef.uid ≠ "" ∧
      rep.resourceVersion < ledger.fleet.hub.nextVersion
  owned : ledger.owned = ∅

theorem Initial.good {ledger : Ledger} (initial : ledger.Initial nn) : ledger.Good nn where
  placed := initial.placed
  versions := fun rep hrep => (initial.stored rep hrep).2.2
  identity := fun rep hrep =>
    ⟨(initial.stored rep hrep).1, (initial.stored rep hrep).2.1⟩
  marked := by simp [initial.owned]
  recorded := by simp [Live, initial.owned]

/-- In every reachable state, whatever the engine has created or taken over
and not released is in the persisted inventory. -/
theorem owned_replica_recorded (config : EngineConfig) {start : Ledger}
    (initial : start.Initial nn)
    {state : Configuration Ledger (fun (_ : Unit) => EngineCall.Reply)
      (fun _ => ApiResult ReconcileOutcome)}
    (reach : (inventorySystem config nn).Reachable (System.idle start) state)
    {replica : Replica}
    (howned : replica ∈ state.world.owned)
    (hkept : replica ∉ state.world.released) :
    ∃ rep,
      state.world.fleet.hub.replications nn = some rep ∧
      rep.spec.sourceRef.uid = replica.2 ∧
      Recorded rep.status.inventory replica.1 := by
  have hgood := (inventorySystem_certified config nn).invariant_reachable initial.good reach
  obtain ⟨rep, hrep, hUID, _, hrec⟩ :=
    hgood.recorded replica ⟨howned, hkept⟩
  exact ⟨rep, hrep, hUID, hrec⟩

open Sample

def sample : Ledger := ⟨Sample.fleet, ∅, ∅⟩

theorem sample_initial : sample.Initial key := by
  refine ⟨spokes_wellPlaced, ?_, rfl⟩
  intro rep hrep
  have hrep : some replication = some rep := hrep
  cases hrep
  decide

def sampleReconciled : Ledger :=
  (execute (handle key) (reconcile engine key) sample).final

theorem sampleReconciled_reachable : (inventorySystem engine key).Reachable
      (System.idle sample) (System.idle sampleReconciled) :=
  System.reachable_execute_idle (inventorySystem engine key) ()
    rfl (execute_answered (answers_handle key) _ _)

theorem owned_replica_recorded_sample :
    ∃ rep,
      sampleReconciled.fleet.hub.replications key = some rep ∧
      rep.spec.sourceRef.uid = sourceUID ∧
      Recorded rep.status.inventory slot := by
  have howned : (slot, sourceUID) ∈ sampleReconciled.owned := by
    decide +kernel
  exact owned_replica_recorded engine sample_initial
    sampleReconciled_reachable howned (by decide +kernel)

end Ledger

end K8sR8r
