import K8sR8r.InventorySafety

/-!
# A whole reconcile keeps the ledger good

Slots are converged in `InventorySafety`.  Here follow the writes to the
Replication itself, the release of entries whose cluster is gone, garbage
collection, and the reconcile that puts them together.
-/

namespace K8sR8r

open Interaction

namespace Ledger

variable {nn : NamespacedName} {uid : String} {rep : Replication}
  {inv : List InventoryEntry} {before after ledger : Ledger}

/-! ## Writing the Replication -/

theorem good_stable : Stable (semantics nn) (Good nn) :=
  fun good change => change.good good

theorem Held.eq_of_current (held : Held nn rep ledger) (hkey : rep.key = nn) {cur : Replication}
    (hcur : ledger.fleet.hub.current rep = some cur) :
    ledger.fleet.hub.replications nn = some rep ∧ cur = rep := by
  simp only [Hub.current, Option.filter_eq_some_iff, decide_eq_true_eq, hkey] at hcur
  obtain ⟨hstored, hversion⟩ := hcur
  have hsame := held.2 cur hstored hversion
  exact ⟨by rw [hstored, hsame], hsame⟩

/-- A write to the Replication keeps the ledger good when what is stored has
a fresh version and records every live replica. -/
theorem Good.store {next : Option Replication} (good : before.Good nn)
    (hhub : after.fleet.hub = before.fleet.hub.setReplication nn next)
    (hspokes : after.fleet.spokes = before.fleet.spokes) (howned : after.owned ⊆ before.owned)
    (hnext : ∀ stored, next = some stored → stored.resourceVersion = before.fleet.hub.nextVersion ∧
        stored.key = nn ∧ stored.spec.sourceRef.uid ≠ "")
    (hrecorded : ∀ replica, after.Live replica → ∃ stored, next = some stored ∧
        stored.spec.sourceRef.uid = replica.2 ∧
        finalizerName ∈ stored.finalizers ∧
        Recorded stored.status.inventory replica.1) :
    after.Good nn := by
  have hstored : after.fleet.hub.replications nn = next := by
    rw [hhub]
    simp [Hub.setReplication]
  refine ⟨by rw [hspokes]; exact good.placed, ?_, ?_, ?_, ?_⟩
  · intro stored hsome
    rw [hstored] at hsome
    rw [(hnext stored hsome).1, hhub]
    exact Nat.lt_succ_self _
  · intro stored hsome
    rw [hstored] at hsome
    exact (hnext stored hsome).2
  · intro replica hmem
    rw [hspokes]
    exact good.marked replica (howned hmem)
  · intro replica live
    obtain ⟨stored, hsome, hrest⟩ := hrecorded replica live
    exact ⟨stored, by rw [hstored, hsome], hrest⟩

variable {next : ReplicationStatus}

theorem Working.statusWritten {stored : Replication} (working : Working nn uid rep inv before)
    (hkey : rep.key = nn) (tracks : Tracks uid next.inventory before)
    (answer : Answers nn before (.hub (.updateReplicationStatus { rep with status := next }))
      (Except.ok stored : ApiResult Replication) after) :
    Working nn uid stored next.inventory after ∧ stored.key = nn ∧
      stored.spec = rep.spec ∧ stored.status = next := by
  obtain ⟨hub, hwrite, hafter⟩ := answer.fleet
  simp only [Hub.Answers, WritesAs, Hub.acceptStatusUpdate,
    Option.map_eq_some_iff, Prod.mk.injEq] at hwrite
  obtain ⟨cur, hcur, hstored, hhub⟩ := hwrite
  obtain ⟨hbefore, rfl⟩ := working.held.eq_of_current hkey hcur
  obtain ⟨old, hold, hfin, _, hUID⟩ := working.persisted
  rw [hbefore, Option.some.injEq] at hold
  subst old
  have hsubset := answer.owned_subset fun _ h => h.elim
  -- What is live afterwards was live before or is recorded by this write.
  have hlive : ∀ replica, after.Live replica → cur.spec.sourceRef.uid = replica.2 ∧
        Recorded next.inventory replica.1 := by
    rintro replica ⟨hmem, hkept⟩
    by_cases hreleased : replica ∈ before.released
    · rw [answer.released] at hkept
      by_contra hnot
      refine hkept ⟨.inl hreleased, fun h => h, ?_⟩
      rintro ⟨other, hother, hsame, hrec⟩
      cases hother
      rw [← hstored] at hsame hrec
      exact hnot ⟨hsame, hrec⟩
    · have hold : before.Live replica := ⟨hsubset hmem, hreleased⟩
      obtain ⟨other, hother, hsame, _⟩ := working.good.recorded replica hold
      rw [hbefore, Option.some.injEq] at hother
      subst other
      refine ⟨hsame, tracks replica.1 ?_⟩
      rw [← hUID, hsame]
      exact hold
  have hstoredHub : after.fleet.hub = before.fleet.hub.setReplication nn (some stored) := by
    rw [hafter, ← hstored, ← hkey]
    exact hhub.symm
  have hreplications : after.fleet.hub.replications nn = some stored := by
    rw [hstoredHub]
    simp [Hub.setReplication]
  have hgood : after.Good nn := by
    refine working.good.store hstoredHub (by rw [hafter]) hsubset ?_ ?_
    · rintro other hother
      cases hother
      rw [← hstored]
      exact ⟨rfl, hkey, (working.good.identity cur hbefore).2⟩
    · intro replica live
      refine ⟨stored, rfl, ?_⟩
      rw [← hstored]
      exact ⟨(hlive replica live).1, hfin, (hlive replica live).2⟩
  refine ⟨⟨hgood, ⟨hgood.versions stored hreplications, ?_⟩, ?_, ?_⟩,
    by rw [← hstored]; exact hkey, by rw [← hstored], by rw [← hstored]⟩
  · intro other hother _
    rw [hreplications, Option.some.injEq] at hother
    exact hother.symm
  · exact ⟨stored, hreplications, by rw [← hstored]; exact hfin, rfl,
      by rw [← hstored]; exact hUID⟩
  · exact fun slot live => (hlive (slot, uid) live).2

def Written (nn : NamespacedName) (uid : String) (rep : Replication) (inv : List InventoryEntry)
    (result : ApiResult Replication) (ledger : Ledger) : Prop :=
  match result with
  | .ok stored => Working nn uid stored inv ledger ∧ stored.key = nn ∧
      stored.spec = rep.spec ∧ stored.status.inventory = inv
  | .error _ => ledger.Good nn

theorem written_stable (result : ApiResult Replication) :
    Stable (semantics nn) (Written nn uid rep inv result) := by
  cases result with
  | ok stored => exact fun h change => ⟨h.1.interfered change, h.2⟩
  | error err => exact good_stable

theorem statusUpdate_safe (hkey : rep.key = nn)
    (working : Working nn uid rep next.inventory ledger) :
    Safe (semantics nn) (inventoryGuard nn)
      (hub (.updateReplicationStatus { rep with status := next }))
      (Written nn uid rep next.inventory) ledger := by
  refine Safe.call_of_stable working_stable working (fun _ h => h.good) ?_
  intro current reply after hworking answer
  refine Safe.done_of_stable (written_stable reply) ?_
  cases reply with
  | ok stored =>
    obtain ⟨hnext, hstoredKey, hspec, hstatus⟩ :=
      hworking.statusWritten hkey hworking.tracks answer
    exact ⟨hnext, hstoredKey, hspec, by rw [hstatus]⟩
  | error err =>
    exact (interferes_of_statusError answer).good hworking.good

theorem persistPlanned_safe (hkey : rep.key = nn) (working : Working nn uid rep inv ledger) :
    Safe (semantics nn) (inventoryGuard nn) (persistPlanned rep inv)
      (Written nn uid rep inv) ledger := by
  unfold persistPlanned
  split_ifs with hsame
  · exact Safe.done_of_stable (written_stable (.ok rep)) ⟨working, hkey, rfl, hsame.symm⟩
  · exact statusUpdate_safe hkey working

theorem writeStatusIfChanged_safe (hkey : rep.key = nn) (status : ReplicationStatus)
    (working : Working nn uid rep next.inventory ledger) :
    Safe (semantics nn) (inventoryGuard nn)
      (writeStatusIfChanged { rep with status := status } next) (fun _ => Good nn) ledger := by
  unfold writeStatusIfChanged
  split_ifs
  · exact Safe.done_of_stable good_stable working.good
  · refine (statusUpdate_safe hkey working).weaken ?_
    intro result last hwritten
    cases result with
    | ok stored => exact hwritten.1.good
    | error err => exact hwritten

/-! ## Releasing entries of clusters that are gone -/

/-- The release is noted before the entry leaves the local inventory. -/
theorem Working.released {entry : InventoryEntry} {reply : Unit}
    (working : Working nn uid rep inv before)
    (answer : Answers nn before (.emit (.event (.clusterGone entry))) reply after) :
    Working nn uid rep (removeEntry inv (keyForEntry entry)) after := by
  have hfleet : after.fleet = before.fleet := answer.fleet
  have hsubset := answer.owned_subset fun _ h => h.elim
  obtain ⟨cur, hcur, hfin, hinv, hUID⟩ := working.persisted
  have hlive : ∀ replica, after.Live replica → before.Live replica ∧
      (replica.2 = uid → replica.1 ≠ keyForEntry entry) := by
    rintro replica ⟨hmem, hkept⟩
    rw [answer.released] at hkept
    refine ⟨⟨hsubset hmem, fun h => hkept ⟨.inl h, fun h => h, fun h => h⟩⟩, ?_⟩
    intro howner hslot
    exact hkept ⟨.inr ⟨hslot, cur, hcur, hUID.trans howner.symm⟩, fun h => h, fun h => h⟩
  refine ⟨⟨?_, ?_, ?_, ?_, ?_⟩, ?_, ?_, ?_⟩
  · rw [hfleet]
    exact working.good.placed
  · rw [hfleet]
    exact working.good.versions
  · rw [hfleet]
    exact working.good.identity
  · intro replica hmem
    rw [hfleet]
    exact working.good.marked replica (hsubset hmem)
  · intro replica live
    rw [hfleet]
    exact working.good.recorded replica (hlive replica live).1
  · rw [Held, hfleet]
    exact working.held
  · exact ⟨cur, by rw [hfleet]; exact hcur, hfin, hinv, hUID⟩
  · intro slot live
    rw [recorded_removeEntry_iff]
    exact ⟨working.tracks slot (hlive _ live).1, (hlive _ live).2 rfl⟩

theorem releaseEntries_safe (entries : List InventoryEntry)
    (working : Working nn uid rep inv ledger) :
    Safe (semantics nn) (inventoryGuard nn) (releaseEntries entries inv)
      (fun inv => Working nn uid rep inv) ledger := by
  induction entries generalizing inv ledger with
  | nil => exact Safe.done_of_stable working_stable working
  | cons entry rest ih =>
    unfold releaseEntries
    rw [Program.perform_bind]
    refine Safe.call_of_stable working_stable working (fun _ h => h.good) ?_
    intro current reply after hworking answer
    exact ih (hworking.released answer)

/-! ## Garbage collection -/

theorem retryEntry_safe {gc : FanOut} (entry : InventoryEntry) (step : String) (err : ApiError)
    (working : Working nn uid rep gc.inv ledger) :
    Safe (semantics nn) (inventoryGuard nn) (retryEntry nn gc entry step err)
      (fun gc => Working nn uid rep gc.inv) ledger := by
  refine safe_quiet_call trivial working_stable (fun _ h => h.good) working ?_
  intro delay current hworking
  exact Safe.done_of_stable working_stable hworking

section Collect

variable {gc : FanOut} {entry : InventoryEntry}

theorem dropEntry_safe
    (vacant : Working nn uid rep gc.inv ledger ∧ Vacant (keyForEntry entry, uid) ledger) :
    Safe (semantics nn) (inventoryGuard nn) (.done (dropEntry gc entry))
      (fun gc => Working nn uid rep gc.inv) ledger :=
  Safe.done_of_stable working_stable (vacant.1.remove vacant.2)

theorem cleanedEntry_safe
    (vacant : Working nn uid rep gc.inv ledger ∧ Vacant (keyForEntry entry, uid) ledger) :
    Safe (semantics nn) (inventoryGuard nn) (cleanedEntry nn gc entry)
      (fun gc => Working nn uid rep gc.inv) ledger := by
  refine safe_quiet_call trivial working_vacant_stable (fun _ h => h.1.good) vacant ?_
  intro _ current hcurrent
  refine safe_quiet_call (fun h => h) working_vacant_stable (fun _ h => h.1.good) hcurrent ?_
  intro _ later hlater
  exact dropEntry_safe hlater

theorem deleteEntry_safe {gvk : GroupVersionKind}
    (hslot : slotOf entry.clusterName gvk ⟨entry.ns, entry.name⟩ = keyForEntry entry)
    (working : Working nn uid rep gc.inv ledger) :
    Safe (semantics nn) (inventoryGuard nn) (deleteEntry nn gc entry gvk)
      (fun gc => Working nn uid rep gc.inv) ledger := by
  unfold deleteEntry
  rw [Program.perform_bind]
  refine Safe.call_of_stable working_stable working (fun _ h => h.good) ?_
  intro current reply after hworking answer
  have hnext := hworking.interfered (harmless_transportDelete _ _ _ answer)
  obtain ⟨spokes, hspokes, hafter⟩ := answer.fleet
  rw [hslot] at hspokes
  cases reply with
  | ok _ =>
    refine cleanedEntry_safe ⟨hnext, hnext.good.vacant_of_absent ?_⟩
    rw [hafter, hspokes.2]
    simp [Spokes.erase]
  | error err =>
    dsimp only
    split_ifs with hfound
    · refine cleanedEntry_safe ⟨hnext, hnext.good.vacant_of_absent ?_⟩
      simp only [Spokes.AnswersDelete, if_pos hfound] at hspokes
      rw [hafter, hspokes.1]
      exact hspokes.2
    · exact retryEntry_safe entry _ err hnext

/-- An entry is dropped only when its slot was seen without this source's
replica. -/
theorem collectEntry_safe (config : EngineConfig) (working : Working nn uid rep gc.inv ledger) :
    Safe (semantics nn) (inventoryGuard nn) (collectEntry config nn uid gc entry)
      (fun gc => Working nn uid rep gc.inv) ledger := by
  unfold collectEntry
  cases hgvk : gvkForEntry config entry with
  | none => exact Safe.done_of_stable working_stable working
  | some gvk =>
    have hslot := slotOf_gvkForEntry hgvk
    dsimp only
    rw [Program.perform_bind]
    refine Safe.call_of_stable working_stable working (fun _ h => h.good) ?_
    intro current reply after hworking answer
    have hnext := hworking.interfered (transportGet_interferes answer)
    obtain ⟨hread, hfleet⟩ := answer.fleet
    rw [hslot, ← hfleet] at hread
    cases reply with
    | error err =>
      dsimp only
      split_ifs with hfound
      · simp only [Spokes.AnswersGet, if_pos hfound] at hread
        have hvacant : Vacant (keyForEntry entry, uid) after :=
          hnext.good.vacant_of_absent hread.2
        refine safe_quiet_call trivial working_vacant_stable
          (fun _ h => h.1.good) ⟨hnext, hvacant⟩ ?_
        intro _ later hlater
        exact dropEntry_safe hlater
      · exact retryEntry_safe entry _ err hnext
    | ok existing =>
      dsimp only
      cases hclass : classifyReplicaOwnership existing.labels uid with
      | foreign =>
        have hvacant : Vacant (keyForEntry entry, uid) after :=
          hnext.good.vacant_of_label hread.2
            ((classifyReplicaOwnership_foreign_iff _ hnext.uid_ne).mp hclass)
        refine Safe.seq (emitAll_safe (by simp [EngineSignal.IsRelease]) working_vacant_stable
          (fun _ h => h.1.good) ⟨hnext, hvacant⟩) ?_
        intro _ later hlater
        exact dropEntry_safe hlater
      | stripped =>
        refine Safe.seq (emitAll_safe (by simp [EngineSignal.IsRelease]) working_stable
          (fun _ h => h.good) hnext) ?_
        intro _ later hlater
        exact deleteEntry_safe hslot hlater
      | managed => exact deleteEntry_safe hslot hnext

end Collect

theorem collectGarbage_safe (config : EngineConfig) (keep : List SlotKey)
    (working : Working nn uid rep inv ledger) :
    Safe (semantics nn) (inventoryGuard nn) (collectGarbage config nn uid keep inv)
      (fun gc => Working nn uid rep gc.inv) ledger := by
  unfold collectGarbage
  refine Safe.seq (safe_of_quiet (planGC_allCalls keep inv fun _ => trivial) working_stable
    (fun _ h => h.good) working) ?_
  intro plan current hplanned
  refine Safe.seq (releaseEntries_safe plan.release hplanned) ?_
  intro released later hreleased
  refine Safe.foldlM (fun _ => working_stable) ?_ hreleased
  intro entry _ gc current hworking
  exact collectEntry_safe config hworking

/-! ## Finishing -/

theorem finishSimple_safe (hkey : rep.key = nn) (reason message : String) (requeueAfter : Nat)
    (working : Working nn uid rep rep.status.inventory ledger) :
    Safe (semantics nn) (inventoryGuard nn) (finishSimple rep reason message requeueAfter)
      (fun _ => Good nn) ledger := by
  refine safe_quiet_call trivial working_stable (fun _ h => h.good) working ?_
  intro now current hworking
  refine Safe.seq (writeStatusIfChanged_safe hkey rep.status hworking) ?_
  intro result later hgood
  cases result with
  | ok stored => exact Safe.done_of_stable good_stable hgood
  | error err => exact Safe.done_of_stable good_stable hgood

theorem finishFanOut_safe (config : EngineConfig) (hkey : rep.key = nn)
    (status : ReplicationStatus) (srcHash : String) (states : List TargetState)
    (delays : List Nat) (revokedRetained : Bool) (working : Working nn uid rep inv ledger) :
    Safe (semantics nn) (inventoryGuard nn)
      (finishFanOut config nn { rep with status := status } srcHash states delays inv
        revokedRetained)
      (fun _ => Good nn) ledger := by
  unfold finishFanOut
  refine Safe.seq (emitAll_safe (by simp [EngineSignal.IsRelease])
    working_stable (fun _ h => h.good) working) ?_
  intro _ current hworking
  refine safe_quiet_call trivial working_stable (fun _ h => h.good) hworking ?_
  intro now later hlater
  refine Safe.seq (writeStatusIfChanged_safe hkey status hlater) ?_
  intro result last hgood
  cases result with
  | error err => exact Safe.done_of_stable good_stable hgood
  | ok stored =>
    refine Safe.seq (emitAll_safe (fun _ hmem => (transitionEvents_minor _ _ _ hmem).1)
      good_stable (fun _ h => h) hgood) ?_
    intro _ final hgood
    exact Safe.done_of_stable good_stable hgood

/-! ## The reconcile -/

variable {gvk : GroupVersionKind}

theorem converge_safe (config : EngineConfig) {src : Unstructured} (hkey : rep.key = nn)
    (hUID : rep.spec.sourceRef.uid = uid) (hsource : src.uid = uid)
    (hkind : src.groupVersionKind = gvk) (policies : List ReplicationPolicy)
    (slots : List (SlotInfo × Decision)) (outcome : RevocationOutcome)
    (working : Working nn uid rep rep.status.inventory ledger) :
    Safe (semantics nn) (inventoryGuard nn) (converge config nn rep src gvk policies slots outcome)
      (fun _ => Good nn) ledger := by
  have hplanned : Working nn uid rep (planInventory gvk slots rep.status.inventory) ledger :=
    working.withTracks (working.tracks.of_recorded fun key hrec =>
      (recorded_planInventory_iff _ _ _ key).mpr (.inl hrec))
  unfold converge
  dsimp only
  refine Safe.seq (persistPlanned_safe hkey hplanned) ?_
  intro result current hwritten
  cases result with
  | error err => exact Safe.done_of_stable good_stable hwritten
  | ok stored =>
    obtain ⟨hworking, hstoredKey, hspec, hinv⟩ := hwritten
    -- Every slot about to be written is in the persisted inventory.
    have hrec : ∀ slot ∈ slots, slot.2.allowed = true →
        Recorded stored.status.inventory (slot.1.key gvk) := by
      intro slot hmem hallowed
      rw [hinv, recorded_planInventory_iff]
      exact .inr ⟨slot, hmem, hallowed, rfl⟩
    refine Safe.seq (fanOut_safe config hsource hkind policies outcome hrec hworking) ?_
    intro fan middle hfan
    have hstoredUID : stored.spec.sourceRef.uid = uid := by rw [hspec, hUID]
    rw [hstoredUID]
    refine Safe.seq (collectGarbage_safe config _ hfan) ?_
    intro gc last hgc
    exact finishFanOut_safe config hstoredKey _ _ _ _ _ hgc

theorem reconcileSource_safe (config : EngineConfig) {src : Unstructured} (hkey : rep.key = nn)
    (hUID : rep.spec.sourceRef.uid = uid) (hsource : src.uid = uid)
    (hkind : src.groupVersionKind = gvk)
    (working : Working nn uid rep rep.status.inventory ledger) :
    Safe (semantics nn) (inventoryGuard nn)
      (reconcileSource config nn rep gvk src) (fun _ => Good nn) ledger := by
  have good : ∀ ledger, Working nn uid rep rep.status.inventory ledger →
      ledger.Good nn := fun _ h => h.good
  unfold reconcileSource
  refine safe_quiet_call trivial working_stable good working ?_
  intro listed current hcurrent
  cases listed with
  | error err => exact Safe.done_of_stable good_stable hcurrent.good
  | ok policies =>
    refine Safe.seq (safe_of_quiet (namespaceLabels_allCalls trivial) working_stable good
      hcurrent) ?_
    intro labels current hcurrent
    refine Safe.seq (safe_of_quiet (flattenTargets_allCalls _ _ fun _ => trivial)
      working_stable good hcurrent) ?_
    intro targets current hcurrent
    refine safe_quiet_call trivial working_stable good hcurrent ?_
    intro prev current hcurrent
    refine safe_quiet_call trivial working_stable good hcurrent ?_
    intro _ current hcurrent
    refine Safe.seq (emitAll_safe (fun _ hmem => (applyRevocations_minor _ _ _ _ _ hmem).1)
      working_stable good hcurrent) ?_
    intro _ current hcurrent
    exact converge_safe config hkey hUID hsource hkind _ _ _ hcurrent

theorem reconcileLive_safe (config : EngineConfig) (hkey : rep.key = nn)
    (working : Working nn rep.spec.sourceRef.uid rep rep.status.inventory ledger) :
    Safe (semantics nn) (inventoryGuard nn) (reconcileLive config nn rep)
      (fun _ => Good nn) ledger := by
  unfold reconcileLive
  dsimp only
  cases config.kindGVKs.lookup rep.spec.sourceRef.kind with
  | none => exact finishSimple_safe hkey _ _ _ working
  | some gvk =>
    dsimp only
    rw [hub_bind]
    refine Safe.call_of_stable working_stable working (fun _ h => h.good) ?_
    intro current reply after hworking answer
    have hquiet : (EngineCall.hub (.getSource gvk ⟨rep.spec.sourceRef.ns, rep.spec.sourceRef.name⟩)
        ).IsQuiet := trivial
    have hnext := hworking.interfered (harmless_of_isQuiet hquiet answer)
    obtain ⟨hub, ⟨hread, _⟩, _⟩ := answer.fleet
    cases reply with
    | error err =>
      dsimp only
      split_ifs
      · exact finishSimple_safe hkey _ _ _ hnext
      · exact Safe.done_of_stable good_stable hnext.good
    | ok src =>
      obtain ⟨stored, _, hsrc⟩ := Option.map_eq_some_iff.mp hread
      dsimp only
      split_ifs with hUID
      · exact finishSimple_safe hkey _ _ _ hnext
      · exact reconcileSource_safe config hkey rfl (not_not.mp hUID) (by rw [← hsrc]; rfl) hnext

/-! ## The finalizer -/

/-- While nothing is live, the finalizers of the Replication may change. -/
theorem Good.finalizersWritten {finalizers : List String} {status : ReplicationStatus}
    {stored : Replication} (good : before.Good nn) (held : Held nn rep before)
    (hkey : rep.key = nn)
    (hnone : before.fleet.hub.replications nn = some rep → ∀ replica, ¬ before.Live replica)
    (answer : Answers nn before (.hub (.updateReplication
        { rep with status := status, finalizers := finalizers }))
      (Except.ok stored : ApiResult Replication) after) :
    after.Good nn ∧ (∀ replica, ¬ after.Live replica) ∧
      after.fleet.hub.replications nn = Hub.keepUnlessReleased stored ∧
      stored = { rep with
        resourceVersion := before.fleet.hub.nextVersion
        finalizers := finalizers } := by
  obtain ⟨hub, hwrite, hafter⟩ := answer.fleet
  simp only [Hub.Answers, WritesAs, Hub.acceptUpdate,
    Option.map_eq_some_iff, Prod.mk.injEq] at hwrite
  obtain ⟨cur, hcur, hstored, hhub⟩ := hwrite
  obtain ⟨hbefore, rfl⟩ := held.eq_of_current hkey hcur
  simp only [if_true] at hstored hhub
  have hsubset := answer.owned_subset fun _ h => h.elim
  have hreleased := answer.released_same (fun _ h => h.elim) (fun _ h => h.elim) (fun _ h => h.elim)
  have hdead : ∀ replica, ¬ after.Live replica := by
    rintro replica ⟨hmem, hkept⟩
    refine hnone hbefore replica ⟨hsubset hmem, ?_⟩
    rwa [← hreleased]
  have hstoredHub : after.fleet.hub = before.fleet.hub.setReplication nn
      (Hub.keepUnlessReleased stored) := by
    rw [hafter, ← hhub, ← hstored, ← hkey]
    rfl
  refine ⟨good.store hstoredHub (by rw [hafter]) hsubset ?_
      fun replica live => (hdead replica live).elim,
    hdead, by rw [hstoredHub]; simp [Hub.setReplication], hstored.symm⟩
  intro other hother
  unfold Hub.keepUnlessReleased at hother
  split_ifs at hother
  cases hother
  rw [← hstored]
  exact ⟨rfl, hkey, (good.identity cur hbefore).2⟩

structure Seen (nn : NamespacedName) (rep : Replication) (ledger : Ledger) :
    Prop where
  good : ledger.Good nn
  held : Held nn rep ledger
  key : rep.key = nn
  working : finalizerName ∈ rep.finalizers →
    Working nn rep.spec.sourceRef.uid rep rep.status.inventory ledger

theorem Seen.of_read (good : ledger.Good nn) (hread : ledger.fleet.hub.replications nn = some rep) :
    Seen nn rep ledger := by
  have held : Held nn rep ledger := by
    refine ⟨good.versions rep hread, ?_⟩
    intro cur hcur _
    rw [hread, Option.some.injEq] at hcur
    exact hcur.symm
  refine ⟨good, held, (good.identity rep hread).1, ?_⟩
  intro hfin
  refine ⟨good, held, ⟨rep, hread, hfin, rfl, rfl⟩, ?_⟩
  intro slot live
  obtain ⟨cur, hcur, _, _, hrec⟩ := good.recorded _ live
  rw [hread, Option.some.injEq] at hcur
  rwa [hcur]

theorem seen_stable : Stable (semantics nn) (Seen nn rep) :=
  fun seen change =>
    ⟨change.good seen.good, seen.held.interfered change, seen.key,
      fun hfin => (seen.working hfin).interfered change⟩

theorem ensureFinalizer_safe (seen : Seen nn rep ledger) :
    Safe (semantics nn) (inventoryGuard nn) (ensureFinalizer rep)
      (fun result current => match result with
        | .ok stored => stored.key = nn ∧
            Working nn stored.spec.sourceRef.uid stored stored.status.inventory current
        | .error _ => current.Good nn) ledger := by
  unfold ensureFinalizer
  by_cases hfin : finalizerName ∈ rep.finalizers
  · rw [if_pos (by simpa using hfin)]
    exact Safe.done fun current change =>
      ⟨seen.key, (seen.working hfin).interfered change⟩
  · rw [if_neg (by simpa using hfin)]
    refine Safe.call_of_stable seen_stable seen (fun _ h => h.good) ?_
    intro current reply after hseen answer
    cases reply with
    | error err =>
      exact Safe.done fun later change => change.good
        ((interferes_of_updateError answer).good hseen.good)
    | ok stored =>
      obtain ⟨hgood, hdead, hstored, heq⟩ :=
        hseen.good.finalizersWritten hseen.held hseen.key (fun hread replica live => by
            obtain ⟨cur, hcur, _, hcurFin, _⟩ :=
              hseen.good.recorded replica live
            rw [hread, Option.some.injEq] at hcur
            exact hfin (hcur ▸ hcurFin)) answer
      have hmem : finalizerName ∈ stored.finalizers := by
        rw [heq]
        simp
      have hkept : Hub.keepUnlessReleased stored = some stored := by
        unfold Hub.keepUnlessReleased
        rw [if_neg]
        simp [List.ne_nil_of_mem hmem]
      rw [hkept] at hstored
      have hnext := Seen.of_read hgood hstored
      exact Safe.done fun later change =>
        ⟨hnext.key, (hnext.working hmem).interfered change⟩

theorem reconcileDeletion_safe (config : EngineConfig) (seen : Seen nn rep ledger) :
    Safe (semantics nn) (inventoryGuard nn) (reconcileDeletion config nn rep)
      (fun _ => Good nn) ledger := by
  unfold reconcileDeletion
  by_cases hfin : finalizerName ∈ rep.finalizers
  · rw [if_neg (by simpa using hfin)]
    refine Safe.seq (collectGarbage_safe config [] (seen.working hfin)) ?_
    intro gc current hworking
    unfold finishDeletion
    split_ifs with hempty
    · rw [hub_bind]
      refine Safe.call_of_stable working_stable hworking (fun _ h => h.good) ?_
      intro world reply after hworld answer
      cases reply with
      | error err =>
        exact Safe.done_of_stable good_stable ((interferes_of_updateError answer).good hworld.good)
      | ok stored =>
        -- The local inventory tracks every live replica and is empty.
        have hnone : ∀ replica, ¬ world.Live replica := by
          rintro replica live
          obtain ⟨cur, hcur, hUID, _⟩ := hworld.good.recorded replica live
          obtain ⟨old, hold, _, _, hsame⟩ := hworld.persisted
          rw [hcur, Option.some.injEq] at hold
          subst old
          have hlive : world.Live (replica.1, rep.spec.sourceRef.uid) := by
            rw [← hsame, hUID]
            exact live
          have hrec := hworld.tracks replica.1 hlive
          rw [List.isEmpty_iff.mp hempty] at hrec
          exact not_recorded_nil _ hrec
        obtain ⟨hgood, _⟩ := hworld.good.finalizersWritten hworld.held
          seen.key (fun _ => hnone) answer
        refine safe_of_quiet ?_ good_stable (fun _ h => h) hgood
        exact ⟨trivial, fun _ => ⟨trivial, fun _ => ⟨fun h => h,
          fun _ => ⟨trivial, fun _ => trivial⟩⟩⟩⟩
    · refine safe_quiet_call trivial working_stable (fun _ h => h.good) hworking ?_
      intro now later hlater
      refine Safe.seq (writeStatusIfChanged_safe seen.key rep.status hlater) ?_
      intro result last hgood
      cases result with
      | ok stored => exact Safe.done_of_stable good_stable hgood
      | error err => exact Safe.done_of_stable good_stable hgood
  · rw [if_pos (by simpa using hfin)]
    exact Safe.done_of_stable good_stable seen.good

/-- One reconcile, started in any good ledger, keeps it good at every call. -/
theorem reconcile_safe (config : EngineConfig) (good : ledger.Good nn) :
    Safe (semantics nn) (inventoryGuard nn) (reconcile config nn) (fun _ => Good nn) ledger := by
  unfold reconcile
  rw [hub_bind]
  refine Safe.call_of_stable good_stable good (fun _ h => h) ?_
  intro current reply after hgood answer
  have hquiet : (EngineCall.hub (.getReplication nn)).IsQuiet := trivial
  have hnext := (harmless_of_isQuiet hquiet answer).good hgood
  obtain ⟨hub, ⟨hread, hhub⟩, hafter⟩ := answer.fleet
  cases reply with
  | error err =>
    dsimp only
    split_ifs
    · refine safe_of_quiet ?_ good_stable (fun _ h => h) hnext
      exact ⟨trivial, fun _ => ⟨fun h => h, fun _ => trivial⟩⟩
    · exact Safe.done_of_stable good_stable hnext
  | ok rep =>
    have hseen : Seen nn rep after := by
      refine Seen.of_read hnext ?_
      rw [hafter, hhub]
      exact hread
    dsimp only
    split_ifs
    · exact reconcileDeletion_safe config hseen
    · exact Safe.done_of_stable good_stable hseen.good
    · refine Safe.seq (ensureFinalizer_safe hseen) ?_
      intro result later hresult
      cases result with
      | error err => exact Safe.done_of_stable good_stable hresult
      | ok stored =>
        exact reconcileLive_safe config hresult.1 hresult.2

end Ledger

end K8sR8r
