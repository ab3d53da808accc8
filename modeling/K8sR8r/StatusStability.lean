import K8sR8r.EngineReconciler
import K8sR8r.FleetSimulation
import K8sR8r.StatusSummary

/-!
# Building the same status again

A status that is rebuilt from the same states should come out unchanged, so
that it need not be written again.  Counters and conditions do.  Transition
times are looked up by cluster, namespace and name alone: two reported states
of one slot with different reasons keep overwriting each other's time.
-/

namespace K8sR8r

/-! ## Conditions -/

def HasCondition (conditions : List Condition) (fresh : Condition) : Prop :=
  ∃ time, findStatusCondition conditions fresh.type = some { fresh with lastTransitionTime := time }

theorem updateStatusCondition_of_has {conditions : List Condition} {fresh : Condition}
    (hhas : HasCondition conditions fresh) (now : Nat) :
    updateStatusCondition now fresh conditions = conditions := by
  obtain ⟨time, hfind⟩ := hhas
  induction conditions with
  | nil => rfl
  | cons head rest ih =>
    rw [updateStatusCondition]
    by_cases htype : head.type = fresh.type
    · rw [if_pos htype]
      simp only [findStatusCondition, List.find?_cons, htype, decide_true,
        Option.some.injEq] at hfind
      subst hfind
      simp
    · rw [if_neg htype]
      simp only [findStatusCondition, List.find?_cons, htype, decide_false] at hfind
      rw [ih hfind]

theorem setStatusCondition_of_has {conditions : List Condition} {fresh : Condition}
    (hhas : HasCondition conditions fresh) (now : Nat) :
    setStatusCondition now conditions fresh = conditions := by
  have hupdate := updateStatusCondition_of_has hhas now
  obtain ⟨time, hfind⟩ := hhas
  unfold setStatusCondition
  rw [hfind]
  exact hupdate

theorem removeStatusCondition_idem (conditions : List Condition) (type : String) :
    removeStatusCondition (removeStatusCondition conditions type) type =
      removeStatusCondition conditions type := by
  simp [removeStatusCondition, List.filter_filter]

/-- The conditions of a status: one that is always set, and one that is set or
removed. -/
def settleConditions (now : Nat) (conditions : List Condition) (ready revoked : Condition)
    (retained : Bool) : List Condition :=
  if retained then
    setStatusCondition now (setStatusCondition now conditions ready) revoked
  else
    removeStatusCondition (setStatusCondition now conditions ready) revoked.type

theorem settleConditions_again (first second : Nat) (conditions : List Condition)
    {ready revoked : Condition} (hne : ready.type ≠ revoked.type) (retained : Bool) :
    settleConditions second (settleConditions first conditions ready revoked retained) ready
          revoked retained =
      settleConditions first conditions ready revoked retained := by
  obtain ⟨time, hready⟩ := findStatusCondition_set first conditions ready
  cases retained with
  | true =>
    have hhas : HasCondition (setStatusCondition first
        (setStatusCondition first conditions ready) revoked) ready :=
      ⟨time, by rw [findStatusCondition_set_of_ne first _ _ hne, hready]⟩
    simp only [settleConditions, if_true]
    rw [setStatusCondition_of_has hhas,
      setStatusCondition_of_has (findStatusCondition_set first _ revoked)]
  | false =>
    have hhas : HasCondition (removeStatusCondition
        (setStatusCondition first conditions ready) revoked.type) ready :=
      ⟨time, by rw [findStatusCondition_remove_of_ne _ hne, hready]⟩
    simp only [settleConditions, Bool.false_eq_true, if_false]
    rw [setStatusCondition_of_has hhas, removeStatusCondition_idem]

theorem readyCondition_congr {rep other : Replication}
    (hgeneration : other.generation = rep.generation)
    (hdeletion : other.deletionTimestamp = rep.deletionTimestamp) (states : List TargetState)
    (prev prev' : ReplicationStatus) (now now' : Nat) :
    readyCondition other states (tallyStates prev' now' states) =
      readyCondition rep states (tallyStates prev now states) := by
  rw [tallyStates_eq, tallyStates_eq]
  unfold readyCondition
  dsimp only
  rw [hgeneration, hdeletion]

section Again

variable (rep : Replication) (sourceHash : String)
  (states : List TargetState) (inventory : List InventoryEntry)
  (retained : Bool) (first second : Nat)

def Replication.withStatus (rep : Replication) (status : ReplicationStatus) : Replication :=
  { rep with status := status }

theorem buildStatus_conditions_again :
    (buildStatus (rep.withStatus (buildStatus rep sourceHash states inventory
        retained first)) sourceHash states inventory retained second).conditions =
      (buildStatus rep sourceHash states inventory retained first).conditions := by
  have hne : (readyCondition rep states (tallyStates rep.status first states)).type ≠
        (policyRevokedCondition rep).type := by
    rw [readyCondition_type]
    exact (by decide : replicationConditionReady ≠ conditionPolicyRevoked)
  calc
    _ = settleConditions second (buildStatus rep sourceHash states inventory retained
            first).conditions
          (readyCondition (rep.withStatus _) states
            (tallyStates (buildStatus rep sourceHash states inventory retained
              first) second states))
          (policyRevokedCondition rep) retained := rfl
    _ = settleConditions second (settleConditions first rep.status.conditions
            (readyCondition rep states (tallyStates rep.status first states))
            (policyRevokedCondition rep) retained)
          (readyCondition rep states (tallyStates rep.status first states))
          (policyRevokedCondition rep) retained := by
        rw [readyCondition_congr rfl rfl states rep.status _ first second]
        rfl
    _ = _ := settleConditions_again first second _ hne retained

/-! ## Transition times -/

/-- What the status is keyed by when a transition time is carried over. -/
def TargetState.place (state : TargetState) : String × String × String :=
  (state.cluster, state.ns, state.name)

/-- Reported states of one place have one reason. -/
def ReasonsAgree (states : List TargetState) : Prop :=
  ∀ state ∈ reportedStates states, ∀ other ∈ reportedStates states,
    state.place = other.place → state.reason = other.reason

variable {state : TargetState}

theorem previousNonReady_congr {other : TargetState} (hplace : state.place = other.place)
    (prev : ReplicationStatus) :
    previousNonReady prev state = previousNonReady prev other := by
  obtain ⟨hcluster, hns, hname⟩ : state.cluster = other.cluster ∧ state.ns = other.ns ∧
        state.name = other.name := by
    simpa [TargetState.place] using hplace
  unfold previousNonReady
  rw [hcluster, hns, hname]

def transitionTime (prev : ReplicationStatus) (now : Nat) (state : TargetState) : Nat :=
  (nonReadyEntry prev now state).lastTransitionTime

theorem nonReadyEntry_eq_iff {prev prev' : ReplicationStatus} {now now' : Nat} :
    nonReadyEntry prev now state = nonReadyEntry prev' now' state ↔
      transitionTime prev now state = transitionTime prev' now' state := by
  simp [nonReadyEntry, transitionTime]

theorem transitionTime_congr {other : TargetState} (hplace : state.place = other.place)
    (hreason : state.reason = other.reason) (prev : ReplicationStatus) (now : Nat) :
    transitionTime prev now state = transitionTime prev now other := by
  simp only [transitionTime, nonReadyEntry, previousNonReady_congr hplace prev, hreason]

/-- In a rebuilt status the previous entry of a reported state is the one of
the last reported state of its place. -/
theorem previousNonReady_again (hmem : state ∈ reportedStates states) :
    ∃ last ∈ reportedStates states, last.place = state.place ∧
      previousNonReady (buildStatus rep sourceHash states inventory retained first) state =
        (last.reason, transitionTime rep.status first last) := by
  have hplace : ∀ target, ((nonReadyEntry rep.status first target).clusterName = state.cluster &&
        (nonReadyEntry rep.status first target).ns = state.ns &&
        (nonReadyEntry rep.status first target).name = state.name) = true ↔
      target.place = state.place := by
    intro target
    rw [Bool.and_eq_true, Bool.and_eq_true, decide_eq_true_iff,
      decide_eq_true_iff, decide_eq_true_iff, and_assoc]
    simp [nonReadyEntry, TargetState.place]
  unfold previousNonReady
  rw [buildStatus_nonReadyTargets, ← List.map_reverse, List.find?_map]
  cases hfound : (reportedStates states).reverse.find? ((fun target : NonReadyTarget =>
        decide (target.clusterName = state.cluster) && decide (target.ns = state.ns) &&
          decide (target.name = state.name)) ∘ nonReadyEntry rep.status first) with
  | none =>
    have habsent := List.find?_eq_none.mp hfound state (List.mem_reverse.mpr hmem)
    exact absurd ((hplace state).mpr rfl) habsent
  | some last =>
    have hlast := List.find?_some hfound
    exact ⟨last, List.mem_reverse.mp (List.mem_of_find?_eq_some hfound),
      (hplace last).mp hlast, rfl⟩

theorem buildStatus_again_eq_iff :
    buildStatus (rep.withStatus (buildStatus rep sourceHash states inventory retained first))
      sourceHash states inventory retained second =
      buildStatus rep sourceHash states inventory retained first ↔
      ∀ state ∈ reportedStates states,
        transitionTime (buildStatus rep sourceHash states inventory retained first) second
          state =
          transitionTime rep.status first state := by
  have hentries := buildStatus_nonReadyTargets
    (rep.withStatus (buildStatus rep sourceHash states inventory retained
      first)) sourceHash states inventory retained second
  constructor
  · intro hsame state hmem
    have htargets := congrArg ReplicationStatus.nonReadyTargets hsame
    rw [hentries, buildStatus_nonReadyTargets] at htargets
    exact nonReadyEntry_eq_iff.mp (List.map_inj_left.mp htargets state hmem)
  · intro htimes
    apply ReplicationStatus.ext
    · rw [buildStatus_summary, buildStatus_summary]
    · rfl
    · exact buildStatus_conditions_again rep sourceHash states inventory retained first second
    · rw [hentries, buildStatus_nonReadyTargets]
      exact List.map_inj_left.mpr fun state hmem =>
        nonReadyEntry_eq_iff.mpr (htimes state hmem)
    · rw [buildStatus_nonReadyOverflow, buildStatus_nonReadyOverflow]
    · rfl

/-- States that agree on the reason of every place give a status that can be
rebuilt at any time. -/
theorem buildStatus_again_of_agree (hagree : ReasonsAgree states) :
    buildStatus (rep.withStatus (buildStatus rep sourceHash states inventory
        retained first)) sourceHash states inventory retained second =
      buildStatus rep sourceHash states inventory retained first := by
  rw [buildStatus_again_eq_iff]
  intro state hmem
  obtain ⟨last, hlast, hplace, hprevious⟩ := previousNonReady_again rep
    sourceHash states inventory retained first hmem
  have hreason := hagree last hlast state hmem hplace
  calc
    transitionTime (buildStatus rep sourceHash states inventory retained first) second state =
        transitionTime rep.status first last := by
      conv_lhs => unfold transitionTime nonReadyEntry
      rw [hprevious]
      exact if_pos hreason
    _ = transitionTime rep.status first state :=
      transitionTime_congr hplace hreason rep.status first

/-- Rebuilding a status later gives it back exactly when the reported states of
every place agree on their reason. -/
theorem rebuilt_status_unchanged_iff :
    (∀ later,
      first ≤ later →
      buildStatus (rep.withStatus (buildStatus rep sourceHash states inventory retained first))
        sourceHash states inventory retained later =
        buildStatus rep sourceHash states inventory retained first) ↔
      ReasonsAgree states := by
  constructor
  · simp only [buildStatus_again_eq_iff]
    intro hstable state hstate other hother hplace
    obtain ⟨last, _, _, hprevious⟩ := previousNonReady_again rep sourceHash
      states inventory retained first hstate
    -- A state whose reason is not that of the last one would be stamped with
    -- the new time, which can be chosen later than its old one.
    have hreason : ∀ target ∈ reportedStates states,
        target.place = state.place → last.reason = target.reason := by
      intro target htarget hsame
      by_contra hne
      have htime := hstable (max first (transitionTime rep.status first target + 1))
        (le_max_left _ _) target htarget
      have hstamped : transitionTime (buildStatus rep sourceHash states inventory retained first)
            (max first (transitionTime rep.status first target + 1)) target =
          max first (transitionTime rep.status first target + 1) := by
        unfold transitionTime nonReadyEntry
        rw [previousNonReady_congr hsame, hprevious]
        exact if_neg hne
      omega
    rw [← hreason state hstate rfl, ← hreason other hother hplace.symm]
  · intro hagree later _
    exact buildStatus_again_of_agree rep sourceHash states inventory retained first later hagree

end Again

namespace Sample

def staleEntry : InventoryEntry :=
  ⟨"east", "app", "settings", "", "ConfigMap", "h1"⟩

def deniedSlot : SlotInfo := ⟨"east", "app", "settings"⟩

/-- What a reconcile reports when no policy is left and the cluster of the only
replica cannot be reached: the denied slot, and the entry that waits for its
deletion. -/
def deniedAndPending : List TargetState :=
  [(deniedState deniedSlot (decideTarget ⟨"ConfigMap", "team", ∅⟩ ⟨"east", ∅, "app"⟩ [])
      ⟨[], [], false, []⟩ [staleEntry] configMapGVK).1,
    entryState staleEntry reasonClusterUnreachable "checking replica before delete: unreachable"]

end Sample

/-- The denied slot is stamped with the new time, because the entry reported
after it has another reason. -/
theorem denied_slot_restamped :
    buildStatus
      (Sample.replication.withStatus
        (buildStatus Sample.replication "h1" Sample.deniedAndPending [Sample.staleEntry] false
          100))
      "h1" Sample.deniedAndPending [Sample.staleEntry] false 160 ≠
      buildStatus Sample.replication "h1" Sample.deniedAndPending [Sample.staleEntry] false
        100 := by
  decide +kernel

end K8sR8r
