import Mathlib.Data.List.Induction
import K8sR8r.EngineStatus

/-!
# The status summary

One pass over the target states counts them, details the first non-ready ones
and remembers the first reason.  `tallyStates_eq` says what the pass computes;
everything the status reports is read off from there.
-/

namespace K8sR8r

/-! ## The pass over the states -/

def nonReadyStates (states : List TargetState) : List TargetState :=
  states.filter fun state => !state.ready

/-- The states whose detail fits under the cap. -/
def reportedStates (states : List TargetState) : List TargetState :=
  (nonReadyStates states).take maxNonReadyTargets

def firstReason (states : List TargetState) : String :=
  (((nonReadyStates states).map TargetState.reason).find? fun reason => reason ≠ "").getD ""

theorem nonReadyStates_append_singleton (states : List TargetState) (state : TargetState) :
    nonReadyStates (states ++ [state]) =
      nonReadyStates states ++ if state.ready then [] else [state] := by
  unfold nonReadyStates
  rw [List.filter_append]
  cases hready : state.ready <;> simp [hready]

theorem firstReason_append_singleton (states : List TargetState) (state : TargetState)
    (hready : state.ready = false) :
    firstReason (states ++ [state]) =
      if firstReason states = "" then state.reason
      else firstReason states := by
  unfold firstReason
  rw [nonReadyStates_append_singleton, hready]
  simp only [Bool.false_eq_true, if_false, List.map_append, List.map_cons,
    List.map_nil, List.find?_append]
  cases hfound : ((nonReadyStates states).map TargetState.reason).find?
      fun reason => reason ≠ "" with
  | none =>
    by_cases hreason : state.reason = "" <;> simp [hreason]
  | some reason =>
    have hne : reason ≠ "" := by
      simpa using List.find?_some hfound
    simp [hne]

theorem tallyStates_eq (prev : ReplicationStatus) (now : Nat) (states : List TargetState) :
    tallyStates prev now states =
      { summary :=
          { desiredTargets := states.countP TargetState.desired
            readyTargets := states.countP TargetState.ready
            failedTargets := (nonReadyStates states).length }
        nonReadyTargets :=
          (reportedStates states).map (nonReadyEntry prev now)
        nonReadyOverflow :=
          (nonReadyStates states).length - maxNonReadyTargets
        firstReason := firstReason states } := by
  induction states using List.reverseRecOn with
  | nil => rfl
  | append_singleton states state ih =>
    have hstep : tallyStates prev now (states ++ [state]) =
        tallyState prev now (tallyStates prev now states) state := by
      unfold tallyStates
      rw [List.foldl_append]
      rfl
    rw [hstep, ih]
    unfold tallyState reportedStates
    dsimp only
    rw [nonReadyStates_append_singleton, List.countP_append, List.countP_append]
    cases hready : state.ready with
    | true =>
      have hfirst : firstReason (states ++ [state]) = firstReason states := by
        unfold firstReason
        rw [nonReadyStates_append_singleton, hready, if_pos rfl, List.append_nil]
      simp [hready, hfirst, List.countP_cons]
    | false =>
      rw [firstReason_append_singleton _ _ hready]
      by_cases hroom : (nonReadyStates states).length < maxNonReadyTargets
      · have hall : (nonReadyStates states).take maxNonReadyTargets = nonReadyStates states :=
          List.take_of_length_le (Nat.le_of_lt hroom)
        have hmore : (nonReadyStates states ++ [state]).take
            maxNonReadyTargets = nonReadyStates states ++ [state] :=
          List.take_of_length_le (by simpa using hroom)
        have hover : (nonReadyStates states).length + 1 - maxNonReadyTargets =
          (nonReadyStates states).length - maxNonReadyTargets := by
          omega
        simp [hready, hall, hmore, hroom, hover, List.countP_cons]
      · have hmore : (nonReadyStates states ++ [state]).take maxNonReadyTargets =
            (nonReadyStates states).take maxNonReadyTargets :=
          List.take_append_of_le_length (Nat.le_of_not_lt hroom)
        have hover : (nonReadyStates states).length + 1 - maxNonReadyTargets =
          (nonReadyStates states).length - maxNonReadyTargets + 1 := by
          omega
        simp [hready, hmore, hroom, hover, List.countP_cons]

section Build

variable (rep : Replication) (sourceHash : String)
  (states : List TargetState) (inventory : List InventoryEntry)
  (retained : Bool) (now : Nat)

theorem buildStatus_summary : (buildStatus rep sourceHash states inventory retained now).summary =
      { desiredTargets := states.countP TargetState.desired
        readyTargets := states.countP TargetState.ready
        failedTargets := (nonReadyStates states).length } := by
  unfold buildStatus
  rw [tallyStates_eq]

theorem buildStatus_nonReadyTargets : (buildStatus rep sourceHash states inventory retained
        now).nonReadyTargets =
      (reportedStates states).map (nonReadyEntry rep.status now) := by
  unfold buildStatus
  rw [tallyStates_eq]

theorem buildStatus_nonReadyOverflow : (buildStatus rep sourceHash states inventory retained
        now).nonReadyOverflow =
      (nonReadyStates states).length - maxNonReadyTargets := by
  unfold buildStatus
  rw [tallyStates_eq]

end Build

/-! ## The Ready condition -/

theorem findStatusCondition_remove_of_ne (conditions : List Condition) {type other : String}
    (hne : type ≠ other) :
    findStatusCondition (removeStatusCondition conditions other) type =
      findStatusCondition conditions type := by
  unfold findStatusCondition removeStatusCondition
  rw [List.find?_filter]
  congr 1
  funext condition
  by_cases htype : condition.type = type
  · simp [htype, hne]
  · simp [htype]

theorem find_policyRevoked {conditions : List Condition} {rep : Replication} {retained : Bool}
    {now : Nat} :
    findStatusCondition (if retained then
          setStatusCondition now conditions (policyRevokedCondition rep)
        else removeStatusCondition conditions conditionPolicyRevoked)
        replicationConditionReady =
      findStatusCondition conditions replicationConditionReady := by
  have hne : replicationConditionReady ≠ conditionPolicyRevoked := by decide
  split_ifs
  · exact findStatusCondition_set_of_ne now conditions _ hne
  · exact findStatusCondition_remove_of_ne conditions hne

theorem readyCondition_type (rep : Replication) (states : List TargetState) (tally : StatusTally) :
    (readyCondition rep states tally).type = replicationConditionReady := by
  unfold readyCondition
  dsimp only
  split_ifs
  · rfl
  · rfl
  · rfl

/-- The Ready condition of a built status is the one computed from its
states. -/
theorem find_ready_buildStatus (rep : Replication) (sourceHash : String)
    (states : List TargetState) (inventory : List InventoryEntry) (retained : Bool) (now : Nat) :
    ∃ time, findStatusCondition (buildStatus rep sourceHash states inventory
        retained now).conditions replicationConditionReady =
      some { readyCondition rep states (tallyStates rep.status now states) with
        lastTransitionTime := time } := by
  have hset := findStatusCondition_set now rep.status.conditions
    (readyCondition rep states (tallyStates rep.status now states))
  rw [readyCondition_type] at hset
  obtain ⟨time, htime⟩ := hset
  refine ⟨time, ?_⟩
  unfold buildStatus
  dsimp only
  rw [find_policyRevoked, htime, readyCondition_type]

def IsReady (status : ReplicationStatus) : Prop :=
  ∃ condition, findStatusCondition status.conditions replicationConditionReady = some condition ∧
    condition.status = .conditionTrue

theorem isReady_buildStatus_iff (rep : Replication) (sourceHash : String)
    (states : List TargetState) (inventory : List InventoryEntry) (retained : Bool) (now : Nat) :
    IsReady (buildStatus rep sourceHash states inventory retained now) ↔
      (nonReadyStates states).length = 0 ∧ (0 < states.countP TargetState.desired ∨
          rep.deletionTimestamp ≠ none) := by
  obtain ⟨time, htime⟩ := find_ready_buildStatus rep sourceHash states inventory retained now
  have hstatus : IsReady (buildStatus rep sourceHash states inventory retained
      now) ↔ (readyCondition rep states
        (tallyStates rep.status now states)).status = .conditionTrue := by
    unfold IsReady
    rw [htime]
    simp
  rw [hstatus, tallyStates_eq]
  unfold readyCondition
  dsimp only
  split_ifs with hnone hfailed
  · obtain ⟨_, hdesired, hlive⟩ := hnone
    simp [hdesired, hlive]
  · refine iff_of_true rfl ⟨hfailed, ?_⟩
    by_contra hneither
    rw [not_or, not_lt, Nat.le_zero, not_not] at hneither
    exact hnone ⟨hfailed, hneither⟩
  · simp [hfailed]

/-- The reason that stands for the non-ready states: the first known one in
order of priority, or else the first that is not empty. -/
inductive Dominates (states : List TargetState) : String → Prop where
  | known (before after : List String) (reason : String)
      (hpriority : reasonPriority = before ++ reason :: after)
      (hpresent : ∃ state ∈ nonReadyStates states, state.reason = reason)
      (hfirst : ∀ state ∈ nonReadyStates states, state.reason ∉ before) :
      Dominates states reason
  | unknown (before after : List TargetState) (state : TargetState)
      (hunknown : ∀ other ∈ nonReadyStates states,
        other.reason ∉ reasonPriority)
      (hsplit : nonReadyStates states = before ++ state :: after)
      (hnonempty : state.reason ≠ "")
      (hfirst : ∀ other ∈ before, other.reason = "") :
      Dominates states state.reason
  | silent (hsilent : ∀ state ∈ nonReadyStates states, state.reason = "") :
      Dominates states reasonApplyFailed

theorem present_iff (states : List TargetState) (reason : String) :
    (states.any fun state => !state.ready && state.reason = reason) = true ↔
      ∃ state ∈ nonReadyStates states, state.reason = reason := by
  simp [nonReadyStates, and_assoc]

theorem dominantReason_dominates (states : List TargetState) :
    Dominates states (dominantReason states (firstReason states)) := by
  unfold dominantReason
  dsimp only
  split
  · rename_i reason hfound
    obtain ⟨hpresent, before, after, hpriority, hfirst⟩ :=
      List.find?_eq_some_iff_append.mp hfound
    refine .known before after reason hpriority ((present_iff states reason).mp hpresent) ?_
    intro state hmem hbefore
    have habsent := hfirst state.reason hbefore
    rw [(present_iff states state.reason).mpr ⟨state, hmem, rfl⟩] at habsent
    cases habsent
  · rename_i hnone
    have hunknown : ∀ other ∈ nonReadyStates states, other.reason ∉ reasonPriority := by
      intro other hmem hknown
      have habsent := List.find?_eq_none.mp hnone other.reason hknown
      exact habsent ((present_iff states other.reason).mpr ⟨other, hmem, rfl⟩)
    unfold firstReason
    cases hfound : ((nonReadyStates states).map TargetState.reason).find?
        fun reason => reason ≠ "" with
    | none =>
      apply Dominates.silent
      intro state hmem
      simpa using List.find?_eq_none.mp hfound state.reason (List.mem_map_of_mem hmem)
    | some reason =>
      rw [List.find?_map, Option.map_eq_some_iff] at hfound
      obtain ⟨state, hstate, rfl⟩ := hfound
      obtain ⟨hnonempty, before, after, hsplit, hfirst⟩ :=
        List.find?_eq_some_iff_append.mp hstate
      have hne : state.reason ≠ "" := by simpa using hnonempty
      rw [Option.getD_some, if_pos hne]
      refine .unknown before after state hunknown hsplit hne ?_
      intro other hmem
      simpa using hfirst other hmem

/-! ## Conditions of other controllers -/

variable {keep : String → Bool}

theorem filter_updateStatusCondition (now : Nat) (fresh : Condition) (conditions : List Condition)
    (hkeep : keep fresh.type = false) :
    (updateStatusCondition now fresh conditions).filter (fun condition => keep condition.type) =
      conditions.filter fun condition => keep condition.type := by
  induction conditions with
  | nil => rfl
  | cons head rest ih =>
    rw [updateStatusCondition]
    by_cases htype : head.type = fresh.type
    · rw [if_pos htype, List.filter_cons_of_neg (by simp [hkeep]),
        List.filter_cons_of_neg (by simp [htype, hkeep])]
    · rw [if_neg htype, List.filter_cons, List.filter_cons, ih]

theorem filter_setStatusCondition (now : Nat) (conditions : List Condition) (fresh : Condition)
    (hkeep : keep fresh.type = false) :
    (setStatusCondition now conditions fresh).filter (fun condition => keep condition.type) =
      conditions.filter fun condition => keep condition.type := by
  unfold setStatusCondition
  split
  · simp [List.filter_append, hkeep]
  · exact filter_updateStatusCondition now fresh conditions hkeep

theorem filter_removeStatusCondition (conditions : List Condition) {type : String}
    (hkeep : keep type = false) :
    (removeStatusCondition conditions type).filter (fun condition => keep condition.type) =
      conditions.filter fun condition => keep condition.type := by
  unfold removeStatusCondition
  rw [List.filter_filter]
  apply List.filter_congr
  intro condition _
  by_cases htype : condition.type = type <;> simp [htype, hkeep]

theorem filter_buildStatus_conditions (rep : Replication) (sourceHash : String)
    (states : List TargetState) (inventory : List InventoryEntry) (retained : Bool) (now : Nat)
    (keep : String → Bool) (hready : keep replicationConditionReady = false)
    (hrevoked : keep conditionPolicyRevoked = false) :
    (buildStatus rep sourceHash states inventory retained
        now).conditions.filter (fun condition => keep condition.type) =
      rep.status.conditions.filter fun condition => keep condition.type := by
  unfold buildStatus
  dsimp only
  split_ifs
  · rw [filter_setStatusCondition _ _ _ hrevoked,
      filter_setStatusCondition _ _ _ (by rwa [readyCondition_type])]
  · rw [filter_removeStatusCondition _ hrevoked,
      filter_setStatusCondition _ _ _ (by rwa [readyCondition_type])]

/-! ## The whole summary -/

/-- What an entry of the status says about a target, its time apart. -/
def NonReadyTarget.detail (target : NonReadyTarget) : String × String × String × String × String :=
  (target.clusterName, target.ns, target.name, target.reason, target.message)

def TargetState.detail (state : TargetState) : String × String × String × String × String :=
  (state.cluster, state.ns, state.name, state.reason, state.message)

def isOwnCondition (type : String) : Bool :=
  type = replicationConditionReady || type = conditionPolicyRevoked

theorem ready_add_nonReady_length (states : List TargetState) :
    states.countP TargetState.ready + (nonReadyStates states).length =
      states.length := by
  rw [nonReadyStates, ← List.countP_eq_length_filter,
    List.length_eq_countP_add_countP TargetState.ready]
  simp

theorem status_accounts_for_states (rep : Replication) (sourceHash : String)
    (states : List TargetState) (inventory : List InventoryEntry) (retained : Bool) (now : Nat) :
    let next := buildStatus rep sourceHash states inventory retained now
    next.summary.readyTargets = states.countP TargetState.ready ∧
    next.summary.failedTargets = (states.filter fun state => !state.ready).length ∧
    next.summary.readyTargets + next.summary.failedTargets = states.length ∧
    next.summary.desiredTargets = states.countP TargetState.desired ∧
    next.nonReadyTargets.map NonReadyTarget.detail =
      ((states.filter fun state => !state.ready).take (min 20 next.summary.failedTargets)).map
        TargetState.detail ∧
    next.nonReadyTargets.length + next.nonReadyOverflow = next.summary.failedTargets ∧
    (IsReady next ↔
      next.summary.failedTargets = 0 ∧
      (0 < next.summary.desiredTargets ∨ rep.deletionTimestamp ≠ none)) ∧
    (0 < next.summary.failedTargets →
      ∃ condition,
        findStatusCondition next.conditions replicationConditionReady = some condition ∧
        condition.status = .conditionFalse ∧
        Dominates states condition.reason) ∧
    next.conditions.filter (fun condition => !isOwnCondition condition.type) =
      rep.status.conditions.filter fun condition => !isOwnCondition condition.type := by
  dsimp only
  rw [buildStatus_summary, buildStatus_nonReadyTargets, buildStatus_nonReadyOverflow]
  refine ⟨rfl, rfl, ready_add_nonReady_length states, rfl, ?_, ?_,
    isReady_buildStatus_iff rep sourceHash states inventory retained now,
    ?_, ?_⟩
  · have htake : (states.filter fun state => !state.ready).take
        (min 20 (nonReadyStates states).length) = reportedStates states := by
      unfold reportedStates maxNonReadyTargets nonReadyStates
      rw [← List.take_take, List.take_length]
    rw [List.map_map, htake]
    rfl
  · rw [List.length_map, reportedStates, List.length_take]
    dsimp only
    omega
  · intro hfailed
    obtain ⟨time, htime⟩ := find_ready_buildStatus rep sourceHash states inventory retained now
    refine ⟨_, htime, ?_⟩
    rw [tallyStates_eq]
    unfold readyCondition
    dsimp only at hfailed ⊢
    rw [if_neg (by omega), if_neg (by omega)]
    exact ⟨rfl, dominantReason_dominates states⟩
  · exact filter_buildStatus_conditions rep sourceHash states inventory
      retained now (fun type => !isOwnCondition type) (by decide) (by decide)

end K8sR8r
