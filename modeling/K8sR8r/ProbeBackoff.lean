import K8sR8r.SignedWords

/-!
# The connectivity state machine

`internal/cluster/manager.go`: the `backoffTracker` turns the results of the
probes of one cluster into its connectivity and the delay until the next probe.
The delay is doubled in place, in 64-bit arithmetic, and capped after that.

What the tracker is for is said by `Streak`: the run of equal results at the
end of a history.  The tracker follows it.
-/

namespace K8sR8r.ClusterProbe

open SignedWords

/-! ## The tracker -/

/-- `cluster.State`; `none` is the zero value, before the first probe. -/
inductive State where
  | none
  | reachable
  | degraded
  | unreachable
  deriving DecidableEq

structure Connectivity where
  state : State
  since : Int
  lastError : String
  deriving DecidableEq

structure BackoffTracker where
  baseDelay : Int
  maxDelay : Int
  healthyInterval : Int
  threshold : Int
  failures : Int
  delay : Int
  state : State
  since : Int
  lastErr : String
  deriving DecidableEq

/-- The result of a probe and the time at which it was observed. -/
structure Probe where
  err : Option String
  time : Int
  deriving DecidableEq

def newBackoffTracker (base max healthy threshold : Int) : BackoffTracker where
  baseDelay := base
  maxDelay := max
  healthyInterval := healthy
  threshold := threshold
  failures := 0
  delay := 0
  state := .none
  since := 0
  lastErr := ""

namespace BackoffTracker

def nextDelay (t : BackoffTracker) (failures : Int) : Int :=
  if failures = 1 then t.baseDelay
  else
    let doubled := reduce 64 (t.delay * 2)
    if t.maxDelay < doubled then t.maxDelay else doubled

/-- `backoffTracker.Observe`, with the tracker after it. -/
def observe (t : BackoffTracker) (probe : Probe) : (State × Int) × BackoffTracker :=
  match probe.err with
  | none =>
    ((.reachable, t.healthyInterval),
      { t with
        since := if t.state ≠ .reachable then probe.time else t.since
        state := .reachable
        failures := 0
        delay := 0
        lastErr := "" })
  | some err =>
    let failures := reduce 64 (t.failures + 1)
    let delay := t.nextDelay failures
    let state : State :=
      if t.threshold ≤ failures then .unreachable else .degraded
    ((state, delay),
      { t with
        since := if failures = 1 then probe.time else t.since
        state := state
        failures := failures
        delay := delay
        lastErr := err })

def connectivity (t : BackoffTracker) : Connectivity :=
  ⟨t.state, t.since, t.lastErr⟩

def after (t : BackoffTracker) (history : List Probe) : BackoffTracker :=
  history.foldl (fun t probe => (t.observe probe).2) t

def returned (t : BackoffTracker) (history : List Probe) : Option (State × Int) :=
  history.getLast?.map fun probe =>
    ((t.after history.dropLast).observe probe).1

end BackoffTracker

/-! ## Streaks -/

/-- The run of equal results at the end of a history: how many failures, since
when, and what the last one said. -/
inductive Streak where
  | empty
  | failing (count : Nat) (since : Int) (err : String)
  | healthy (since : Int)
  deriving DecidableEq

def Streak.next : Streak → Probe → Streak
  | .failing count since _, ⟨some err, _⟩ => .failing (count + 1) since err
  | _, ⟨some err, time⟩ => .failing 1 time err
  | .healthy since, ⟨none, _⟩ => .healthy since
  | _, ⟨none, time⟩ => .healthy time

def streakOf (history : List Probe) : Streak :=
  history.foldl Streak.next .empty

theorem streakOf_concat (history : List Probe) (probe : Probe) :
    streakOf (history ++ [probe]) = (streakOf history).next probe := by
  simp [streakOf]

theorem streakOf_of_quiet {history : List Probe}
    (hquiet : ∀ probe ∈ history.getLast?, probe.err = none) :
    streakOf history = .empty ∨ ∃ since, streakOf history = .healthy since := by
  induction history using List.reverseRecOn with
  | nil => exact .inl rfl
  | append_singleton history probe _ =>
    obtain ⟨err, time⟩ := probe
    obtain rfl : err = none := hquiet ⟨err, time⟩ (by simp)
    rw [streakOf_concat]
    right
    cases streakOf history with
    | empty => exact ⟨_, rfl⟩
    | failing => exact ⟨_, rfl⟩
    | healthy => exact ⟨_, rfl⟩

theorem streakOf_of_failed {history : List Probe}
    (hfailed : ∀ probe ∈ history.getLast?, probe.err ≠ none) :
    streakOf history = .empty ∨ ∃ count since err, streakOf history = .failing count since err := by
  induction history using List.reverseRecOn with
  | nil => exact .inl rfl
  | append_singleton history probe _ =>
    obtain ⟨_ | err, time⟩ := probe
    · exact absurd rfl (hfailed ⟨none, time⟩ (by simp))
    rw [streakOf_concat]
    right
    cases streakOf history with
    | empty => exact ⟨_, _, _, rfl⟩
    | failing => exact ⟨_, _, _, rfl⟩
    | healthy => exact ⟨_, _, _, rfl⟩

theorem streakOf_failing {earlier : List Probe}
    (hearlier : ∀ probe ∈ earlier.getLast?, probe.err = none) (first : Probe) (rest : List Probe)
    (hfails : ∀ probe ∈ first :: rest, probe.err ≠ none) :
    ∃ err, streakOf (earlier ++ first :: rest) = .failing (rest.length + 1) first.time err := by
  induction rest using List.reverseRecOn with
  | nil =>
    obtain ⟨_ | err, time⟩ := first
    · exact absurd rfl (hfails ⟨none, time⟩ (by simp))
    refine ⟨err, ?_⟩
    rw [streakOf_concat]
    rcases streakOf_of_quiet hearlier with hempty | ⟨since, hhealthy⟩
    · rw [hempty]
      rfl
    · rw [hhealthy]
      rfl
  | append_singleton rest probe ih =>
    obtain ⟨err, hstreak⟩ := ih fun other hmem =>
      hfails other (by simp at hmem ⊢; tauto)
    obtain ⟨_ | next, time⟩ := probe
    · exact absurd rfl (hfails ⟨none, time⟩ (by simp))
    refine ⟨next, ?_⟩
    rw [← List.cons_append, ← List.append_assoc, streakOf_concat, hstreak, List.length_append]
    rfl

theorem streakOf_healthy {earlier : List Probe}
    (hearlier : ∀ probe ∈ earlier.getLast?, probe.err ≠ none) (first : Probe) (rest : List Probe)
    (hsucceeds : ∀ probe ∈ first :: rest, probe.err = none) :
    streakOf (earlier ++ first :: rest) = .healthy first.time := by
  induction rest using List.reverseRecOn with
  | nil =>
    obtain ⟨err, time⟩ := first
    obtain rfl : err = none := hsucceeds ⟨err, time⟩ (by simp)
    rw [streakOf_concat]
    rcases streakOf_of_failed hearlier with hempty | ⟨count, since, err, hfailing⟩
    · rw [hempty]
      rfl
    · rw [hfailing]
      rfl
  | append_singleton rest probe ih =>
    have hstreak := ih fun other hmem =>
      hsucceeds other (by simp at hmem ⊢; tauto)
    obtain ⟨err, time⟩ := probe
    obtain rfl : err = none := hsucceeds ⟨err, time⟩ (by simp)
    rw [← List.cons_append, ← List.append_assoc, streakOf_concat, hstreak]
    rfl

/-! ## The tracker follows the streak -/

/-- The tracker agrees with a streak.  A streak of failures that is too long
for the 64-bit counter says only that the cluster is not reachable. -/
def BackoffTracker.Follows (t : BackoffTracker) : Streak → Prop
  | .empty => t.state = .none ∧ t.failures = 0
  | .healthy since =>
    t.connectivity = ⟨.reachable, since, ""⟩ ∧ t.failures = 0
  | .failing count since err =>
    t.state ≠ .reachable ∧ 1 ≤ count ∧ (count < 2 ^ 63 → t.failures = count ∧
        t.delay = capped t.baseDelay t.maxDelay (count - 1) ∧
        t.connectivity = ⟨if t.threshold ≤ count then .unreachable else .degraded,
            since, err⟩)

structure BackoffTracker.SameSettings (t other : BackoffTracker) : Prop where
  base : t.baseDelay = other.baseDelay
  max : t.maxDelay = other.maxDelay
  healthy : t.healthyInterval = other.healthyInterval
  threshold : t.threshold = other.threshold

/-- A cap under which doubling stays in 64 bits. -/
structure BackoffTracker.Bounded (t : BackoffTracker) : Prop where
  pos : 0 < t.baseDelay
  le : t.baseDelay ≤ t.maxDelay
  small : t.maxDelay < 2 ^ 62

namespace BackoffTracker

variable {t : BackoffTracker}

theorem after_concat (start : BackoffTracker) (history : List Probe) (probe : Probe) :
    start.after (history ++ [probe]) = ((start.after history).observe probe).2 := by
  simp [after]

theorem observe_settings (t : BackoffTracker) (probe : Probe) :
    (t.observe probe).2.SameSettings t := by
  unfold observe
  split <;> exact ⟨rfl, rfl, rfl, rfl⟩

theorem after_settings (t : BackoffTracker) (history : List Probe) :
    (t.after history).SameSettings t := by
  induction history using List.reverseRecOn with
  | nil => exact ⟨rfl, rfl, rfl, rfl⟩
  | append_singleton history probe ih =>
    have hlast := (t.after history).observe_settings probe
    rw [after_concat]
    exact ⟨hlast.base.trans ih.base, hlast.max.trans ih.max,
      hlast.healthy.trans ih.healthy, hlast.threshold.trans ih.threshold⟩

theorem Bounded.double_inRange (bounded : t.Bounded) (doublings : Nat) :
    InRange 64 (2 * capped t.baseDelay t.maxDelay doublings) := by
  have hmax : 0 < t.maxDelay := bounded.pos.trans_le bounded.le
  have hsmall := bounded.small
  exact double_capped_inRange bounded.pos hmax (by omega) doublings

theorem Bounded.nextDelay_eq (bounded : t.Bounded) {count : Nat} (hcount : 1 ≤ count)
    (hdelay : t.delay = capped t.baseDelay t.maxDelay (count - 1)) :
    t.nextDelay (count + 1) = capped t.baseDelay t.maxDelay count := by
  have hrange := bounded.double_inRange (count - 1)
  have hmax : 0 ≤ t.maxDelay := (bounded.pos.trans_le bounded.le).le
  have hne : ¬ (count : Int) + 1 = 1 := by omega
  have hsucc : min (2 * capped t.baseDelay t.maxDelay (count - 1)) t.maxDelay =
      capped t.baseDelay t.maxDelay count := by
    rw [capped_succ hmax, Nat.sub_add_cancel hcount]
  unfold nextDelay
  rw [if_neg hne, hdelay, mul_comm, reduce_of_inRange hrange, ← hsucc]
  dsimp only
  split_ifs <;> omega

theorem counter_inRange {count : Nat} (hcount : count < 2 ^ 63) : InRange 64 (count : Int) := by
  constructor <;> omega

theorem observe_failure_state (t : BackoffTracker) (err : String) (time : Int) :
    (t.observe ⟨some err, time⟩).2.state ≠ .reachable := by
  simp only [observe]
  split_ifs <;> simp

theorem follows_first_failure (bounded : t.Bounded) (hfailures : t.failures = 0) (err : String)
    (time : Int) :
    (t.observe ⟨some err, time⟩).2.Follows (.failing 1 time err) := by
  have hone : reduce 64 (t.failures + 1) = 1 := by
    rw [hfailures]
    decide
  refine ⟨t.observe_failure_state err time, le_rfl, fun _ => ?_⟩
  simp [observe, connectivity, nextDelay, hone, capped_zero bounded.le]

theorem Follows.failure (bounded : t.Bounded) {streak : Streak} (follows : t.Follows streak)
    (err : String) (time : Int) :
    (t.observe ⟨some err, time⟩).2.Follows (streak.next ⟨some err, time⟩) := by
  cases streak with
  | empty => exact follows_first_failure bounded follows.2 err time
  | healthy since => exact follows_first_failure bounded follows.2 err time
  | failing count since last =>
    obtain ⟨_, hcount, hshort⟩ := follows
    refine ⟨t.observe_failure_state err time, by omega, fun hbound => ?_⟩
    obtain ⟨hfailures, hdelay, hconnectivity⟩ := hshort (by omega)
    have hsince : t.since = since := congrArg Connectivity.since hconnectivity
    have hnext : reduce 64 (t.failures + 1) = count + 1 := by
      rw [hfailures]
      exact reduce_of_inRange (counter_inRange hbound)
    have hne : ¬ (count : Int) + 1 = 1 := by omega
    simp [observe, connectivity, hnext, hne, hsince, bounded.nextDelay_eq hcount hdelay]

theorem Follows.success {streak : Streak} (follows : t.Follows streak) (time : Int) :
    (t.observe ⟨none, time⟩).2.Follows (streak.next ⟨none, time⟩) := by
  cases streak with
  | empty => simp [observe, Follows, Streak.next, connectivity, follows.1]
  | failing count since err =>
    simp [observe, Follows, Streak.next, connectivity, follows.1]
  | healthy since =>
    obtain ⟨hconnectivity, _⟩ := follows
    unfold connectivity at hconnectivity
    simp_all [observe, Follows, Streak.next, connectivity]

theorem after_follows {start : BackoffTracker} (bounded : start.Bounded)
    (hstart : start.Follows .empty) (history : List Probe) :
    (start.after history).Follows (streakOf history) := by
  induction history using List.reverseRecOn with
  | nil => exact hstart
  | append_singleton history probe ih =>
    have hsettings := start.after_settings history
    have hbounded : (start.after history).Bounded :=
      ⟨by rw [hsettings.base]; exact bounded.pos,
        by rw [hsettings.base, hsettings.max]; exact bounded.le,
        by rw [hsettings.max]; exact bounded.small⟩
    rw [after_concat, streakOf_concat]
    obtain ⟨_ | err, time⟩ := probe
    · exact ih.success time
    · exact ih.failure hbounded err time

/-! ## What is returned -/

theorem returned_failure (start : BackoffTracker) (earlier : List Probe) {streak : List Probe}
    (hne : streak ≠ []) (hfails : ∀ probe ∈ streak, probe.err ≠ none) :
    start.returned (earlier ++ streak) = some ((start.after (earlier ++ streak)).state,
        (start.after (earlier ++ streak)).delay) := by
  obtain ⟨init, ⟨_ | err, time⟩, rfl⟩ :=
    (List.eq_nil_or_concat' streak).resolve_left hne
  · exact absurd rfl (hfails ⟨none, time⟩ (by simp))
  · rw [← List.append_assoc, after_concat]
    simp [returned, observe]

theorem returned_success (start : BackoffTracker) (earlier : List Probe) {streak : List Probe}
    (hne : streak ≠ []) (hsucceeds : ∀ probe ∈ streak, probe.err = none) :
    start.returned (earlier ++ streak) = some (.reachable, start.healthyInterval) := by
  obtain ⟨init, ⟨err, time⟩, rfl⟩ :=
    (List.eq_nil_or_concat' streak).resolve_left hne
  obtain rfl : err = none := hsucceeds ⟨err, time⟩ (by simp)
  have hsettings := start.after_settings (earlier ++ init)
  rw [← List.append_assoc]
  simp [returned, observe, hsettings.healthy]

end BackoffTracker

/-- After a history that ends in `k` failures, fewer than the counter can
count, the delay is the base doubled `k - 1` times up to the maximum, and the
next doubling would not overflow either; after one that ends in successes the
tracker is as after the first of them.  The maximum is below `2 ^ 62`. -/
theorem connectivity_closed_form (base max healthy threshold : Int)
    (hbase : 0 < base)
    (hle : base ≤ max)
    (hmax : max < 2 ^ 62)
    (earlier : List Probe) (first : Probe) (rest : List Probe) :
    let start := newBackoffTracker base max healthy threshold
    let history := earlier ++ first :: rest
    let t := start.after history
    let k := rest.length + 1
    (k < 2 ^ 63 →
      (∀ probe ∈ first :: rest, probe.err ≠ none) →
      (∀ probe ∈ earlier.getLast?, probe.err = none) →
      start.returned history =
          some
            (if threshold ≤ k then .unreachable else .degraded, min (base * 2 ^ (k - 1)) max) ∧
        t.state = (if threshold ≤ k then .unreachable else .degraded) ∧
        t.since = first.time ∧
        InRange 64 (t.delay * 2)) ∧
    ((∀ probe ∈ first :: rest, probe.err = none) →
      (∀ probe ∈ earlier.getLast?, probe.err ≠ none) →
      start.returned history = some (.reachable, healthy) ∧
        t.connectivity = ⟨.reachable, first.time, ""⟩) := by
  intro start history t k
  have hbounded : start.Bounded := ⟨hbase, hle, hmax⟩
  have hfollows : t.Follows (streakOf history) :=
    BackoffTracker.after_follows hbounded ⟨rfl, rfl⟩ history
  have hsettings : t.SameSettings start := start.after_settings history
  constructor
  · intro hshort hfails hearlier
    obtain ⟨err, hstreak⟩ := streakOf_failing hearlier first rest hfails
    rw [hstreak] at hfollows
    obtain ⟨_, _, hdata⟩ := hfollows
    obtain ⟨_, hdelay, hconnectivity⟩ := hdata hshort
    rw [hsettings.base, hsettings.max] at hdelay
    rw [hsettings.threshold] at hconnectivity
    have hstate := congrArg Connectivity.state hconnectivity
    have hsince := congrArg Connectivity.since hconnectivity
    have hreturned : start.returned history = some (t.state, t.delay) :=
      start.returned_failure earlier (List.cons_ne_nil first rest) hfails
    refine ⟨?_, hstate, hsince, ?_⟩
    · rw [hreturned, hdelay]
      exact congrArg (fun state => some (state, _)) hstate
    · rw [hdelay, mul_comm]
      exact hbounded.double_inRange _
  · intro hsucceeds hearlier
    have hstreak := streakOf_healthy hearlier first rest hsucceeds
    rw [hstreak] at hfollows
    exact ⟨start.returned_success earlier (List.cons_ne_nil first rest) hsucceeds, hfollows.1⟩

/-- Three failures after a success, with a threshold of three. -/
theorem connectivity_closed_form_sample :
    let start := newBackoffTracker 100 300 1000 3
    let history : List Probe := [⟨none, 0⟩, ⟨some "boom", 5⟩, ⟨some "boom", 6⟩, ⟨some "boom", 7⟩]
    start.returned history = some (.unreachable, 300) ∧ (start.after history).since = 5 := by
  have hclosed := (connectivity_closed_form 100 300 1000 3 (by decide)
    (by decide) (by decide) [⟨none, 0⟩] ⟨some "boom", 5⟩
    [⟨some "boom", 6⟩, ⟨some "boom", 7⟩]).1
    (by decide) (by decide) (by decide)
  exact ⟨hclosed.1, hclosed.2.2.1⟩

/-- At a maximum of `2 ^ 62` the second failure doubles the delay out of 64
bits; the result is negative and the cap does not apply to it. -/
theorem doubled_delay_overflows :
    let start := newBackoffTracker (2 ^ 62) (2 ^ 62) 1000 3
    let history : List Probe := [⟨some "boom", 0⟩, ⟨some "boom", 1⟩]
    start.returned history = some (.degraded, -2 ^ 63) ∧
    min ((2 : Int) ^ 62 * 2 ^ (2 - 1)) (2 ^ 62) = 2 ^ 62 ∧
    ¬ InRange 64 ((start.after [⟨some "boom", 0⟩]).delay * 2) := by
  decide +kernel

end K8sR8r.ClusterProbe
