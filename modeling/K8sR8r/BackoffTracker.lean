import K8sR8r.FailureStreaks
import K8sR8r.SoloReconcile

/-!
# The backoff tracker

`internal/engine/backoff.go`: one counter for every Replication and cluster,
from which the delay until the next attempt is computed.  A reconcile bumps the
counter of a cluster once for every slot and entry that fails there, and clears
it for every one that succeeds, so the delays of consecutive reconciles double
only when each of them has a single outcome on the cluster.

Durations are natural numbers here.  `BackoffOverflow` says when the delays in
64-bit arithmetic are the same.
-/

namespace K8sR8r

open Interaction FailureStreaks

/-! ## The tracker -/

structure BackoffKey where
  replication : NamespacedName
  cluster : String
  deriving DecidableEq

/-- The tracker, over the numbers that it counts and measures with. -/
structure Tracker (N : Type) where
  base : N
  max : N
  failures : Finmap fun _ : BackoffKey => N

namespace Tracker

variable {N : Type} [Zero N] (tracker : Tracker N) (rep : NamespacedName) (cluster : String)
  (key : BackoffKey)

def count : N :=
  (tracker.failures.lookup key).getD 0

/-- The part of `failure` that counts. -/
def setCount (n : N) : Tracker N :=
  { tracker with failures := tracker.failures.insert ⟨rep, cluster⟩ n }

def success : Tracker N :=
  { tracker with failures := tracker.failures.erase ⟨rep, cluster⟩ }

def forget : Tracker N :=
  { tracker with
    failures := tracker.failures.filterKeys fun key =>
      key.replication ≠ rep }

theorem count_setCount (n : N) : (tracker.setCount rep cluster n).count key =
      if key = ⟨rep, cluster⟩ then n else tracker.count key := by
  unfold count setCount
  dsimp only
  rw [Finmap.lookup_insert_eq]
  split_ifs with hkey
  · rfl
  · rfl

theorem count_success : (tracker.success rep cluster).count key =
      if key = ⟨rep, cluster⟩ then 0 else tracker.count key := by
  unfold count success
  dsimp only
  split_ifs with hkey
  · rw [hkey, Finmap.lookup_erase]
    rfl
  · rw [Finmap.lookup_erase_ne hkey]

theorem count_forget : (tracker.forget rep).count key =
      if key.replication = rep then 0 else tracker.count key := by
  unfold count forget
  dsimp only
  rw [Finmap.lookup_filterKeys]
  by_cases hrep : key.replication = rep <;> simp [hrep]

end Tracker

abbrev BackoffTracker := Tracker Nat

def newBackoffTracker (base max : Nat) : BackoffTracker := ⟨base, max, ∅⟩

/-- The doubling loop, with the number of doublings left. -/
def delayLoop (max : Nat) : Nat → Nat → Nat
  | delay, 0 => if max < delay then max else delay
  | delay, left + 1 =>
    if max ≤ delay * 2 then max else delayLoop max (delay * 2) left

namespace BackoffTracker

/-- `delayLocked`, for a positive number of consecutive failures. -/
def delay (tracker : BackoffTracker) (n : Nat) : Nat :=
  delayLoop tracker.max tracker.base (n - 1)

def failure (tracker : BackoffTracker) (rep : NamespacedName) (cluster : String) :
    Nat × BackoffTracker :=
  let key : BackoffKey := ⟨rep, cluster⟩
  let n := tracker.count key + 1
  (tracker.delay n,
    tracker.setCount rep cluster n)

end BackoffTracker

theorem delayLoop_eq (max delay left : Nat) :
    delayLoop max delay left = min (delay * 2 ^ left) max := by
  induction left generalizing delay with
  | zero =>
    rw [delayLoop, pow_zero, mul_one]
    split_ifs <;> omega
  | succ left ih =>
    have hdouble : delay * 2 ^ (left + 1) = delay * 2 * 2 ^ left := by ring
    rw [delayLoop, hdouble]
    split_ifs with hcap
    · have hpow : delay * 2 ≤ delay * 2 * 2 ^ left :=
        Nat.le_mul_of_pos_right _ (by positivity)
      omega
    · exact ih _

theorem BackoffTracker.delay_succ (tracker : BackoffTracker) (n : Nat) :
    tracker.delay (n + 1) = min (tracker.base * 2 ^ n) tracker.max := by
  rw [BackoffTracker.delay, Nat.add_sub_cancel, delayLoop_eq]

theorem BackoffTracker.delay_monotone (tracker : BackoffTracker) : Monotone tracker.delay := by
  intro first second hle
  unfold BackoffTracker.delay
  rw [delayLoop_eq, delayLoop_eq]
  have hpow : 2 ^ (first - 1) ≤ 2 ^ (second - 1) :=
    Nat.pow_le_pow_right (by norm_num) (by omega)
  exact min_le_min_right _ (Nat.mul_le_mul_left _ hpow)

theorem BackoffTracker.count_failure (tracker : BackoffTracker) (rep : NamespacedName)
    (cluster : String) (key : BackoffKey) :
    (tracker.failure rep cluster).2.count key =
      if key = ⟨rep, cluster⟩ then tracker.count key + 1
      else tracker.count key := by
  rw [BackoffTracker.failure, Tracker.count_setCount]
  split_ifs with hkey
  · rw [hkey]
  · rfl

/-! ## Reconciles with a tracker -/

/-- The answers of the tracker to the calls that concern it. -/
def BackoffTracker.Answers (tracker : BackoffTracker) :
    (call : EngineCall) → call.Reply → BackoffTracker → Prop
  | .backoffFailure rep cluster, reply, after =>
    tracker.failure rep cluster = (reply, after)
  | .backoffSuccess rep cluster, _, after =>
    after = tracker.success rep cluster
  | .backoffForget rep, _, after => after = tracker.forget rep
  | _, _, after => after = tracker

/-- What others do to the tracker while a Replication is reconciled: their
counters are their own. -/
structure BackoffTracker.Spares
    (nn : NamespacedName) (tracker after : BackoffTracker) : Prop where
  base : after.base = tracker.base
  max : after.max = tracker.max
  count : ∀ cluster, after.count ⟨nn, cluster⟩ = tracker.count ⟨nn, cluster⟩

/-- Any semantics of the engine's calls, with the delays of a tracker. -/
def trackedSemantics {World : Type} (semantics : Semantics World EngineCall.Reply)
    (nn : NamespacedName) :
    Semantics (World × BackoffTracker) EngineCall.Reply where
  interfere := fun before after =>
    semantics.interfere before.1 after.1 ∧ before.2.Spares nn after.2
  answers := fun before request reply after =>
    semantics.answers before.1 request reply after.1 ∧ before.2.Answers request reply after.2
  interfere_refl := fun before =>
    ⟨semantics.interfere_refl before.1, rfl, rfl, fun _ => rfl⟩
  interfere_trans := fun head tail =>
    ⟨semantics.interfere_trans head.1 tail.1, tail.2.base.trans head.2.base,
      tail.2.max.trans head.2.max,
      fun cluster => (tail.2.count cluster).trans (head.2.count cluster)⟩

section Traces

variable {World : Type}

/-- What a call does to the counter of a cluster. -/
def backoffOutcome (nn : NamespacedName) (cluster : String) : EngineCall → List Bool
  | .backoffFailure rep other =>
    if rep = nn ∧ other = cluster then [true] else []
  | .backoffSuccess rep other =>
    if rep = nn ∧ other = cluster then [false] else []
  | .backoffForget rep => if rep = nn then [false] else []
  | _ => []

def backoffOutcomes (nn : NamespacedName) (cluster : String)
    (trace : List (Exchange World EngineCall.Reply)) : List Bool :=
  trace.flatMap fun exchange => backoffOutcome nn cluster exchange.request

def backoffDelay (nn : NamespacedName) (cluster : String) :
    (call : EngineCall) → call.Reply → List Nat
  | .backoffFailure rep other, reply =>
    if rep = nn ∧ other = cluster then [reply] else []
  | _, _ => []

def backoffDelays (nn : NamespacedName) (cluster : String)
    (trace : List (Exchange World EngineCall.Reply)) : List Nat :=
  trace.flatMap fun exchange =>
    backoffDelay nn cluster exchange.request exchange.reply

/-- One call moves the counter by its outcome and answers with the delay of the
new value. -/
theorem BackoffTracker.Answers.step {tracker after : BackoffTracker} {call : EngineCall}
    {reply : call.Reply} (answer : tracker.Answers call reply after) (nn : NamespacedName)
    (cluster : String) :
    after.base = tracker.base ∧
    after.max = tracker.max ∧
    after.count ⟨nn, cluster⟩ =
      streak (tracker.count ⟨nn, cluster⟩) (backoffOutcome nn cluster call) ∧
    backoffDelay nn cluster call reply =
      (counts (tracker.count ⟨nn, cluster⟩) (backoffOutcome nn cluster call)).map
        tracker.delay := by
  cases call with
  | backoffFailure rep other =>
    have hanswer : tracker.failure rep other = (reply, after) := answer
    obtain rfl : (tracker.failure rep other).2 = after := by rw [hanswer]
    obtain rfl : tracker.delay (tracker.count ⟨rep, other⟩ + 1) = reply :=
      congrArg Prod.fst hanswer
    refine ⟨rfl, rfl, ?_⟩
    rw [BackoffTracker.count_failure]
    unfold backoffOutcome backoffDelay
    by_cases hkey : rep = nn ∧ other = cluster
    · obtain ⟨rfl, rfl⟩ := hkey
      simp [streak, counts]
    · have hother : (⟨nn, cluster⟩ : BackoffKey) ≠ ⟨rep, other⟩ := by
        intro heq
        cases heq
        exact hkey ⟨rfl, rfl⟩
      simp [streak, counts, hkey, hother]
  | backoffSuccess rep other =>
    obtain rfl : after = tracker.success rep other := answer
    refine ⟨rfl, rfl, ?_⟩
    rw [Tracker.count_success]
    unfold backoffOutcome backoffDelay
    by_cases hkey : rep = nn ∧ other = cluster
    · obtain ⟨rfl, rfl⟩ := hkey
      simp [streak, counts]
    · have hother : (⟨nn, cluster⟩ : BackoffKey) ≠ ⟨rep, other⟩ := by
        intro heq
        cases heq
        exact hkey ⟨rfl, rfl⟩
      simp [streak, counts, hkey, hother]
  | backoffForget rep =>
    obtain rfl : after = tracker.forget rep := answer
    refine ⟨rfl, rfl, ?_⟩
    rw [Tracker.count_forget]
    unfold backoffOutcome backoffDelay
    by_cases hrep : rep = nn
    · simp [streak, counts, hrep]
    · simp [streak, counts, hrep, Ne.symm hrep]
  | _ =>
    obtain rfl : after = tracker := answer
    exact ⟨rfl, rfl, rfl, rfl⟩

theorem BackoffTracker.delay_congr {tracker after : BackoffTracker}
    (hbase : after.base = tracker.base) (hmax : after.max = tracker.max) :
    after.delay = tracker.delay := by
  funext n
  rw [BackoffTracker.delay, BackoffTracker.delay, hbase, hmax]

variable {semantics : Semantics World EngineCall.Reply} {before : World × BackoffTracker}
  {trace : List (Exchange (World × BackoffTracker) EngineCall.Reply)}

/-- A run moves the counter of a cluster by the outcomes on it and collects the
delays of the values it takes. -/
theorem run_tracked {α : Type} {nn : NamespacedName} {after : World × BackoffTracker}
    {program rest : EngineProgram α}
    (run : Run (trackedSemantics semantics nn) before program trace after rest) (cluster : String) :
    after.2.base = before.2.base ∧
    after.2.max = before.2.max ∧
    after.2.count ⟨nn, cluster⟩ =
      streak (before.2.count ⟨nn, cluster⟩) (backoffOutcomes nn cluster trace) ∧
    backoffDelays nn cluster trace =
      (counts (before.2.count ⟨nn, cluster⟩) (backoffOutcomes nn cluster trace)).map
        before.2.delay := by
  induction run with
  | refl => exact ⟨rfl, rfl, rfl, rfl⟩
  | interfere change _ ih =>
    obtain ⟨hbase, hmax, hcount, hdelays⟩ := ih
    rw [change.2.count] at hcount hdelays
    rw [BackoffTracker.delay_congr change.2.base change.2.max] at hdelays
    exact ⟨hbase.trans change.2.base, hmax.trans change.2.max, hcount, hdelays⟩
  | call answer _ ih =>
    obtain ⟨hbase, hmax, hcount, hdelays⟩ := ih
    obtain ⟨hbase', hmax', hcount', hdelay⟩ := answer.2.step nn cluster
    rw [hcount'] at hcount hdelays
    rw [BackoffTracker.delay_congr hbase' hmax'] at hdelays
    refine ⟨hbase.trans hbase', hmax.trans hmax', ?_, ?_⟩
    · rw [hcount, ← streak_append]
      rfl
    · unfold backoffDelays backoffOutcomes at hdelays ⊢
      rw [List.flatMap_cons, List.flatMap_cons, counts_append, List.map_append, ← hdelay, ← hdelays]

/-- Consecutive completed reconciles, with their exchanges. -/
inductive Rounds
    (semantics : Semantics World EngineCall.Reply) (config : EngineConfig)
    (nn : NamespacedName) :
    World → List (List (Exchange World EngineCall.Reply)) → World → Prop where
  | nil {world : World} : Rounds semantics config nn world [] world
  | cons {world middle final : World}
      {result : ApiResult ReconcileOutcome}
      {trace : List (Exchange World EngineCall.Reply)}
      {traces : List (List (Exchange World EngineCall.Reply))}
      (run : Run semantics world (reconcile config nn) trace middle
        (.done result))
      (tail : Rounds semantics config nn middle traces final) :
      Rounds semantics config nn world (trace :: traces) final

/-- The failures on a cluster since its last success, before a round. -/
def streakBefore (nn : NamespacedName) (cluster : String)
    (traces : List (List (Exchange World EngineCall.Reply))) (k : ℕ) : ℕ :=
  streak 0 ((traces.take k).flatMap (backoffOutcomes nn cluster))

theorem Rounds.delays {config : EngineConfig} {nn : NamespacedName}
    {after : World × BackoffTracker}
    {traces : List (List (Exchange (World × BackoffTracker) EngineCall.Reply))}
    (rounds : Rounds (trackedSemantics semantics nn) config nn before traces after)
    (cluster : String) {k : ℕ} (hround : traces[k]? = some trace) :
    backoffDelays nn cluster trace =
      (counts
        (streak (before.2.count ⟨nn, cluster⟩)
          ((traces.take k).flatMap (backoffOutcomes nn cluster)))
        (backoffOutcomes nn cluster trace)).map before.2.delay := by
  induction rounds generalizing k with
  | nil => simp at hround
  | cons run _ ih =>
    obtain ⟨hbase, hmax, hcount, hdelays⟩ := run_tracked run cluster
    cases k with
    | zero =>
      obtain rfl : _ = trace := by simpa using hround
      exact hdelays
    | succ k =>
      rw [ih (by simpa using hround), hcount,
        BackoffTracker.delay_congr hbase hmax, ← streak_append]
      rfl

/-! ## Growth -/

theorem capped_eq_iff (base max first second : ℕ) :
    min (base * 2 ^ first) max = min (base * 2 ^ second) max ↔ base = 0 ∨ first = second ∨
        max ≤ base * 2 ^ (min first second) := by
  wlog hle : first ≤ second generalizing first second
  · rw [eq_comm, this second first (Nat.le_of_not_le hle), min_comm, eq_comm (a := second)]
  have hpow : base * 2 ^ first ≤ base * 2 ^ second :=
    Nat.mul_le_mul_left _ (Nat.pow_le_pow_right (by norm_num) hle)
  have hsame : base * 2 ^ first = base * 2 ^ second ↔ base = 0 ∨ first = second := by
    rw [mul_eq_mul_left_iff, (Nat.pow_right_injective (le_refl 2)).eq_iff, or_comm]
  rw [min_eq_left hle, ← or_assoc, ← hsame]
  omega

/-- The delays of a cluster double from reconcile to reconcile exactly when
each one but the first starts with its failures on the cluster and finds as
many failures counted as there were reconciles, or the delays are at the
maximum anyway. -/
theorem backoff_growth_iff (semantics : Semantics World EngineCall.Reply) (config : EngineConfig)
    (nn : NamespacedName) (cluster : String) (before after : World × BackoffTracker)
    (traces : List (List (Exchange (World × BackoffTracker) EngineCall.Reply)))
    (hclear : before.2.count ⟨nn, cluster⟩ = 0)
    (rounds : Rounds (trackedSemantics semantics nn) config nn before traces after)
    (hfails : ∀ trace ∈ traces, true ∈ backoffOutcomes nn cluster trace) :
    (∀ k trace,
      traces[k]? = some trace →
      IsLeast {delay | delay ∈ backoffDelays nn cluster trace}
        (min (before.2.base * 2 ^ k) before.2.max)) ↔
      ∀ k trace,
        traces[k]? = some trace →
        k = 0 ∨
          before.2.base = 0 ∨
          before.2.max ≤ before.2.base ∨
          Steady (backoffOutcomes nn cluster trace) ∧
            (streakBefore nn cluster traces k = k ∨
              before.2.max ≤ before.2.base * 2 ^ (min (streakBefore nn cluster traces k) k)) := by
  refine forall_congr' fun k => forall_congr' fun trace => ?_
  refine imp_congr_right fun hround => ?_
  have hleast := before.2.delay_monotone.map_isLeast
    (isLeast_counts (streakBefore nn cluster traces k) (hfails trace (List.mem_of_getElem? hround)))
  have hset : Set.image before.2.delay {count | count ∈ counts (streakBefore nn cluster traces k)
        (backoffOutcomes nn cluster trace)} =
      {delay | delay ∈ backoffDelays nn cluster trace} := by
    rw [rounds.delays cluster hround, hclear]
    ext delay
    simp [streakBefore]
  rw [hset] at hleast
  have hlaw : IsLeast {delay | delay ∈ backoffDelays nn cluster trace}
      (min (before.2.base * 2 ^ k) before.2.max) ↔
      before.2.delay (if Steady (backoffOutcomes nn cluster trace) then
          streakBefore nn cluster traces k + 1 else 1) =
        min (before.2.base * 2 ^ k) before.2.max :=
    ⟨fun hlaw => hleast.unique hlaw, fun heq => heq ▸ hleast⟩
  rw [hlaw]
  by_cases hsteady : Steady (backoffOutcomes nn cluster trace)
  · rw [if_pos hsteady, BackoffTracker.delay_succ, capped_eq_iff]
    constructor
    · rintro (hzero | hstreak | hcap)
      · exact .inr (.inl hzero)
      · exact .inr (.inr (.inr ⟨hsteady, .inl hstreak⟩))
      · exact .inr (.inr (.inr ⟨hsteady, .inr hcap⟩))
    · rintro (rfl | hzero | hcap | ⟨_, hstreak | hcap⟩)
      · exact .inr (.inl rfl)
      · exact .inl hzero
      · exact .inr (.inr (hcap.trans (Nat.le_mul_of_pos_right _ (by positivity))))
      · exact .inr (.inl hstreak)
      · exact .inr (.inr hcap)
  · have hone : before.2.delay 1 = min (before.2.base * 2 ^ 0) before.2.max := before.2.delay_succ 0
    rw [if_neg hsteady, hone, capped_eq_iff]
    simp only [hsteady, false_and, or_false, Nat.zero_min, pow_zero, mul_one,
      eq_comm (a := (0 : ℕ))]
    tauto

end Traces

namespace Sample

/-- One Replication with targets on one cluster, where none of the namespaces
exists and none may be created. -/
def strandedFleet (namespaces : List String) : Fleet :=
  { fleet with
    hub := { hub with
      replications := fun other =>
        if other = key then
          some { replication with
            spec := { replication.spec with
              resolvedTargets := [⟨"east", namespaces, ""⟩] } }
        else none
      policies := ⟨[{ policy with
        targets := ⟨⟨∅, []⟩, namespaces⟩ }], by simp⟩ }
    spokes := fun _ => none }

def handleTracked (world : Fleet × BackoffTracker) (call : EngineCall) :
    call.Reply × (Fleet × BackoffTracker) :=
  match call with
  | .backoffFailure rep cluster =>
    let answer := world.2.failure rep cluster
    (answer.1, (world.1, answer.2))
  | .backoffSuccess rep cluster =>
    ((), (world.1, world.2.success rep cluster))
  | .backoffForget rep => ((), (world.1, world.2.forget rep))
  | call =>
    let answer := world.1.handle call
    (answer.1, (answer.2, world.2))

theorem answers_handleTracked (world : Fleet × BackoffTracker) (call : EngineCall) :
    (trackedSemantics (Fleet.alone fun _ => False) key).answers world call
      (handleTracked world call).1 (handleTracked world call).2 := by
  have hfleet := Fleet.answers_handle (fun _ => False) world.1 call
  cases call with
  | backoffFailure rep cluster => exact ⟨rfl, rfl⟩
  | backoffSuccess rep cluster => exact ⟨rfl, rfl⟩
  | backoffForget rep => exact ⟨rfl, rfl⟩
  | _ => exact ⟨hfleet, rfl⟩

def oneRound (world : Fleet × BackoffTracker) : Execution (Fleet × BackoffTracker) EngineCall.Reply
      (ApiResult ReconcileOutcome) :=
  execute handleTracked (reconcile engine key) world

def startOf (namespaces : List String) : Fleet × BackoffTracker :=
  (strandedFleet namespaces, newBackoffTracker 1 100)

def twoRounds (namespaces : List String) :
    List (List (Exchange (Fleet × BackoffTracker) EngineCall.Reply)) :=
  [(oneRound (startOf namespaces)).trace, (oneRound (oneRound (startOf namespaces)).final).trace]

theorem rounds_twoRounds (namespaces : List String) :
    Rounds (trackedSemantics (Fleet.alone fun _ => False) key) engine key
      (startOf namespaces) (twoRounds namespaces)
      (oneRound (oneRound (startOf namespaces)).final).final :=
  .cons (run_execute (execute_answered answers_handleTracked _ _))
    (.cons (run_execute (execute_answered answers_handleTracked _ _)) .nil)

end Sample

open Sample

/-- With a single target on the cluster the delays are 1 and 2. -/
theorem backoff_growth_iff_sample :
    (∀ trace ∈ twoRounds ["app"], true ∈ backoffOutcomes key "east" trace) ∧
    ∀ k trace,
      (twoRounds ["app"])[k]? = some trace →
      IsLeast {delay | delay ∈ backoffDelays key "east" trace} (min (1 * 2 ^ k) 100) := by
  have hfails : ∀ trace ∈ twoRounds ["app"],
      true ∈ backoffOutcomes key "east" trace := by
    decide +kernel
  refine ⟨hfails, (backoff_growth_iff _ _ _ _ _ _ _ rfl
    (rounds_twoRounds ["app"]) hfails).mpr ?_⟩
  intro k trace hround
  match k with
  | 0 => exact .inl rfl
  | 1 =>
    obtain rfl : _ = trace := Option.some.inj hround
    exact .inr (.inr (.inr (by decide +kernel)))
  | k + 2 => simp [twoRounds] at hround

/-- Two targets of one cluster fail in two reconciles in a row: the delays are
1 and 2 the first time, 4 and 8 the second. -/
theorem crowded_cluster_skips_delay :
    Rounds (trackedSemantics (Fleet.alone fun _ => False) key) engine key
      (startOf ["app", "web"]) (twoRounds ["app", "web"])
      (oneRound (oneRound (startOf ["app", "web"])).final).final ∧
    (startOf ["app", "web"]).2 = newBackoffTracker 1 100 ∧
    (twoRounds ["app", "web"]).map (backoffDelays key "east") = [[1, 2], [4, 8]] ∧
    ¬ IsLeast {delay | delay ∈ [4, 8]} (min (1 * 2 ^ 1) 100) := by
  refine ⟨rounds_twoRounds _, rfl, by decide +kernel, ?_⟩
  intro hleast
  have hmem : min (1 * 2 ^ 1) 100 ∈ [4, 8] := hleast.1
  revert hmem
  decide

end K8sR8r
