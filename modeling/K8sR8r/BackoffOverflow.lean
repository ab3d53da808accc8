import K8sR8r.BackoffTracker
import K8sR8r.SignedWords

/-!
# The backoff tracker in 64-bit arithmetic

`internal/engine/backoff.go` again, with durations and counters as 64-bit
words.  As long as the base delay leaves room for one doubling, the tracker
returns the delays of the one over natural numbers, however long it runs and
whatever happens to other pairs.
-/

namespace K8sR8r

open SignedWords

/-! ## Calls of the tracker -/

inductive TrackerCall where
  | failure (rep : NamespacedName) (cluster : String)
  | success (rep : NamespacedName) (cluster : String)
  | forget (rep : NamespacedName)
  deriving DecidableEq

namespace TrackerCall

def resets (key : BackoffKey) : TrackerCall → Bool
  | .failure _ _ => false
  | .success rep cluster => key = ⟨rep, cluster⟩
  | .forget rep => key.replication = rep

def fails (key : BackoffKey) : TrackerCall → Bool
  | .failure rep cluster => key = ⟨rep, cluster⟩
  | .success _ _ => false
  | .forget _ => false

def concerns (key : BackoffKey) (call : TrackerCall) : Bool :=
  call.resets key || call.fails key

end TrackerCall

/-- The number of failures of a pair since the last call that ended its
streak. -/
def failuresSince (key : BackoffKey) (calls : List TrackerCall) : Nat :=
  (calls.reverse.takeWhile fun call => !call.resets key).countP fun call => call.fails key

theorem failuresSince_concat (key : BackoffKey) (calls : List TrackerCall) (call : TrackerCall) :
    failuresSince key (calls ++ [call]) =
      if call.resets key then 0
      else if call.fails key then failuresSince key calls + 1
      else failuresSince key calls := by
  unfold failuresSince
  rw [List.reverse_concat, List.takeWhile_cons]
  split_ifs <;> simp_all

theorem failuresSince_filter (key : BackoffKey) (calls : List TrackerCall) :
    failuresSince key (calls.filter (TrackerCall.concerns key)) = failuresSince key calls := by
  induction calls using List.reverseRecOn with
  | nil => rfl
  | append_singleton calls call ih =>
    rw [List.filter_append, failuresSince_concat]
    cases hconcerns : call.concerns key with
    | true =>
      rw [List.filter_cons_of_pos hconcerns, List.filter_nil, failuresSince_concat, ih]
    | false =>
      have hother : call.resets key = false ∧ call.fails key = false := by
        simpa [TrackerCall.concerns] using hconcerns
      simp [hconcerns, hother, ih]

/-! ## Trackers under calls -/

namespace Tracker

variable {N : Type} [Zero N]

/-- What a call leaves behind, where `next` counts one failure more. -/
def call (next : N → N) (tracker : Tracker N) : TrackerCall → Tracker N
  | .failure rep cluster =>
    tracker.setCount rep cluster (next (tracker.count ⟨rep, cluster⟩))
  | .success rep cluster => tracker.success rep cluster
  | .forget rep => tracker.forget rep

def after (next : N → N) (tracker : Tracker N) (calls : List TrackerCall) : Tracker N :=
  calls.foldl (call next) tracker

variable (next : N → N) (tracker : Tracker N)

theorem count_call (made : TrackerCall) (key : BackoffKey) :
    (call next tracker made).count key =
      if made.resets key then 0
      else if made.fails key then next (tracker.count key)
      else tracker.count key := by
  cases made with
  | failure rep cluster =>
    simp only [call, count_setCount, TrackerCall.resets, TrackerCall.fails]
    by_cases hkey : key = ⟨rep, cluster⟩ <;> simp [hkey]
  | success rep cluster =>
    simp [call, count_success, TrackerCall.resets, TrackerCall.fails]
  | forget rep =>
    simp [call, count_forget, TrackerCall.resets, TrackerCall.fails]

theorem after_settings (calls : List TrackerCall) :
    (after next tracker calls).base = tracker.base ∧
      (after next tracker calls).max = tracker.max := by
  induction calls generalizing tracker with
  | nil => exact ⟨rfl, rfl⟩
  | cons made calls ih => cases made <;> exact ih _

end Tracker

namespace BackoffTracker

def after (tracker : BackoffTracker) (calls : List TrackerCall) : BackoffTracker :=
  Tracker.after (· + 1) tracker calls

theorem count_after (base max : Nat) (calls : List TrackerCall) (key : BackoffKey) :
    ((newBackoffTracker base max).after calls).count key = failuresSince key calls := by
  induction calls using List.reverseRecOn with
  | nil => rfl
  | append_singleton calls made ih =>
    rw [failuresSince_concat, ← ih, ← Tracker.count_call (· + 1)]
    simp [after, Tracker.after]

end BackoffTracker

/-! ## Over words -/

namespace WordBackoff

abbrev BackoffTracker := Tracker Int

def newBackoffTracker (base max : Int) : BackoffTracker := ⟨base, max, ∅⟩

def delayLoop (max : Int) : Int → Nat → Int
  | d, 0 => if max < d then max else d
  | d, left + 1 =>
    let doubled := reduce 64 (d * 2)
    if max ≤ doubled then max else delayLoop max doubled left

/-- The products of the loop before they are reduced to words. -/
def products (max : Int) : Int → Nat → List Int
  | _, 0 => []
  | d, left + 1 =>
    let doubled := reduce 64 (d * 2)
    d * 2 :: if max ≤ doubled then [] else products max doubled left

namespace BackoffTracker

/-- The loop counts up from one to `n`. -/
def delayLocked (t : BackoffTracker) (n : Int) : Int :=
  delayLoop t.max t.base (n - 1).toNat

def failure (t : BackoffTracker) (rep : NamespacedName) (cluster : String) : Int × BackoffTracker :=
  let key : BackoffKey := ⟨rep, cluster⟩
  let n := reduce 64 (t.count key + 1)
  (t.delayLocked n, t.setCount rep cluster n)

def after (t : BackoffTracker) (calls : List TrackerCall) : BackoffTracker :=
  Tracker.after (fun n => reduce 64 (n + 1)) t calls

end BackoffTracker

/-! ## The words hold the numbers -/

/-- The counters of the words are those of the numbers, reduced. -/
def Simulates (t : BackoffTracker) (ideal : K8sR8r.BackoffTracker) : Prop :=
  ∀ key, t.count key = reduce 64 (ideal.count key)

theorem simulates_after (base max : Nat) (calls : List TrackerCall) :
    Simulates ((newBackoffTracker base max).after calls)
      ((K8sR8r.newBackoffTracker base max).after calls) := by
  induction calls using List.reverseRecOn with
  | nil =>
    intro key
    have hzero : reduce 64 ((0 : Nat) : Int) = 0 := by decide
    exact hzero.symm
  | append_singleton calls made ih =>
    intro key
    have hkey := ih key
    simp only [BackoffTracker.after, K8sR8r.BackoffTracker.after, Tracker.after,
      List.foldl_append, List.foldl_cons, List.foldl_nil] at hkey ⊢
    rw [Tracker.count_call, Tracker.count_call, hkey, reduce_add_one]
    split_ifs
    · rfl
    · push_cast
      rfl
    · rfl

/-- From a small delay the loop does what it does over natural numbers, and
every product is a word. -/
theorem delayLoop_eq {max d : Nat} (hmax : max ≤ 2 ^ 62) (hd : d < 2 ^ 62) (left : Nat) :
    delayLoop max d left = (K8sR8r.delayLoop max d left : Int) ∧
      ∀ product ∈ products max d left, InRange 64 product := by
  induction left generalizing d with
  | zero =>
    unfold delayLoop K8sR8r.delayLoop products
    refine ⟨?_, by simp⟩
    split_ifs <;> omega
  | succ left ih =>
    have hrange : InRange 64 ((d : Int) * 2) := by
      constructor <;> omega
    have hreduce : reduce 64 ((d : Int) * 2) = ((d * 2 : Nat) : Int) := by
      rw [reduce_of_inRange hrange]
      push_cast
      rfl
    rw [delayLoop, K8sR8r.delayLoop, products, hreduce]
    by_cases hcap : max ≤ d * 2
    · have hword : (max : Int) ≤ ((d * 2 : Nat) : Int) := by omega
      rw [if_pos hcap, if_pos hword, if_pos hword]
      exact ⟨rfl, by simpa using hrange⟩
    · have hword : ¬ (max : Int) ≤ ((d * 2 : Nat) : Int) := by omega
      obtain ⟨hloop, hproducts⟩ := ih (show d * 2 < 2 ^ 62 by omega)
      rw [if_neg hcap, if_neg hword, if_neg hword]
      refine ⟨hloop, fun product hmem => ?_⟩
      rcases List.mem_cons.mp hmem with hfirst | hlater
      · rw [hfirst]
        exact hrange
      · exact hproducts product hlater

section Streaks

variable {base max : Nat} {calls : List TrackerCall} {rep : NamespacedName} {cluster : String}

theorem counter_inRange (hshort : failuresSince ⟨rep, cluster⟩ calls + 1 < 2 ^ 63) :
    InRange 64 ((failuresSince ⟨rep, cluster⟩ calls + 1 : Nat) : Int) := by
  constructor <;> omega

theorem count_after (hshort : failuresSince ⟨rep, cluster⟩ calls + 1 < 2 ^ 63) :
    ((newBackoffTracker base max).after calls).count ⟨rep, cluster⟩ =
      (failuresSince ⟨rep, cluster⟩ calls : Int) := by
  have hrange : InRange 64 (failuresSince ⟨rep, cluster⟩ calls : Int) := by
    constructor <;> omega
  rw [simulates_after base max calls, K8sR8r.BackoffTracker.count_after, reduce_of_inRange hrange]

theorem failure_eq (hbase : base < 2 ^ 62) (hmax : max ≤ 2 ^ 62)
    (hshort : failuresSince ⟨rep, cluster⟩ calls + 1 < 2 ^ 63) :
    (((newBackoffTracker base max).after calls).failure rep cluster).1 =
      min ((base : Int) * 2 ^ failuresSince ⟨rep, cluster⟩ calls) max := by
  have hsettings := Tracker.after_settings (fun n => reduce 64 (n + 1))
    (newBackoffTracker base max) calls
  have hcounter := reduce_of_inRange (counter_inRange hshort)
  have hloop := (delayLoop_eq hmax hbase (failuresSince ⟨rep, cluster⟩ calls)).1
  push_cast at hcounter
  unfold BackoffTracker.failure BackoffTracker.delayLocked
  dsimp only
  rw [count_after hshort, hcounter, BackoffTracker.after, hsettings.1, hsettings.2,
    add_sub_cancel_right, Int.toNat_natCast]
  refine hloop.trans ?_
  rw [K8sR8r.delayLoop_eq]
  push_cast
  rfl

end Streaks

/-- With a base delay below `2 ^ 62`, and while its streak is one that the
counter can count, a failure of a pair is answered with the base doubled once
for every earlier failure of the streak, up to the maximum; calls about other
pairs do not matter, and neither a product nor the counter overflows. -/
theorem failure_closed_form {base max : Int}
    (hbase : 0 < base)
    (hsmall : base < 2 ^ 62)
    (hmax : 0 < max)
    (hle : max ≤ 2 ^ 62)
    (calls : List TrackerCall) (rep : NamespacedName) (cluster : String)
    (hshort : failuresSince ⟨rep, cluster⟩ calls + 1 < 2 ^ 63) :
    let key : BackoffKey := ⟨rep, cluster⟩
    let start := newBackoffTracker base max
    let k := failuresSince key calls + 1
    ((start.after calls).failure rep cluster).1 = min (base * 2 ^ (k - 1)) max ∧
    ((start.after (calls.filter (TrackerCall.concerns key))).failure rep cluster).1 =
      ((start.after calls).failure rep cluster).1 ∧
    InRange 64 ((start.after calls).count key + 1) ∧
    ∀ product ∈ products max base (k - 1), InRange 64 product := by
  intro key start k
  lift base to Nat using hbase.le
  lift max to Nat using hmax.le
  have hbase : base < 2 ^ 62 := by omega
  have hmax : max ≤ 2 ^ 62 := by omega
  have hcalls := failure_eq hbase hmax hshort
  have hfiltered : failuresSince key (calls.filter (TrackerCall.concerns key)) + 1 < 2 ^ 63 := by
    rw [failuresSince_filter]
    exact hshort
  refine ⟨hcalls, ?_, ?_, (delayLoop_eq hmax hbase _).2⟩
  · rw [failure_eq hbase hmax hfiltered, failuresSince_filter]
    exact hcalls.symm
  · rw [count_after hshort]
    exact counter_inRange hshort

/-- Other pairs fail and succeed in between; the third failure of a streak. -/
theorem failure_closed_form_sample :
    let east : NamespacedName := ⟨"apps", "web"⟩
    let start := newBackoffTracker 5 300
    let calls : List TrackerCall :=
      [.failure east "one", .success east "one", .failure east "one", .failure east "two",
        .forget ⟨"apps", "db"⟩, .failure east "one", .success east "two"]
    failuresSince ⟨east, "one"⟩ calls = 2 ∧ ((start.after calls).failure east "one").1 = 20 := by
  intro east start calls
  have hclosed := failure_closed_form (show (0 : Int) < 5 by decide)
    (by decide) (show (0 : Int) < 300 by decide) (by decide) calls east "one"
    (by decide)
  exact ⟨by decide, hclosed.1⟩

/-- A base delay of `2 ^ 62`: the second failure doubles it out of 64 bits, and
the negative result is returned. -/
theorem doubled_base_overflows :
    let east : NamespacedName := ⟨"apps", "web"⟩
    let start := newBackoffTracker (2 ^ 62) (2 ^ 62)
    let calls : List TrackerCall := [.failure east "one"]
    ((start.after calls).failure east "one").1 = -2 ^ 63 ∧
    min ((2 : Int) ^ 62 * 2 ^ (2 - 1)) (2 ^ 62) = 2 ^ 62 ∧
    ¬ ∀ product ∈ products (2 ^ 62) (2 ^ 62) 1, InRange 64 product := by
  decide +kernel

end WordBackoff

end K8sR8r
