import K8sR8r.KubernetesObjects
import K8sR8r.StepMachine

/-!
# The drift detector

`internal/engine/drift.go`.  Installing a watch checks, attaches the handler
and marks in three steps of which only the first and the last hold the lock;
ClusterReady and ClusterGone may replace the cluster's cache in between.  A
step is one critical section, one GetInformer or one AddEventHandler.
-/

namespace K8sR8r

namespace DriftDetector

/-- An install on its way: the watch it is about, the kinds that follow for
the same cluster, and the clusters after it. -/
structure Job where
  cluster : String
  cache : Nat
  gvk : GroupVersionKind
  gvks : List GroupVersionKind
  rest : List (String × Nat)
  deriving DecidableEq

inductive CallState where
  | idle
  | collect (rest : List (String × Nat))
  | check (job : Job)
  | informer (job : Job)
  | attach (job : Job)
  | mark (job : Job)
  deriving DecidableEq

/-- The detector with its calls, and the number of drift handlers that each
cache has for each kind. -/
structure Detector where
  started : Bool
  clusters : Finmap fun _ : String => Nat
  watched : Finmap fun _ : String => Finset GroupVersionKind
  gvks : Finset GroupVersionKind
  handlers : Nat → GroupVersionKind → Nat
  calls : Nat → CallState

def resume : List (String × Nat) → CallState
  | [] => .idle
  | rest => .collect rest

/-- The next install of the loops in `installAll` and Start. -/
def Job.next (job : Job) : CallState :=
  match job.gvks with
  | gvk :: gvks => .check { job with gvk := gvk, gvks := gvks }
  | [] => resume job.rest

namespace Detector

def initial : Detector where
  started := false
  clusters := ∅
  watched := ∅
  gvks := ∅
  handlers := fun _ _ => 0
  calls := fun _ => .idle

def setCall (d : Detector) (thread : Nat) (call : CallState) : Detector :=
  { d with calls := Function.update d.calls thread call }

/-- `watched[cluster]`; the kinds of a missing cluster read as none. -/
def watchedAt (d : Detector) (cluster : String) : Finset GroupVersionKind :=
  (d.watched.lookup cluster).getD ∅

/-- The clusters with their caches, as Start copies them. -/
def pending (d : Detector) : List (String × Nat) :=
  d.clusters.sortedKeys.filterMap fun name =>
    (d.clusters.lookup name).map fun cache => (name, cache)

def start (d : Detector) (thread : Nat) (order : List (String × Nat)) :
    Detector :=
  { d.setCall thread (resume order) with started := true }

def clusterReady (d : Detector) (thread : Nat) (name : String) (cache : Nat) :
    Detector :=
  { d.setCall thread (if d.started then .collect [(name, cache)] else .idle)
    with
    clusters := d.clusters.insert name cache
    watched := d.watched.insert name ∅ }

def clusterGone (d : Detector) (name : String) : Detector :=
  { d with
    clusters := d.clusters.erase name
    watched := d.watched.erase name }

def ensureWatch (d : Detector) (thread : Nat) (cluster : String) (gvk : GroupVersionKind) :
    Detector :=
  let known := { d with gvks := insert gvk d.gvks }
  match d.clusters.lookup cluster with
  | none => known
  | some cache =>
    if d.started = false ∨ gvk ∈ d.watchedAt cluster then known
    else known.setCall thread (.check ⟨cluster, cache, gvk, [], []⟩)

/-- The last critical section of `install`. -/
def recordWatch (d : Detector) (job : Job) : Detector :=
  match d.watched.lookup job.cluster with
  | none => d
  | some kinds =>
    { d with
      watched := d.watched.insert job.cluster (insert job.gvk kinds) }

def addHandler (d : Detector) (job : Job) : Detector :=
  { d with
    handlers := Function.update d.handlers job.cache (Function.update (d.handlers job.cache) job.gvk
        (d.handlers job.cache job.gvk + 1)) }

end Detector

/-- Map iterations come in any order. -/
inductive Action where
  | start (thread : Nat) (order : List (String × Nat))
  | clusterReady (thread : Nat) (name : String) (cache : Nat)
  | clusterGone (name : String)
  | ensureWatch (thread : Nat) (cluster : String) (gvk : GroupVersionKind)
  | collect (thread : Nat) (order : List GroupVersionKind)
  | check (thread : Nat)
  | getInformer (thread : Nat) (succeeds : Bool)
  | addEventHandler (thread : Nat) (succeeds : Bool)
  | mark (thread : Nat)

namespace Detector

/-- `install` looks whether the detector runs and the watch is missing. -/
def checkWatch (d : Detector) (job : Job) : CallState :=
  if d.started = false ∨ job.gvk ∈ d.watchedAt job.cluster then job.next
  else .informer job

def step (d : Detector) : Action → Option Detector
  | .start thread order =>
    if d.calls thread = .idle ∧ order.Perm d.pending then
      some (d.start thread order)
    else none
  | .clusterReady thread name cache =>
    if d.calls thread = .idle then some (d.clusterReady thread name cache)
    else none
  | .clusterGone name => some (d.clusterGone name)
  | .ensureWatch thread cluster gvk =>
    if d.calls thread = .idle then some (d.ensureWatch thread cluster gvk)
    else none
  | .collect thread order =>
    match d.calls thread with
    | .collect ((name, cache) :: rest) =>
      if order.Nodup ∧ order.toFinset = d.gvks then
        match order with
        | [] => some (d.setCall thread (resume rest))
        | gvk :: gvks =>
          some (d.setCall thread (.check ⟨name, cache, gvk, gvks, rest⟩))
      else none
    | _ => none
  | .check thread =>
    match d.calls thread with
    | .check job => some (d.setCall thread (d.checkWatch job))
    | _ => none
  | .getInformer thread succeeds =>
    match d.calls thread with
    | .informer job =>
      some (d.setCall thread (if succeeds then .attach job else job.next))
    | _ => none
  | .addEventHandler thread succeeds =>
    match d.calls thread with
    | .attach job =>
      if succeeds then some ((d.addHandler job).setCall thread (.mark job))
      else some (d.setCall thread job.next)
    | _ => none
  | .mark thread =>
    match d.calls thread with
    | .mark job => some ((d.recordWatch job).setCall thread job.next)
    | _ => none

/-- Every recorded watch has its one handler on the cache that is stored for
the cluster. -/
def Truthful (d : Detector) : Prop :=
  ∀ cluster gvk, gvk ∈ d.watchedAt cluster → ∃ cache, d.clusters.lookup cluster = some cache ∧
      d.handlers cache gvk = 1

end Detector

/-! ## Orderly schedules -/

/-- The install is about the watch, or will be. -/
def Job.Engages (job : Job) (cluster : String) (gvk : GroupVersionKind) :
    Prop :=
  job.cluster = cluster ∧ (gvk = job.gvk ∨ gvk ∈ job.gvks) ∨ cluster ∈ job.rest.map Prod.fst

/-- The call is about the watch, or may come to be. -/
def CallState.Engages (cluster : String) (gvk : GroupVersionKind) : CallState → Prop
  | .idle => False
  | .collect rest => cluster ∈ rest.map Prod.fst
  | .check job => job.Engages cluster gvk
  | .informer job => job.Engages cluster gvk
  | .attach job => job.Engages cluster gvk
  | .mark job => job.Engages cluster gvk

/-- The call installs, or will install, on the cache of the cluster. -/
def CallState.Targets (cluster : String) (cache : Nat) : CallState → Prop
  | .idle => False
  | .collect rest => (cluster, cache) ∈ rest
  | .check job => (cluster, cache) ∈ (job.cluster, job.cache) :: job.rest
  | .informer job => (cluster, cache) ∈ (job.cluster, job.cache) :: job.rest
  | .attach job => (cluster, cache) ∈ (job.cluster, job.cache) :: job.rest
  | .mark job => (cluster, cache) ∈ (job.cluster, job.cache) :: job.rest

namespace Detector

/-- No call is about a watch of the cluster. -/
def Unengaged (d : Detector) (cluster : String) : Prop :=
  ∀ thread gvk, ¬ (d.calls thread).Engages cluster gvk

/-- Installs of one watch do not overlap, a cluster's cache does not change
under an install, and every cache that is announced is a new one. -/
def Orderly (d : Detector) : Action → Prop
  | .start _ _ => ∀ cluster cache,
      d.clusters.lookup cluster = some cache → d.Unengaged cluster
  | .clusterReady _ name cache =>
    d.Unengaged name ∧ (∀ gvk, d.handlers cache gvk = 0) ∧
      ∀ cluster, d.clusters.lookup cluster ≠ some cache
  | .clusterGone name => d.Unengaged name
  | .ensureWatch _ cluster gvk =>
    ∀ thread, ¬ (d.calls thread).Engages cluster gvk
  | _ => True

/-- Installs work on stored caches and have their watches to themselves; a
handler is there when and only when its watch is recorded or about to be. -/
structure Sound (d : Detector) : Prop where
  domain : ∀ cluster, d.clusters.lookup cluster = none →
    d.watched.lookup cluster = none
  recorded : ∀ cluster cache, d.clusters.lookup cluster = some cache →
    (d.watched.lookup cluster).isSome = true
  distinct : ∀ first second cache,
    d.clusters.lookup first = some cache →
      d.clusters.lookup second = some cache → first = second
  targets : ∀ thread cluster cache,
    (d.calls thread).Targets cluster cache →
      d.clusters.lookup cluster = some cache
  alone : ∀ first second cluster gvk,
    (d.calls first).Engages cluster gvk →
      (d.calls second).Engages cluster gvk → first = second
  marked : ∀ cluster cache gvk, d.clusters.lookup cluster = some cache →
    gvk ∈ d.watchedAt cluster → d.handlers cache gvk = 1
  unmarked : ∀ cluster cache gvk, d.clusters.lookup cluster = some cache →
    gvk ∉ d.watchedAt cluster → d.handlers cache gvk = 0 ∨
      ∃ thread job, d.calls thread = .mark job ∧ job.cluster = cluster ∧
        job.gvk = gvk
  marking : ∀ thread job, d.calls thread = .mark job →
    d.handlers job.cache job.gvk = 1
  checked : ∀ thread job,
    d.calls thread = .informer job ∨ d.calls thread = .attach job →
      job.gvk ∉ d.watchedAt job.cluster

variable {d next : Detector} {thread : Nat}

theorem sound_initial : initial.Sound where
  domain := fun _ _ => Finmap.lookup_empty _
  recorded := fun _ _ h => by simp [initial] at h
  distinct := fun _ _ _ h => by simp [initial] at h
  targets := fun _ _ _ h => h.elim
  alone := fun _ _ _ _ h => h.elim
  marked := fun _ _ _ h => by simp [initial] at h
  unmarked := fun _ _ _ h => by simp [initial] at h
  marking := fun _ _ h => nomatch h
  checked := fun _ _ h => by rcases h with h | h <;> cases h

theorem Sound.truthful (sound : d.Sound) : d.Truthful := by
  intro cluster gvk hwatched
  cases hcluster : d.clusters.lookup cluster with
  | none =>
    rw [watchedAt, sound.domain cluster hcluster] at hwatched
    simp at hwatched
  | some cache =>
    exact ⟨cache, rfl, sound.marked cluster cache gvk hcluster hwatched⟩

/-! ## Steps of one call -/

variable {call : CallState} {rest : List (String × Nat)} {cluster name : String}
  {gvk : GroupVersionKind} {cache : Nat} {job : Job}

theorem calls_setCall_of_ne {other : Nat} (hne : other ≠ thread) :
    (d.setCall thread call).calls other = d.calls other :=
  Function.update_of_ne hne _ _

@[simp] theorem calls_setCall_self : (d.setCall thread call).calls thread = call :=
  Function.update_self _ _ _

theorem Sound.setCall (sound : d.Sound)
    (hengages : ∀ cluster gvk, call.Engages cluster gvk →
      ∀ other, other ≠ thread → ¬ (d.calls other).Engages cluster gvk)
    (htargets : ∀ cluster cache, call.Targets cluster cache →
      d.clusters.lookup cluster = some cache) (hmark : ∀ job, call ≠ .mark job)
    (hchecked : ∀ job, call = .informer job ∨ call = .attach job →
      job.gvk ∉ d.watchedAt job.cluster)
    (hleft : ∀ job, d.calls thread = .mark job → job.gvk ∈ d.watchedAt job.cluster) :
    (d.setCall thread call).Sound := by
  refine ⟨sound.domain, sound.recorded, sound.distinct, ?_, ?_, sound.marked, ?_, ?_, ?_⟩
  · intro other cluster cache hother
    by_cases hthread : other = thread
    · subst hthread
      rw [calls_setCall_self] at hother
      exact htargets cluster cache hother
    · rw [calls_setCall_of_ne hthread] at hother
      exact sound.targets other cluster cache hother
  · intro first second cluster gvk hfirst hsecond
    by_cases hone : first = thread
    · by_cases htwo : second = thread
      · rw [hone, htwo]
      · rw [hone, calls_setCall_self] at hfirst
        rw [calls_setCall_of_ne htwo] at hsecond
        exact (hengages cluster gvk hfirst second htwo hsecond).elim
    · rw [calls_setCall_of_ne hone] at hfirst
      by_cases htwo : second = thread
      · rw [htwo, calls_setCall_self] at hsecond
        exact (hengages cluster gvk hsecond first hone hfirst).elim
      · rw [calls_setCall_of_ne htwo] at hsecond
        exact sound.alone first second cluster gvk hfirst hsecond
  · intro cluster cache gvk hcluster hunwatched
    rcases sound.unmarked cluster cache gvk hcluster hunwatched with
      hzero | ⟨other, job, hother, hjob, hgvk⟩
    · exact .inl hzero
    · by_cases hthread : other = thread
      · rw [hthread] at hother
        have hwatched := hleft job hother
        rw [hjob, hgvk] at hwatched
        exact (hunwatched hwatched).elim
      · refine .inr ⟨other, job, ?_, hjob, hgvk⟩
        rw [calls_setCall_of_ne hthread]
        exact hother
  · intro other job hother
    by_cases hthread : other = thread
    · rw [hthread, calls_setCall_self] at hother
      exact (hmark job hother).elim
    · rw [calls_setCall_of_ne hthread] at hother
      exact sound.marking other job hother
  · intro other job hother
    by_cases hthread : other = thread
    · rw [hthread, calls_setCall_self] at hother
      exact hchecked job hother
    · rw [calls_setCall_of_ne hthread] at hother
      exact sound.checked other job hother

theorem engages_resume (hengages : (resume rest).Engages cluster gvk) :
    cluster ∈ rest.map Prod.fst := by
  cases rest with
  | nil => exact hengages.elim
  | cons head tail => exact hengages

theorem targets_resume (htargets : (resume rest).Targets cluster cache) :
    (cluster, cache) ∈ rest := by
  cases rest with
  | nil => exact htargets.elim
  | cons head tail => exact htargets

theorem engages_next (hengages : job.next.Engages cluster gvk) : job.Engages cluster gvk := by
  unfold Job.next at hengages
  split at hengages
  case h_1 head tail hgvks =>
      rcases hengages with ⟨hcluster, hgvk⟩ | hrest
      · refine .inl ⟨hcluster, .inr ?_⟩
        rw [hgvks]
        rcases hgvk with rfl | hgvk
        · exact List.mem_cons_self
        · exact List.mem_cons_of_mem _ hgvk
      · exact .inr hrest
  case h_2 => exact .inr (engages_resume hengages)

theorem targets_next (htargets : job.next.Targets cluster cache) :
    (cluster, cache) ∈ (job.cluster, job.cache) :: job.rest := by
  unfold Job.next at htargets
  split at htargets
  case h_1 => exact htargets
  case h_2 => exact List.mem_cons_of_mem _ (targets_resume htargets)

theorem resume_cases (rest : List (String × Nat)) :
    resume rest = .idle ∨ resume rest = .collect rest := by
  cases rest with
  | nil => exact .inl rfl
  | cons head tail => exact .inr rfl

theorem next_fresh (job : Job) : (∀ other, job.next ≠ .mark other) ∧
      ∀ other, ¬ (job.next = .informer other ∨ job.next = .attach other) := by
  unfold Job.next
  split
  case h_1 => simp
  case h_2 =>
      rcases resume_cases job.rest with hrest | hrest <;> simp [hrest]

theorem Sound.proceed (sound : d.Sound)
    (hengages : ∀ cluster gvk, call.Engages cluster gvk → (d.calls thread).Engages cluster gvk)
    (htargets : ∀ cluster cache, call.Targets cluster cache →
      (d.calls thread).Targets cluster cache) (hmark : ∀ job, call ≠ .mark job)
    (hchecked : ∀ job, call = .informer job ∨ call = .attach job →
      job.gvk ∉ d.watchedAt job.cluster)
    (hleft : ∀ job, d.calls thread = .mark job → job.gvk ∈ d.watchedAt job.cluster) :
    (d.setCall thread call).Sound := by
  refine sound.setCall ?_ ?_ hmark hchecked hleft
  · intro cluster gvk hnext other hne hother
    exact hne (sound.alone other thread cluster gvk hother (hengages cluster gvk hnext))
  · intro cluster cache hnext
    exact sound.targets thread cluster cache (htargets cluster cache hnext)

/-- The loop goes on after an install that marked nothing, or whose watch is
recorded. -/
theorem Sound.moveOn (sound : d.Sound)
    (hcall : d.calls thread = .check job ∨ d.calls thread = .informer job ∨
      d.calls thread = .attach job ∨ d.calls thread = .mark job)
    (hleft : d.calls thread = .mark job → job.gvk ∈ d.watchedAt job.cluster) :
    (d.setCall thread job.next).Sound := by
  obtain ⟨hmark, hchecked⟩ := next_fresh job
  refine sound.proceed ?_ ?_ hmark (fun other h => (hchecked other h).elim) ?_
  · intro cluster gvk hnext
    have hjob := engages_next hnext
    rcases hcall with hcall | hcall | hcall | hcall <;> rw [hcall] <;>
      exact hjob
  · intro cluster cache hnext
    have hjob := targets_next hnext
    rcases hcall with hcall | hcall | hcall | hcall <;> rw [hcall] <;>
      exact hjob
  · intro other hother
    rcases hcall with hcall | hcall | hcall | hcall
    all_goals
      rw [hcall] at hother
      cases hother
    exact hleft hcall

theorem Sound.collect (sound : d.Sound)
    (hcall : d.calls thread = .collect ((name, cache) :: rest))
    (hcases : call = resume rest ∨ ∃ gvk gvks, call = .check ⟨name, cache, gvk, gvks, rest⟩) :
    (d.setCall thread call).Sound := by
  refine sound.proceed ?_ ?_ ?_ ?_ ?_
  · intro cluster gvk hengages
    rw [hcall]
    rcases hcases with rfl | ⟨head, tail, rfl⟩
    · exact List.mem_cons_of_mem _ (engages_resume hengages)
    · rcases hengages with ⟨rfl, _⟩ | hrest
      · exact List.mem_cons_self
      · exact List.mem_cons_of_mem _ hrest
  · intro cluster other htargets
    rw [hcall]
    rcases hcases with rfl | ⟨head, tail, rfl⟩
    · exact List.mem_cons_of_mem _ (targets_resume htargets)
    · exact htargets
  · rcases hcases with rfl | ⟨head, tail, rfl⟩
    · rcases resume_cases rest with hrest | hrest <;> simp [hrest]
    · simp
  · rcases hcases with rfl | ⟨head, tail, rfl⟩
    · rcases resume_cases rest with hrest | hrest <;> simp [hrest]
    · simp
  · intro job hjob
    rw [hcall] at hjob
    cases hjob

/-! ## Attaching and marking -/

theorem handlers_addHandler (job : Job) (cache : Nat) (gvk : GroupVersionKind) :
    (d.addHandler job).handlers cache gvk =
      if cache = job.cache ∧ gvk = job.gvk then
        d.handlers job.cache job.gvk + 1
      else d.handlers cache gvk := by
  unfold addHandler
  dsimp only
  by_cases hcache : cache = job.cache
  · subst hcache
    rw [Function.update_self]
    by_cases hgvk : gvk = job.gvk
    · simp [hgvk]
    · simp [hgvk]
  · rw [Function.update_of_ne hcache, if_neg fun h => hcache h.1]

theorem Sound.attached (sound : d.Sound) (hcall : d.calls thread = .attach job) :
    ((d.addHandler job).setCall thread (.mark job)).Sound := by
  have hcluster : d.clusters.lookup job.cluster = some job.cache := by
    apply sound.targets thread
    rw [hcall]
    exact List.mem_cons_self
  have hengages : (d.calls thread).Engages job.cluster job.gvk := by
    rw [hcall]
    exact .inl ⟨rfl, .inl rfl⟩
  have hunwatched : job.gvk ∉ d.watchedAt job.cluster :=
    sound.checked thread job (.inr hcall)
  have hzero : d.handlers job.cache job.gvk = 0 := by
    rcases sound.unmarked _ _ _ hcluster hunwatched with
      hzero | ⟨other, marking, hother, hjob, hgvk⟩
    · exact hzero
    · have hsame : other = thread := by
        refine sound.alone other thread job.cluster job.gvk ?_ hengages
        rw [hother]
        exact .inl ⟨hjob, .inl hgvk.symm⟩
      rw [hsame, hcall] at hother
      cases hother
  have hhandlers : ∀ cache gvk, ((d.addHandler job).setCall thread (.mark job)).handlers cache gvk =
        if cache = job.cache ∧ gvk = job.gvk then 1
        else d.handlers cache gvk := by
    intro cache gvk
    have hadded := handlers_addHandler (d := d) job cache gvk
    rw [hzero] at hadded
    exact hadded
  have hcalls : ∀ other, other ≠ thread →
      ((d.addHandler job).setCall thread (.mark job)).calls other =
        d.calls other := fun other hne => Function.update_of_ne hne _ _
  have hself : ((d.addHandler job).setCall thread (.mark job)).calls thread =
      .mark job := Function.update_self _ _ _
  -- The call is about the same watches as before.
  have hsameEngages : ∀ other cluster gvk,
      (((d.addHandler job).setCall thread (.mark job)).calls other).Engages
          cluster gvk → (d.calls other).Engages cluster gvk := by
    intro other cluster gvk hother
    by_cases hthread : other = thread
    · rw [hthread, hself] at hother
      rw [hthread, hcall]
      exact hother
    · rwa [hcalls other hthread] at hother
  refine ⟨sound.domain, sound.recorded, sound.distinct, ?_, ?_, ?_, ?_, ?_, ?_⟩
  · intro other cluster cache hother
    by_cases hthread : other = thread
    · rw [hthread, hself] at hother
      apply sound.targets thread
      rw [hcall]
      exact hother
    · rw [hcalls other hthread] at hother
      exact sound.targets other cluster cache hother
  · intro first second cluster gvk hfirst hsecond
    exact sound.alone first second cluster gvk (hsameEngages first cluster gvk hfirst)
      (hsameEngages second cluster gvk hsecond)
  · intro cluster cache gvk hlookup hwatched
    rw [hhandlers]
    split_ifs
    · rfl
    · exact sound.marked cluster cache gvk hlookup hwatched
  · intro cluster cache gvk hlookup hnot
    rw [hhandlers]
    by_cases hsame : cache = job.cache ∧ gvk = job.gvk
    · obtain ⟨rfl, rfl⟩ := hsame
      exact .inr ⟨thread, job, hself, sound.distinct _ _ _ hcluster hlookup, rfl⟩
    · rw [if_neg hsame]
      rcases sound.unmarked cluster cache gvk hlookup hnot with
        hzero | ⟨other, marking, hother, hjob, hgvk⟩
      · exact .inl hzero
      · have hthread : other ≠ thread := by
          rintro rfl
          rw [hcall] at hother
          cases hother
        refine .inr ⟨other, marking, ?_, hjob, hgvk⟩
        rw [hcalls other hthread]
        exact hother
  · intro other marking hother
    rw [hhandlers]
    by_cases hthread : other = thread
    · rw [hthread, hself] at hother
      cases hother
      rw [if_pos ⟨rfl, rfl⟩]
    · rw [hcalls other hthread] at hother
      split_ifs
      · rfl
      · exact sound.marking other marking hother
  · intro other checking hother
    by_cases hthread : other = thread
    · rw [hthread, hself] at hother
      rcases hother with hother | hother <;> cases hother
    · rw [hcalls other hthread] at hother
      exact sound.checked other checking hother

theorem Sound.recordWatch (sound : d.Sound) (hcall : d.calls thread = .mark job) :
    (d.recordWatch job).Sound ∧ job.gvk ∈ (d.recordWatch job).watchedAt job.cluster := by
  have hcluster : d.clusters.lookup job.cluster = some job.cache := by
    apply sound.targets thread
    rw [hcall]
    exact List.mem_cons_self
  obtain ⟨kinds, hkinds⟩ :=
    Option.isSome_iff_exists.mp (sound.recorded _ _ hcluster)
  have hrecord : d.recordWatch job =
      { d with
        watched := d.watched.insert job.cluster (insert job.gvk kinds) } := by
    simp only [Detector.recordWatch, hkinds]
  have hat : ∀ cluster, (d.recordWatch job).watchedAt cluster =
      if cluster = job.cluster then insert job.gvk kinds
      else d.watchedAt cluster := by
    intro cluster
    rw [hrecord]
    unfold watchedAt
    dsimp only
    rw [Finmap.lookup_insert_eq]
    split_ifs <;> rfl
  have hbefore : d.watchedAt job.cluster = kinds := by
    rw [watchedAt, hkinds, Option.getD_some]
  -- Beyond the new mark, what is watched is what was watched.
  have hmem : ∀ cluster gvk, gvk ∈ (d.recordWatch job).watchedAt cluster ↔
      gvk ∈ d.watchedAt cluster ∨ cluster = job.cluster ∧ gvk = job.gvk := by
    intro cluster gvk
    rw [hat]
    by_cases hsame : cluster = job.cluster
    · rw [if_pos hsame, hsame, hbefore, Finset.mem_insert, or_comm]
      simp
    · rw [if_neg hsame]
      simp [hsame]
  refine ⟨?_, (hmem _ _).mpr (.inr ⟨rfl, rfl⟩)⟩
  have hengages : (d.calls thread).Engages job.cluster job.gvk := by
    rw [hcall]
    exact .inl ⟨rfl, .inl rfl⟩
  have hclusters : (d.recordWatch job).clusters = d.clusters := by
    rw [hrecord]
  have hcalls : (d.recordWatch job).calls = d.calls := by rw [hrecord]
  have hhandlers : (d.recordWatch job).handlers = d.handlers := by
    rw [hrecord]
  constructor
  · intro cluster hnone
    rw [hclusters] at hnone
    have hne : cluster ≠ job.cluster := by
      rintro rfl
      rw [hcluster] at hnone
      cases hnone
    rw [hrecord]
    exact (Finmap.lookup_insert_of_ne _ hne).trans (sound.domain _ hnone)
  · intro cluster cache hlookup
    rw [hclusters] at hlookup
    rw [hrecord]
    dsimp only
    rw [Finmap.lookup_insert_eq]
    split_ifs
    · rfl
    · exact sound.recorded cluster cache hlookup
  · rw [hclusters]
    exact sound.distinct
  · rw [hcalls, hclusters]
    exact sound.targets
  · rw [hcalls]
    exact sound.alone
  · intro cluster cache gvk hlookup hwatched
    rw [hclusters] at hlookup
    rw [hhandlers]
    rcases (hmem cluster gvk).mp hwatched with hold | ⟨rfl, rfl⟩
    · exact sound.marked cluster cache gvk hlookup hold
    · obtain rfl : job.cache = cache :=
        Option.some.inj (hcluster.symm.trans hlookup)
      exact sound.marking thread job hcall
  · intro cluster cache gvk hlookup hnot
    rw [hclusters] at hlookup
    rw [hhandlers, hcalls]
    exact sound.unmarked cluster cache gvk hlookup
      fun hold => hnot ((hmem cluster gvk).mpr (.inl hold))
  · rw [hcalls, hhandlers]
    exact sound.marking
  · intro other checking hother hwatched
    rw [hcalls] at hother
    rcases (hmem _ _).mp hwatched with hold | ⟨hjob, hgvk⟩
    · exact sound.checked other checking hother hold
    · have hother' : (d.calls other).Engages job.cluster job.gvk := by
        rcases hother with hother | hother
        all_goals
          rw [hother]
          exact .inl ⟨hjob, .inl hgvk.symm⟩
      have hsame := sound.alone other thread _ _ hother' hengages
      rw [hsame, hcall] at hother
      rcases hother with hother | hother <;> cases hother

/-! ## Clusters that come and go -/

theorem engages_of_targets (htargets : call.Targets cluster cache) :
    ∃ gvk, call.Engages cluster gvk := by
  have hjob : ∀ job : Job, (cluster, cache) ∈ (job.cluster, job.cache) :: job.rest →
        job.Engages cluster job.gvk := by
    intro job hmem
    rcases List.mem_cons.mp hmem with heq | hrest
    · exact .inl ⟨(congrArg Prod.fst heq).symm, .inl rfl⟩
    · exact .inr (List.mem_map_of_mem hrest)
  cases call with
  | idle => exact htargets.elim
  | collect rest => exact ⟨⟨"", "", ""⟩, List.mem_map_of_mem htargets⟩
  | _ => exact ⟨_, hjob _ htargets⟩

theorem Unengaged.not_targets (hfree : d.Unengaged name) (other : Nat)
    (htargets : (d.calls other).Targets cluster cache) :
    cluster ≠ name := by
  rintro rfl
  obtain ⟨gvk, hengages⟩ := engages_of_targets htargets
  exact hfree other gvk hengages

/-- The cluster is stored with no watches, or not stored at all, while no call
is about it. -/
theorem Sound.replace (sound : d.Sound) (hfree : d.Unengaged name)
    {clusters : Finmap fun _ : String => Nat}
    {watched : Finmap fun _ : String => Finset GroupVersionKind}
    (hclusters : ∀ other, other ≠ name → clusters.lookup other = d.clusters.lookup other)
    (hwatched : ∀ other, other ≠ name → watched.lookup other = d.watched.lookup other)
    (hname : clusters.lookup name = none ∧ watched.lookup name = none ∨
      ∃ cache, clusters.lookup name = some cache ∧ watched.lookup name = some ∅ ∧
        (∀ gvk, d.handlers cache gvk = 0) ∧
        ∀ cluster, d.clusters.lookup cluster ≠ some cache) :
    ({ d with clusters := clusters, watched := watched } : Detector).Sound := by
  have hat : ∀ other, other ≠ name → ({ d with clusters := clusters, watched := watched } :
        Detector).watchedAt other = d.watchedAt other := by
    intro other hne
    unfold watchedAt
    rw [hwatched other hne]
  have hnone : ({ d with clusters := clusters, watched := watched } :
      Detector).watchedAt name = ∅ := by
    unfold watchedAt
    rcases hname with ⟨_, hlookup⟩ | ⟨_, _, hlookup, _⟩
    · rw [hlookup, Option.getD_none]
    · rw [hlookup, Option.getD_some]
  constructor
  · intro cluster hcluster
    by_cases hne : cluster = name
    · subst hne
      rcases hname with ⟨_, hlookup⟩ | ⟨cache, hlookup, _⟩
      · exact hlookup
      · rw [hlookup] at hcluster
        cases hcluster
    · rw [hclusters cluster hne] at hcluster
      exact (hwatched cluster hne).trans (sound.domain cluster hcluster)
  · intro cluster cache hcluster
    by_cases hne : cluster = name
    · subst hne
      rcases hname with ⟨hlookup, _⟩ | ⟨_, _, hlookup, _⟩
      · rw [hlookup] at hcluster
        cases hcluster
      · dsimp only
        rw [hlookup]
        rfl
    · dsimp only
      rw [hclusters cluster hne] at hcluster
      rw [hwatched cluster hne]
      exact sound.recorded cluster cache hcluster
  · -- A cache that was stored before is not the one stored now.
    have hother : ∀ cluster cache, clusters.lookup name = some cache →
        clusters.lookup cluster = some cache → cluster = name := by
      intro cluster cache hcache hcluster
      by_contra hne
      rw [hclusters cluster hne] at hcluster
      rcases hname with ⟨hlookup, _⟩ | ⟨_, hlookup, _, _, hnew⟩
      · rw [hlookup] at hcache
        cases hcache
      · rw [hlookup] at hcache
        cases hcache
        exact hnew cluster hcluster
    intro first second cache hfirst hsecond
    by_cases hone : first = name
    · rw [hone] at hfirst ⊢
      exact (hother second cache hfirst hsecond).symm
    · by_cases htwo : second = name
      · rw [htwo] at hsecond ⊢
        exact hother first cache hsecond hfirst
      · dsimp only at hfirst hsecond
        rw [hclusters first hone] at hfirst
        rw [hclusters second htwo] at hsecond
        exact sound.distinct first second cache hfirst hsecond
  · intro other cluster cache hother
    exact (hclusters cluster (hfree.not_targets other hother)).trans
      (sound.targets other cluster cache hother)
  · exact sound.alone
  · intro cluster cache gvk hcluster hmem
    by_cases hne : cluster = name
    · rw [hne, hnone] at hmem
      simp at hmem
    · dsimp only at hcluster
      rw [hclusters cluster hne] at hcluster
      rw [hat cluster hne] at hmem
      exact sound.marked cluster cache gvk hcluster hmem
  · intro cluster cache gvk hcluster hmem
    by_cases hne : cluster = name
    · subst hne
      rcases hname with ⟨hlookup, _⟩ | ⟨_, hlookup, _, hzero, _⟩
      · dsimp only at hcluster
        rw [hlookup] at hcluster
        cases hcluster
      · dsimp only at hcluster
        rw [hlookup] at hcluster
        cases hcluster
        exact .inl (hzero gvk)
    · dsimp only at hcluster
      rw [hclusters cluster hne] at hcluster
      rw [hat cluster hne] at hmem
      exact sound.unmarked cluster cache gvk hcluster hmem
  · exact sound.marking
  · intro other job hother
    have htargets : (d.calls other).Targets job.cluster job.cache := by
      rcases hother with hother | hother
      all_goals
        change d.calls other = _ at hother
        rw [hother]
        exact List.mem_cons_self
    rw [hat job.cluster (hfree.not_targets other htargets)]
    exact sound.checked other job hother

theorem Sound.clusterReady (sound : d.Sound) (hcall : d.calls thread = .idle)
    (hfree : d.Unengaged name) (hzero : ∀ gvk, d.handlers cache gvk = 0)
    (hnew : ∀ cluster, d.clusters.lookup cluster ≠ some cache) :
    (d.clusterReady thread name cache).Sound := by
  have hstored : ({ d with
      clusters := d.clusters.insert name cache
      watched := d.watched.insert name ∅ } : Detector).Sound :=
    sound.replace hfree (fun _ hne => Finmap.lookup_insert_of_ne _ hne)
      (fun _ hne => Finmap.lookup_insert_of_ne _ hne)
      (.inr ⟨cache, Finmap.lookup_insert _, Finmap.lookup_insert _, hzero, hnew⟩)
  refine hstored.setCall ?_ ?_ ?_ ?_ ?_
  · intro cluster gvk hengages other _ hother
    split_ifs at hengages
    · obtain rfl : cluster = name := by
        simpa [CallState.Engages] using hengages
      exact hfree other gvk hother
    · exact hengages.elim
  · intro cluster other htargets
    split_ifs at htargets
    · obtain ⟨rfl, rfl⟩ : cluster = name ∧ other = cache := by
        simpa [CallState.Targets] using htargets
      exact Finmap.lookup_insert _
    · exact htargets.elim
  · intro job
    split_ifs <;> simp
  · intro job hjob
    split_ifs at hjob <;> simp at hjob
  · intro job hjob
    change d.calls thread = _ at hjob
    rw [hcall] at hjob
    cases hjob

theorem Sound.clusterGone (sound : d.Sound) (hfree : d.Unengaged name) :
    (d.clusterGone name).Sound :=
  sound.replace hfree (fun _ hne => Finmap.lookup_erase_ne hne)
    (fun _ hne => Finmap.lookup_erase_ne hne)
    (.inl ⟨Finmap.lookup_erase _ _, Finmap.lookup_erase _ _⟩)

theorem Sound.of_eq (sound : d.Sound) (started : Bool) (gvks : Finset GroupVersionKind) :
    ({ d with started := started, gvks := gvks } : Detector).Sound :=
  ⟨sound.domain, sound.recorded, sound.distinct, sound.targets, sound.alone,
    sound.marked, sound.unmarked, sound.marking, sound.checked⟩

theorem Sound.ensureWatch (sound : d.Sound) (hcall : d.calls thread = .idle)
    (hfree : ∀ other, ¬ (d.calls other).Engages cluster gvk) :
    (d.ensureWatch thread cluster gvk).Sound := by
  have hknown : ({ d with gvks := insert gvk d.gvks } : Detector).Sound :=
    sound.of_eq _ _
  unfold Detector.ensureWatch
  dsimp only
  split
  case h_1 => exact hknown
  case h_2 cache hcache =>
      split_ifs
      · exact hknown
      · refine hknown.setCall ?_ ?_ (by simp) (by simp) ?_
        · intro other kind hengages holder _ hholder
          obtain ⟨rfl, rfl⟩ : cluster = other ∧ kind = gvk := by
            simpa [CallState.Engages, Job.Engages] using hengages
          exact hfree holder hholder
        · intro other store htargets
          obtain ⟨rfl, rfl⟩ : other = cluster ∧ store = cache := by
            simpa [CallState.Targets] using htargets
          exact hcache
        · intro job hjob
          change d.calls thread = _ at hjob
          rw [hcall] at hjob
          cases hjob

theorem mem_pending_iff : (name, cache) ∈ d.pending ↔ d.clusters.lookup name = some cache := by
  unfold pending
  rw [List.mem_filterMap]
  constructor
  · rintro ⟨other, _, hother⟩
    obtain ⟨store, hstore, heq⟩ := Option.map_eq_some_iff.mp hother
    obtain ⟨rfl, rfl⟩ := Prod.mk.inj heq
    exact hstore
  · intro hlookup
    exact ⟨name, Finmap.mem_sortedKeys_of_lookup hlookup, by rw [hlookup]; rfl⟩

theorem Sound.start (sound : d.Sound) {order : List (String × Nat)}
    (hcall : d.calls thread = .idle) (horder : order.Perm d.pending)
    (hfree : ∀ cluster cache, d.clusters.lookup cluster = some cache → d.Unengaged cluster) :
    (d.start thread order).Sound := by
  have hstored : ∀ name cache, (name, cache) ∈ order →
      d.clusters.lookup name = some cache := fun name cache hmem =>
    mem_pending_iff.mp (horder.subset hmem)
  have hset : (d.setCall thread (resume order)).Sound := by
    refine sound.setCall ?_ ?_ ?_ ?_ ?_
    · intro cluster gvk hengages other _ hother
      obtain ⟨⟨name, cache⟩, hmem, rfl⟩ :=
        List.mem_map.mp (engages_resume hengages)
      exact hfree name cache (hstored name cache hmem) other gvk hother
    · intro cluster cache htargets
      exact hstored cluster cache (targets_resume htargets)
    · rcases resume_cases order with horder | horder <;> simp [horder]
    · rcases resume_cases order with horder | horder <;> simp [horder]
    · intro job hjob
      rw [hcall] at hjob
      cases hjob
  exact hset.of_eq _ _

/-! ## Whole runs -/

theorem Sound.step (sound : d.Sound) {action : Action} (orderly : d.Orderly action)
    (hstep : d.step action = some next) : next.Sound := by
  cases action with
  | start thread order =>
    simp only [Detector.step] at hstep
    split_ifs at hstep with hguard
    cases hstep
    exact sound.start hguard.1 hguard.2 orderly
  | clusterReady thread name cache =>
    simp only [Detector.step] at hstep
    split_ifs at hstep with hcall
    cases hstep
    exact sound.clusterReady hcall orderly.1 orderly.2.1 orderly.2.2
  | clusterGone name =>
    cases hstep
    exact sound.clusterGone orderly
  | ensureWatch thread cluster gvk =>
    simp only [Detector.step] at hstep
    split_ifs at hstep with hcall
    cases hstep
    exact sound.ensureWatch hcall orderly
  | collect thread order =>
    simp only [Detector.step] at hstep
    split at hstep
    case h_1 name cache rest hcall =>
        split_ifs at hstep
        split at hstep
        case h_1 =>
            cases hstep
            exact sound.collect hcall (.inl rfl)
        case h_2 =>
            cases hstep
            exact sound.collect hcall (.inr ⟨_, _, rfl⟩)
    case h_2 => cases hstep
  | check thread =>
    simp only [Detector.step] at hstep
    split at hstep
    case h_1 job hcall =>
        cases hstep
        unfold checkWatch
        split_ifs with hskip
        · refine sound.moveOn (.inl hcall) fun hmark => ?_
          rw [hcall] at hmark
          cases hmark
        · rw [not_or] at hskip
          refine sound.proceed ?_ ?_ (by simp) ?_ ?_
          · rw [hcall]
            exact fun _ _ h => h
          · rw [hcall]
            exact fun _ _ h => h
          · rintro other (hother | hother)
            · cases hother
              exact hskip.2
            · cases hother
          · intro other hother
            rw [hcall] at hother
            cases hother
    case h_2 => cases hstep
  | getInformer thread succeeds =>
    simp only [Detector.step] at hstep
    split at hstep
    case h_1 job hcall =>
        cases hstep
        split_ifs
        · refine sound.proceed ?_ ?_ (by simp) ?_ ?_
          · rw [hcall]
            exact fun _ _ h => h
          · rw [hcall]
            exact fun _ _ h => h
          · rintro other (hother | hother)
            · cases hother
            · cases hother
              exact sound.checked thread job (.inl hcall)
          · intro other hother
            rw [hcall] at hother
            cases hother
        · refine sound.moveOn (.inr (.inl hcall)) fun hmark => ?_
          rw [hcall] at hmark
          cases hmark
    case h_2 => cases hstep
  | addEventHandler thread succeeds =>
    simp only [Detector.step] at hstep
    split at hstep
    case h_1 job hcall =>
        split_ifs at hstep
        · cases hstep
          exact sound.attached hcall
        · cases hstep
          refine sound.moveOn (.inr (.inr (.inl hcall))) fun hmark => ?_
          rw [hcall] at hmark
          cases hmark
    case h_2 => cases hstep
  | mark thread =>
    simp only [Detector.step] at hstep
    split at hstep
    case h_1 job hcall =>
        cases hstep
        obtain ⟨hrecorded, hwatched⟩ := sound.recordWatch hcall
        have hkept : (d.recordWatch job).calls thread = .mark job := by
          rw [← hcall, Detector.recordWatch]
          split <;> rfl
        exact hrecorded.moveOn (.inr (.inr (.inr hkept))) fun _ => hwatched
    case h_2 => cases hstep

/-- As long as installs of one watch do not overlap, no cache is replaced
under an install and no cache is announced twice, every recorded watch has
exactly one handler on the stored cache. -/
theorem watches_recorded_truthfully {schedule : List Action}
    (orderly : StepMachine.Along step Orderly initial schedule)
    (hrun : StepMachine.run step initial schedule = some d) :
    d.Truthful :=
  (StepMachine.run_invariant (fun sound horderly => sound.step horderly)
    sound_initial orderly hrun).truthful

end Detector

namespace Sample

def secrets : GroupVersionKind := ⟨"", "v1", "Secret"⟩

def connected : List Action :=
  [.start 0 [], .clusterReady 0 "east" 0, .collect 0 []]

def watching : List Action :=
  connected ++ [.ensureWatch 0 "east" secrets, .check 0, .getInformer 0 true,
    .addEventHandler 0 true, .mark 0]

/-- The cluster comes back with another cache while a watch is being
installed on the first. -/
def replaced : List Action :=
  connected ++ [.ensureWatch 0 "east" secrets, .check 0, .getInformer 0 true,
    .addEventHandler 0 true, .clusterReady 1 "east" 1, .mark 0,
    .collect 1 [secrets], .check 1]

end Sample

namespace Detector

theorem not_engages_of_idle {d : Detector} (hidle : ∀ thread, d.calls thread = .idle)
    (thread : Nat) (cluster : String) (gvk : GroupVersionKind) :
    ¬ (d.calls thread).Engages cluster gvk := by
  rw [hidle]
  exact fun h => h

theorem idle_update {calls : Nat → CallState} {thread : Nat}
    (hidle : ∀ other, other ≠ thread → calls other = .idle) (other : Nat) :
    Function.update calls thread .idle other = .idle := by
  by_cases hother : other = thread
  · rw [hother, Function.update_self]
  · rw [Function.update_of_ne hother]
    exact hidle other hother

theorem watches_recorded_truthfully_sample :
    ∃ d,
      StepMachine.run step initial Sample.watching = some d ∧
      Sample.secrets ∈ d.watchedAt "east" ∧
      d.Truthful := by
  have orderly : StepMachine.Along step Orderly initial Sample.watching := by
    refine ⟨?_, ?_⟩
    · intro cluster cache hcluster
      simp [initial] at hcluster
    rintro _ ⟨⟩
    refine ⟨⟨fun thread gvk => not_engages_of_idle
      (idle_update fun _ _ => rfl) thread "east" gvk, fun _ => rfl, ?_⟩, ?_⟩
    · intro cluster
      simp [initial, start, setCall]
    rintro _ ⟨⟩
    refine ⟨trivial, ?_⟩
    rintro _ ⟨⟩
    refine ⟨fun thread => not_engages_of_idle (idle_update ?_) thread "east" _, ?_⟩
    · intro other hother
      exact (Function.update_of_ne hother _ _).trans (Function.update_of_ne hother _ _)
    rintro _ ⟨⟩
    refine ⟨trivial, ?_⟩
    rintro _ ⟨⟩
    refine ⟨trivial, ?_⟩
    rintro _ ⟨⟩
    refine ⟨trivial, ?_⟩
    rintro _ ⟨⟩
    exact ⟨trivial, fun _ _ => trivial⟩
  obtain ⟨d, hrun, hmem⟩ : ∃ d, StepMachine.run step initial Sample.watching = some d ∧
        Sample.secrets ∈ d.watchedAt "east" := ⟨_, rfl, by decide +kernel⟩
  exact ⟨d, hrun, hmem, watches_recorded_truthfully orderly hrun⟩

/-- The mark is made for a cache that has no handler at all, and the install
on that cache then finds it made. -/
theorem mark_on_replaced_cache :
    ∃ d,
      StepMachine.run step initial Sample.replaced = some d ∧
      Sample.secrets ∈ d.watchedAt "east" ∧
      d.clusters.lookup "east" = some 1 ∧
      d.handlers 1 Sample.secrets = 0 ∧
      d.calls 0 = .idle ∧
      d.calls 1 = .idle :=
  ⟨_, rfl, by decide +kernel⟩

end Detector

end DriftDetector

end K8sR8r
