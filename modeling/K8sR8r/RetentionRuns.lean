import K8sR8r.ReplicaRetention

/-!
# Retained replicas along whole runs

Two questions about a replica whose target lost its permission: whether Retain
survives the request controller, which takes denied targets out of the spec,
and whether a replica that was retained once stays retained.  Both come down to
the same invariant of the two controllers; what differs is where the run
starts.
-/

namespace K8sR8r

open Interaction

/-- What stands when a run of both controllers starts. -/
structure Stake.Starts (stake : Stake) (fleet : Fleet) : Prop extends stake.Stands fleet where
  requested : ∃ source,
    fleet.hub.sources stake.gvk stake.source = some source ∧
      Stake.Requested source

/-! ## A sample replica -/

def Fleet.withPolicies (fleet : Fleet) (policies : PolicyList) : Fleet :=
  { fleet with hub := { fleet.hub with policies := policies } }

namespace Sample

def retainPolicy : ReplicationPolicy :=
  { policy with options := ⟨false, [], some .retain⟩ }

def granting : PolicyList := ⟨[retainPolicy], by decide⟩

def moved : PolicyList :=
  ⟨[{ retainPolicy with targets := ⟨⟨∅, []⟩, ["other"]⟩ }], by decide⟩

def kindless : PolicyList :=
  ⟨[{ retainPolicy with sources := ⟨["team"], none, []⟩ }], by decide⟩

def stake (policies : PolicyList) : Stake where
  sight := ⟨policies, ∅, fleet.records.lookupRecord⟩
  gvk := configMapGVK
  source := ⟨"team", "settings"⟩
  nn := key
  uid := replication.uid
  slot := slot

def reconciled (start : Fleet) : Fleet :=
  (execute Fleet.handle (reconcile engine key) start).final

def changed (policies : PolicyList) : Fleet :=
  (reconciled (fleet.withPolicies granting)).withPolicies policies

theorem record_unique {name : String} {record : ClusterRecord}
    (hlookup : fleet.records.lookup name = some record) :
    record = recordFromCluster cluster := by
  have hrecords : fleet.records =
      (∅ : ClusterRecords).insert cluster.key (recordFromCluster cluster) :=
    rfl
  rw [hrecords] at hlookup
  by_cases hname : name = cluster.key
  · rw [hname, Finmap.lookup_insert] at hlookup
    exact (Option.some.inj hlookup).symm
  · rw [Finmap.lookup_insert_of_ne _ hname, Finmap.lookup_empty] at hlookup
    cases hlookup

theorem fleet_shows (policies : PolicyList) :
    (fleet.withPolicies policies).Shows (stake policies).sight "team" where
  policies := rfl
  labels := rfl
  inventory := by
    intro name found hfound
    refine hfound.unique ?_ (ClusterRecords.finds_lookupRecord _ _)
    intro first second record other hfirst hsecond _
    rw [record_unique hfirst, record_unique hsecond]

theorem changed_shows {start : Fleet} {before : PolicyList} (policies : PolicyList)
    (shows : start.Shows (stake before).sight "team") :
    (start.withPolicies policies).Shows (stake policies).sight "team" :=
  ⟨rfl, shows.labels, shows.inventory⟩

theorem reconciled_shows {start : Fleet} {policies : PolicyList}
    (shows : start.Shows (stake policies).sight "team") :
    (reconciled start).Shows (stake policies).sight "team" := by
  have hpreserved : ∀ (world : Fleet) (call : EngineCall),
      world.Shows (stake policies).sight "team" →
        (world.handle call).2.Shows (stake policies).sight "team" :=
    fun world call h =>
      h.answers (Fleet.answers_handle (fun _ => True) world call)
  exact execute_invariant hpreserved _ shows

theorem reconciled_consistent {start : Fleet} (consistent : start.hub.Consistent) :
    (reconciled start).hub.Consistent :=
  Fleet.execute_consistent _ consistent

theorem withPolicies_consistent {start : Fleet} (policies : PolicyList)
    (consistent : start.hub.Consistent) :
    (start.withPolicies policies).hub.Consistent :=
  ⟨consistent.key, consistent.version, consistent.sourceVersion⟩

theorem changed_consistent (policies : PolicyList) : (changed policies).hub.Consistent :=
  withPolicies_consistent policies (reconciled_consistent
    (withPolicies_consistent granting hub_consistent))

theorem changed_starts (policies : PolicyList) : (stake policies).Starts (changed policies) where
  shows := changed_shows policies (reconciled_shows (fleet_shows granting))
  consistent := changed_consistent policies
  stored := by
    have hstored : ∃ rep ∈ (reconciled (fleet.withPolicies granting)).hub.replications key,
          (stake granting).Records rep := by
      decide +kernel
    obtain ⟨rep, hrep, hrecords⟩ := hstored
    exact ⟨rep, hrep, hrecords.uid, hrecords.live, hrecords.refers, hrecords.recorded⟩
  requested := by
    have hrequested : ∃ source ∈ (reconciled (fleet.withPolicies granting)).hub.sources configMapGVK
          ⟨"team", "settings"⟩, Stake.Requested source := by
      decide +kernel
    exact hrequested

/-! Executed runs -/

def readKey : EngineCall → Option NamespacedName
  | .hub (.getReplication key) => some key
  | _ => none

def deletedSlot : EngineCall → Option SlotKey
  | .transportDelete cluster gvk key => some (slotOf cluster gvk key)
  | _ => none

theorem deletedSlot_eq_some {call : EngineCall} {slot : SlotKey}
    (hdeleted : deletedSlot call = some slot) :
    ∃ cluster gvk key, call = .transportDelete cluster gvk key ∧ slotOf cluster gvk key = slot := by
  cases call with
  | transportDelete cluster gvk key => exact ⟨cluster, gvk, key, rfl, Option.some.inj hdeleted⟩
  | _ => cases hdeleted

variable {policies : PolicyList} {reads : Replication → Prop} {start : Fleet}
  {used : Option RequestConfig}

theorem engine_answered (policies : PolicyList)
    (hreads : ∀ exchange ∈ (execute Fleet.handle (reconcile engine key)
        start).trace, ∀ key ∈ readKey exchange.request,
      ∀ rep ∈ exchange.before.hub.replications key, reads rep) :
    Answered (((stake policies).readingSystem engine used reads).semantics
      .engine) (execute Fleet.handle (reconcile engine key) start).trace := by
  refine Answered.restrict (execute_answered ?_ _ _) ?_
  · intro world call
    exact Fleet.answers_handle (· ≠ .hub (.getNamespaceLabels "team")) world call
  intro exchange hmem
  have hexchange := hreads exchange hmem
  unfold Stake.readsOnly
  split
  · next hcall =>
      intro rep hrep
      rw [hcall] at hexchange
      exact hexchange _ rfl rep hrep
  · trivial

theorem reconciled_reachable (used : Option RequestConfig) (policies : PolicyList)
    (reads : Replication → Prop) (start : Fleet)
    (hreads : ∀ exchange ∈ (execute Fleet.handle (reconcile engine key)
        start).trace, ∀ key ∈ readKey exchange.request,
      ∀ rep ∈ exchange.before.hub.replications key, reads rep) :
    ((stake policies).readingSystem engine used reads).Reachable
      (System.idle start) (System.idle (reconciled start)) :=
  System.reachable_execute_idle _ Controller.engine rfl (engine_answered policies hreads)

theorem deleting_reachable (policies : PolicyList) (reads : Replication → Prop) (start : Fleet)
    (hreads : ∀ exchange ∈ (execute Fleet.handle (reconcile engine key)
        start).trace, ∀ key ∈ readKey exchange.request,
      ∀ rep ∈ exchange.before.hub.replications key, reads rep)
    (hdeletes : ∃ exchange ∈ (execute Fleet.handle (reconcile engine key)
        start).trace, deletedSlot exchange.request = some slot) :
    ∃ state,
      ((stake policies).readingSystem engine used reads).Reachable (System.idle start) state ∧
      (stake policies).Deleting state := by
  obtain ⟨exchange, hmem, hslot⟩ := hdeletes
  obtain ⟨cluster, gvk, key, hcall, hslot⟩ := deletedSlot_eq_some hslot
  obtain ⟨state, hreach, _, next, hwaiting⟩ :=
    System.reachable_idle_exchange ((stake policies).readingSystem engine
      used reads) .engine rfl (engine_answered policies hreads) hmem hcall
  exact ⟨state, hreach, cluster, gvk, key, next, hwaiting, hslot⟩

def materialized (start : Fleet) : Fleet :=
  (execute Fleet.handleRequest (reconcileRequest request ⟨"team", "settings"⟩) start).final

theorem materialized_reachable :
    ((stake policies).readingSystem engine (some request) reads).Reachable
      (System.idle start) (System.idle (materialized start)) := by
  refine System.reachable_execute_idle _ Controller.request ⟨_, rfl, rfl⟩
    (Answered.restrict (execute_answered ?_ _ _) fun _ _ => trivial)
  exact fun world call => Fleet.answersRole_handleRole world .request call

end Sample

namespace Stake

variable {stake : Stake}

theorem Starts.kept {request : RequestConfig} {fleet : Fleet} (starts : stake.Starts fleet)
    (memory : RetainsTarget ((fleet.lastResults stake.uid).getD ⟨[]⟩)
      stake.sight.policies.items stake.policySource stake.slot.cluster
      stake.slot.ns) : stake.Kept (some request) fleet :=
  ⟨starts.toStands, fun _ => starts.requested, memory⟩

/-! ## A change of policies -/

/-- The policies `before` granted the target; every one of them still exists,
still matches the source and asks to retain, but none permits the target any
more. -/
structure Withdrawn (stake : Stake) (before : PolicyList) : Prop where
  granted : ∃ policy ∈ before.items, policy.Permits stake.policySource
    (stake.sight.target stake.slot.cluster stake.slot.ns)
  survives : ∀ policy ∈ before.items, policy.Permits stake.policySource
    (stake.sight.target stake.slot.cluster stake.slot.ns) →
      ∃ now ∈ stake.sight.policies.items, now.name = policy.name ∧
        now.MatchesSource stake.policySource ∧ now.Retains
  denied : ¬ stake.sight.Permits stake.policySource stake.slot.cluster
    stake.slot.ns

theorem Withdrawn.revoked {before : PolicyList} (withdrawn : stake.Withdrawn before) :
    stake.Revoked := by
  obtain ⟨policy, hmem, hpermits⟩ := withdrawn.granted
  obtain ⟨now, hnow, _, hsource, hretains⟩ :=
    withdrawn.survives policy hmem hpermits
  exact ⟨withdrawn.denied, now, hnow, hsource, hretains⟩

/-- If the engine remembers an allowed target, the policies of `before` had
allowed it. -/
def RemembersGrant (stake : Stake) (before : PolicyList) (prev : PolicyResult) : Prop :=
  ∀ dec ∈ prev.decisions, dec.isFor stake.slot.cluster stake.slot.ns = true → dec.allowed = true →
      dec.matchedPolicies = (decideTarget stake.policySource
        (stake.sight.target stake.slot.cluster stake.slot.ns)
        before.items).matchedPolicies

theorem Withdrawn.retainsTarget {before : PolicyList} {prev : PolicyResult}
    (withdrawn : stake.Withdrawn before) (remembers : stake.RemembersGrant before prev) :
    RetainsTarget prev stake.sight.policies.items stake.policySource
      stake.slot.cluster stake.slot.ns := by
  by_cases hdenies : prev.Denies stake.slot.cluster stake.slot.ns
  · exact .inr ⟨hdenies, withdrawn.revoked.retained⟩
  · unfold PolicyResult.Denies at hdenies
    push Not at hdenies
    obtain ⟨dec, hdec, hfor, hallowed⟩ := hdenies
    have hallowed : dec.allowed = true := by simpa using hallowed
    refine .inl ⟨dec, hdec, hfor, hallowed, .inl ?_⟩
    -- The policies that granted the target have survived.
    obtain ⟨policy, hmem, hpermits⟩ := withdrawn.granted
    obtain ⟨now, hnow, hname, _, hretains⟩ :=
      withdrawn.survives policy hmem hpermits
    refine ⟨now, hnow, ?_, hretains⟩
    rw [remembers dec hdec hfor hallowed, mem_matchedPolicies_iff]
    exact ⟨policy, hmem, hpermits, hname.symm⟩

/-- Retain survives a change of policies in every run in which the engine,
whenever it reads the Replication, still finds the target in the spec. -/
theorem retained_across_controllers (config : EngineConfig) {request : RequestConfig}
    (hkind : request.gvk = stake.gvk)
    {before : PolicyList}
    (withdrawn : stake.Withdrawn before)
    {start : Fleet}
    (starts : stake.Starts start)
    (remembers : stake.RemembersGrant before ((start.lastResults stake.uid).getD ⟨[]⟩))
    {state : PlaneState}
    (reach : (stake.readingSystem config (some request) fun rep =>
      Selects rep.spec.resolvedTargets stake.slot.cluster stake.slot.ns).Reachable
      (System.idle start) state) :
    (∃ rep,
      state.world.hub.replications stake.nn = some rep ∧
      Recorded rep.status.inventory stake.slot) ∧
    ¬ stake.Deleting state := by
  have hgvk : ∀ used ∈ some request, used.gvk = stake.gvk := by
    rintro used ⟨⟩
    exact hkind
  exact kept_reachable hgvk withdrawn.revoked (fun _ h => h)
    (starts.kept (withdrawn.retainsTarget remembers)) reach

open Sample

theorem sample_withdrawn : (Sample.stake moved).Withdrawn granting where
  granted := by decide +kernel
  survives := by decide +kernel
  denied := by decide +kernel

theorem sample_remembers : (Sample.stake moved).RemembersGrant granting
      (((changed moved).lastResults (Sample.stake moved).uid).getD ⟨[]⟩) := by
  unfold RemembersGrant
  decide +kernel

theorem retained_across_controllers_sample :
    ∃ rep,
      (reconciled (changed moved)).hub.replications key = some rep ∧
      Recorded rep.status.inventory Sample.slot := by
  have hreach := reconciled_reachable (some request) moved
    (fun rep => Selects rep.spec.resolvedTargets "east" "app")
    (changed moved) (by decide +kernel)
  exact (retained_across_controllers engine rfl sample_withdrawn
    (changed_starts _) sample_remembers hreach).1

/-- Once the request controller has taken the denied target out of the spec,
the engine collects the replica. -/
theorem retained_target_dropped :
    (Sample.stake moved).Withdrawn granting ∧
    (Sample.stake moved).Starts (changed moved) ∧
    (Sample.stake moved).RemembersGrant granting
      (((changed moved).lastResults (Sample.stake moved).uid).getD ⟨[]⟩) ∧
    ∃ state,
      ((Sample.stake moved).readingSystem engine (some request) fun _ => True).Reachable
        (System.idle (changed moved)) state ∧
      (Sample.stake moved).Deleting state := by
  refine ⟨sample_withdrawn, changed_starts _, sample_remembers, ?_⟩
  obtain ⟨state, hreach, hdeleting⟩ := deleting_reachable moved (fun _ => True)
    (materialized (changed moved))
    (fun _ _ _ _ _ _ => trivial) (by decide +kernel)
  exact ⟨state, materialized_reachable.trans hreach, hdeleting⟩

/-! ## Later reconciles -/

/-- A reconcile of `rep` has retained the slot, and its evaluation is
remembered or lost. -/
structure Retained (stake : Stake) (rep : Replication) (start : Fleet) :
    Prop where
  refers : stake.Refers rep.spec
  retained : ∃ prev sourceName,
    stake.slot ∈ (stake.sight.outcome prev rep sourceName).retained ∧
      (start.lastResults stake.uid =
          some (stake.sight.result rep sourceName) ∨
        start.lastResults stake.uid = none)

/-- A retained replica stays retained in every run of the engine in which the
spec keeps its targets, as long as some policy that matches the source asks to
retain. -/
theorem retained_stays_retained (config : EngineConfig) {rep : Replication} {start : Fleet}
    (stands : stake.Stands start)
    (retained : stake.Retained rep start)
    (source : RetainedBySource stake.sight.policies.items stake.policySource)
    {state : PlaneState}
    (reach : (stake.readingSystem config none fun now =>
      now.spec.resolvedTargets = rep.spec.resolvedTargets).Reachable (System.idle start) state) :
    (∃ rep,
      state.world.hub.replications stake.nn = some rep ∧
      Recorded rep.status.inventory stake.slot) ∧
    ¬ stake.Deleting state := by
  obtain ⟨prev, sourceName, hmem, hmemory⟩ := retained.retained
  have hdenied := (stake.sight.not_permits_of_mem_retained rep sourceName hmem).2
  obtain ⟨_, dec, hdec, hfor, _⟩ := denied_of_mem_retained hmem
  have hselects : Selects rep.spec.resolvedTargets stake.slot.cluster
      stake.slot.ns :=
    (stake.sight.exists_decision_iff rep sourceName _ _).mp ⟨dec, hdec, hfor⟩
  have hresult := stake.sight.denies_of_not_permits rep sourceName hdenied
  rw [source_eq_of_refers retained.refers] at hdenied
  refine kept_reachable (by simp) ⟨hdenied, source⟩ ?_
    ⟨stands, by simp, .inr ⟨?_, source⟩⟩ reach
  · intro now hnow
    rw [hnow]
    exact hselects
  · rcases hmemory with hstored | hlost
    · rw [hstored]
      exact hresult
    · rw [hlost]
      simp [PolicyResult.Denies]

theorem sample_stands (policies : PolicyList) (stored : ∃ rep ∈ (reconciled
      (changed policies)).hub.replications key, (Sample.stake policies).Records rep) :
    (Sample.stake policies).Stands (reconciled (changed policies)) :=
  ⟨reconciled_shows (changed_starts policies).shows,
    reconciled_consistent (changed_consistent policies), stored⟩

def sampleRead : Replication :=
  ((reconciled (fleet.withPolicies
    granting)).hub.replications key).getD replication

theorem sample_retained (policies : PolicyList)
    (retained : Sample.slot ∈ ((Sample.stake policies).sight.outcome
      ((changed policies).lastResults replication.uid)
      sampleRead "settings").retained)
    (remembered : (reconciled (changed policies)).lastResults replication.uid =
        some ((Sample.stake policies).sight.result sampleRead "settings")) :
    (Sample.stake policies).Retained sampleRead (reconciled (changed policies)) where
  refers := by
    have hrefers : sampleRead.spec.sourceRef.kind = "ConfigMap" ∧
        sampleRead.spec.sourceRef.ns = "team" := by
      decide +kernel
    exact hrefers
  retained := ⟨_, "settings", retained, .inl remembered⟩

theorem retained_stays_retained_sample :
    ∃ rep,
      (reconciled (reconciled (changed moved))).hub.replications key = some rep ∧
      Recorded rep.status.inventory Sample.slot := by
  have hstands := sample_stands moved (by decide +kernel)
  have hretained := sample_retained moved (by decide +kernel)
    (by decide +kernel)
  have hreach := reconciled_reachable none moved
    (fun now => now.spec.resolvedTargets = sampleRead.spec.resolvedTargets)
    (reconciled (changed moved)) (by decide +kernel)
  generalize reconciled (reconciled (changed moved)) = final at hreach ⊢
  exact (retained_stays_retained engine hstands hretained (by decide +kernel) hreach).1

/-- When the kind was withdrawn, the reconcile after the one that retained the
replica deletes it. -/
theorem retained_then_deleted :
    (Sample.stake kindless).Stands (reconciled (changed kindless)) ∧
    (Sample.stake kindless).Retained sampleRead (reconciled (changed kindless)) ∧
    ∃ state,
      ((Sample.stake kindless).readingSystem engine none fun now =>
        now.spec.resolvedTargets = sampleRead.spec.resolvedTargets).Reachable
        (System.idle (reconciled (changed kindless))) state ∧
      (Sample.stake kindless).Deleting state := by
  refine ⟨sample_stands _ (by decide +kernel),
    sample_retained _ (by decide +kernel) (by decide +kernel), ?_⟩
  exact deleting_reachable kindless
    (fun now => now.spec.resolvedTargets = sampleRead.spec.resolvedTargets)
    (reconciled (changed kindless))
    (by decide +kernel) (by decide +kernel)

end Stake

end K8sR8r
