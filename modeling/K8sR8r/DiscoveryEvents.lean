import K8sR8r.ClusterDiscovery

/-!
# Discovery callbacks and the events they cause

The informer calls the provider back for every Cluster object that is added,
updated, resynced or deleted.  The provider keeps a record for each object and
tells its subscribers what changed.  Subscribers never disagree with the
record map.  The map itself agrees with the Cluster objects as long as no
update is mistaken for a repetition: the comparison reads a missing label as an
empty one.
-/

namespace K8sR8r

/-- What the informer reports; a tombstone carries the last known object. -/
inductive Callback where
  | add (cluster : ClusterObject)
  | update (cluster : ClusterObject)
  | delete (cluster : ClusterObject)
  | tombstone (cluster : ClusterObject)

/-- The record map and everything delivered so far. -/
structure Provider where
  records : ClusterRecords
  delivered : List DiscoveryEvent

namespace Provider

def emit (provider : Provider) (answer : ClusterRecords × Option DiscoveryEvent) : Provider :=
  ⟨answer.1, provider.delivered ++ answer.2.toList⟩

def handle (provider : Provider) : Callback → Provider
  | .add cluster => provider.emit (provider.records.upsert cluster)
  | .update cluster => provider.emit (provider.records.upsert cluster)
  | .delete cluster => provider.emit (provider.records.remove cluster.key)
  | .tombstone cluster => provider.emit (provider.records.remove cluster.key)

def after (history : List Callback) : Provider :=
  history.foldl handle ⟨∅, []⟩

end Provider

/-! ## What should be known -/

abbrev ClusterObjects := Finmap (fun _ : String => ClusterObject)

namespace Callback

def observe (objects : ClusterObjects) : Callback → ClusterObjects
  | .add cluster => objects.insert cluster.key cluster
  | .update cluster => objects.insert cluster.key cluster
  | .delete cluster => objects.erase cluster.key
  | .tombstone cluster => objects.erase cluster.key

def existing (history : List Callback) : ClusterObjects :=
  history.foldl observe ∅

end Callback

def Exact (objects : ClusterObjects) (records : ClusterRecords) : Prop :=
  ∀ key, records.lookup key = (objects.lookup key).map recordFromCluster

def ClusterRecord.key (record : ClusterRecord) : String :=
  record.credentialRef.ns ++ "/" ++ record.name

def DiscoveryEvent.deliver (view : ClusterRecords) : DiscoveryEvent → ClusterRecords
  | .register record => view.insert record.key record
  | .update record => view.insert record.key record
  | .deregister record => view.erase record.key

/-- Clusters are registered when unknown, and updated and deregistered when
known. -/
def DiscoveryEvent.Proper (view : ClusterRecords) : DiscoveryEvent → Prop
  | .register record => view.lookup record.key = none
  | .update record => (view.lookup record.key).isSome = true
  | .deregister record => (view.lookup record.key).isSome = true

def ProperlyDelivered : ClusterRecords → List DiscoveryEvent → Prop
  | _, [] => True
  | view, event :: rest =>
    event.Proper view ∧ ProperlyDelivered (event.deliver view) rest

/-- The records and the events agree with the objects. -/
structure InStep (history : List Callback) : Prop where
  records : Exact (Callback.existing history)
    (Provider.after history).records
  view : (Provider.after history).delivered.foldl DiscoveryEvent.deliver ∅ =
    (Provider.after history).records
  proper : ProperlyDelivered ∅ (Provider.after history).delivered

theorem properlyDelivered_append {view : ClusterRecords} {events : List DiscoveryEvent}
    {event : DiscoveryEvent} :
    ProperlyDelivered view (events ++ [event]) ↔ ProperlyDelivered view events ∧
        event.Proper (events.foldl DiscoveryEvent.deliver view) := by
  induction events generalizing view with
  | nil => simp [ProperlyDelivered]
  | cons head rest ih =>
    simp only [List.cons_append, ProperlyDelivered, ih, List.foldl_cons, and_assoc]

/-! ## Subscribers follow the record map -/

@[simp] theorem key_recordFromCluster (cluster : ClusterObject) :
    (recordFromCluster cluster).key = cluster.key := rfl

/-- Every record sits under its own key, and folding the events gives the
map. -/
structure Provider.Followed (provider : Provider) : Prop where
  keyed : ∀ key record, provider.records.lookup key = some record →
    record.key = key
  view : provider.delivered.foldl DiscoveryEvent.deliver ∅ =
    provider.records
  proper : ProperlyDelivered ∅ provider.delivered

namespace Provider

variable {provider : Provider}

section

variable (followed : provider.Followed)
include followed

theorem Followed.emit (event : DiscoveryEvent) (hproper : event.Proper provider.records)
    (hkeyed : ∀ key record, (event.deliver provider.records).lookup key = some record →
        record.key = key) :
    (provider.emit (event.deliver provider.records, some event)).Followed
    where
  keyed := hkeyed
  view := by
    unfold Provider.emit
    rw [Option.toList_some, List.foldl_append, followed.view]
    rfl
  proper := by
    unfold Provider.emit
    rw [Option.toList_some, properlyDelivered_append, followed.view]
    exact ⟨followed.proper, hproper⟩

theorem Followed.silent : (provider.emit (provider.records, none)).Followed := by
  have hsame : provider.emit (provider.records, none) = provider := by
    unfold Provider.emit
    rw [Option.toList_none, List.append_nil]
  rw [hsame]
  exact followed

theorem Followed.insert_keyed (cluster : ClusterObject) {key : String} {record : ClusterRecord}
    (hlookup : (provider.records.insert cluster.key
      (recordFromCluster cluster)).lookup key = some record) :
    record.key = key := by
  by_cases hkey : key = cluster.key
  · subst key
    rw [Finmap.lookup_insert, Option.some.injEq] at hlookup
    rw [← hlookup, key_recordFromCluster]
  · rw [Finmap.lookup_insert_of_ne _ hkey] at hlookup
    exact followed.keyed key record hlookup

theorem Followed.upsert (cluster : ClusterObject) :
    (provider.emit (provider.records.upsert cluster)).Followed := by
  unfold ClusterRecords.upsert
  dsimp only
  cases hlookup : provider.records.lookup cluster.key with
  | none =>
    exact followed.emit (.register (recordFromCluster cluster)) hlookup
      fun key record h => followed.insert_keyed cluster h
  | some prev =>
    dsimp only
    split_ifs
    · exact followed.silent
    · have hpresent : (provider.records.lookup cluster.key).isSome =
          true := by
        rw [hlookup]
        rfl
      exact followed.emit (.update (recordFromCluster cluster)) hpresent
        fun key record h => followed.insert_keyed cluster h

theorem Followed.remove (key : String) :
    (provider.emit (provider.records.remove key)).Followed := by
  unfold ClusterRecords.remove
  cases hlookup : provider.records.lookup key with
  | none => exact followed.silent
  | some record =>
    -- The event is keyed by the record, which sits under its own key.
    have hkey : ({ record with ready := false } : ClusterRecord).key = key :=
      followed.keyed key record hlookup
    have hdeliver : (DiscoveryEvent.deregister
        { record with ready := false }).deliver provider.records =
          provider.records.erase key :=
      congrArg provider.records.erase hkey
    dsimp only
    rw [← hdeliver]
    refine followed.emit _ ?_ ?_
    · change (provider.records.lookup _).isSome = true
      rw [hkey, hlookup]
      rfl
    · rw [hdeliver]
      intro other found hfound
      by_cases hother : other = key
      · rw [hother, Finmap.lookup_erase] at hfound
        cases hfound
      · rw [Finmap.lookup_erase_ne hother] at hfound
        exact followed.keyed other found hfound

theorem Followed.handle (callback : Callback) : (provider.handle callback).Followed := by
  cases callback with
  | add cluster => exact followed.upsert cluster
  | update cluster => exact followed.upsert cluster
  | delete cluster => exact followed.remove cluster.key
  | tombstone cluster => exact followed.remove cluster.key

end

theorem followed_after (history : List Callback) : (after history).Followed := by
  induction history using List.reverseRecOn with
  | nil =>
    refine ⟨fun key record h => ?_, rfl, trivial⟩
    have hempty : (∅ : ClusterRecords).lookup key = some record := h
    rw [Finmap.lookup_empty] at hempty
    cases hempty
  | append_singleton history callback ih =>
    unfold after
    rw [List.foldl_append]
    exact ih.handle callback

end Provider

/-! ## The comparison of records -/

/-- Two versions of a Cluster object that the change filter takes for one:
their labels differ, but there are as many of them, and every old label reads
the same in the new map, where a missing one reads as empty. -/
structure Confused (old new : ClusterObject) : Prop where
  ns : old.ns = new.ns
  name : old.name = new.name
  ready : controlPlaneReady old = controlPlaneReady new
  size : old.labels.entries.card = new.labels.entries.card
  reads : ∀ key value, old.labels.lookup key = some value →
    StringMap.get new.labels key = value
  labels : old.labels ≠ new.labels

theorem recordsEqual_iff (a b : ClusterRecord) :
    recordsEqual a b = true ↔
      a.name = b.name ∧
      a.ready = b.ready ∧
      a.credentialRef = b.credentialRef ∧
      a.labels.entries.card = b.labels.entries.card ∧
      ∀ key value, a.labels.lookup key = some value → StringMap.get b.labels key = value := by
  have hlabels : (a.labels.sortedKeys.all fun key =>
      StringMap.get b.labels key = StringMap.get a.labels key) = true ↔
        ∀ key value, a.labels.lookup key = some value → StringMap.get b.labels key = value := by
    rw [List.all_eq_true]
    constructor
    · intro hall key value hlookup
      have hkey := of_decide_eq_true (hall key (Finmap.mem_sortedKeys_of_lookup hlookup))
      rw [hkey, StringMap.get, hlookup]
      rfl
    · intro hreads key hmem
      obtain ⟨value, hlookup⟩ := Finmap.mem_sortedKeys_iff.mp hmem
      refine decide_eq_true ?_
      rw [hreads key value hlookup, StringMap.get, hlookup]
      rfl
  unfold recordsEqual
  simp only [Bool.and_eq_true, decide_eq_true_eq, hlabels, and_assoc]

theorem confused_iff (old new : ClusterObject) :
    Confused old new ↔
      recordsEqual (recordFromCluster old) (recordFromCluster new) = true ∧
      recordFromCluster old ≠ recordFromCluster new := by
  rw [recordsEqual_iff]
  constructor
  · intro confused
    have hns := confused.ns
    have hname := confused.name
    refine ⟨⟨hname, confused.ready, ?_, confused.size, confused.reads⟩, ?_⟩
    · simp only [recordFromCluster, hns, hname]
    · intro hsame
      exact confused.labels (congrArg ClusterRecord.labels hsame)
  · rintro ⟨⟨hname, hready, hcredential, hsize, hreads⟩, hne⟩
    have hns : old.ns = new.ns := congrArg NamespacedName.ns hcredential
    refine ⟨hns, hname, hready, hsize, hreads, ?_⟩
    intro hlabels
    apply hne
    have hname : old.name = new.name := hname
    have hready : controlPlaneReady old = controlPlaneReady new := hready
    simp only [recordFromCluster, hname, hlabels, hready, hns]

/-! ## The record map follows the objects -/

variable {objects : ClusterObjects} {records : ClusterRecords}

theorem exact_insert (exact : Exact objects records) (cluster : ClusterObject) :
    Exact (objects.insert cluster.key cluster)
      (records.insert cluster.key (recordFromCluster cluster)) := by
  intro key
  by_cases hkey : key = cluster.key
  · subst key
    rw [Finmap.lookup_insert, Finmap.lookup_insert, Option.map_some]
  · rw [Finmap.lookup_insert_of_ne _ hkey, Finmap.lookup_insert_of_ne _ hkey]
    exact exact key

/-- An update is missed exactly when it is confused with the version before. -/
theorem exact_upsert_iff (exact : Exact objects records) (cluster : ClusterObject) :
    Exact (objects.insert cluster.key cluster) (records.upsert cluster).1 ↔
      ∀ old, objects.lookup cluster.key = some old → ¬ Confused old cluster := by
  have hlookup := exact cluster.key
  unfold ClusterRecords.upsert
  dsimp only
  cases hold : objects.lookup cluster.key with
  | none =>
    rw [hold, Option.map_none] at hlookup
    rw [hlookup]
    exact ⟨fun _ old h => (nomatch h), fun _ => exact_insert exact cluster⟩
  | some old =>
    rw [hold, Option.map_some] at hlookup
    rw [hlookup]
    dsimp only
    split_ifs with hequal
    · constructor
      · rintro hexact _ ⟨⟩ hconfused
        have hnow := hexact cluster.key
        rw [hlookup, Finmap.lookup_insert, Option.map_some, Option.some.injEq] at hnow
        exact ((confused_iff _ _).mp hconfused).2 hnow
      · intro hclear key
        have hsame : recordFromCluster old = recordFromCluster cluster := by
          by_contra hne
          exact hclear old rfl ((confused_iff _ _).mpr ⟨hequal, hne⟩)
        by_cases hkey : key = cluster.key
        · subst key
          rw [hlookup, Finmap.lookup_insert, Option.map_some, hsame]
        · rw [Finmap.lookup_insert_of_ne _ hkey]
          exact exact key
    · refine ⟨?_, fun _ => exact_insert exact cluster⟩
      rintro _ _ ⟨⟩ hconfused
      exact hequal ((confused_iff _ _).mp hconfused).1

theorem exact_remove (exact : Exact objects records) (key : String) :
    Exact (objects.erase key) (records.remove key).1 := by
  have herase : Exact (objects.erase key) (records.erase key) := by
    intro other
    by_cases hother : other = key
    · subst other
      rw [Finmap.lookup_erase, Finmap.lookup_erase, Option.map_none]
    · rw [Finmap.lookup_erase_ne hother, Finmap.lookup_erase_ne hother]
      exact exact other
  unfold ClusterRecords.remove
  cases hlookup : records.lookup key with
  | some record => exact herase
  | none =>
    intro other
    by_cases hother : other = key
    · subst other
      rw [hlookup, Finmap.lookup_erase, Option.map_none]
    · rw [Finmap.lookup_erase_ne hother]
      exact exact other

/-- The version that an added or updated object replaces is not confused with
it. -/
def Callback.Clear (objects : ClusterObjects) : Callback → Prop
  | .add cluster => ∀ old, objects.lookup cluster.key = some old →
      ¬ Confused old cluster
  | .update cluster => ∀ old, objects.lookup cluster.key = some old →
      ¬ Confused old cluster
  | _ => True

theorem exact_handle_iff {provider : Provider} (exact : Exact objects provider.records)
    (callback : Callback) :
    Exact (callback.observe objects) (provider.handle callback).records ↔
      callback.Clear objects := by
  cases callback with
  | add cluster => exact exact_upsert_iff exact cluster
  | update cluster => exact exact_upsert_iff exact cluster
  | delete cluster => exact iff_of_true (exact_remove exact _) trivial
  | tombstone cluster => exact iff_of_true (exact_remove exact _) trivial

theorem inStep_iff (history : List Callback) :
    InStep history ↔ Exact (Callback.existing history) (Provider.after history).records :=
  ⟨InStep.records, fun exact => ⟨exact, (Provider.followed_after history).view,
    (Provider.followed_after history).proper⟩⟩

theorem inStep_append_iff {history : List Callback} (inStep : InStep history)
    (callback : Callback) :
    InStep (history ++ [callback]) ↔ callback.Clear (Callback.existing history) := by
  rw [inStep_iff, ← exact_handle_iff inStep.records callback]
  unfold Callback.existing Provider.after
  rw [List.foldl_append, List.foldl_append]
  rfl

theorem inStep_nil : InStep [] := by
  rw [inStep_iff]
  intro key
  change (∅ : ClusterRecords).lookup key = ((∅ : ClusterObjects).lookup key).map recordFromCluster
  rw [Finmap.lookup_empty, Finmap.lookup_empty, Option.map_none]

/-- After every callback the record map and every subscriber agree with the
Cluster objects, exactly when no callback brings a version that is confused
with the one before. -/
theorem discovery_exact_iff (history : List Callback) :
    (∀ earlier, earlier <+: history → InStep earlier) ↔
      ∀ earlier callback,
        earlier ++ [callback] <+: history → callback.Clear (Callback.existing earlier) := by
  constructor
  · intro hsteps earlier callback hpast
    have hbefore := hsteps earlier ((List.prefix_append earlier [callback]).trans hpast)
    exact (inStep_append_iff hbefore callback).mp (hsteps _ hpast)
  · intro hclear earlier
    induction earlier using List.reverseRecOn with
    | nil => exact fun _ => inStep_nil
    | append_singleton earlier callback ih =>
      intro hpast
      have hbefore := ih ((List.prefix_append earlier [callback]).trans hpast)
      exact (inStep_append_iff hbefore callback).mpr (hclear earlier callback hpast)

/-! ## A label that is replaced -/

def relabelled (key value : String) : ClusterObject :=
  ⟨"fleet", "east", (∅ : StringMap).insert key value, []⟩

/-- A cluster loses the empty label `canary` and gets `env=prod`; the records
keep the old labels. -/
theorem relabelled_cluster_missed :
    ¬ InStep [.add (relabelled "canary" ""), .update (relabelled "env" "prod")] := by
  intro inStep
  have hlookup := inStep.records "fleet/east"
  have hstale : ((Provider.after [.add (relabelled "canary" ""),
      .update (relabelled "env" "prod")]).records.lookup "fleet/east").map ClusterRecord.labels ≠
      ((Callback.existing [.add (relabelled "canary" ""),
        .update (relabelled "env" "prod")]).lookup "fleet/east").map
          ClusterObject.labels := by
    decide +kernel
  apply hstale
  rw [hlookup, Option.map_map]
  rfl

end K8sR8r
