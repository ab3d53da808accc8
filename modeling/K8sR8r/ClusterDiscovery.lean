import K8sR8r.KubernetesObjects

/-!
# Cluster discovery

`internal/discovery` and the ClusterAPI provider: Cluster objects on the hub
become records in an in-memory map, one informer event at a time.  The map is
empty when the process starts, and `list` answers from it at any time.
-/

namespace K8sR8r

/-- The parts of a ClusterAPI Cluster object that the provider reads;
`conditions` are the type and status pairs of `.status.conditions`. -/
structure ClusterObject where
  ns : String
  name : String
  labels : StringMap
  conditions : List (String × String)
  deriving DecidableEq

def ClusterObject.key (cluster : ClusterObject) : String :=
  cluster.ns ++ "/" ++ cluster.name

structure ClusterRecord where
  name : String
  labels : StringMap
  ready : Bool
  credentialRef : NamespacedName
  deriving DecidableEq

def readyConditionTypes : List String :=
  ["ControlPlaneReady", "ControlPlaneAvailable"]

def controlPlaneReady (cluster : ClusterObject) : Bool :=
  cluster.conditions.any fun condition =>
    readyConditionTypes.contains condition.1 && condition.2 = "True"

def recordFromCluster (cluster : ClusterObject) : ClusterRecord :=
  { name := cluster.name
    labels := cluster.labels
    ready := controlPlaneReady cluster
    credentialRef := ⟨cluster.ns, cluster.name ++ "-kubeconfig"⟩ }

/-- Labels are compared by size and by reading the other map, where a missing
key reads as the empty string. -/
def recordsEqual (a b : ClusterRecord) : Bool :=
  a.name = b.name && a.ready = b.ready && a.credentialRef = b.credentialRef &&
    a.labels.entries.card = b.labels.entries.card &&
    a.labels.sortedKeys.all fun key =>
      StringMap.get b.labels key = StringMap.get a.labels key

/-- The provider's record map, keyed by `namespace/name` of the Cluster
object. -/
abbrev ClusterRecords := Finmap (fun _ : String => ClusterRecord)

inductive DiscoveryEvent where
  | register (record : ClusterRecord)
  | update (record : ClusterRecord)
  | deregister (record : ClusterRecord)
  deriving DecidableEq

namespace ClusterRecords

/-- The informer's add and update handler, with the event it emits. -/
def upsert (records : ClusterRecords) (cluster : ClusterObject) :
    ClusterRecords × Option DiscoveryEvent :=
  let record := recordFromCluster cluster
  match records.lookup cluster.key with
  | none => (records.insert cluster.key record, some (.register record))
  | some prev =>
    if recordsEqual prev record then (records, none)
    else (records.insert cluster.key record, some (.update record))

/-- The informer's delete handler, with the event it emits. -/
def remove (records : ClusterRecords) (key : String) : ClusterRecords × Option DiscoveryEvent :=
  match records.lookup key with
  | none => (records, none)
  | some record =>
    (records.erase key, some (.deregister { record with ready := false }))

/-- `Provider.List`: the records in the map's own, unspecified order. -/
def Lists (records : ClusterRecords) (snapshot : List ClusterRecord) : Prop :=
  (snapshot : Multiset ClusterRecord) = records.entries.map fun entry => entry.2

/-- `ProviderInventory.Lookup`: some record of that name, or none when there is
no such record. -/
def Finds (records : ClusterRecords) (name : String) : Option ClusterRecord → Prop
  | some record => record.name = name ∧ ∃ key, records.lookup key = some record
  | none => ∀ key record, records.lookup key = some record → record.name ≠ name

/-- The first record of that name in key order. -/
def lookupRecord (records : ClusterRecords) (name : String) : Option ClusterRecord :=
  (records.sortedKeys.filterMap records.lookup).find? fun record =>
    record.name = name

theorem finds_lookupRecord (records : ClusterRecords) (name : String) :
    records.Finds name (records.lookupRecord name) := by
  unfold lookupRecord
  cases hfind : (records.sortedKeys.filterMap records.lookup).find?
      fun record => record.name = name with
  | some record =>
    have hname := List.find?_some hfind
    have hmem := List.mem_of_find?_eq_some hfind
    obtain ⟨key, _, hlookup⟩ := List.mem_filterMap.mp hmem
    exact ⟨by simpa using hname, key, hlookup⟩
  | none =>
    intro key record hlookup
    have hmem : record ∈ records.sortedKeys.filterMap records.lookup :=
      List.mem_filterMap.mpr ⟨key, Finmap.mem_sortedKeys_of_lookup hlookup, hlookup⟩
    simpa using List.find?_eq_none.mp hfind record hmem

theorem Finds.unique {records : ClusterRecords} {name : String} {found other : Option ClusterRecord}
    (distinct : ∀ key key' record record', records.lookup key = some record →
      records.lookup key' = some record' → record.name = record'.name →
        record = record') (hfound : records.Finds name found) (hother : records.Finds name other) :
    found = other := by
  cases found with
  | none =>
    cases other with
    | none => rfl
    | some record =>
      obtain ⟨hname, key, hlookup⟩ := hother
      exact (hfound key record hlookup hname).elim
  | some record =>
    obtain ⟨hname, key, hlookup⟩ := hfound
    cases other with
    | none => exact (hother key record hlookup hname).elim
    | some record' =>
      obtain ⟨hname', key', hlookup'⟩ := hother
      rw [distinct key key' record record' hlookup hlookup' (hname.trans hname'.symm)]

end ClusterRecords

end K8sR8r
