import K8sR8r.EngineFrames

/-!
# The fleet

The world the controllers act on: the hub's API server, the objects on the
spokes, discovery, and the engine's process memory.  Each call is answered by
a relation, because API servers may fail, discovery answers in map order and
server-side apply keeps fields the engine does not own.

Hub writes are checked against the resource version that was read and give the
stored object a fresh one.  Metadata and spec are written through the main
resource, the status through its subresource, and an object that is being
deleted disappears with its last finalizer.
-/

namespace K8sR8r

/-! ## The hub -/

structure SourceObject where
  object : Unstructured
  resourceVersion : Nat
  finalizers : List String
  deletionTimestamp : Option Nat
  deriving DecidableEq

/-- Resource versions below `nextVersion` have been handed out; `freshUID` is
the supply of UIDs for created objects. -/
structure Hub where
  nextVersion : Nat
  freshUID : Nat → String
  clock : Nat
  replications : NamespacedName → Option Replication
  sources : GroupVersionKind → NamespacedName → Option SourceObject
  policies : PolicyList
  namespaces : String → Option StringMap

namespace Hub

def advance (hub : Hub) : Hub :=
  { hub with nextVersion := hub.nextVersion + 1 }

def setReplication (hub : Hub) (key : NamespacedName) (rep : Option Replication) : Hub :=
  { hub.advance with
    replications := Function.update hub.replications key rep }

def setSource (hub : Hub) (gvk : GroupVersionKind) (key : NamespacedName)
    (source : Option SourceObject) : Hub :=
  { hub.advance with
    sources := Function.update hub.sources gvk (Function.update (hub.sources gvk) key source) }

/-- An object under deletion goes with its last finalizer. -/
def keepUnlessReleased (rep : Replication) : Option Replication :=
  if rep.deletionTimestamp.isSome && rep.finalizers.isEmpty then none
  else some rep

def keepSourceUnlessReleased (source : SourceObject) : Option SourceObject :=
  if source.deletionTimestamp.isSome && source.finalizers.isEmpty then none
  else some source

/-- The stored Replication when a writer's resource version is current. -/
def current (hub : Hub) (rep : Replication) : Option Replication :=
  (hub.replications rep.key).filter fun cur =>
    cur.resourceVersion = rep.resourceVersion

/-- A write through the main resource: status, UID and deletion timestamp are
the server's. -/
def acceptUpdate (hub : Hub) (rep : Replication) : Option (Replication × Hub) :=
  (hub.current rep).map fun cur =>
    let stored : Replication :=
      { rep with
        uid := cur.uid
        resourceVersion := hub.nextVersion
        generation :=
          if rep.spec = cur.spec then cur.generation else cur.generation + 1
        deletionTimestamp := cur.deletionTimestamp
        status := cur.status }
    (stored, hub.setReplication rep.key (keepUnlessReleased stored))

/-- A write through the status subresource. -/
def acceptStatusUpdate (hub : Hub) (rep : Replication) : Option (Replication × Hub) :=
  (hub.current rep).map fun cur =>
    let stored : Replication :=
      { cur with
        resourceVersion := hub.nextVersion
        status := rep.status }
    (stored, hub.setReplication rep.key (some stored))

def acceptCreate (hub : Hub) (rep : Replication) : Option (Replication × Hub) :=
  match hub.replications rep.key with
  | some _ => none
  | none =>
    let stored : Replication :=
      { rep with
        uid := hub.freshUID hub.nextVersion
        resourceVersion := hub.nextVersion
        generation := 1
        deletionTimestamp := none
        status := .empty }
    some (stored, hub.setReplication rep.key (some stored))

/-- A delete without preconditions: immediate without finalizers, otherwise a
deletion timestamp. -/
def acceptDelete (hub : Hub) (key : NamespacedName) : Option (Unit × Hub) :=
  (hub.replications key).map fun cur =>
    ((), hub.setReplication key (keepUnlessReleased
      { cur with
        resourceVersion := hub.nextVersion
        deletionTimestamp := some (cur.deletionTimestamp.getD hub.clock) }))

/-- A read returns the object under the kind and key it was asked for. -/
def objectAt (gvk : GroupVersionKind) (key : NamespacedName) (source : SourceObject) :
    Unstructured :=
  { source.object with
    groupVersionKind := gvk
    ns := key.ns
    name := key.name }

def metadataAt (gvk : GroupVersionKind) (key : NamespacedName) (source : SourceObject) :
    PartialObjectMetadata :=
  { groupVersionKind := gvk
    ns := key.ns
    name := key.name
    uid := source.object.uid
    resourceVersion := source.resourceVersion
    annotations := source.object.annotations
    finalizers := source.finalizers
    deletionTimestamp := source.deletionTimestamp }

def acceptPatch (hub : Hub) (obj : PartialObjectMetadata) : Option (PartialObjectMetadata × Hub) :=
  ((hub.sources obj.groupVersionKind obj.key).filter fun cur =>
      cur.resourceVersion = obj.resourceVersion).map fun cur =>
    let stored : SourceObject :=
      { cur with
        resourceVersion := hub.nextVersion
        finalizers := obj.finalizers }
    (metadataAt obj.groupVersionKind obj.key stored, hub.setSource obj.groupVersionKind obj.key
        (keepSourceUnlessReleased stored))

end Hub

/-- A read returns what is stored; `NotFound` means that nothing is. -/
def ReadsAs {α : Type} (fails : Prop) (stored : Option α) : ApiResult α → Prop
  | .ok value => stored = some value
  | .error err => if err.isNotFound = true then stored = none else fails

/-- A write takes effect as a whole or not at all. -/
def WritesAs {α : Type} (fails : Prop) (hub : Hub) (accepted : Option (α × Hub))
    (reply : ApiResult α) (after : Hub) : Prop :=
  match reply with
  | .ok value => accepted = some (value, after)
  | .error err =>
    after = hub ∧ (accepted = none ∨ (fails ∧ err.isNotFound = false))

/-- The hub's answers; `fails` says whether this call may fail. -/
def Hub.Answers (fails : Prop) (hub : Hub) : (call : HubCall) → call.Reply → Hub → Prop
  | .getReplication key, reply, after =>
    ReadsAs fails (hub.replications key) reply ∧ after = hub
  | .createReplication rep, reply, after =>
    WritesAs fails hub (hub.acceptCreate rep) reply after
  | .updateReplication rep, reply, after =>
    WritesAs fails hub (hub.acceptUpdate rep) reply after
  | .updateReplicationStatus rep, reply, after =>
    WritesAs fails hub (hub.acceptStatusUpdate rep) reply after
  | .deleteReplication key, reply, after =>
    WritesAs fails hub (hub.acceptDelete key) reply after
  | .getSource gvk key, reply, after =>
    ReadsAs fails ((hub.sources gvk key).map (Hub.objectAt gvk key)) reply ∧ after = hub
  | .getSourceMetadata gvk key, reply, after =>
    ReadsAs fails ((hub.sources gvk key).map (Hub.metadataAt gvk key)) reply ∧ after = hub
  | .patchSourceFinalizers obj, reply, after =>
    WritesAs fails hub (hub.acceptPatch obj) reply after
  | .listPolicies, reply, after =>
    ReadsAs fails (some hub.policies) reply ∧ after = hub
  | .getNamespaceLabels name, reply, after =>
    ReadsAs fails (hub.namespaces name) reply ∧ after = hub

/-! ## The spokes -/

/-- The objects of all spokes; a Namespace object sits in the empty
namespace. -/
abbrev Spokes := SlotKey → Option Unstructured

def namespaceSlot (cluster ns : String) : SlotKey :=
  ⟨cluster, "", ns, "", "Namespace"⟩

def SlotKey.isNamespace (slot : SlotKey) : Bool :=
  slot.ns = "" && slot.group = "" && slot.kind = "Namespace"

namespace Spokes

/-- A Namespace object needs no place; anything else needs an existing
namespace. -/
def Placed (spokes : Spokes) (slot : SlotKey) : Prop :=
  slot.isNamespace = true ∨ slot.ns ≠ "" ∧
      (spokes (namespaceSlot slot.cluster slot.ns)).isSome = true
deriving Decidable

/-- Whether the API server admits an object at the slot. -/
def Admits (spokes : Spokes) (slot : SlotKey) : Prop :=
  slot.name ≠ "" ∧ spokes.Placed slot
deriving Decidable

/-- Deleting a Namespace takes its contents along. -/
def erase (spokes : Spokes) (slot : SlotKey) : Spokes :=
  fun key =>
    if key = slot ∨ (slot.isNamespace = true ∧ slot.name ≠ "" ∧
        key.cluster = slot.cluster ∧ key.ns = slot.name) then none
    else spokes key

/-- No object lives in a namespace that does not exist. -/
def WellPlaced (spokes : Spokes) : Prop :=
  ∀ slot, (spokes slot).isSome = true → spokes.Placed slot

end Spokes

/-- Server-side apply of one keyed map: applied keys are set, other keys keep
their value or, when only the applying manager owned them, go. -/
def AppliesMap {κ : Type} [DecidableEq κ] (existing payload result : Finmap (fun _ : κ => String)) :
    Prop :=
  ∀ key,
    match payload.lookup key with
    | some value => result.lookup key = some value
    | none =>
      result.lookup key = none ∨ result.lookup key = existing.lookup key

/-- Server-side apply with forced ownership. -/
structure ServerSideApply
    (existing : Option Unstructured) (payload result : Unstructured) :
    Prop where
  kind : result.groupVersionKind = payload.groupVersionKind
  ns : result.ns = payload.ns
  name : result.name = payload.name
  labels : AppliesMap ((existing.map Unstructured.labels).getD ∅)
    payload.labels result.labels
  annotations : AppliesMap ((existing.map Unstructured.annotations).getD ∅)
    payload.annotations result.annotations
  fields : AppliesMap ((existing.map Unstructured.fields).getD ∅)
    payload.fields result.fields

namespace Spokes

/-- The object in the slot names the source with the UID. -/
def Carries (spokes : Spokes) (key : SlotKey) (uid : String) : Prop :=
  ∃ obj, spokes key = some obj ∧ StringMap.get obj.labels labelSourceUID = uid

instance (spokes : Spokes) (key : SlotKey) (uid : String) : Decidable (spokes.Carries key uid) :=
  decidable_of_iff ((spokes key).any fun obj => StringMap.get obj.labels labelSourceUID = uid)
    (by simp [Carries, Option.any_eq_true])

def AnswersGet (fails : Prop) (spokes : Spokes) (slot : SlotKey) (reply : ApiResult Unstructured) :
    Prop :=
  match reply with
  | .ok obj => slot.name ≠ "" ∧ spokes slot = some obj
  | .error err =>
    if err.isNotFound = true then slot.name ≠ "" ∧ spokes slot = none
    else fails ∨ slot.name = ""

def AnswersApply (fails : Prop) (spokes : Spokes) (slot : SlotKey) (payload : Unstructured)
    (reply : ApiResult Unit) (after : Spokes) :
    Prop :=
  match reply with
  | .ok () => spokes.Admits slot ∧
      ∃ result, ServerSideApply (spokes slot) payload result ∧
        after = Function.update spokes slot (some result)
  | .error _ => after = spokes ∧ (fails ∨ ¬ spokes.Admits slot)

def AnswersDelete (fails : Prop) (spokes : Spokes) (slot : SlotKey) (reply : ApiResult Unit)
    (after : Spokes) : Prop :=
  match reply with
  | .ok () => (spokes slot).isSome = true ∧ after = spokes.erase slot
  | .error err =>
    after = spokes ∧
      if err.isNotFound = true then spokes slot = none
      else fails ∨ slot.name = ""

end Spokes

/-! ## The whole fleet -/

/-- `clusters` are the Cluster objects on the hub, `records` what the
discovery provider has seen of them; `lastResults` is the engine's memory of
evaluations by Replication UID. -/
structure Fleet where
  hub : Hub
  spokes : Spokes
  clusters : String → Option ClusterObject
  records : ClusterRecords
  lastResults : String → Option PolicyResult

def Fleet.Answers (fails : EngineCall → Prop) (fleet : Fleet) :
    (call : EngineCall) → call.Reply → Fleet → Prop
  | .hub call, reply, after =>
    ∃ hub, fleet.hub.Answers (fails (.hub call)) call reply hub ∧ after = { fleet with hub := hub }
  | .lookupCluster name, reply, after =>
    fleet.records.Finds name reply ∧ after = fleet
  | .transportGet cluster gvk key, reply, after =>
    fleet.spokes.AnswersGet (fails (.transportGet cluster gvk key))
      (slotOf cluster gvk key) reply ∧ after = fleet
  | .transportApply cluster obj, reply, after =>
    ∃ spokes, fleet.spokes.AnswersApply (fails (.transportApply cluster obj))
        (slotOf cluster obj.groupVersionKind obj.key) obj reply spokes ∧
      after = { fleet with spokes := spokes }
  | .transportDelete cluster gvk key, reply, after =>
    ∃ spokes, fleet.spokes.AnswersDelete (fails (.transportDelete cluster gvk key))
        (slotOf cluster gvk key) reply spokes ∧
      after = { fleet with spokes := spokes }
  | .previousResult uid, reply, after =>
    reply = fleet.lastResults uid ∧ after = fleet
  | .storeResult uid result, _, after =>
    after = { fleet with
      lastResults := Function.update fleet.lastResults uid (some result) }
  | .forgetResult uid, _, after =>
    after = { fleet with
      lastResults := Function.update fleet.lastResults uid none }
  | .backoffFailure _ _, _, after => after = fleet
  | .backoffSuccess _ _, _, after => after = fleet
  | .backoffForget _, _, after => after = fleet
  | .limiterForget _, _, after => after = fleet
  | .ensureWatch _ _, _, after => after = fleet
  | .now, _, after => after = fleet
  | .emit _, _, after => after = fleet

variable {fails : EngineCall → Prop} {fleet after : Fleet} {call : EngineCall} {reply : call.Reply}

theorem Fleet.answers_passive (passive : call.IsPassive)
    (answer : fleet.Answers fails call reply after) : after = fleet := by
  cases call with
  | hub call =>
    obtain ⟨hub, hanswer, rfl⟩ := answer
    cases call with
    | getReplication key => rw [hanswer.2]
    | getSource gvk key => rw [hanswer.2]
    | getSourceMetadata gvk key => rw [hanswer.2]
    | listPolicies => rw [hanswer.2]
    | getNamespaceLabels name => rw [hanswer.2]
    | _ => exact passive.elim
  | lookupCluster name => exact answer.2
  | transportGet cluster gvk key => exact answer.2
  | previousResult uid => exact answer.2
  | transportApply cluster obj => exact passive.elim
  | transportDelete cluster gvk key => exact passive.elim
  | storeResult uid result => exact passive.elim
  | forgetResult uid => exact passive.elim
  | _ => exact answer

theorem Fleet.answers_quiet (quiet : call.IsQuiet) (answer : fleet.Answers fails call reply after) :
    after.hub = fleet.hub ∧ after.spokes = fleet.spokes ∧
      after.clusters = fleet.clusters ∧ after.records = fleet.records := by
  by_cases hpassive : call.IsPassive
  · rw [Fleet.answers_passive hpassive answer]
    exact ⟨rfl, rfl, rfl, rfl⟩
  · cases call with
    | storeResult uid result =>
      cases answer
      exact ⟨rfl, rfl, rfl, rfl⟩
    | forgetResult uid =>
      cases answer
      exact ⟨rfl, rfl, rfl, rfl⟩
    | _ => exact (hpassive quiet).elim

/-- What an answered call has done to the fleet. -/
inductive Fleet.Effect (fails : EngineCall → Prop) (fleet : Fleet) : EngineCall → Fleet → Prop
  | same {call : EngineCall} : Effect fails fleet call fleet
  | hub {call : HubCall} {reply : call.Reply} {hub : Hub}
      (answer : fleet.hub.Answers (fails (.hub call)) call reply hub) :
      Effect fails fleet (.hub call) { fleet with hub := hub }
  | apply {cluster : String} {obj result : Unstructured}
      (admits : fleet.spokes.Admits (slotOf cluster obj.groupVersionKind obj.key)) :
      Effect fails fleet (.transportApply cluster obj) { fleet with
        spokes := Function.update fleet.spokes (slotOf cluster obj.groupVersionKind obj.key)
          (some result) }
  | delete {cluster : String} {gvk : GroupVersionKind} {key : NamespacedName} :
      Effect fails fleet (.transportDelete cluster gvk key)
        { fleet with spokes := fleet.spokes.erase (slotOf cluster gvk key) }
  | store {uid : String} {result : PolicyResult} :
      Effect fails fleet (.storeResult uid result)
        { fleet with lastResults := Function.update fleet.lastResults uid (some result) }
  | forget {uid : String} :
      Effect fails fleet (.forgetResult uid)
        { fleet with lastResults := Function.update fleet.lastResults uid none }

theorem Fleet.answers_effect (answer : fleet.Answers fails call reply after) :
    fleet.Effect fails call after := by
  by_cases hpassive : call.IsPassive
  · rw [Fleet.answers_passive hpassive answer]
    exact .same
  · cases call with
    | hub call =>
      obtain ⟨hub, hanswer, rfl⟩ := answer
      exact .hub hanswer
    | transportApply cluster obj =>
      obtain ⟨spokes, hanswer, rfl⟩ := answer
      cases reply with
      | ok _ =>
        obtain ⟨hadmits, result, _, rfl⟩ := hanswer
        exact .apply hadmits
      | error err =>
        obtain ⟨rfl, _⟩ := hanswer
        exact .same
    | transportDelete cluster gvk key =>
      obtain ⟨spokes, hanswer, rfl⟩ := answer
      cases reply with
      | ok _ =>
        obtain ⟨_, rfl⟩ := hanswer
        exact .delete
      | error err =>
        obtain ⟨rfl, _⟩ := hanswer
        exact .same
    | storeResult uid result =>
      cases answer
      exact .store
    | forgetResult uid =>
      cases answer
      exact .forget
    | emit signal =>
      cases answer
      exact .same
    | _ => exact (hpassive trivial).elim

theorem Fleet.answers_records (answer : fleet.Answers fails call reply after) :
    after.records = fleet.records := by
  cases Fleet.answers_effect answer with
  | _ => rfl

/-! ## Placement -/

theorem Spokes.WellPlaced.update {spokes : Spokes} (placed : spokes.WellPlaced) {slot : SlotKey}
    (admits : spokes.Admits slot) (obj : Unstructured) :
    Spokes.WellPlaced (Function.update spokes slot (some obj)) := by
  have hgrows : ∀ other, (spokes other).isSome = true →
      (Function.update spokes slot (some obj) other).isSome = true := by
    intro other hother
    by_cases heq : other = slot
    · subst other
      simp
    · rwa [Function.update_of_ne heq]
  intro other hother
  have hbefore : spokes.Placed other := by
    by_cases heq : other = slot
    · subst other
      exact admits.2
    · rw [Function.update_of_ne heq] at hother
      exact placed other hother
  exact hbefore.imp id (And.imp id (hgrows _))

theorem Spokes.WellPlaced.erase {spokes : Spokes} (placed : spokes.WellPlaced) (slot : SlotKey) :
    (spokes.erase slot).WellPlaced := by
  intro other hother
  unfold Spokes.erase at hother ⊢
  split_ifs at hother with hgone
  · simp at hother
  · rcases placed other hother with hkind | ⟨hns, hsome⟩
    · exact .inl hkind
    · refine .inr ⟨hns, ?_⟩
      beta_reduce
      rw [if_neg]
      · exact hsome
      · rintro (rfl | ⟨_, hname, _, hempty⟩)
        -- The namespace of a surviving object is not the one erased.
        · exact hgone (.inr ⟨by simp [namespaceSlot, SlotKey.isNamespace],
            hns, rfl, rfl⟩)
        · exact hname hempty.symm

/-- A process restart loses the memory and the discovery records. -/
def Fleet.restarted (fleet : Fleet) : Fleet :=
  { fleet with records := ∅, lastResults := fun _ => none }

end K8sR8r
