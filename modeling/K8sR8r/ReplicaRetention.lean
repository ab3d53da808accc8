import K8sR8r.ControlPlane
import K8sR8r.EngineSight

/-!
# Retained replicas

A target whose permission was withdrawn keeps its replicas when the policies
say Retain.  That decision is taken anew in every reconcile, and only for
targets that are still in the Replication's spec.  Whether a replica survives
therefore depends on what the request controller writes into the spec, on what
the engine remembers and on the policies that are left.
-/

namespace K8sR8r

open Interaction

/-- One replica of one source, and the policies, labels and cluster inventory
that stand while it is watched. -/
structure Stake where
  sight : Sight
  gvk : GroupVersionKind
  source : NamespacedName
  nn : NamespacedName
  uid : String
  slot : SlotKey

namespace Stake

def policySource (stake : Stake) : PolicySource :=
  ⟨stake.gvk.kind, stake.source.ns, stake.sight.labels⟩

/-- No policy permits the target, and a policy that matches the source asks to
retain. -/
structure Revoked (stake : Stake) : Prop where
  denied : ¬ stake.sight.Permits stake.policySource stake.slot.cluster
    stake.slot.ns
  retained : RetainedBySource stake.sight.policies.items stake.policySource

def Refers (stake : Stake) (spec : ReplicationSpec) : Prop :=
  spec.sourceRef.kind = stake.gvk.kind ∧ spec.sourceRef.ns = stake.source.ns

theorem source_eq_of_refers {stake : Stake} {spec : ReplicationSpec} (refers : stake.Refers spec) :
    stake.sight.source spec.sourceRef = stake.policySource := by
  unfold Sight.source policySource
  rw [refers.1, refers.2]

structure Records (stake : Stake) (rep : Replication) : Prop where
  uid : rep.uid = stake.uid
  live : rep.deletionTimestamp = none
  refers : stake.Refers rep.spec
  recorded : Recorded rep.status.inventory stake.slot

instance (stake : Stake) (rep : Replication) : Decidable (stake.Records rep) :=
  decidable_of_iff (rep.uid = stake.uid ∧ rep.deletionTimestamp = none ∧
    (rep.spec.sourceRef.kind = stake.gvk.kind ∧ rep.spec.sourceRef.ns = stake.source.ns) ∧
    Recorded rep.status.inventory stake.slot)
    ⟨fun h => ⟨h.1, h.2.1, h.2.2.1, h.2.2.2⟩, fun h => ⟨h.uid, h.live, h.refers, h.recorded⟩⟩

def Requested (source : SourceObject) : Prop :=
  source.deletionTimestamp = none ∧ replicates source.object.annotations = true
deriving Decidable

/-- The live Replication is stored, among the policies, labels and clusters. -/
structure Stands (stake : Stake) (fleet : Fleet) : Prop where
  shows : fleet.Shows stake.sight stake.source.ns
  consistent : fleet.hub.Consistent
  stored : ∃ rep, fleet.hub.replications stake.nn = some rep ∧
    stake.Records rep

/-- The invariant.  The source matters only where a request controller runs. -/
structure Kept (stake : Stake) (request : Option RequestConfig) (fleet : Fleet) : Prop
    extends stake.Stands fleet where
  requested : request.isSome = true → ∃ source,
    fleet.hub.sources stake.gvk stake.source = some source ∧
      Requested source
  memory : RetainsTarget ((fleet.lastResults stake.uid).getD ⟨[]⟩)
    stake.sight.policies.items stake.policySource stake.slot.cluster
    stake.slot.ns

/-! ## Hub writes -/

def HubKeeps (stake : Stake) (hub : Hub) : HubCall → Prop
  | .updateReplication rep => stake.Refers rep.spec
  | .updateReplicationStatus rep => ∀ cur, hub.current rep = some cur →
      Recorded cur.status.inventory stake.slot → Recorded rep.status.inventory stake.slot
  | .deleteReplication _ => False
  | _ => True

variable {stake : Stake} {fleet : Fleet} {hub : Hub}

variable {rep stored : Replication} {call : EngineCall} {request : Option RequestConfig}

theorem Kept.answers (kept : stake.Kept request fleet) {call : HubCall} {reply : call.Reply}
    {fails : Prop} (keeps : stake.HubKeeps fleet.hub call)
    (answer : fleet.hub.Answers fails call reply hub) :
    stake.Kept request { fleet with hub := hub } := by
  obtain ⟨rep, hrep, hrecords⟩ := kept.stored
  have hundeleted : ∀ key, call ≠ .deleteReplication key := by
    rintro key rfl
    exact keeps
  obtain ⟨hpolicies, hlabels⟩ := answer.background
  obtain ⟨now, hnow, hlive, huid, hspec, hstatus⟩ :=
    answer.effect.keeps_replication hrep hrecords.live hundeleted
  refine ⟨⟨⟨hpolicies.trans kept.shows.policies, ?_, kept.shows.inventory⟩,
    kept.consistent.answers answer, now, hnow, huid.trans hrecords.uid, hlive, ?_, ?_⟩,
    ?_, kept.memory⟩
  · rw [hlabels]
    exact kept.shows.labels
  · rcases hspec with hspec | ⟨new, rfl, _, hspec⟩
    · rw [hspec]
      exact hrecords.refers
    · rw [hspec]
      exact keeps
  · rcases hstatus with hstatus | ⟨new, rfl, hcur, hstatus⟩
    · rw [hstatus]
      exact hrecords.recorded
    · rw [hstatus]
      exact keeps rep hcur hrecords.recorded
  · intro hattended
    obtain ⟨source, hsource, hrequested⟩ := kept.requested hattended
    obtain ⟨version, finalizers, hsource⟩ := answer.effect.keeps_source hsource hrequested.1
    exact ⟨_, hsource, hrequested⟩

/-! ## Engine calls -/

def EngineKeeps (stake : Stake) (hub : Hub) : EngineCall → Prop
  | .hub call => stake.HubKeeps hub call
  | .transportDelete cluster gvk key => slotOf cluster gvk key ≠ stake.slot
  | .emit (.event (.clusterGone entry)) => keyForEntry entry ≠ stake.slot
  | .storeResult uid result => uid = stake.uid →
      result.Denies stake.slot.cluster stake.slot.ns
  | .forgetResult uid => uid ≠ stake.uid
  | _ => True

theorem engineKeeps_of_passive (passive : call.IsPassive) : stake.EngineKeeps hub call := by
  cases call with
  | hub call =>
    cases call with
    | createReplication rep => exact passive.elim
    | updateReplication rep => exact passive.elim
    | updateReplicationStatus rep => exact passive.elim
    | deleteReplication key => exact passive.elim
    | patchSourceFinalizers obj => exact passive.elim
    | _ => trivial
  | transportApply cluster obj => exact passive.elim
  | transportDelete cluster gvk key => exact passive.elim
  | storeResult uid result => exact passive.elim
  | forgetResult uid => exact passive.elim
  | emit signal =>
    cases signal with
    | metric metric => trivial
    | event event =>
      cases event with
      | clusterGone entry => exact (passive trivial).elim
      | _ => trivial
  | _ => trivial

theorem engineKeeps_of_records {inv : List InventoryEntry} (records : call.RecordsInventory inv)
    (recorded : Recorded inv stake.slot) : stake.EngineKeeps hub call := by
  cases call with
  | hub call =>
    cases call with
    | updateReplicationStatus rep =>
      intro cur _ _
      have hinv : rep.status.inventory = inv := records
      rw [hinv]
      exact recorded
    | _ => exact records.elim
  | _ => exact records.elim

theorem engineKeeps_of_applies {slot : SlotKey} (applies : call.AppliesAt slot) :
    stake.EngineKeeps hub call := by
  cases call with
  | transportApply cluster obj => trivial
  | _ => exact applies.elim

theorem engineKeeps_of_createsNamespace {cluster ns : String}
    (creates : call.CreatesNamespace cluster ns) :
    stake.EngineKeeps hub call := by
  cases call with
  | transportApply cluster obj => trivial
  | _ => exact creates.elim

theorem engineKeeps_of_deletes {slot : SlotKey} (deletes : call.DeletesAt slot)
    (hne : slot ≠ stake.slot) : stake.EngineKeeps hub call := by
  cases call with
  | transportDelete cluster gvk key =>
    have hslot : slotOf cluster gvk key = slot := deletes
    intro heq
    exact hne (hslot.symm.trans heq)
  | _ => exact deletes.elim

theorem engineKeeps_of_carriesOut {sourceName : String} {gvk : GroupVersionKind}
    {retained : List SlotKey} (revoked : stake.Revoked) (records : stake.Records rep)
    (hretained : stake.slot ∈ retained)
    (carries : call.CarriesOut gvk stake.sight.policies.items
      (stake.sight.slots rep sourceName) retained rep.status.inventory) :
    stake.EngineKeeps hub call := by
  have hallowed : ∀ slot ∈ stake.sight.slots rep sourceName,
      slot.2.allowed = true → slot.1.key gvk ≠ stake.slot := by
    intro slot hmem hallowed hslot
    have hpermits := stake.sight.permits_of_allowed rep sourceName hmem hallowed
    rw [source_eq_of_refers records.refers] at hpermits
    apply revoked.denied
    rw [← hslot]
    exact hpermits
  cases carries with
  | passive hpassive => exact engineKeeps_of_passive hpassive
  | @serves slot hmem hslot hserves =>
    rcases hserves with (hpassive | happlies | hdeletes) | ⟨_, hcreates⟩
    · exact engineKeeps_of_passive hpassive
    · exact engineKeeps_of_applies happlies
    · exact engineKeeps_of_deletes hdeletes (hallowed slot hmem hslot)
    · exact engineKeeps_of_createsNamespace hcreates
  | @givesUp entry hunretained _ hgivesUp =>
    have hne : keyForEntry entry ≠ stake.slot := by
      intro heq
      rw [heq] at hunretained
      exact hunretained hretained
    rcases hgivesUp with rfl | hdeletes
    · exact hne
    · exact engineKeeps_of_deletes hdeletes hne
  | @records inv hrecords hkeeps =>
    refine engineKeeps_of_records hrecords ?_
    refine hkeeps stake.slot hretained ?_ records.recorded
    rw [mem_allowedKeys_iff]
    rintro ⟨slot, hmem, hslot, heq⟩
    exact hallowed slot hmem hslot heq

theorem Kept.engine_answers (kept : stake.Kept request fleet) (revoked : stake.Revoked)
    {after : Fleet} {reply : call.Reply} {fails : EngineCall → Prop} (keeps : stake.EngineKeeps fleet.hub call)
    (answer : fleet.Answers fails call reply after) :
    stake.Kept request after := by
  have hspokes : ∀ spokes, stake.Kept request { fleet with spokes := spokes } :=
    fun spokes => ⟨⟨⟨kept.shows.policies, kept.shows.labels, kept.shows.inventory⟩,
      kept.consistent, kept.stored⟩, kept.requested, kept.memory⟩
  have hmemory : ∀ results : String → Option PolicyResult,
      RetainsTarget ((results stake.uid).getD ⟨[]⟩)
        stake.sight.policies.items stake.policySource stake.slot.cluster
        stake.slot.ns →
      stake.Kept request { fleet with lastResults := results } :=
    fun results hresults => ⟨⟨⟨kept.shows.policies, kept.shows.labels, kept.shows.inventory⟩,
      kept.consistent, kept.stored⟩, kept.requested, hresults⟩
  cases Fleet.answers_effect answer with
  | same => exact kept
  | hub hanswer => exact kept.answers keeps hanswer
  | apply => exact hspokes _
  | delete => exact hspokes _
  | @store uid =>
    apply hmemory
    by_cases huid : uid = stake.uid
    · rw [huid, Function.update_self]
      exact .inr ⟨keeps huid, revoked.retained⟩
    · rw [Function.update_of_ne (Ne.symm huid)]
      exact kept.memory
  | forget =>
    apply hmemory
    rw [Function.update_of_ne (Ne.symm keeps)]
    exact kept.memory

/-! ## The two controllers -/

def Relies (stake : Stake) (request : Option RequestConfig) (before after : Fleet) : Prop :=
  stake.Kept request before → stake.Kept request after ∧ before.hub.Newer after.hub

/-- What happens besides: anything that leaves the policies, the labels of the
source namespace, the cluster inventory and the Replication alone, and the
source's request where a request controller reads it. -/
structure Happens (stake : Stake) (request : Option RequestConfig) (before after : Fleet) :
    Prop where
  newer : before.hub.Newer after.hub
  consistent : after.hub.Consistent
  policies : after.hub.policies = before.hub.policies
  labels : after.hub.namespaces stake.source.ns =
    before.hub.namespaces stake.source.ns
  records : after.records = before.records
  replication : after.hub.replications stake.nn =
    before.hub.replications stake.nn
  request : request.isSome = true → ∀ source,
    before.hub.sources stake.gvk stake.source = some source →
      ∃ next, after.hub.sources stake.gvk stake.source = some next ∧
        next.object.annotations = source.object.annotations ∧
        next.deletionTimestamp = source.deletionTimestamp
  lastResults : after.lastResults = before.lastResults

theorem Happens.relies {before after : Fleet} (happens : stake.Happens request before after) :
    stake.Relies request before after := by
  intro kept
  refine ⟨⟨⟨⟨?_, ?_, ?_⟩, happens.consistent, ?_⟩, ?_, ?_⟩, happens.newer⟩
  · rw [happens.policies]
    exact kept.shows.policies
  · rw [happens.labels]
    exact kept.shows.labels
  · rw [happens.records]
    exact kept.shows.inventory
  · rw [happens.replication]
    exact kept.stored
  · intro hattended
    obtain ⟨source, hsource, hlive, hrequest⟩ := kept.requested hattended
    obtain ⟨next, hnext, hannotations, hdeletion⟩ :=
      happens.request hattended source hsource
    refine ⟨next, hnext, hdeletion.trans hlive, ?_⟩
    rw [hannotations]
    exact hrequest
  · rw [happens.lastResults]
    exact kept.memory

/-- Every call may fail except the engine's read of the namespace labels, which
it would take for a namespace without labels. -/
@[reducible] def Answers (stake : Stake) (fleet : Fleet) :
    (role : Controller) → (call : role.Call) → role.Reply call → Fleet → Prop
  | .engine, call, reply, after => fleet.Answers
      (· ≠ .hub (.getNamespaceLabels stake.source.ns)) call reply after
  | role, call, reply, after => fleet.AnswersRole role call reply after

/-- The engine on the Replication and, if there is one, the request controller
on the source.  A restart loses what the engine remembers. -/
def system (stake : Stake) (config : EngineConfig) (request : Option RequestConfig) :
    System Fleet Controller.Reply Controller.Outcome where
  semantics := fun role =>
    { interfere := stake.Relies request
      answers := fun before => stake.Answers before role
      interfere_refl := fun _ kept => ⟨kept, .refl _⟩
      interfere_trans := fun head tail kept =>
        ⟨(tail (head kept).1).1, (head kept).2.trans (tail (head kept).1).2⟩ }
  starts
    | .engine, program => program = reconcile config stake.nn
    | .request, program => ∃ used ∈ request, program = reconcileRequest used stake.source
    | .authority, _ => False
  outside := fun state => stake.Happens request state.world
  restart := fun before after =>
    after = { before with lastResults := fun _ => none }

/-- Whenever the engine reads the Replication it is one of `reads`. -/
def readsOnly (reads : Replication → Prop) : (role : Controller) → Fleet → role.Call → Prop
  | .engine, fleet, .hub (.getReplication key) =>
    ∀ rep, fleet.hub.replications key = some rep → reads rep
  | _, _, _ => True

def readingSystem (stake : Stake) (config : EngineConfig) (request : Option RequestConfig)
    (reads : Replication → Prop) :
    System Fleet Controller.Reply Controller.Outcome :=
  (stake.system config request).restrict (readsOnly reads) fun _ _ => True

def requestKeeps (stake : Stake) (hub : Hub) : RequestCall → Prop
  | .hub call => stake.HubKeeps hub call
  | _ => True

def guards (stake : Stake) (request : Option RequestConfig) :
    (role : Controller) → Fleet → role.Call → Prop
  | .engine, fleet, call => stake.Kept request fleet ∧
      stake.EngineKeeps fleet.hub call
  | .request, fleet, call => stake.Kept request fleet ∧
      stake.requestKeeps fleet.hub call
  | .authority, _, _ => False

theorem acceptUpdate_stored {after : Hub} (accepted : hub.acceptUpdate rep = some (stored, after)) :
    stored.spec = rep.spec ∧ stored.key = rep.key := by
  obtain ⟨cur, _, heq⟩ := Option.map_eq_some_iff.mp accepted
  obtain ⟨rfl, _⟩ := Prod.mk.inj heq
  exact ⟨rfl, rfl⟩

/-- What the engine knows about the Replication it works on. -/
structure Knows (stake : Stake) (rep : Replication) : Prop where
  key : rep.key = stake.nn
  records : stake.Records rep
  selected : Selects rep.spec.resolvedTargets stake.slot.cluster
    stake.slot.ns

variable {config : EngineConfig} {reads : Replication → Prop}

theorem kept_stable (reads : Replication → Prop) (role : Controller) :
    Stable ((stake.readingSystem config request reads).semantics role)
      (stake.Kept request) :=
  fun kept change => (change kept).1

theorem engine_safe {α : Type} {program : EngineProgram α} {allowed : EngineCall → Prop}
    (revoked : stake.Revoked) (within : program.AllCalls allowed)
    (keeps : ∀ hub call, allowed call → stake.EngineKeeps hub call)
    (kept : stake.Kept request fleet) :
    Safe ((stake.readingSystem config request reads).semantics .engine)
      (stake.guards request .engine) program (fun _ => stake.Kept request) fleet := by
  refine (Safe.of_within within (kept_stable reads .engine) kept
    (fun hcall kept => ⟨kept, keeps _ _ hcall⟩) ?_).weaken fun _ _ h => h.2
  intro current call reply after hcall hcurrent answer
  have hanswer : stake.Answers current .engine call reply after := answer.1
  exact hcurrent.engine_answers revoked (keeps _ _ hcall) hanswer

theorem engine_walk (config : EngineConfig) (request : Option RequestConfig)
    (revoked : stake.Revoked)
    (selects : ∀ rep, reads rep →
      Selects rep.spec.resolvedTargets stake.slot.cluster stake.slot.ns) :
    Walk ((stake.readingSystem config request reads).semantics .engine)
      (stake.guards request .engine) (· ≠ .hub (.getNamespaceLabels stake.source.ns))
      stake.sight stake.source.ns (stake.Kept request) config stake.nn stake.Knows where
  stable := kept_stable reads .engine
  shows := fun kept => kept.shows
  lawful := fun answer => answer.1
  labelsRead := fun h => h rfl
  guarded := fun kept passive => ⟨kept, engineKeeps_of_passive passive⟩
  read := by
    intro fleet rep kept answer
    obtain ⟨⟨hub, ⟨hreads, _⟩, _⟩, hadmits⟩ := answer
    have hrep : fleet.hub.replications stake.nn = some rep := hreads
    obtain ⟨stored, hstored, hrecords⟩ := kept.stored
    rw [hrep] at hstored
    cases hstored
    exact ⟨kept.consistent.key _ _ hrep, hrecords, selects rep (hadmits rep hrep)⟩
  source := fun knows => knows.records.refers.2
  finalizes := fun kept knows => ⟨kept, knows.records.refers⟩
  finalized := by
    intro fleet rep reply after kept knows answer
    obtain ⟨⟨hub, hanswer, rfl⟩, _⟩ := answer
    have hrefers : stake.Refers (finalized rep).spec := knows.records.refers
    have hkeeps : stake.HubKeeps fleet.hub (.updateReplication (finalized rep)) := hrefers
    refine ⟨kept.answers hkeeps hanswer, ?_⟩
    rintro stored rfl
    obtain ⟨cur, hcur, heq⟩ := Option.map_eq_some_iff.mp hanswer
    cases heq
    obtain ⟨old, hold, hrecords⟩ := kept.stored
    have hsame := (Hub.current_eq_some hcur).1
    rw [show (finalized rep).key = stake.nn from knows.key, hold] at hsame
    cases hsame
    exact ⟨knows.key, ⟨hrecords.uid, hrecords.live, hrefers, hrecords.recorded⟩, knows.selected⟩
  remembers := by
    intro fleet rep sourceName kept knows
    have hkeeps : stake.EngineKeeps fleet.hub
        (.storeResult rep.uid (stake.sight.result rep sourceName)) := by
      intro _
      apply stake.sight.denies_of_not_permits
      rw [source_eq_of_refers knows.records.refers]
      exact revoked.denied
    refine ⟨⟨kept, hkeeps⟩, ?_⟩
    intro reply after answer
    have hanswer : stake.Answers fleet .engine
        (.storeResult rep.uid (stake.sight.result rep sourceName)) reply
        after := answer.1
    exact kept.engine_answers revoked hkeeps hanswer
  deletes := by
    intro fleet rep _ knows hdeleted
    rw [knows.records.live] at hdeleted
    cases hdeleted
  simple := by
    intro fleet rep reason message delay kept knows
    refine engine_safe revoked (finishSimple_calls rep reason message delay) ?_ kept
    rintro hub call (hpassive | hrecords)
    · exact engineKeeps_of_passive hpassive
    · exact engineKeeps_of_records hrecords knows.records.recorded
  converges := by
    intro fleet rep gvk src earlier kept knows _ hkind _ _ hearlier
    have hsource := source_eq_of_refers knows.records.refers
    have huid := knows.records.uid
    have hretained : stake.slot ∈ (stake.sight.outcome
        (earlier.lastResults rep.uid) rep src.name).retained := by
      rw [stake.sight.mem_retained_iff rep src.name
        (by rw [hsource]; exact revoked.denied) knows.selected
        knows.records.recorded, hsource, huid]
      exact hearlier.memory
    have hcalls := converge_calls config stake.nn rep hkind stake.sight.policies.items
      (fun slot hmem => stake.sight.slot_name rep src.name hmem)
      (stake.sight.outcome (earlier.lastResults rep.uid) rep src.name)
    exact engine_safe revoked hcalls (fun hub call hcall =>
      engineKeeps_of_carriesOut revoked knows.records hretained hcall) kept

/-! ## The request controller -/

/-- Requests that keep the Replication whatever is stored. -/
def Plain (stake : Stake) : RequestCall → Prop
  | .hub (.updateReplication rep) => stake.Refers rep.spec
  | .hub (.updateReplicationStatus _) => False
  | .hub (.deleteReplication _) => False
  | _ => True

theorem requestKeeps_of_plain {call : RequestCall} (plain : stake.Plain call) :
    stake.requestKeeps hub call := by
  cases call with
  | hub call =>
    cases call with
    | updateReplication rep => exact plain
    | updateReplicationStatus rep => exact plain.elim
    | deleteReplication key => exact plain.elim
    | _ => trivial
  | _ => trivial

theorem Kept.request_answers (kept : stake.Kept request fleet) {after : Fleet} {call : RequestCall}
    {reply : call.Reply} {fails : RequestCall → Prop} (keeps : stake.requestKeeps fleet.hub call)
    (answer : fleet.AnswersRequest fails call reply after) :
    stake.Kept request after := by
  cases call with
  | hub call =>
    obtain ⟨hub, hanswer, rfl⟩ := answer
    exact kept.answers keeps hanswer
  | listClusters =>
    rw [answer.2]
    exact kept
  | now =>
    cases answer
    exact kept
  | emit event =>
    cases answer
    exact kept

section Request

variable {α : Type} {post : α → Fleet → Prop}

theorem request_call (call : RequestCall) {next : call.Reply → RequestProgram α}
    {assertion : Fleet → Prop}
    (stable : Stable ((stake.readingSystem config request reads).semantics .request) assertion)
    (kept : ∀ current, assertion current → stake.Kept request current)
    (keeps : ∀ current, assertion current → stake.requestKeeps current.hub call)
    (holds : assertion fleet)
    (step : ∀ current reply after, assertion current → stake.Kept request after →
      current.AnswersRole .request call reply after →
        Safe ((stake.readingSystem config request reads).semantics .request)
          (stake.guards request .request) (next reply) post after) :
    Safe ((stake.readingSystem config request reads).semantics .request)
      (stake.guards request .request) (.call call next) post fleet := by
  refine Safe.call_of_stable stable holds (fun current h => ⟨kept current h, keeps current h⟩) ?_
  intro current reply after hcurrent answer
  have hanswer : current.AnswersRole .request call reply after := answer.1
  exact step current reply after hcurrent
    ((kept current hcurrent).request_answers (keeps current hcurrent) hanswer) hanswer

theorem plain_call (call : RequestCall) {next : call.Reply → RequestProgram α}
    (plain : stake.Plain call) (kept : stake.Kept request fleet)
    (step : ∀ current reply after, stake.Kept request current → stake.Kept request after →
      current.AnswersRole .request call reply after →
        Safe ((stake.readingSystem config request reads).semantics .request)
          (stake.guards request .request) (next reply) post after) :
    Safe ((stake.readingSystem config request reads).semantics .request)
      (stake.guards request .request) (.call call next) post fleet :=
  request_call call (kept_stable reads .request) (fun _ h => h)
    (fun _ _ => requestKeeps_of_plain plain) kept step

theorem plain_safe {program : RequestProgram α} (within : program.AllCalls stake.Plain)
    (kept : stake.Kept request fleet) :
    Safe ((stake.readingSystem config request reads).semantics .request)
      (stake.guards request .request) program (fun _ => stake.Kept request) fleet := by
  refine (Safe.of_within within (kept_stable reads .request) kept
    (fun hplain kept => ⟨kept, requestKeeps_of_plain hplain⟩)
    ?_).weaken fun _ _ h => h.2
  intro current call reply after hplain hcurrent answer
  have hanswer : current.AnswersRole .request call reply after := answer.1
  exact hcurrent.request_answers (requestKeeps_of_plain hplain) hanswer

end Request

variable {obj : PartialObjectMetadata} {used : RequestConfig}

theorem reportTargetResolution_safe (key : NamespacedName) (resolved : List ResolvedTarget)
    (denied : List Decision) (kept : stake.Kept request fleet) :
    Safe ((stake.readingSystem config request reads).semantics .request)
      (stake.guards request .request) (reportTargetResolution key resolved denied)
      (fun _ => stake.Kept request) fleet := by
  unfold reportTargetResolution
  rw [requestHub_bind]
  refine plain_call (.hub (.getReplication key)) trivial kept ?_
  intro current reply after hcurrent hafter answer
  obtain ⟨hub, ⟨hreads, rfl⟩, rfl⟩ := answer
  cases reply with
  | error err => exact fun _ change => (change hafter).1
  | ok rep =>
    have hrep : current.hub.replications key = some rep := hreads
    have hstable : Stable ((stake.readingSystem config request reads).semantics .request)
        (fun fleet => stake.Kept request fleet ∧ fleet.hub.Holds rep) :=
      fun h change => ⟨(change h.1).1, h.2.newer (change h.1).2⟩
    have hholds : stake.Kept request current ∧ current.hub.Holds rep :=
      ⟨hcurrent, hcurrent.consistent.holds hrep⟩
    dsimp only
    rw [Program.perform_bind]
    refine request_call .now hstable (fun _ h => h.1) (fun _ _ => trivial) hholds ?_
    intro current now after hcurrent hafter answer
    cases answer
    split_ifs
    · exact fun _ change => (change hafter).1
    · rw [requestHub_bind]
      refine request_call (.hub (.updateReplicationStatus _)) hstable
        (fun _ h => h.1) ?_ hcurrent ?_
      · -- The version that was read is current only while nothing changed.
        intro current hcurrent cur hcur hrecorded
        obtain ⟨hstored, hversion⟩ := Hub.current_eq_some hcur
        rw [hcurrent.2.2 cur hstored hversion] at hrecorded
        exact hrecorded
      · intro current reply after _ hafter _
        cases reply with
        | ok stored => exact fun _ change => (change hafter).1
        | error err => exact fun _ change => (change hafter).1

theorem holdSource_safe (obj : PartialObjectMetadata) (kept : stake.Kept request fleet) :
    Safe ((stake.readingSystem config request reads).semantics .request)
      (stake.guards request .request) (holdSource obj)
      (fun result current => stake.Kept request current ∧
        ∀ stored, result = .ok stored → stored.ns = obj.ns) fleet := by
  unfold holdSource
  split_ifs
  · refine fun _ change => ⟨(change kept).1, ?_⟩
    rintro stored ⟨⟩
    rfl
  · refine plain_call (.hub (.patchSourceFinalizers _)) trivial kept ?_
    intro current reply after _ hafter answer
    refine fun _ change => ⟨(change hafter).1, ?_⟩
    rintro stored rfl
    obtain ⟨hub, haccepted, rfl⟩ := answer
    obtain ⟨cur, _, heq⟩ := Option.map_eq_some_iff.mp haccepted
    obtain ⟨rfl, _⟩ := Prod.mk.inj heq
    rfl

theorem materialize_safe (parsed : AnnotationRequest) (hkind : used.gvk = stake.gvk)
    (hns : obj.ns = stake.source.ns) (kept : stake.Kept request fleet) :
    Safe ((stake.readingSystem config request reads).semantics .request)
      (stake.guards request .request) (materialize used obj parsed)
      (fun _ => stake.Kept request) fleet := by
  have hends : ∀ {fleet : Fleet} (value : ApiResult Unit), stake.Kept request fleet →
      Safe ((stake.readingSystem config request reads).semantics .request)
        (stake.guards request .request) (.done value : RequestProgram _)
        (fun _ => stake.Kept request) fleet :=
    fun _ kept _ change => (change kept).1
  unfold materialize
  refine Safe.seq (holdSource_safe obj kept) ?_
  rintro result current ⟨hcurrent, hstored⟩
  cases result with
  | error err => exact hends _ hcurrent
  | ok held =>
    have hheld := (hstored held rfl).trans hns
    refine Safe.seq (plain_safe (resolveTargets_allCalls used held parsed
      trivial trivial trivial) hcurrent) ?_
    intro result current hcurrent
    cases result with
    | error err => exact hends _ hcurrent
    | ok targets =>
      have hrefers : stake.Refers (desiredReplication used held targets.1).spec :=
        ⟨congrArg GroupVersionKind.kind hkind, hheld⟩
      have hplain : ∀ rep : Replication,
          rep.spec = (desiredReplication used held targets.1).spec →
            stake.Plain (.hub (.updateReplication rep)) := by
        intro rep hspec
        rw [← hspec] at hrefers
        exact hrefers
      refine Safe.seq (plain_safe (announceDenied_allCalls (fun _ => trivial) targets.2)
        hcurrent) ?_
      intro _ current hcurrent
      refine Safe.seq (plain_safe (writeReplication_allCalls used held targets.1
        (fun _ => trivial) (fun _ => trivial) trivial hplain) hcurrent) ?_
      intro result current hcurrent
      cases result with
      | error err => exact hends _ hcurrent
      | ok placed =>
        cases placed with
        | false => exact hends _ hcurrent
        | true => exact reportTargetResolution_safe _ _ _ hcurrent

theorem reconcileRequest_safe (hused : used ∈ request) (hkind : used.gvk = stake.gvk)
    (kept : stake.Kept request fleet) :
    Safe ((stake.readingSystem config request reads).semantics .request)
      (stake.guards request .request) (reconcileRequest used stake.source)
      (fun _ => stake.Kept request) fleet := by
  have hreport : ∀ {fleet : Fleet} (event : RequestEvent), stake.Kept request fleet →
      Safe ((stake.readingSystem config request reads).semantics .request)
        (stake.guards request .request)
        (.call (.emit event) fun _ => .done (.ok ()) : RequestProgram (ApiResult Unit))
        (fun _ => stake.Kept request) fleet :=
    fun event kept => plain_safe ⟨trivial, fun _ => trivial⟩ kept
  unfold reconcileRequest
  rw [requestHub_bind]
  refine plain_call (.hub (.getSourceMetadata used.gvk stake.source)) trivial kept ?_
  intro current reply after _ hafter answer
  obtain ⟨hub, ⟨hreads, rfl⟩, rfl⟩ := answer
  cases reply with
  | error err => exact fun _ change => (change hafter).1
  | ok obj =>
    obtain ⟨source, hsource, hrequested⟩ :=
      hafter.requested (Option.isSome_of_mem hused)
    have hobj : (current.hub.sources used.gvk stake.source).map
        (Hub.metadataAt used.gvk stake.source) = some obj := hreads
    rw [hkind, hsource] at hobj
    obtain rfl := Option.some.inj hobj
    dsimp only
    split_ifs with hdisabled hasked hrelease
    · exact hreport _ hafter
    · exact fun _ change => (change hafter).1
    · -- The source is live and asks for replication.
      have hlive : source.deletionTimestamp = none := hrequested.1
      have hasks : replicates source.object.annotations = true :=
        hrequested.2
      simp [Hub.metadataAt, hlive, hasks] at hrelease
    · cases hparse : parseAnnotations used.library
          (Hub.metadataAt stake.gvk stake.source source).annotations with
      | error errs => exact hreport _ hafter
      | ok parsed =>
        cases parsed with
        | none => exact fun _ change => (change hafter).1
        | some parsed => exact materialize_safe parsed hkind rfl hafter

/-! ## Whole runs -/

theorem relies_of_answers {role : Controller} {call : role.Call} {reply : role.Reply call}
    {after : Fleet} (kept : stake.Kept request fleet → stake.Kept request after)
    (answer : stake.Answers fleet role call reply after) :
    stake.Relies request fleet after := by
  intro hkept
  refine ⟨kept hkept, ?_⟩
  have hchange : after.hub = fleet.hub ∨ ∃ call reply allowed,
      fleet.hub.Answers allowed call reply after.hub := by
    cases role with
    | engine => exact Fleet.Answers.hub_change answer
    | request => exact (Fleet.AnswersRequest.hub_only answer).2
    | authority => exact (Fleet.AnswersAuthority.hub_only answer).2
  rcases hchange with hsame | ⟨_, _, _, hanswer⟩
  · rw [hsame]
    exact .refl _
  · exact hkept.consistent.newer_of_answers hanswer

theorem system_certified (config : EngineConfig)
    (hkind : ∀ used ∈ request, used.gvk = stake.gvk) (revoked : stake.Revoked)
    (selects : ∀ rep, reads rep → Selects rep.spec.resolvedTargets
      stake.slot.cluster stake.slot.ns) :
    (stake.readingSystem config request reads).Certified (stake.Kept request)
      (stake.guards request) where
  outside_invariant := fun kept change => (change.1.relies kept).1
  outside_tolerated := fun _ _ _ _ _ change => change.1.relies
  restart_invariant := by
    rintro fleet _ kept rfl
    exact ⟨⟨⟨kept.shows.policies, kept.shows.labels, kept.shows.inventory⟩,
      kept.consistent, kept.stored⟩, kept.requested,
      .inr ⟨by simp [PolicyResult.Denies], revoked.retained⟩⟩
  guard_invariant := by
    intro role fleet call hguard
    cases role with
    | engine => exact hguard.1
    | request => exact hguard.1
    | authority => exact hguard.elim
  start_safe := by
    intro role program fleet hstarts kept
    cases role with
    | engine =>
      cases hstarts
      exact (engine_walk config request revoked selects).reconcile_safe kept
    | request =>
      obtain ⟨used, hused, rfl⟩ := hstarts
      exact reconcileRequest_safe hused (hkind used hused) kept
    | authority => exact hstarts.elim
  call_tolerated := by
    intro role other fleet call reply after _ hguard answer
    have hanswer : stake.Answers fleet role call reply after := answer.1
    refine relies_of_answers (fun kept => ?_) hanswer
    cases role with
    | engine => exact kept.engine_answers revoked hguard.2 hanswer
    | request => exact kept.request_answers hguard.2 hanswer
    | authority => exact hguard.elim

def Deleting (stake : Stake) (state : PlaneState) : Prop :=
  ∃ cluster gvk key next, state.running .engine =
      some (.call (.transportDelete cluster gvk key) next) ∧
    slotOf cluster gvk key = stake.slot

theorem kept_reachable (hkind : ∀ used ∈ request, used.gvk = stake.gvk) (revoked : stake.Revoked)
    (selects : ∀ rep, reads rep → Selects rep.spec.resolvedTargets
      stake.slot.cluster stake.slot.ns) {start : Fleet} (kept : stake.Kept request start)
    {state : PlaneState}
    (reach : (stake.readingSystem config request reads).Reachable (System.idle start) state) :
    (∃ rep, state.world.hub.replications stake.nn = some rep ∧
      Recorded rep.status.inventory stake.slot) ∧
    ¬ stake.Deleting state := by
  have certified := system_certified config hkind revoked selects
  obtain ⟨rep, hrep, hrecords⟩ :=
    (certified.invariant_reachable kept reach).stored
  refine ⟨⟨rep, hrep, hrecords.recorded⟩, ?_⟩
  rintro ⟨cluster, gvk, key, next, hwaiting, hslot⟩
  have hguard := certified.guard_reachable kept reach hwaiting
  exact hguard.2 hslot

end Stake

end K8sR8r
