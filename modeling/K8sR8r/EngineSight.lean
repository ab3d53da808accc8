import K8sR8r.EnginePreparation
import K8sR8r.EngineWrites
import K8sR8r.HubHistory
import K8sR8r.RetentionDecisions

/-!
# What one reconcile sees

Between reading a Replication and converging it the engine reads the policies,
the labels of the source namespace and the cluster inventory.  When those stand
still, everything the engine decides is a function of them, of the Replication
and of the remembered evaluation; the program only carries the decisions out.
-/

namespace K8sR8r

open Interaction

/-- The policies, the source namespace's labels and the cluster inventory. -/
structure Sight where
  policies : PolicyList
  labels : StringMap
  inventory : String → Option ClusterRecord

namespace Sight

/-- A cluster that is not in the inventory has no labels. -/
def clusterLabels (sight : Sight) (cluster : String) : StringMap :=
  ((sight.inventory cluster).map ClusterRecord.labels).getD ∅

def target (sight : Sight) (cluster ns : String) : PolicyTarget :=
  ⟨cluster, sight.clusterLabels cluster, ns⟩

def source (sight : Sight) (ref : SourceReference) : PolicySource :=
  ⟨ref.kind, ref.ns, sight.labels⟩

def Permits (sight : Sight) (src : PolicySource) (cluster ns : String) :
    Prop :=
  ∃ policy ∈ sight.policies.items, policy.Permits src (sight.target cluster ns)
deriving Decidable

def targets (sight : Sight) (sourceName : String) (resolved : List ResolvedTarget) :
    List (SlotInfo × PolicyTarget) :=
  resolved.flatMap fun tgt =>
    flattenTarget sourceName tgt (sight.clusterLabels tgt.clusterName)

def result (sight : Sight) (rep : Replication) (sourceName : String) :
    PolicyResult :=
  evaluate ⟨sight.source rep.spec.sourceRef,
    (sight.targets sourceName rep.spec.resolvedTargets).map Prod.snd⟩
    sight.policies.items

def slots (sight : Sight) (rep : Replication) (sourceName : String) : List (SlotInfo × Decision) :=
  ((sight.targets sourceName rep.spec.resolvedTargets).map Prod.fst).zip
    (sight.result rep sourceName).decisions

def outcome (sight : Sight) (prev : Option PolicyResult) (rep : Replication) (sourceName : String) :
    RevocationOutcome :=
  handleRevocations prev (sight.result rep sourceName) sight.policies.items
    (sight.source rep.spec.sourceRef) rep.status.inventory

end Sight

def Selects (resolved : List ResolvedTarget) (cluster ns : String) : Prop :=
  ∃ tgt ∈ resolved, tgt.clusterName = cluster ∧ ns ∈ tgt.namespaces
deriving Decidable

namespace Sight

variable (sight : Sight) (rep : Replication) (sourceName : String)

theorem mem_slots_iff (slot : SlotInfo × Decision) : slot ∈ sight.slots rep sourceName ↔
      ∃ tgt ∈ rep.spec.resolvedTargets, ∃ ns ∈ tgt.namespaces,
        slot = (⟨tgt.clusterName, ns, tgt.slotName sourceName⟩,
          decideTarget (sight.source rep.spec.sourceRef)
            (sight.target tgt.clusterName ns) sight.policies.items) := by
  unfold slots result
  rw [zip_decisions]
  simp only [targets, flattenTarget, List.mem_map, List.mem_flatMap, target]
  constructor
  · rintro ⟨_, ⟨tgt, htgt, ns, hns, rfl⟩, rfl⟩
    exact ⟨tgt, htgt, ns, hns, rfl⟩
  · rintro ⟨tgt, htgt, ns, hns, rfl⟩
    exact ⟨_, ⟨tgt, htgt, ns, hns, rfl⟩, rfl⟩

theorem mem_decisions_iff (dec : Decision) :
    dec ∈ (sight.result rep sourceName).decisions ↔
      ∃ tgt ∈ rep.spec.resolvedTargets,
        ∃ ns ∈ tgt.namespaces,
          dec =
            decideTarget (sight.source rep.spec.sourceRef) (sight.target tgt.clusterName ns)
              sight.policies.items := by
  unfold result
  rw [evaluate_decisions]
  simp only [targets, flattenTarget, List.mem_map, List.mem_flatMap, target]
  constructor
  · rintro ⟨_, ⟨_, ⟨tgt, htgt, ns, hns, rfl⟩, rfl⟩, rfl⟩
    exact ⟨tgt, htgt, ns, hns, rfl⟩
  · rintro ⟨tgt, htgt, ns, hns, rfl⟩
    exact ⟨_, ⟨_, ⟨tgt, htgt, ns, hns, rfl⟩, rfl⟩, rfl⟩

theorem decision_eq {dec : Decision} {cluster ns : String}
    (hmem : dec ∈ (sight.result rep sourceName).decisions) (hfor : dec.isFor cluster ns = true) :
    dec =
      decideTarget (sight.source rep.spec.sourceRef) (sight.target cluster ns)
        sight.policies.items := by
  obtain ⟨tgt, _, other, _, rfl⟩ :=
    (sight.mem_decisions_iff rep sourceName dec).mp hmem
  rw [Decision.isFor_iff, decideTarget_target] at hfor
  obtain ⟨rfl, rfl⟩ := hfor
  rfl

theorem exists_decision_iff (cluster ns : String) :
    (∃ dec ∈ (sight.result rep sourceName).decisions, dec.isFor cluster ns = true) ↔
      Selects rep.spec.resolvedTargets cluster ns := by
  constructor
  · rintro ⟨dec, hmem, hfor⟩
    obtain ⟨tgt, htgt, other, hother, rfl⟩ :=
      (sight.mem_decisions_iff rep sourceName dec).mp hmem
    rw [Decision.isFor_iff, decideTarget_target] at hfor
    obtain ⟨rfl, rfl⟩ := hfor
    exact ⟨tgt, htgt, rfl, hother⟩
  · rintro ⟨tgt, htgt, rfl, hns⟩
    refine ⟨_, (sight.mem_decisions_iff rep sourceName _).mpr ⟨tgt, htgt, ns, hns, rfl⟩, ?_⟩
    rw [Decision.isFor_iff, decideTarget_target]
    exact ⟨rfl, rfl⟩

theorem denies_of_not_permits {cluster ns : String}
    (denied : ¬ sight.Permits (sight.source rep.spec.sourceRef) cluster ns) :
    (sight.result rep sourceName).Denies cluster ns := by
  intro dec hmem hfor
  rw [sight.decision_eq rep sourceName hmem hfor]
  rw [← Bool.not_eq_true, decideTarget_allowed_iff]
  exact denied

variable {slot : SlotInfo × Decision} {prev : Option PolicyResult} {key : SlotKey}

theorem permits_of_allowed (hmem : slot ∈ sight.slots rep sourceName)
    (hallowed : slot.2.allowed = true) :
    sight.Permits (sight.source rep.spec.sourceRef) slot.1.cluster slot.1.ns := by
  obtain ⟨tgt, _, ns, _, rfl⟩ :=
    (sight.mem_slots_iff rep sourceName slot).mp hmem
  exact (decideTarget_allowed_iff _ _ _).mp hallowed

theorem slot_name (hmem : slot ∈ sight.slots rep sourceName) (hempty : slot.1.name = "") :
    sourceName = "" := by
  obtain ⟨tgt, _, ns, _, rfl⟩ :=
    (sight.mem_slots_iff rep sourceName slot).mp hmem
  exact slotName_eq_empty hempty

theorem not_permits_of_mem_retained (hmem : key ∈ (sight.outcome prev rep sourceName).retained) :
    Recorded rep.status.inventory key ∧
    ¬ sight.Permits (sight.source rep.spec.sourceRef) key.cluster key.ns := by
  obtain ⟨hrecorded, dec, hdec, hfor, hdenied⟩ := denied_of_mem_retained hmem
  refine ⟨hrecorded, ?_⟩
  rw [sight.decision_eq rep sourceName hdec hfor] at hdenied
  intro hpermits
  have hallowed := (decideTarget_allowed_iff _ _ _).mpr hpermits
  rw [hdenied] at hallowed
  cases hallowed

theorem outcome_signals (prev : Option PolicyResult) :
    (emitAll (sight.outcome prev rep sourceName).signals).AllCalls
      EngineCall.IsPassive :=
  emitAll_allCalls fun _ hmem => (applyRevocations_minor _ _ _ _ _ hmem).1

theorem mem_retained_iff
    (denied : ¬ sight.Permits (sight.source rep.spec.sourceRef) key.cluster key.ns)
    (selected : Selects rep.spec.resolvedTargets key.cluster key.ns)
    (recorded : Recorded rep.status.inventory key) :
    key ∈ (sight.outcome prev rep sourceName).retained ↔
      RetainsTarget (prev.getD ⟨[]⟩) sight.policies.items (sight.source rep.spec.sourceRef)
        key.cluster key.ns :=
  K8sR8r.mem_retained_iff (sight.denies_of_not_permits rep sourceName denied)
    ((sight.exists_decision_iff rep sourceName _ _).mpr selected) recorded

end Sight

/-! ## Reading the sight -/

structure Fleet.Shows (fleet : Fleet) (sight : Sight) (ns : String) :
    Prop where
  policies : fleet.hub.policies = sight.policies
  labels : (fleet.hub.namespaces ns).getD ∅ = sight.labels
  inventory : ∀ name found, fleet.records.Finds name found →
    found = sight.inventory name

variable {fleet after : Fleet} {fails : EngineCall → Prop} {call : EngineCall} {reply : call.Reply}

theorem Fleet.answers_sparesHub (spares : call.SparesHub)
    (answer : fleet.Answers fails call reply after) :
    after.hub = fleet.hub := by
  cases Fleet.answers_effect answer with
  | @hub call =>
    have hpassive : (EngineCall.hub call).IsPassive := spares
    exact congrArg Fleet.hub (Fleet.answers_passive hpassive answer)
  | _ => rfl

theorem Fleet.answers_sparesSpokes (spares : call.SparesSpokes)
    (answer : fleet.Answers fails call reply after) :
    after.spokes = fleet.spokes := by
  cases Fleet.answers_effect answer with
  | apply => exact spares.elim
  | delete => exact spares.elim
  | _ => rfl

theorem Fleet.Shows.answers {sight : Sight} {ns : String} (shows : fleet.Shows sight ns)
    (answer : fleet.Answers fails call reply after) :
    after.Shows sight ns := by
  cases Fleet.answers_effect answer with
  | hub hanswer =>
    have hbackground := Hub.Answers.background hanswer
    refine ⟨hbackground.1.trans shows.policies, ?_, shows.inventory⟩
    dsimp only
    rw [hbackground.2]
    exact shows.labels
  | _ => exact ⟨shows.policies, shows.labels, shows.inventory⟩

/-- A world in which the engine works on a standing sight.  Calls that change
nothing are always allowed; calls that `fails` does not name succeed. -/
structure Observes
    (semantics : Semantics Fleet EngineCall.Reply)
    (guard : Fleet → EngineCall → Prop) (fails : EngineCall → Prop)
    (sight : Sight) (ns : String) (invariant : Fleet → Prop) : Prop where
  stable : Stable semantics invariant
  shows : ∀ {fleet}, invariant fleet → fleet.Shows sight ns
  lawful : ∀ {fleet call reply after},
    semantics.answers fleet call reply after →
      fleet.Answers fails call reply after
  labelsRead : ¬ fails (.hub (.getNamespaceLabels ns))
  guarded : ∀ {fleet call}, invariant fleet → call.IsPassive →
    guard fleet call

namespace Observes

variable {semantics : Semantics Fleet EngineCall.Reply}
  {guard : Fleet → EngineCall → Prop} {fails : EngineCall → Prop}
  {sight : Sight} {ns : String} {invariant : Fleet → Prop} {fleet : Fleet}
  {α : Type}

variable (observes : Observes semantics guard fails sight ns invariant)
include observes

theorem call_safe (call : EngineCall) (passive : call.IsPassive)
    {next : call.Reply → EngineProgram α} {post : α → Fleet → Prop} (holds : invariant fleet)
    (step : ∀ reply current, invariant current → current.Answers fails call reply current →
      semantics.answers current call reply current →
        Safe semantics guard (next reply) post current) :
    Safe semantics guard (.call call next) post fleet := by
  refine Safe.call_of_stable observes.stable holds
    (fun current hcurrent => observes.guarded hcurrent passive) ?_
  intro current reply after hcurrent answer
  have hlawful := observes.lawful answer
  have hsame := Fleet.answers_passive passive hlawful
  subst hsame
  exact step reply after hcurrent hlawful answer

theorem passive_safe {program : EngineProgram α} {value : α → Prop}
    (within : program.Within EngineCall.IsPassive value) (holds : invariant fleet) :
    Safe semantics guard program
      (fun result current => value result ∧ invariant current) fleet := by
  refine Safe.of_within within observes.stable holds
    (fun passive hcurrent => observes.guarded hcurrent passive) ?_
  intro current call reply after passive hcurrent answer
  rw [Fleet.answers_passive passive (observes.lawful answer)]
  exact hcurrent

theorem namespaceLabels_safe (holds : invariant fleet) :
    Safe semantics guard (namespaceLabels ns)
      (fun labels current => labels = sight.labels ∧ invariant current)
      fleet := by
  unfold namespaceLabels
  rw [hub_bind]
  refine observes.call_safe (.hub (.getNamespaceLabels ns)) trivial holds ?_
  intro reply current hcurrent answer _
  obtain ⟨hub, ⟨hreads, _⟩, _⟩ := answer
  have hlabels := (observes.shows hcurrent).labels
  have hstable : ∀ labels, labels = sight.labels →
      Safe semantics guard (.done labels : EngineProgram StringMap)
        (fun labels current => labels = sight.labels ∧ invariant current)
        current :=
    fun labels hlabels later change =>
      ⟨hlabels, observes.stable hcurrent change⟩
  cases reply with
  | ok labels =>
    apply hstable
    have hstored : current.hub.namespaces ns = some labels := hreads
    rw [← hlabels, hstored]
    rfl
  | error err =>
    apply hstable
    have hmissing : if err.isNotFound = true then
        current.hub.namespaces ns = none
      else fails (.hub (.getNamespaceLabels ns)) := hreads
    split_ifs at hmissing with hnotFound
    · rw [← hlabels, hmissing]
      rfl
    · exact (observes.labelsRead hmissing).elim

theorem flattenTargets_safe (sourceName : String) (resolved : List ResolvedTarget)
    (holds : invariant fleet) :
    Safe semantics guard (flattenTargets sourceName resolved) (fun targets current =>
        targets = sight.targets sourceName resolved ∧ invariant current)
      fleet := by
  induction resolved generalizing fleet with
  | nil => exact fun later change => ⟨rfl, observes.stable holds change⟩
  | cons tgt rest ih =>
    unfold flattenTargets
    rw [Program.perform_bind]
    refine observes.call_safe (.lookupCluster tgt.clusterName) trivial holds ?_
    intro found current hcurrent answer _
    have hfound := (observes.shows hcurrent).inventory _ _ answer.1
    refine Safe.seq (ih hcurrent) ?_
    rintro more later ⟨rfl, hlater⟩
    refine fun last change => ⟨?_, observes.stable hlater change⟩
    rw [hfound]
    rfl

end Observes

/-! ## Preparing a reconcile -/

def finalized (rep : Replication) : Replication :=
  { rep with finalizers := addFinalizer rep.finalizers finalizerName }

/-- A world in which the reads of a reconcile can be followed.  `fact` is what
is known about the Replication the engine has read, `early` holds until the
evaluation is stored and `later` afterwards. -/
structure Prepares
    (semantics : Semantics Fleet EngineCall.Reply)
    (guard : Fleet → EngineCall → Prop) (fails : EngineCall → Prop)
    (sight : Sight) (ns : String) (early later : Fleet → Prop)
    (nn : NamespacedName) (fact : Replication → Prop) : Prop
    extends Observes semantics guard fails sight ns early where
  later_stable : Stable semantics later
  read : ∀ {fleet rep}, early fleet →
    semantics.answers fleet (.hub (.getReplication nn)) (.ok rep) fleet →
      fact rep
  source : ∀ {rep}, fact rep → rep.spec.sourceRef.ns = ns
  finalizes : ∀ {fleet rep}, early fleet → fact rep →
    guard fleet (.hub (.updateReplication (finalized rep)))
  finalized : ∀ {fleet rep reply after}, early fleet → fact rep →
    semantics.answers fleet (.hub (.updateReplication (finalized rep)))
      reply after →
    early after ∧ ∀ stored, reply = .ok stored → fact stored
  remembers : ∀ {fleet rep} sourceName, early fleet → fact rep →
    guard fleet (.storeResult rep.uid (sight.result rep sourceName)) ∧
      ∀ {reply after}, semantics.answers fleet
        (.storeResult rep.uid (sight.result rep sourceName)) reply after →
          later after

/-- The fanout that the sight and a remembered evaluation call for. -/
structure Sight.Decides
    (sight : Sight) (config : EngineConfig) (early : Fleet → Prop)
    (rep : Replication) (src : Unstructured) (gvk : GroupVersionKind)
    (policies : List ReplicationPolicy) (slots : List (SlotInfo × Decision))
    (outcome : RevocationOutcome) : Prop where
  kind : config.kindGVKs.lookup rep.spec.sourceRef.kind = some gvk
  source : ∃ seen source, early seen ∧
    seen.hub.sources gvk ⟨rep.spec.sourceRef.ns, rep.spec.sourceRef.name⟩ =
      some source ∧
    src = Hub.objectAt gvk
      ⟨rep.spec.sourceRef.ns, rep.spec.sourceRef.name⟩ source
  uid : src.uid = rep.spec.sourceRef.uid
  policies_eq : policies = sight.policies.items
  slots_eq : slots = sight.slots rep rep.spec.sourceRef.name
  outcome_eq : ∃ seen, early seen ∧ outcome =
    sight.outcome (seen.lastResults rep.uid) rep rep.spec.sourceRef.name

namespace Sight.Decides

variable {sight : Sight} {config : EngineConfig} {early : Fleet → Prop}
  {rep : Replication} {src : Unstructured} {gvk : GroupVersionKind}
  {policies : List ReplicationPolicy} {slots : List (SlotInfo × Decision)}
  {outcome : RevocationOutcome}

variable (decides : sight.Decides config early rep src gvk policies slots outcome)
include decides

theorem groupVersionKind : src.groupVersionKind = gvk := by
  obtain ⟨_, _, _, _, rfl⟩ := decides.source
  rfl

theorem name : src.name = rep.spec.sourceRef.name := by
  obtain ⟨_, _, _, _, rfl⟩ := decides.source
  rfl

theorem slot_name (slot : SlotInfo × Decision) (hmem : slot ∈ slots) (hempty : slot.1.name = "") :
    src.name = "" := by
  rw [decides.slots_eq] at hmem
  rw [decides.name]
  exact sight.slot_name rep _ hmem hempty

theorem signals : (emitAll outcome.signals).AllCalls EngineCall.IsPassive := by
  obtain ⟨seen, _, rfl⟩ := decides.outcome_eq
  exact sight.outcome_signals rep _ _

theorem calls (nn : NamespacedName) :
    (converge config nn rep src gvk policies slots outcome).AllCalls
      (EngineCall.CarriesOut gvk policies slots outcome.retained rep.status.inventory) :=
  converge_calls config nn rep decides.groupVersionKind policies decides.slot_name outcome

end Sight.Decides

def Admitted (fact : Replication → Prop) : Prop :=
  ∃ read, fact read ∧ read.deletionTimestamp = none ∧ isNotAuthoritative read = false

def Prepared.Meets (config : EngineConfig) (sight : Sight) (early later : Fleet → Prop)
    (nn : NamespacedName) (fact : Replication → Prop) :
    Prepared → Fleet → Prop
  | .ended result, fleet => early fleet ∧ ∀ out, result = .ok out →
      (∃ seen, early seen ∧ seen.hub.replications nn = none) ∨
        ∃ rep, fact rep ∧ isNotAuthoritative rep = true
  | .deleting rep, fleet =>
    early fleet ∧ fact rep ∧ rep.deletionTimestamp.isSome = true
  | .simple rep _ _, fleet => early fleet ∧ fact rep ∧ Admitted fact
  | .fanOut rep src gvk policies slots outcome, fleet =>
    later fleet ∧ fact rep ∧ sight.Decides config early rep src gvk policies slots outcome ∧
      Admitted fact

namespace Prepares

variable {semantics : Semantics Fleet EngineCall.Reply}
  {guard : Fleet → EngineCall → Prop} {fails : EngineCall → Prop}
  {sight : Sight} {ns : String} {early later : Fleet → Prop}
  {config : EngineConfig} {nn : NamespacedName} {fact : Replication → Prop}
  {fleet : Fleet} {rep : Replication}

variable (prepares : Prepares semantics guard fails sight ns early later nn fact)
include prepares

theorem ended {result : ApiResult ReconcileOutcome} (holds : early fleet)
    (hresult : ∀ out, result = .ok out → (∃ seen, early seen ∧ seen.hub.replications nn = none) ∨
        ∃ rep, fact rep ∧ isNotAuthoritative rep = true) :
    Safe semantics guard (.done (.ended result))
      (Prepared.Meets config sight early later nn fact) fleet :=
  fun _ change => ⟨prepares.stable holds change, hresult⟩

theorem failed (err : ApiError) (holds : early fleet) :
    Safe semantics guard (.done (.ended (.error err)))
      (Prepared.Meets config sight early later nn fact) fleet :=
  prepares.ended holds fun _ h => nomatch h

theorem simple (reason message : String) (hfact : fact rep) (admitted : Admitted fact)
    (holds : early fleet) :
    Safe semantics guard (.done (.simple rep reason message))
      (Prepared.Meets config sight early later nn fact) fleet :=
  fun _ change => ⟨prepares.stable holds change, hfact, admitted⟩

theorem prepareSource_safe {gvk : GroupVersionKind} {src : Unstructured} (hfact : fact rep)
    (admitted : Admitted fact)
    (hlookup : config.kindGVKs.lookup rep.spec.sourceRef.kind = some gvk)
    (hsource : ∃ seen source, early seen ∧
      seen.hub.sources gvk ⟨rep.spec.sourceRef.ns, rep.spec.sourceRef.name⟩ = some source ∧
      src = Hub.objectAt gvk ⟨rep.spec.sourceRef.ns, rep.spec.sourceRef.name⟩ source)
    (huid : src.uid = rep.spec.sourceRef.uid) (holds : early fleet) :
    Safe semantics guard (prepareSource rep gvk src)
      (Prepared.Meets config sight early later nn fact) fleet := by
  have hns := prepares.source hfact
  have hname : src.name = rep.spec.sourceRef.name := by
    obtain ⟨_, _, _, _, rfl⟩ := hsource
    rfl
  unfold prepareSource
  rw [hub_bind]
  refine prepares.call_safe (.hub .listPolicies) trivial holds ?_
  intro reply current hcurrent answer _
  cases reply with
  | error err => exact prepares.failed err hcurrent
  | ok policies =>
    obtain ⟨hub, ⟨hreads, _⟩, _⟩ := answer
    have hstored : some current.hub.policies = some policies := hreads
    have hpolicies : policies = sight.policies :=
      (Option.some.inj hstored).symm.trans (prepares.shows hcurrent).policies
    subst hpolicies
    dsimp only
    rw [hns, hname]
    refine Safe.seq (prepares.namespaceLabels_safe hcurrent) ?_
    rintro labels current ⟨rfl, hcurrent⟩
    refine Safe.seq (prepares.flattenTargets_safe _ rep.spec.resolvedTargets hcurrent) ?_
    rintro targets current ⟨rfl, hcurrent⟩
    rw [Program.perform_bind]
    refine prepares.call_safe (.previousResult rep.uid) trivial hcurrent ?_
    intro prev seen hseen answer _
    obtain ⟨rfl, _⟩ := answer
    rw [Program.perform_bind]
    -- From here on the program is a function of the sight.
    have hsight : (⟨rep.spec.sourceRef.kind, ns, sight.labels⟩ :
        PolicySource) = sight.source rep.spec.sourceRef := by
      rw [← hns]
      rfl
    rw [hsight]
    refine Safe.call_of_stable prepares.stable hseen (fun current h =>
      (prepares.remembers _ h hfact).1) ?_
    intro current _ after hcurrent answer
    have hafter := (prepares.remembers _ hcurrent hfact).2 answer
    exact fun last change => ⟨prepares.later_stable hafter change, hfact,
      ⟨hlookup, hsource, huid, rfl, rfl, seen, hseen, rfl⟩, admitted⟩

theorem prepareLive_safe (hfact : fact rep) (admitted : Admitted fact) (holds : early fleet) :
    Safe semantics guard (prepareLive config rep)
      (Prepared.Meets config sight early later nn fact) fleet := by
  unfold prepareLive
  dsimp only
  cases hlookup : config.kindGVKs.lookup rep.spec.sourceRef.kind with
  | none => exact prepares.simple _ _ hfact admitted holds
  | some gvk =>
    dsimp only
    rw [hub_bind]
    refine prepares.call_safe (.hub (.getSource gvk _)) trivial holds ?_
    intro reply current hcurrent answer _
    cases reply with
    | error err =>
      dsimp only
      split_ifs
      · exact prepares.simple _ _ hfact admitted hcurrent
      · exact prepares.failed err hcurrent
    | ok src =>
      obtain ⟨hub, ⟨hreads, _⟩, _⟩ := answer
      obtain ⟨stored, hstored, rfl⟩ := Option.map_eq_some_iff.mp hreads
      dsimp only
      split_ifs with huid
      · exact prepares.simple _ _ hfact admitted hcurrent
      · exact prepares.prepareSource_safe hfact admitted hlookup
          ⟨current, stored, hcurrent, hstored, rfl⟩ (not_not.mp huid)
          hcurrent

theorem ensureFinalizer_safe (hfact : fact rep) (holds : early fleet) :
    Safe semantics guard (ensureFinalizer rep) (fun result current => early current ∧
        ∀ stored, result = .ok stored → fact stored) fleet := by
  unfold ensureFinalizer
  split_ifs
  · refine fun current change => ⟨prepares.stable holds change, ?_⟩
    rintro stored ⟨⟩
    exact hfact
  · refine Safe.call_of_stable prepares.stable holds
      (fun current h => prepares.finalizes h hfact) ?_
    intro current reply after hcurrent answer
    have hafter := prepares.finalized hcurrent hfact answer
    exact fun later change => ⟨prepares.stable hafter.1 change, hafter.2⟩

theorem prepare_safe (config : EngineConfig) (holds : early fleet) :
    Safe semantics guard (prepare config nn)
      (Prepared.Meets config sight early later nn fact) fleet := by
  unfold prepare
  rw [hub_bind]
  refine prepares.call_safe (.hub (.getReplication nn)) trivial holds ?_
  intro reply current hcurrent lawful answer
  cases reply with
  | error err =>
    dsimp only
    split_ifs with hfound
    · obtain ⟨hub, ⟨hreads, _⟩, _⟩ := lawful
      have habsent : current.hub.replications nn = none := by
        have hreads : if err.isNotFound = true then
            current.hub.replications nn = none else _ := hreads
        rwa [if_pos hfound] at hreads
      rw [Program.perform_bind]
      refine prepares.call_safe (.backoffForget nn) trivial hcurrent ?_
      intro _ next hnext _ _
      refine Safe.seq (prepares.passive_safe (emitAll_allCalls ?_) hnext) ?_
      · simp [EngineCall.IsPassive, EngineSignal.IsRelease]
      · exact fun _ last h => prepares.ended h.2 fun _ _ =>
          .inl ⟨current, hcurrent, habsent⟩
    · exact prepares.failed err hcurrent
  | ok rep =>
    have hfact := prepares.read hcurrent answer
    dsimp only
    split_ifs with hdeleted hauthority
    · exact fun last change =>
        ⟨prepares.stable hcurrent change, hfact, hdeleted⟩
    · exact prepares.ended hcurrent fun _ _ => .inr ⟨rep, hfact, hauthority⟩
    · have hadmitted : Admitted fact :=
        ⟨rep, hfact, by simpa using hdeleted, by simpa using hauthority⟩
      refine Safe.seq (prepares.ensureFinalizer_safe hfact hcurrent) ?_
      rintro result next ⟨hnext, hstored⟩
      cases result with
      | error err => exact prepares.failed err hnext
      | ok stored =>
        exact prepares.prepareLive_safe (hstored stored rfl) hadmitted hnext

end Prepares

/-! ## Walking a reconcile -/

/-- The obligations under which a whole reconcile keeps an invariant.  `fact`
is what is known about the Replication the engine has read; the rest asks for
each part of the reconcile that writes, remembers or ends early. -/
structure Walk
    (semantics : Semantics Fleet EngineCall.Reply)
    (guard : Fleet → EngineCall → Prop) (fails : EngineCall → Prop)
    (sight : Sight) (ns : String) (invariant : Fleet → Prop)
    (config : EngineConfig) (nn : NamespacedName)
    (fact : Replication → Prop) : Prop
    extends Observes semantics guard fails sight ns invariant where
  read : ∀ {fleet rep}, invariant fleet →
    semantics.answers fleet (.hub (.getReplication nn)) (.ok rep) fleet →
      fact rep
  source : ∀ {rep}, fact rep → rep.spec.sourceRef.ns = ns
  finalizes : ∀ {fleet rep}, invariant fleet → fact rep →
    guard fleet (.hub (.updateReplication (finalized rep)))
  finalized : ∀ {fleet rep reply after}, invariant fleet → fact rep →
    semantics.answers fleet (.hub (.updateReplication (finalized rep)))
      reply after →
    invariant after ∧ ∀ stored, reply = .ok stored → fact stored
  remembers : ∀ {fleet rep} sourceName, invariant fleet → fact rep →
    guard fleet (.storeResult rep.uid (sight.result rep sourceName)) ∧
      ∀ {reply after}, semantics.answers fleet
        (.storeResult rep.uid (sight.result rep sourceName)) reply after →
          invariant after
  deletes : ∀ {fleet rep}, invariant fleet → fact rep →
    rep.deletionTimestamp.isSome = true →
      Safe semantics guard (reconcileDeletion config nn rep)
        (fun _ => invariant) fleet
  simple : ∀ {fleet rep} reason message delay, invariant fleet → fact rep →
    Safe semantics guard (finishSimple rep reason message delay)
      (fun _ => invariant) fleet
  converges : ∀ {fleet rep gvk src earlier}, invariant fleet → fact rep →
    config.kindGVKs.lookup rep.spec.sourceRef.kind = some gvk →
    src.groupVersionKind = gvk → src.uid = rep.spec.sourceRef.uid →
    src.name = rep.spec.sourceRef.name → invariant earlier →
      Safe semantics guard (converge config nn rep src gvk
        sight.policies.items (sight.slots rep src.name)
        (sight.outcome (earlier.lastResults rep.uid) rep src.name))
        (fun _ => invariant) fleet

namespace Walk

variable {semantics : Semantics Fleet EngineCall.Reply}
  {guard : Fleet → EngineCall → Prop} {fails : EngineCall → Prop}
  {sight : Sight} {ns : String} {invariant : Fleet → Prop}
  {config : EngineConfig} {nn : NamespacedName} {fact : Replication → Prop}
  {fleet : Fleet}

theorem prepares (walk : Walk semantics guard fails sight ns invariant config nn fact) :
    Prepares semantics guard fails sight ns invariant invariant nn fact where
  toObserves := walk.toObserves
  later_stable := walk.stable
  read := walk.read
  source := walk.source
  finalizes := walk.finalizes
  finalized := walk.finalized
  remembers := walk.remembers

theorem reconcile_safe (walk : Walk semantics guard fails sight ns invariant config nn fact)
    (holds : invariant fleet) :
    Safe semantics guard (reconcile config nn) (fun _ => invariant) fleet := by
  rw [reconcile_eq]
  refine Safe.seq (walk.prepares.prepare_safe config holds) ?_
  intro prepared current hmeets
  cases prepared with
  | ended result => exact fun last change => walk.stable hmeets.1 change
  | deleting rep => exact walk.deletes hmeets.1 hmeets.2.1 hmeets.2.2
  | simple rep reason message =>
    exact walk.simple _ _ _ hmeets.1 hmeets.2.1
  | fanOut rep src gvk policies slots outcome =>
    obtain ⟨hcurrent, hfact, hdecides, _⟩ := hmeets
    obtain ⟨seen, hseen, hprev⟩ := hdecides.outcome_eq
    refine Safe.seq (walk.passive_safe hdecides.signals hcurrent) ?_
    rintro _ last ⟨_, hlast⟩
    have hconverges := walk.converges hlast hfact hdecides.kind
      hdecides.groupVersionKind hdecides.uid hdecides.name hseen
    rw [hdecides.name] at hconverges
    rwa [hdecides.policies_eq, hdecides.slots_eq, hprev]

end Walk

/-! ## One reconcile on its own -/

def EngineCall.IsTransport : EngineCall → Prop
  | .transportGet _ _ _ => True
  | .transportApply _ _ => True
  | .transportDelete _ _ _ => True
  | _ => False

/-- Only transport calls fail, and others change nothing but the spokes. -/
def soloSemantics : Semantics Fleet EngineCall.Reply where
  interfere := fun before after =>
    after = { before with spokes := after.spokes }
  answers := fun before => before.Answers EngineCall.IsTransport
  interfere_refl := fun _ => rfl
  interfere_trans := by
    intro first second third head tail
    rw [tail, head]

/-- Others change nothing but the spokes, and the labels of the source
namespace can be read. -/
structure Solitary (semantics : Semantics Fleet EngineCall.Reply)
    (fails : EngineCall → Prop) : Prop where
  interferes : ∀ {before after}, semantics.interfere before after →
    after = { before with spokes := after.spokes }
  lawful : ∀ {fleet call reply after},
    semantics.answers fleet call reply after →
      fleet.Answers fails call reply after
  labelsRead : ∀ ns, ¬ fails (.hub (.getNamespaceLabels ns))

theorem soloSemantics_solitary : Solitary soloSemantics EngineCall.IsTransport :=
  ⟨fun change => change, fun answer => answer, fun _ h => h⟩

/-- The Replication as the engine read it, but for its finalizers and
version. -/
structure Resembles (nn : NamespacedName) (rep now : Replication) : Prop where
  key : now.key = nn
  uid : now.uid = rep.uid
  deletionTimestamp : now.deletionTimestamp = rep.deletionTimestamp
  spec : now.spec = rep.spec
  status : now.status = rep.status

/-- Nothing of what the reconcile of a Replication reads has changed since
`start`. -/
structure Standing (nn : NamespacedName) (sight : Sight) (rep : Replication)
    (start fleet : Fleet) : Prop where
  shows : fleet.Shows sight rep.spec.sourceRef.ns
  stored : ∀ now, fleet.hub.replications nn = some now → Resembles nn rep now
  memory : fleet.lastResults rep.uid = start.lastResults rep.uid
  sources : fleet.hub.sources = start.hub.sources

namespace Standing

variable {nn : NamespacedName} {sight : Sight} {rep : Replication} {start fleet after : Fleet}

theorem refl (shows : fleet.Shows sight rep.spec.sourceRef.ns) (key : rep.key = nn)
    (stored : fleet.hub.replications nn = some rep) :
    Standing nn sight rep fleet fleet where
  shows := shows
  stored := by
    intro now hnow
    rw [stored] at hnow
    cases hnow
    exact ⟨key, rfl, rfl, rfl, rfl⟩
  memory := rfl
  sources := rfl

variable {semantics : Semantics Fleet EngineCall.Reply} {fails : EngineCall → Prop}

theorem stable (solitary : Solitary semantics fails) :
    Stable semantics (Standing nn sight rep start) := by
  intro fleet current standing change
  rw [solitary.interferes change]
  exact ⟨⟨standing.shows.policies, standing.shows.labels,
    standing.shows.inventory⟩, standing.stored, standing.memory,
    standing.sources⟩

theorem finalized {now : Replication} {reply : ApiResult Replication}
    (standing : Standing nn sight rep start fleet) (resembles : Resembles nn rep now)
    (answer : fleet.Answers fails (.hub (.updateReplication (K8sR8r.finalized now))) reply after) :
    Standing nn sight rep start after ∧ ∀ stored, reply = .ok stored → Resembles nn rep stored := by
  have hshows := standing.shows.answers answer
  obtain ⟨hub, hanswer, rfl⟩ := answer
  cases reply with
  | error err =>
    obtain ⟨rfl, _⟩ := hanswer
    exact ⟨standing, fun _ h => nomatch h⟩
  | ok stored =>
    obtain ⟨cur, hcur, heq⟩ := Option.map_eq_some_iff.mp hanswer
    obtain ⟨rfl, rfl⟩ := Prod.mk.inj heq
    have hkey : (K8sR8r.finalized now).key = nn := resembles.key
    have hbefore := (Hub.current_eq_some hcur).1
    rw [hkey] at hbefore
    have hsame := standing.stored cur hbefore
    have hstored : ∀ version generation, Resembles nn rep { K8sR8r.finalized now with
          uid := cur.uid
          resourceVersion := version
          generation := generation
          deletionTimestamp := cur.deletionTimestamp
          status := cur.status } := fun _ _ =>
      ⟨hkey, hsame.uid, hsame.deletionTimestamp, resembles.spec, hsame.status⟩
    refine ⟨⟨hshows, ?_, standing.memory, standing.sources⟩, ?_⟩
    · intro later hlater
      dsimp only at hlater
      rw [hkey, Hub.setReplication_self] at hlater
      rw [Hub.keepUnlessReleased_eq_some hlater]
      exact hstored _ _
    · rintro _ ⟨⟩
      exact hstored _ _

theorem prepares (solitary : Solitary semantics fails) {guard : Fleet → EngineCall → Prop}
    {later : Fleet → Prop} (later_stable : Stable semantics later)
    (passive : ∀ {fleet call}, call.IsPassive → guard fleet call)
    (finalizes : ∀ {fleet now}, Standing nn sight rep start fleet → Resembles nn rep now →
        guard fleet (.hub (.updateReplication (K8sR8r.finalized now))))
    (remembers : ∀ {fleet now} sourceName, Standing nn sight rep start fleet →
      Resembles nn rep now → guard fleet (.storeResult now.uid (sight.result now sourceName)) ∧
          later { fleet with
            lastResults := Function.update fleet.lastResults now.uid
              (some (sight.result now sourceName)) }) :
    Prepares semantics guard fails sight rep.spec.sourceRef.ns
      (Standing nn sight rep start) later nn (Resembles nn rep) where
  stable := stable solitary
  shows := fun standing => standing.shows
  lawful := solitary.lawful
  labelsRead := solitary.labelsRead _
  guarded := fun _ hpassive => passive hpassive
  later_stable := later_stable
  read := by
    intro fleet now standing answer
    obtain ⟨hub, ⟨hreads, _⟩, _⟩ := solitary.lawful answer
    exact standing.stored now hreads
  source := fun resembles => by rw [resembles.spec]
  finalizes := finalizes
  finalized := fun standing resembles answer =>
    standing.finalized resembles (solitary.lawful answer)
  remembers := by
    intro fleet now sourceName standing resembles
    refine ⟨(remembers sourceName standing resembles).1, ?_⟩
    intro reply after answer
    have hafter : after = { fleet with
        lastResults := Function.update fleet.lastResults now.uid
          (some (sight.result now sourceName)) } := solitary.lawful answer
    rw [hafter]
    exact (remembers sourceName standing resembles).2

end Standing

/-- A live Replication that carries the engine's finalizer, and its source. -/
structure Ready (config : EngineConfig) (nn : NamespacedName) (sight : Sight)
    (rep : Replication) (gvk : GroupVersionKind) (source : SourceObject)
    (fleet : Fleet) : Prop where
  stored : fleet.hub.replications nn = some rep
  live : rep.deletionTimestamp = none
  authoritative : isNotAuthoritative rep = false
  finalizer : finalizerName ∈ rep.finalizers
  kind : config.kindGVKs.lookup rep.spec.sourceRef.kind = some gvk
  sourceStored : fleet.hub.sources gvk
    ⟨rep.spec.sourceRef.ns, rep.spec.sourceRef.name⟩ = some source
  uid : source.object.uid = rep.spec.sourceRef.uid
  shows : fleet.Shows sight rep.spec.sourceRef.ns

namespace Ready

variable {config : EngineConfig} {nn : NamespacedName} {sight : Sight}
  {rep : Replication} {gvk : GroupVersionKind} {source : SourceObject}
  {fleet : Fleet} {semantics : Semantics Fleet EngineCall.Reply}
  {guard : Fleet → EngineCall → Prop} {fails : EngineCall → Prop}
  {post : ApiResult ReconcileOutcome → Fleet → Prop}
  {prev : Option PolicyResult}

def object (gvk : GroupVersionKind) (rep : Replication) (source : SourceObject) : Unstructured :=
  Hub.objectAt gvk ⟨rep.spec.sourceRef.ns, rep.spec.sourceRef.name⟩ source

/-- When nothing is in the way, a reconcile comes down to carrying out the
decisions. -/
theorem reconcile_safe (observes : Observes semantics guard fails sight rep.spec.sourceRef.ns
      fun fleet => Ready config nn sight rep gvk source fleet ∧
        fleet.lastResults rep.uid = prev) (reads : ∀ call, ¬ fails (.hub call))
    (stores : ∀ {fleet}, Ready config nn sight rep gvk source fleet →
        guard fleet (.storeResult rep.uid (sight.result rep rep.spec.sourceRef.name)))
    (tail : ∀ {fleet}, Ready config nn sight rep gvk source fleet → Safe semantics guard (do
        emitAll (sight.outcome prev rep rep.spec.sourceRef.name).signals
        converge config nn rep (object gvk rep source) gvk
          sight.policies.items (sight.slots rep rep.spec.sourceRef.name)
          (sight.outcome prev rep rep.spec.sourceRef.name)) post fleet)
    (ready : Ready config nn sight rep gvk source fleet)
    (memory : fleet.lastResults rep.uid = prev) :
    Safe semantics guard (reconcile config nn) post fleet := by
  have hread : ∀ {α : Type} {stored : α} {call : HubCall}
      {reply : ApiResult α}, ReadsAs (fails (.hub call)) (some stored) reply →
        reply = .ok stored := by
    intro α stored call reply hreads
    cases reply with
    | ok value =>
      have hvalue : some stored = some value := hreads
      rw [Option.some.inj hvalue]
    | error err =>
      have herr : if err.isNotFound = true then some stored = none
        else fails (.hub call) := hreads
      split_ifs at herr
      exact (reads call herr).elim
  unfold reconcile
  rw [hub_bind]
  refine observes.call_safe (.hub (.getReplication nn)) trivial ⟨ready, memory⟩ ?_
  rintro reply current ⟨hready, hmemory⟩ ⟨_, ⟨hreads, _⟩, _⟩ _
  rw [hready.stored] at hreads
  obtain rfl := hread hreads
  have hfinalizer : rep.finalizers.contains finalizerName = true := by
    simpa using hready.finalizer
  have hensure : ensureFinalizer rep = pure (.ok rep) := by
    rw [ensureFinalizer, if_pos hfinalizer]
  simp only [hready.live, Option.isSome_none, Bool.false_eq_true, if_false,
    hready.authoritative, hensure, Program.pure_eq_done, Program.done_bind]
  unfold reconcileLive
  simp only [hready.kind]
  rw [hub_bind]
  refine observes.call_safe (.hub (.getSource gvk _)) trivial ⟨hready, hmemory⟩ ?_
  rintro reply current ⟨hready, hmemory⟩ ⟨_, ⟨hreads, _⟩, _⟩ _
  rw [hready.sourceStored, Option.map_some] at hreads
  obtain rfl := hread hreads
  have huid : (Hub.objectAt gvk ⟨rep.spec.sourceRef.ns,
      rep.spec.sourceRef.name⟩ source).uid = rep.spec.sourceRef.uid :=
    hready.uid
  simp only [huid, ne_eq, not_true_eq_false, if_false]
  unfold reconcileSource
  rw [hub_bind]
  refine observes.call_safe (.hub .listPolicies) trivial ⟨hready, hmemory⟩ ?_
  rintro reply current ⟨hready, hmemory⟩ ⟨_, ⟨hreads, _⟩, _⟩ _
  rw [hready.shows.policies] at hreads
  obtain rfl := hread hreads
  dsimp only
  refine Safe.seq (observes.namespaceLabels_safe ⟨hready, hmemory⟩) ?_
  rintro labels current ⟨rfl, hcurrent⟩
  refine Safe.seq (observes.flattenTargets_safe _ _ hcurrent) ?_
  rintro targets current ⟨rfl, hcurrent⟩
  rw [Program.perform_bind]
  refine observes.call_safe (.previousResult rep.uid) trivial hcurrent ?_
  rintro reply current ⟨hready, hmemory⟩ ⟨rfl, _⟩ _
  rw [Program.perform_bind, hmemory]
  refine Safe.call_of_stable observes.stable ⟨hready, hmemory⟩
    (fun current hcurrent => stores hcurrent.1) ?_
  rintro current reply after ⟨hready, _⟩ answer
  have hafter : after = { current with
      lastResults := Function.update current.lastResults rep.uid
        (some (sight.result rep rep.spec.sourceRef.name)) } :=
    observes.lawful answer
  subst hafter
  exact tail ⟨hready.stored, hready.live, hready.authoritative,
    hready.finalizer, hready.kind, hready.sourceStored, hready.uid,
    ⟨hready.shows.policies, hready.shows.labels, hready.shows.inventory⟩⟩

theorem stable : Stable soloSemantics fun fleet =>
      Ready config nn sight rep gvk source fleet ∧ fleet.lastResults rep.uid = prev := by
  rintro fleet current ⟨ready, memory⟩ change
  have hcurrent : current = { fleet with spokes := current.spokes } := change
  rw [hcurrent]
  exact ⟨⟨ready.stored, ready.live, ready.authoritative, ready.finalizer,
    ready.kind, ready.sourceStored, ready.uid, ⟨ready.shows.policies,
      ready.shows.labels, ready.shows.inventory⟩⟩, memory⟩

end Ready

end K8sR8r
