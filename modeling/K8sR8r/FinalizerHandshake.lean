import K8sR8r.SourceHandshake

/-!
# The finalizer handshake

The engine and the request controller run on one source and its Replication,
in any order and with restarts, while users create, annotate and delete the
source.  The link between the source, the Replication and the replicas holds
in every state they can reach.
-/

namespace K8sR8r

open Interaction

namespace Handshake

variable {request : RequestConfig} {source : NamespacedName} {ledger : Ledger}

/-! ## The system -/

def system (config : EngineConfig) (request : RequestConfig) (source : NamespacedName) :
    System Ledger Controller.Reply Controller.Outcome where
  semantics := semantics request source
  starts
    | .engine, program =>
      program = reconcile config (replicationOf request source)
    | .request, program => program = reconcileRequest request source
    | .authority, _ => False
  outside := fun state => Happens request source state.world
  restart := fun before after => after = before.restarted

def guards (request : RequestConfig) (source : NamespacedName) :
    (role : Controller) → Ledger → role.Call → Prop
  | .engine, ledger, call => engineGuard request source ledger call
  | .request, ledger, call => requestGuard request source ledger call
  | .authority, _, _ => False

theorem system_certified (config : EngineConfig) (request : RequestConfig)
    (source : NamespacedName) :
    (system config request source).Certified (Bonded request source) (guards request source) where
  outside_invariant := fun bonded happens =>
    (happens.tolerated bonded).1.bonded bonded
  outside_tolerated := by
    intro role state next _ bonded happens
    cases role with
    | engine => exact (happens.tolerated bonded).1
    | request =>
      exact relies_of_tolerated (fun h => (happens.tolerated h).1) fun h => (happens.tolerated h).2
    | authority => trivial
  restart_invariant := by
    rintro world _ bonded rfl
    have hgood := bonded.good
    exact ⟨⟨hgood.placed, hgood.versions, hgood.identity, hgood.marked,
      hgood.recorded⟩, bonded.consistent, bonded.linked⟩
  guard_invariant := by
    intro role world call hguard
    cases role with
    | engine => exact hguard.1.1
    | request => exact hguard.1
    | authority => exact hguard.elim
  start_safe := by
    intro role program world hstarts bonded
    cases role with
    | engine =>
      cases hstarts
      exact engine_safe config bonded
    | request =>
      cases hstarts
      exact request_safe bonded
    | authority => exact hstarts.elim
  call_tolerated := by
    intro role other world call reply next hne hguard answer
    cases role with
    | engine =>
      cases other with
      | engine => exact (hne rfl).elim
      | request => exact engine_relied hguard answer
      | authority => trivial
    | request =>
      cases other with
      | engine => exact hguard.2 reply next answer
      | request => exact (hne rfl).elim
      | authority => trivial
    | authority => exact hguard.elim

structure Initial (request : RequestConfig) (source : NamespacedName)
    (ledger : Ledger) : Prop where
  placed : ledger.fleet.spokes.WellPlaced
  consistent : ledger.fleet.hub.Consistent
  absent : ledger.fleet.hub.replications (replicationOf request source) =
    none
  identified : ∀ obj,
    ledger.fleet.hub.sources request.gvk source = some obj →
      obj.object.uid ≠ ""
  owned : ledger.owned = ∅

theorem Initial.bonded (initial : Initial request source ledger) :
    Bonded request source ledger := by
  have hnone : ∀ rep, ledger.fleet.hub.replications (replicationOf request source) ≠ some rep := by
    intro rep hrep
    rw [initial.absent] at hrep
    cases hrep
  have hinitial : ledger.Initial (replicationOf request source) :=
    ⟨initial.placed, fun rep hrep => (hnone rep hrep).elim, initial.owned⟩
  exact ⟨hinitial.good, initial.consistent, initial.identified,
    fun rep hrep => (hnone rep hrep).elim,
    fun rep hrep => (hnone rep hrep).elim⟩

/-- In every reachable state the source of an operator-owned Replication exists
under the recorded UID and carries the request controller's finalizer, and the
Replication of every replica that exists and was not released exists and
carries the engine's. -/
theorem finalizer_handshake (config : EngineConfig) {start : Ledger}
    (initial : Initial request source start)
    {state : Configuration Ledger Controller.Reply Controller.Outcome}
    (reach : (system config request source).Reachable (System.idle start) state) :
    (∀ rep,
      state.world.fleet.hub.replications (replicationOf request source) = some rep →
      ownedBySource request rep source.name = true →
      ∃ obj,
        state.world.fleet.hub.sources request.gvk source = some obj ∧
        obj.object.uid = rep.spec.sourceRef.uid ∧
        sourceFinalizer ∈ obj.finalizers) ∧
    ∀ replica ∈ state.world.owned,
      replica ∉ state.world.released →
      ∃ rep,
        state.world.fleet.hub.replications (replicationOf request source) = some rep ∧
        rep.spec.sourceRef.uid = replica.2 ∧
        rep.ownerReferences = [ownerReference request source replica.2] ∧
        finalizerName ∈ rep.finalizers := by
  have hbonded := (system_certified config request source).invariant_reachable initial.bonded reach
  refine ⟨hbonded.linked.gripped, ?_⟩
  intro replica howned hkept
  obtain ⟨rep, hrep, huid, hfinalizer, _⟩ :=
    hbonded.good.recorded replica ⟨howned, hkept⟩
  refine ⟨rep, hrep, huid, ?_, hfinalizer⟩
  rw [← huid]
  exact hbonded.linked.owner rep hrep

/-! ## A materialized sample -/

def handleRequest (ledger : Ledger) (call : RequestCall) : call.Reply × Ledger :=
  let answer := ledger.fleet.handleRequest call
  (answer.1, { ledger with fleet := answer.2 })

theorem answers_handleRequest (ledger : Ledger) (call : RequestCall) :
    AnswersRequest ledger call (handleRequest ledger call).1 (handleRequest ledger call).2 :=
  ⟨Fleet.answersRole_handleRole ledger.fleet .request call, rfl, rfl⟩

def sampleSource : NamespacedName := ⟨"team", "settings"⟩

open Sample

def sample : Ledger :=
  ⟨{ Sample.fleet with
      hub := { Sample.hub with replications := fun _ => none } }, ∅, ∅⟩

theorem sample_initial : Initial Sample.request sampleSource sample where
  placed := spokes_wellPlaced
  consistent :=
    ⟨by simp [sample], by simp [sample], hub_consistent.sourceVersion⟩
  absent := rfl
  identified := by
    intro obj hobj
    have hobj : some ⟨Sample.source, 2, [], none⟩ = some obj := hobj
    cases hobj
    decide
  owned := rfl

def sampleMaterialized : Ledger :=
  (execute handleRequest (reconcileRequest Sample.request sampleSource) sample).final

def sampleReplicated : Ledger :=
  (execute (Ledger.handle (replicationOf Sample.request sampleSource))
    (reconcile engine (replicationOf Sample.request sampleSource))
    sampleMaterialized).final

theorem sampleReplicated_reachable : (system engine Sample.request sampleSource).Reachable
      (System.idle sample) (System.idle sampleReplicated) := by
  have hrequest := System.reachable_execute_idle
    (system engine Sample.request sampleSource) .request rfl
    (execute_answered answers_handleRequest (reconcileRequest Sample.request sampleSource) sample)
  have hengine := System.reachable_execute_idle
    (system engine Sample.request sampleSource) .engine rfl
    (execute_answered (Ledger.answers_handle _)
      (reconcile engine (replicationOf Sample.request sampleSource))
      sampleMaterialized)
  exact hrequest.trans hengine

theorem finalizer_handshake_sample :
    (∃ obj,
      sampleReplicated.fleet.hub.sources configMapGVK sampleSource = some obj ∧
      obj.object.uid = sourceUID ∧
      sourceFinalizer ∈ obj.finalizers) ∧
    ∃ rep,
      sampleReplicated.fleet.hub.replications (replicationOf Sample.request sampleSource) =
        some rep ∧
      rep.spec.sourceRef.uid = sourceUID ∧
      finalizerName ∈ rep.finalizers := by
  have hmain := finalizer_handshake engine sample_initial sampleReplicated_reachable
  have howned : (slot, sourceUID) ∈ sampleReplicated.owned := by
    decide +kernel
  have hmaterialized : ∃ rep ∈ sampleReplicated.fleet.hub.replications
      (replicationOf Sample.request sampleSource),
      ownedBySource Sample.request rep sampleSource.name = true := by
    decide +kernel
  obtain ⟨rep, hrep, huid, _, hfinalizer⟩ :=
    hmain.2 _ howned (by decide +kernel)
  obtain ⟨other, hother, hmine⟩ := hmaterialized
  have hsame : rep = other := Option.some.inj (hrep.symm.trans hother)
  subst other
  obtain ⟨obj, hobj, hsource, hheld⟩ := hmain.1 rep hrep hmine
  exact ⟨⟨obj, hobj, hsource.trans huid, hheld⟩, rep, hrep, huid, hfinalizer⟩

end Handshake

end K8sR8r
