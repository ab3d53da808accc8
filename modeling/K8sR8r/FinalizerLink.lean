import K8sR8r.InventoryInvariant
import K8sR8r.StatusWriters

/-!
# A source, its Replication and its replicas

A source, its Replication and the replicas on the spokes depend on each other:
the source must outlive its Replication, and the Replication its replicas.
Two finalizers enforce that, one held by the request controller and one by the
engine, while users create, annotate and delete the source at any time.

The invariant is `Handshake.Bonded`.  The engine relies on `Tolerated` and the
request controller on `Relies`; each is shown for everybody else's steps.
-/

namespace K8sR8r

open Interaction

namespace Handshake

/-! ## The invariant -/

section Invariant

variable (request : RequestConfig) (source : NamespacedName)

/-- Where the request controller puts the Replication of the source. -/
def replicationOf : NamespacedName :=
  ⟨source.ns, replicationName request source.name⟩

def ownerReference (uid : String) : OwnerReference :=
  ⟨apiVersionOf request.gvk, request.gvk.kind, source.name, uid, true⟩

def Gripped (uid : String) (hub : Hub) : Prop :=
  ∃ obj, hub.sources request.gvk source = some obj ∧ obj.object.uid = uid ∧
    sourceFinalizer ∈ obj.finalizers

def Unowned (hub : Hub) : Prop :=
  ∀ rep, hub.replications (replicationOf request source) = some rep →
    ownedBySource request rep source.name = false

structure Linked (hub : Hub) : Prop where
  identified : ∀ obj, hub.sources request.gvk source = some obj →
    obj.object.uid ≠ ""
  owner : ∀ rep,
    hub.replications (replicationOf request source) = some rep →
      rep.ownerReferences =
        [ownerReference request source rep.spec.sourceRef.uid]
  gripped : ∀ rep,
    hub.replications (replicationOf request source) = some rep →
      ownedBySource request rep source.name = true →
        Gripped request source rep.spec.sourceRef.uid hub

structure Bonded (ledger : Ledger) : Prop where
  good : ledger.Good (replicationOf request source)
  consistent : ledger.fleet.hub.Consistent
  linked : Linked request source ledger.fleet.hub

/-- What the engine relies on. -/
structure Tolerated (before after : Ledger) : Prop where
  interferes :
    Ledger.Interferes (replicationOf request source) before after
  moves : before.fleet.Moves after.fleet
  linked : Linked request source before.fleet.hub →
    Linked request source after.fleet.hub

/-- Nobody but the request controller lets go of the source or creates its
Replication. -/
structure Lasting (before after : Hub) : Prop where
  gripped : ∀ uid, Gripped request source uid before →
    Gripped request source uid after
  unowned : Unowned request source before → Unowned request source after

def Relies (before after : Ledger) : Prop :=
  Bonded request source before → Bonded request source after ∧
    before.fleet.hub.Newer after.fleet.hub ∧
    Lasting request source before.fleet.hub after.fleet.hub

end Invariant

variable {request : RequestConfig} {source : NamespacedName}
  {before after ledger : Ledger} {hub : Hub}

theorem Tolerated.refl (ledger : Ledger) : Tolerated request source ledger ledger :=
  ⟨.refl _ _, fun consistent => ⟨.refl _, consistent⟩, id⟩

theorem Tolerated.trans {first second third : Ledger}
    (head : Tolerated request source first second) (tail : Tolerated request source second third) :
    Tolerated request source first third where
  interferes := head.interferes.trans tail.interferes
  moves := by
    intro consistent
    obtain ⟨hnewer, hsecond⟩ := head.moves consistent
    obtain ⟨hlater, hthird⟩ := tail.moves hsecond
    exact ⟨hnewer.trans hlater, hthird⟩
  linked := tail.linked ∘ head.linked

theorem Tolerated.bonded (tolerated : Tolerated request source before after)
    (bonded : Bonded request source before) : Bonded request source after :=
  ⟨tolerated.interferes.good bonded.good,
    (tolerated.moves bonded.consistent).2, tolerated.linked bonded.linked⟩

theorem Relies.refl (ledger : Ledger) : Relies request source ledger ledger :=
  fun bonded => ⟨bonded, .refl _, fun _ h => h, fun h => h⟩

theorem Relies.trans {first second third : Ledger} (head : Relies request source first second)
    (tail : Relies request source second third) :
    Relies request source first third := by
  intro bonded
  obtain ⟨hsecond, hnewer, hlasting⟩ := head bonded
  obtain ⟨hthird, hlater, hlast⟩ := tail hsecond
  exact ⟨hthird, hnewer.trans hlater, fun uid h => hlast.gripped uid (hlasting.gripped uid h),
    fun h => hlast.unowned (hlasting.unowned h)⟩

theorem relies_of_tolerated
    (tolerated : Bonded request source before → Tolerated request source before after)
    (lasting : Bonded request source before →
      Lasting request source before.fleet.hub after.fleet.hub) :
    Relies request source before after :=
  fun bonded => ⟨(tolerated bonded).bonded bonded,
    ((tolerated bonded).moves bonded.consistent).1, lasting bonded⟩

/-! ## Writes that keep the link -/

/-- The source stays, and its Replication keeps its owner or goes. -/
structure Preserves (request : RequestConfig) (source : NamespacedName)
    (before after : Hub) : Prop where
  sources : after.sources request.gvk source =
    before.sources request.gvk source
  replication : ∀ rep,
    after.replications (replicationOf request source) = some rep →
      ∃ cur, before.replications (replicationOf request source) = some cur ∧
        rep.ownerReferences = cur.ownerReferences ∧
        rep.spec.sourceRef.uid = cur.spec.sourceRef.uid

theorem ownedBySource_congr {rep cur : Replication}
    (howner : rep.ownerReferences = cur.ownerReferences) (config : RequestConfig) (name : String) :
    ownedBySource config rep name = ownedBySource config cur name := by
  unfold ownedBySource Replication.getControllerOf
  rw [howner]

variable {first second : Hub}

theorem Preserves.gripped (preserves : Preserves request source first second) {uid : String}
    (gripped : Gripped request source uid first) :
    Gripped request source uid second := by
  unfold Gripped
  rw [preserves.sources]
  exact gripped

theorem Preserves.linked (preserves : Preserves request source first second)
    (linked : Linked request source first) :
    Linked request source second where
  identified := by
    rw [preserves.sources]
    exact linked.identified
  owner := by
    intro rep hrep
    obtain ⟨cur, hcur, howner, huid⟩ := preserves.replication rep hrep
    rw [howner, huid]
    exact linked.owner cur hcur
  gripped := by
    intro rep hrep howned
    obtain ⟨cur, hcur, howner, huid⟩ := preserves.replication rep hrep
    rw [ownedBySource_congr howner] at howned
    rw [huid]
    exact preserves.gripped (linked.gripped cur hcur howned)

theorem Preserves.lasting (preserves : Preserves request source first second) :
    Lasting request source first second where
  gripped := fun _ h => preserves.gripped h
  unowned := by
    intro unowned rep hrep
    obtain ⟨cur, hcur, howner, _⟩ := preserves.replication rep hrep
    rw [ownedBySource_congr howner]
    exact unowned cur hcur

theorem Preserves.refl (hub : Hub) : Preserves request source hub hub :=
  ⟨rfl, fun rep hrep => ⟨rep, hrep, rfl, rfl⟩⟩

theorem preserves_setReplication {key : NamespacedName} {next : Option Replication}
    (rewrites : ∀ rep, next = some rep → ∃ cur, hub.replications key = some cur ∧
        rep.ownerReferences = cur.ownerReferences ∧
        rep.spec.sourceRef.uid = cur.spec.sourceRef.uid) :
    Preserves request source hub (hub.setReplication key next) where
  sources := rfl
  replication := by
    intro rep hrep
    by_cases hkey : replicationOf request source = key
    · rw [hkey, Hub.setReplication_self] at hrep
      rw [hkey]
      exact rewrites rep hrep
    · rw [Hub.setReplication_of_ne hub next hkey] at hrep
      exact ⟨rep, hrep, rfl, rfl⟩

/-- The engine never changes whom a Replication belongs to. -/
theorem preserves_of_fromSnapshot {fails : EngineCall → Prop} {first second : Fleet}
    {call : EngineCall} {reply : call.Reply} (writes : call.FromSnapshot first.hub)
    (answer : first.Answers fails call reply second) :
    Preserves request source first.hub second.hub := by
  rcases writes.rewrites answer with hsame | ⟨key, cur, next, hcur, hhub, hnext⟩
  · rw [hsame]
    exact .refl _
  · rw [hhub]
    apply preserves_setReplication
    intro new hnew
    obtain ⟨howner, hspec⟩ := hnext new hnew
    exact ⟨cur, hcur, howner, congrArg (·.sourceRef.uid) hspec⟩

/-! ## Writes to the source -/

theorem linked_setSource {next : Option SourceObject} (linked : Linked request source hub)
    (identified : ∀ obj, next = some obj → obj.object.uid ≠ "")
    (gripped : ∀ rep, hub.replications (replicationOf request source) = some rep →
        ownedBySource request rep source.name = true → Gripped request source rep.spec.sourceRef.uid
            (hub.setSource request.gvk source next)) :
    Linked request source (hub.setSource request.gvk source next) where
  identified := by
    intro obj hobj
    rw [Hub.setSource_self] at hobj
    exact identified obj hobj
  owner := linked.owner
  gripped := gripped

theorem keepSource_of_finalizer {obj : SourceObject} (hmem : sourceFinalizer ∈ obj.finalizers) :
    Hub.keepSourceUnlessReleased obj = some obj := by
  have hnonempty : obj.finalizers.isEmpty = false := by
    rw [List.isEmpty_eq_false_iff]
    exact List.ne_nil_of_mem hmem
  simp [Hub.keepSourceUnlessReleased, hnonempty]

theorem gripped_rewritten {old new : SourceObject} {uid : String}
    (stored : hub.sources request.gvk source = some old) (huid : new.object.uid = old.object.uid)
    (hfinalizer : sourceFinalizer ∈ old.finalizers → sourceFinalizer ∈ new.finalizers)
    (gripped : Gripped request source uid hub) :
    Gripped request source uid (hub.setSource request.gvk source
      (Hub.keepSourceUnlessReleased new)) := by
  obtain ⟨obj, hobj, hold, hmem⟩ := gripped
  rw [stored, Option.some.injEq] at hobj
  subst obj
  refine ⟨new, ?_, huid.trans hold, hfinalizer hmem⟩
  rw [Hub.setSource_self, keepSource_of_finalizer (hfinalizer hmem)]

theorem interferes_setSource (bonded : Bonded request source before) (next : Option SourceObject) :
    Ledger.Interferes (replicationOf request source) before
      { before with fleet := { before.fleet with
        hub := before.fleet.hub.setSource request.gvk source next } } := by
  have hreplication : (before.fleet.hub.setSource request.gvk source
      next).replications (replicationOf request source) =
        before.fleet.hub.replications (replicationOf request source) := rfl
  exact (Ledger.UserStep.editHub hreplication (Nat.le_succ _)).interferes bonded.good

/-! ## The users -/

/-- What happens around the two controllers.  Users create, annotate and
delete the source but do not strip its finalizer; everything else may change as
well, short of handing Replications to other owners. -/
inductive Happens (request : RequestConfig) (source : NamespacedName) :
    Ledger → Ledger → Prop where
  | createSource {ledger : Ledger} {new : SourceObject}
      (absent : ledger.fleet.hub.sources request.gvk source = none)
      (version : new.resourceVersion = ledger.fleet.hub.nextVersion)
      (uid : new.object.uid ≠ "") (live : new.deletionTimestamp = none) :
      Happens request source ledger
        { ledger with fleet := { ledger.fleet with
          hub := ledger.fleet.hub.setSource request.gvk source (some new) } }
  | editSource {ledger : Ledger} {old new : SourceObject}
      (stored : ledger.fleet.hub.sources request.gvk source = some old)
      (version : new.resourceVersion = ledger.fleet.hub.nextVersion)
      (uid : new.object.uid = old.object.uid)
      (deletion : new.deletionTimestamp = old.deletionTimestamp)
      (finalizer : sourceFinalizer ∈ old.finalizers →
        sourceFinalizer ∈ new.finalizers) :
      Happens request source ledger
        { ledger with fleet := { ledger.fleet with
          hub := ledger.fleet.hub.setSource request.gvk source
            (Hub.keepSourceUnlessReleased new) } }
  | deleteSource {ledger : Ledger} {old : SourceObject}
      (stored : ledger.fleet.hub.sources request.gvk source = some old) :
      Happens request source ledger
        { ledger with fleet := { ledger.fleet with
          hub := ledger.fleet.hub.setSource request.gvk source
            (Hub.keepSourceUnlessReleased
              { old with
                resourceVersion := ledger.fleet.hub.nextVersion
                deletionTimestamp := some (old.deletionTimestamp.getD
                  ledger.fleet.hub.clock) }) } }
  | background {before after : Ledger}
      (step : Ledger.UserStep (replicationOf request source) before after)
      (newer : before.fleet.hub.Newer after.fleet.hub)
      (consistent : after.fleet.hub.Consistent)
      (preserves :
        Preserves request source before.fleet.hub after.fleet.hub) :
      Happens request source before after

/-- Both controllers tolerate a rewritten source that keeps its finalizer. -/
theorem rewrite_tolerated {old : SourceObject} (new : SourceObject)
    (bonded : Bonded request source before)
    (stored : before.fleet.hub.sources request.gvk source = some old)
    (version : new.resourceVersion = before.fleet.hub.nextVersion)
    (huid : new.object.uid = old.object.uid)
    (hfinalizer : sourceFinalizer ∈ old.finalizers → sourceFinalizer ∈ new.finalizers)
    (hafter : after = { before with fleet := { before.fleet with
      hub := before.fleet.hub.setSource request.gvk source (Hub.keepSourceUnlessReleased new) } }) :
    Tolerated request source before after ∧
      Lasting request source before.fleet.hub after.fleet.hub := by
  subst after
  have hversion : ∀ obj, Hub.keepSourceUnlessReleased new = some obj →
      obj.resourceVersion = before.fleet.hub.nextVersion := by
    intro obj hobj
    rw [Hub.keepSourceUnlessReleased_eq_some hobj]
    exact version
  have hgrip : ∀ uid, Gripped request source uid before.fleet.hub →
      Gripped request source uid (before.fleet.hub.setSource request.gvk
        source (Hub.keepSourceUnlessReleased new)) :=
    fun uid => gripped_rewritten stored huid hfinalizer
  refine ⟨⟨interferes_setSource bonded _, ?_, ?_⟩, hgrip, fun h => h⟩
  · intro consistent
    exact ⟨Hub.newer_setSource hversion,
      consistent.setSource fun obj hobj => (hversion obj hobj).le⟩
  · intro linked
    refine linked_setSource linked ?_ ?_
    · intro obj hobj
      rw [Hub.keepSourceUnlessReleased_eq_some hobj, huid]
      exact linked.identified old stored
    · intro rep hrep howned
      exact hgrip _ (linked.gripped rep hrep howned)

theorem Happens.tolerated (happens : Happens request source before after)
    (bonded : Bonded request source before) :
    Tolerated request source before after ∧
      Lasting request source before.fleet.hub after.fleet.hub := by
  cases happens with
  | @createSource new absent version uid live =>
    have hnone : ∀ other, ¬ Gripped request source other before.fleet.hub := by
      rintro other ⟨obj, hobj, _⟩
      rw [absent] at hobj
      cases hobj
    have hversion : ∀ obj, some new = some obj →
        obj.resourceVersion = before.fleet.hub.nextVersion := by
      rintro obj ⟨⟩
      exact version
    refine ⟨⟨interferes_setSource bonded _, ?_, ?_⟩,
      fun other h => (hnone other h).elim, fun h => h⟩
    · intro consistent
      exact ⟨Hub.newer_setSource hversion,
        consistent.setSource fun obj hobj => (hversion obj hobj).le⟩
    · intro linked
      refine linked_setSource linked ?_ ?_
      · rintro obj ⟨⟩
        exact uid
      · intro rep hrep howned
        exact (hnone _ (linked.gripped rep hrep howned)).elim
  | editSource stored version uid _ finalizer =>
    exact rewrite_tolerated _ bonded stored version uid finalizer rfl
  | @deleteSource old stored =>
    exact rewrite_tolerated { old with
      resourceVersion := before.fleet.hub.nextVersion
      deletionTimestamp := some (old.deletionTimestamp.getD
        before.fleet.hub.clock) } bonded stored rfl rfl id rfl
  | background step newer consistent preserves =>
    exact ⟨⟨step.interferes bonded.good, fun _ => ⟨newer, consistent⟩,
      preserves.linked⟩, preserves.lasting⟩

/-! ## The engine -/

/-- The request controller acts on the hub only. -/
structure AnswersRequest (before : Ledger) (call : RequestCall)
    (reply : call.Reply) (after : Ledger) : Prop where
  fleet : before.fleet.AnswersRequest (fun _ => True) call reply after.fleet
  owned : after.owned = before.owned
  released : after.released = before.released

def semantics (request : RequestConfig) (source : NamespacedName) :
    (role : Controller) → Semantics Ledger role.Reply
  | .engine =>
    { interfere := Tolerated request source
      answers := Ledger.Answers (replicationOf request source)
      interfere_refl := Tolerated.refl
      interfere_trans := Tolerated.trans }
  | .request =>
    { interfere := Relies request source
      answers := AnswersRequest
      interfere_refl := Relies.refl
      interfere_trans := Relies.trans }
  | .authority =>
    { interfere := fun _ _ => True
      answers := fun _ _ _ _ => False
      interfere_refl := fun _ => trivial
      interfere_trans := fun _ _ => trivial }

def engineGuard (request : RequestConfig) (source : NamespacedName) (ledger : Ledger)
    (call : EngineCall) : Prop :=
  (Bonded request source ledger ∧ call.FromSnapshot ledger.fleet.hub) ∧
    ∀ reply after, Ledger.Answers (replicationOf request source) ledger call
      reply after → Bonded request source after

theorem engine_operates (request : RequestConfig) (source : NamespacedName) :
    Operates (semantics request source .engine) fun ledger => ledger.fleet.hub where
  interferes := fun change => change.moves
  moves := by
    intro before call reply after answer consistent
    have hanswer : before.fleet.AnswersRole .engine call reply after.fleet :=
      answer.fleet
    exact hanswer.consistent consistent
  answers := fun answer => StatusWriters.answers_hub answer.fleet

theorem engine_safe (config : EngineConfig) (bonded : Bonded request source ledger) :
    Safe (semantics request source .engine) (engineGuard request source)
      (reconcile config (replicationOf request source))
      (fun _ => Bonded request source) ledger := by
  have hinventory : Safe (semantics request source .engine)
      (Ledger.inventoryGuard (replicationOf request source))
      (reconcile config (replicationOf request source))
      (fun _ => Ledger.Good (replicationOf request source)) ledger :=
    (Ledger.reconcile_safe config bonded.good).under
      (fun change => change.interferes) fun answer => answer
  have hsnapshots := (engine_operates request source).reconcile_safe config
    (replicationOf request source) bonded.consistent
  have hlinked : Stable (semantics request source .engine)
      fun ledger => Linked request source ledger.fleet.hub :=
    fun linked change => change.linked linked
  -- Ownership is carried along; the other two walks are already there.
  have hkept := (hinventory.both hsnapshots).keep hlinked (fun hguard linked answer =>
      (preserves_of_fromSnapshot hguard.2 answer.fleet).linked linked)
    bonded.linked
  have hbonded : Safe (semantics request source .engine)
      (fun ledger call => Bonded request source ledger ∧ call.FromSnapshot ledger.fleet.hub)
      (reconcile config (replicationOf request source))
      (fun _ => Bonded request source) ledger := by
    refine (hkept.weaken_guard ?_).weaken ?_
    · rintro current call ⟨⟨hgood, hwrites⟩, hcurrent⟩
      exact ⟨⟨hgood, hwrites.1, hcurrent⟩, hwrites⟩
    · rintro _ current ⟨⟨hgood, hconsistent⟩, hcurrent⟩
      exact ⟨hgood, hconsistent, hcurrent⟩
  exact hbonded.ahead (fun _ _ h => h.1) fun _ _ h => h

theorem engine_relied {call : EngineCall} {reply : call.Reply}
    (hguard : engineGuard request source before call)
    (answer : Ledger.Answers (replicationOf request source) before call reply after) :
    Relies request source before after := by
  intro bonded
  have hanswer : before.fleet.AnswersRole .engine call reply after.fleet :=
    answer.fleet
  exact ⟨hguard.2 reply after answer, (hanswer.consistent bonded.consistent).1,
    (preserves_of_fromSnapshot hguard.1.2 answer.fleet).lasting⟩

end Handshake

end K8sR8r
