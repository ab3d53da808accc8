import K8sR8r.FinalizerLink

/-!
# The request controller keeps the link

Every write of the request controller is something the engine tolerates: it
creates a Replication only for a source it holds, rewrites one only for the
source it belongs to, and lets go of a source only when no Replication of its
own is left.
-/

namespace K8sR8r

open Interaction

namespace Handshake

variable {request : RequestConfig} {source : NamespacedName}
  {before after ledger : Ledger} {hub : Hub}

def requestGuard (request : RequestConfig) (source : NamespacedName) (ledger : Ledger)
    (call : RequestCall) : Prop :=
  Bonded request source ledger ∧ ∀ reply after, AnswersRequest ledger call reply after →
      Tolerated request source ledger after

/-- What the controller knows of the hub stays true while it waits. -/
def Persistent (request : RequestConfig) (source : NamespacedName) (fact : Hub → Prop) : Prop :=
  ∀ before after : Hub, before.Newer after →
    Lasting request source before after → fact before → fact after

theorem persistent_stable {fact : Hub → Prop} (persistent : Persistent request source fact) :
    Stable (semantics request source .request) fun ledger =>
      Bonded request source ledger ∧ fact ledger.fleet.hub := by
  rintro before after ⟨bonded, holds⟩ change
  obtain ⟨hafter, hnewer, hlasting⟩ := change bonded
  exact ⟨hafter, persistent _ _ hnewer hlasting holds⟩

theorem Persistent.and {first second : Hub → Prop} (head : Persistent request source first)
    (tail : Persistent request source second) :
    Persistent request source fun hub => first hub ∧ second hub :=
  fun _ _ newer lasting holds =>
    ⟨head _ _ newer lasting holds.1, tail _ _ newer lasting holds.2⟩

theorem persistent_true : Persistent request source fun _ => True :=
  fun _ _ _ _ h => h

theorem persistent_gripped (uid : String) :
    Persistent request source (Gripped request source uid) :=
  fun _ _ _ lasting => lasting.gripped uid

theorem persistent_unowned : Persistent request source (Unowned request source) :=
  fun _ _ _ lasting => lasting.unowned

theorem persistent_holds (rep : Replication) : Persistent request source fun hub => hub.Holds rep :=
  fun _ _ newer _ holds => holds.newer newer

/-- A source in hand: if its version is still current, it is what is
stored. -/
def HoldsSource (request : RequestConfig) (source : NamespacedName) (obj : SourceObject)
    (hub : Hub) : Prop :=
  obj.resourceVersion < hub.nextVersion ∧ ∀ cur, hub.sources request.gvk source = some cur →
      cur.resourceVersion = obj.resourceVersion → cur = obj

theorem persistent_holdsSource (obj : SourceObject) :
    Persistent request source (HoldsSource request source obj) := by
  intro before after newer _ holds
  refine ⟨holds.1.trans_le newer.versions, ?_⟩
  intro cur hcur hversion
  have hold : cur.resourceVersion < before.nextVersion := by
    rw [hversion]
    exact holds.1
  exact holds.2 cur (newer.sourceUnchanged _ _ cur hcur hold) hversion

section Request

variable {fact : Hub → Prop} {α : Type} {post : α → Ledger → Prop}

variable {call : RequestCall} {reply : call.Reply} {src : SourceObject} {rep : Replication}
  {obj : PartialObjectMetadata} {resolved : List ResolvedTarget}

theorem answersRequest_moves (answer : AnswersRequest before call reply after) :
    before.fleet.Moves after.fleet := by
  have hanswer : before.fleet.AnswersRole .request call reply after.fleet :=
    answer.fleet
  exact hanswer.consistent

theorem call_safe {next : call.Reply → RequestProgram α}
    (persistent : Persistent request source fact) (bonded : Bonded request source ledger)
    (holds : fact ledger.fleet.hub)
    (tolerated : ∀ {current reply after}, Bonded request source current →
      fact current.fleet.hub → AnswersRequest current call reply after →
        Tolerated request source current after)
    (step : ∀ {current reply after}, Bonded request source current →
      fact current.fleet.hub → AnswersRequest current call reply after →
        Bonded request source after → Safe (semantics request source .request)
            (requestGuard request source) (next reply) post after) :
    Safe (semantics request source .request) (requestGuard request source)
      (.call call next) post ledger := by
  refine Safe.call_of_stable (persistent_stable persistent) ⟨bonded, holds⟩ ?_ ?_
  · rintro current ⟨hcurrent, hfact⟩
    exact ⟨hcurrent, fun reply after answer =>
      tolerated hcurrent hfact answer⟩
  · rintro current reply after ⟨hcurrent, hfact⟩ answer
    exact step hcurrent hfact answer ((tolerated hcurrent hfact answer).bonded hcurrent)

theorem done {value : α} (bonded : Bonded request source ledger) :
    Safe (semantics request source .request) (requestGuard request source)
      (.done value) (fun _ => Bonded request source) ledger :=
  fun _ change => (change bonded).1

theorem hub_answer {call : HubCall} {reply : call.Reply}
    (answer : AnswersRequest before (.hub call) reply after) :
    ∃ hub, before.fleet.hub.Answers True call reply hub ∧
      after = { before with fleet := { before.fleet with hub := hub } } := by
  obtain ⟨⟨hub, hanswer, hfleet⟩, howned, hreleased⟩ := answer
  refine ⟨hub, hanswer, ?_⟩
  cases after
  cases hfleet
  cases howned
  cases hreleased
  rfl

def IsPassive : RequestCall → Prop
  | .hub call => call.IsRead
  | _ => True

theorem unchanged_of_passive (passive : IsPassive call)
    (answer : AnswersRequest before call reply after) : after = before := by
  have hfleet : after.fleet = before.fleet := by
    cases call with
    | hub call =>
      obtain ⟨hub, hanswer, hsame⟩ := answer.fleet
      have hhub : hub = before.fleet.hub := by
        cases call with
        | getReplication key => exact hanswer.2
        | getSource gvk key => exact hanswer.2
        | getSourceMetadata gvk key => exact hanswer.2
        | listPolicies => exact hanswer.2
        | getNamespaceLabels name => exact hanswer.2
        | _ => exact passive.elim
      rw [hsame, hhub]
    | listClusters => exact answer.fleet.2
    | now => exact answer.fleet
    | emit event => exact answer.fleet
  obtain ⟨_, howned, hreleased⟩ := answer
  cases after
  cases before
  cases hfleet
  cases howned
  cases hreleased
  rfl

theorem passive_call (call : RequestCall) {next : call.Reply → RequestProgram α}
    (passive : IsPassive call) (persistent : Persistent request source fact)
    (bonded : Bonded request source ledger) (holds : fact ledger.fleet.hub)
    (step : ∀ {current} reply, Bonded request source current →
      fact current.fleet.hub → AnswersRequest current call reply current →
        Safe (semantics request source .request)
          (requestGuard request source) (next reply) post current) :
    Safe (semantics request source .request) (requestGuard request source)
      (.call call next) post ledger := by
  refine call_safe persistent bonded holds ?_ ?_
  · intro current reply after _ _ answer
    rw [unchanged_of_passive passive answer]
    exact .refl _
  · intro current reply after hcurrent hfact answer _
    have hsame := unchanged_of_passive passive answer
    subst after
    exact step reply hcurrent hfact answer

theorem passive_safe {program : RequestProgram α} (calls : program.AllCalls IsPassive)
    (persistent : Persistent request source fact) (bonded : Bonded request source ledger)
    (holds : fact ledger.fleet.hub) :
    Safe (semantics request source .request) (requestGuard request source)
      program (fun _ ledger => Bonded request source ledger ∧ fact ledger.fleet.hub) ledger := by
  induction program generalizing ledger with
  | done value =>
    exact fun current change =>
      persistent_stable persistent ⟨bonded, holds⟩ change
  | call request next ih =>
    refine passive_call request calls.1 persistent bonded holds ?_
    intro current reply hcurrent hfact _
    exact ih reply (calls.2 reply) hcurrent hfact

/-! ## Patching the source -/

/-- A patch under the version of the source in hand fails or rewrites that
source. -/
theorem patch_cases {finalizers : List String} {reply : ApiResult PartialObjectMetadata}
    (held : HoldsSource request source src before.fleet.hub)
    (answer : AnswersRequest before (.hub (.patchSourceFinalizers
      { Hub.metadataAt request.gvk source src with
        finalizers := finalizers })) reply after) :
    after = before ∧ (∃ err, reply = .error err) ∨
      before.fleet.hub.sources request.gvk source = some src ∧
        after = { before with fleet := { before.fleet with
          hub := before.fleet.hub.setSource request.gvk source
            (Hub.keepSourceUnlessReleased { src with
              resourceVersion := before.fleet.hub.nextVersion
              finalizers := finalizers }) } } ∧
        reply = .ok (Hub.metadataAt request.gvk source { src with
          resourceVersion := before.fleet.hub.nextVersion
          finalizers := finalizers }) := by
  obtain ⟨hub, hanswer, rfl⟩ := hub_answer answer
  cases reply with
  | error err =>
    have hsame : hub = before.fleet.hub := hanswer.1
    rw [hsame]
    exact .inl ⟨rfl, err, rfl⟩
  | ok stored =>
    obtain ⟨cur, hcur, heq⟩ := Option.map_eq_some_iff.mp hanswer
    obtain ⟨hsource, hversion⟩ := Option.filter_eq_some_iff.mp hcur
    have hsrc : cur = src := by
      apply held.2 cur hsource
      exact of_decide_eq_true hversion
    subst cur
    obtain ⟨rfl, rfl⟩ := Prod.mk.inj heq
    exact .inr ⟨hsource, rfl, rfl⟩

/-- What is known about the source once it is held. -/
structure Holding (request : RequestConfig) (source : NamespacedName)
    (obj : PartialObjectMetadata) (ledger : Ledger) : Prop where
  bonded : Bonded request source ledger
  ns : obj.ns = source.ns
  name : obj.name = source.name
  gripped : Gripped request source obj.uid ledger.fleet.hub

theorem holdSource_safe (bonded : Bonded request source ledger)
    (held : HoldsSource request source src ledger.fleet.hub)
    (gripped : sourceFinalizer ∈ src.finalizers →
      Gripped request source src.object.uid ledger.fleet.hub) :
    Safe (semantics request source .request) (requestGuard request source)
      (holdSource (Hub.metadataAt request.gvk source src))
      (fun result ledger => Bonded request source ledger ∧
        ∀ obj, result = .ok obj → Holding request source obj ledger)
      ledger := by
  unfold holdSource
  split_ifs with hmem
  · have hgripped := gripped (by simpa [Hub.metadataAt] using hmem)
    intro current change
    obtain ⟨hcurrent, hnow⟩ := persistent_stable
      (persistent_gripped src.object.uid) ⟨bonded, hgripped⟩ change
    refine ⟨hcurrent, ?_⟩
    rintro obj ⟨⟩
    exact ⟨hcurrent, rfl, rfl, hnow⟩
  · refine call_safe (persistent_holdsSource src) bonded held ?_ ?_
    · intro current reply after hcurrent hsource answer
      rcases patch_cases hsource answer with ⟨rfl, _⟩ | ⟨hstored, hafter, _⟩
      · exact .refl _
      · have hadded : sourceFinalizer ∈ src.finalizers →
            sourceFinalizer ∈ addFinalizer src.finalizers sourceFinalizer :=
          fun h => by simp [h]
        exact (rewrite_tolerated { src with
          resourceVersion := current.fleet.hub.nextVersion
          finalizers := addFinalizer src.finalizers sourceFinalizer }
          hcurrent hstored rfl rfl hadded hafter).1
    · intro current reply after hcurrent hsource answer hafter later change
      refine ⟨(change hafter).1, ?_⟩
      rintro obj rfl
      rcases patch_cases hsource answer with
        ⟨_, err, herr⟩ | ⟨hstored, hnext, hreply⟩
      · cases herr
      · have hadded : sourceFinalizer ∈ addFinalizer src.finalizers sourceFinalizer := by simp
        have hobj := Except.ok.inj hreply
        have hgripped : Gripped request source obj.uid after.fleet.hub := by
          rw [hnext, hobj]
          refine ⟨_, ?_, rfl, hadded⟩
          rw [Hub.setSource_self]
          exact keepSource_of_finalizer hadded
        have hlater := persistent_stable (persistent_gripped obj.uid) ⟨hafter, hgripped⟩ change
        rw [hobj] at hlater ⊢
        exact ⟨hlater.1, rfl, rfl, hlater.2⟩

theorem releaseSource_safe (bonded : Bonded request source ledger)
    (held : HoldsSource request source src ledger.fleet.hub)
    (unowned : Unowned request source ledger.fleet.hub) :
    Safe (semantics request source .request) (requestGuard request source)
      (releaseSource (Hub.metadataAt request.gvk source src))
      (fun _ => Bonded request source) ledger := by
  unfold releaseSource
  split_ifs
  · rw [requestHub_bind]
    refine call_safe ((persistent_holdsSource src).and persistent_unowned)
      bonded ⟨held, unowned⟩ ?_ ?_
    · rintro current reply after hcurrent ⟨hsource, hunowned⟩ answer
      rcases patch_cases hsource answer with ⟨rfl, _⟩ | ⟨hstored, hafter, _⟩
      · exact .refl _
      · have hmoves := answersRequest_moves answer
        subst after
        refine ⟨interferes_setSource hcurrent _, hmoves, ?_⟩
        intro linked
        refine linked_setSource linked ?_ ?_
        · intro obj hobj
          rw [Hub.keepSourceUnlessReleased_eq_some hobj]
          exact linked.identified src hstored
        · intro rep hrep howned
          rw [hunowned rep hrep] at howned
          cases howned
    · intro current reply after _ _ _ hafter
      cases reply with
      | ok stored => exact done hafter
      | error err => exact done hafter
  · exact done bonded

/-! ## Writing the Replication -/

theorem keepUnlessReleased_cases (rep : Replication) :
    Hub.keepUnlessReleased rep = some rep ∨
    Hub.keepUnlessReleased rep = none ∧ rep.finalizers = [] := by
  unfold Hub.keepUnlessReleased
  split_ifs with h
  · simp only [Bool.and_eq_true, List.isEmpty_iff] at h
    exact .inr ⟨rfl, h.2⟩
  · exact .inl rfl

/-- Rewriting the Replication is nothing the engine's ledger minds while its
finalizers, its inventory and its source UID stay. -/
theorem interferes_rewrite {cur : Replication} (new : Replication) {next : Option Replication}
    (bonded : Bonded request source before)
    (stored : before.fleet.hub.replications (replicationOf request source) = some cur)
    (version : new.resourceVersion = before.fleet.hub.nextVersion) (key : new.key = cur.key)
    (uid : new.spec.sourceRef.uid = cur.spec.sourceRef.uid)
    (inventory : new.status.inventory = cur.status.inventory)
    (finalizers : new.finalizers = cur.finalizers)
    (hnext : next = some new ∨ next = Hub.keepUnlessReleased new) :
    Ledger.Interferes (replicationOf request source) before
      { before with fleet := { before.fleet with
        hub := before.fleet.hub.setReplication (replicationOf request source) next } } := by
  have hkeeps : finalizerName ∈ cur.finalizers → finalizerName ∈ new.finalizers := by
    rw [finalizers]
    exact id
  have hedit : Ledger.UserStep (replicationOf request source) before
      { before with fleet := { before.fleet with
        hub := before.fleet.hub.setReplication (replicationOf request source) (some new) } } :=
    .editReplication stored version key uid inventory hkeeps
  rcases hnext with rfl | rfl
  · exact hedit.interferes bonded.good
  · rcases keepUnlessReleased_cases new with hkept | ⟨hgone, hempty⟩
    · rw [hkept]
      exact hedit.interferes bonded.good
    · rw [hgone]
      have hreleased : finalizerName ∉ cur.finalizers := by
        rw [← finalizers, hempty]
        simp
      exact (Ledger.UserStep.removeReplication stored hreleased).interferes bonded.good

theorem release_safe (bonded : Bonded request source ledger)
    (held : HoldsSource request source src ledger.fleet.hub) :
    Safe (semantics request source .request) (requestGuard request source)
      (release request (Hub.metadataAt request.gvk source src))
      (fun _ => Bonded request source) ledger := by
  unfold release
  rw [requestHub_bind]
  refine passive_call (.hub (.getReplication _)) trivial (persistent_holdsSource src) bonded held ?_
  intro current reply hcurrent hsource answer
  obtain ⟨hub, ⟨hread, _⟩, _⟩ := hub_answer answer
  cases reply with
  | error err =>
    dsimp only
    split_ifs with hfound
    · have habsent : current.fleet.hub.replications (replicationOf request source) = none := by
        have hread : if err.isNotFound = true then
            current.fleet.hub.replications (replicationOf request source) = none else _ := hread
        rwa [if_pos hfound] at hread
      refine releaseSource_safe hcurrent hsource ?_
      intro rep hrep
      rw [habsent] at hrep
      cases hrep
    · exact done hcurrent
  | ok rep =>
    have hstored : current.fleet.hub.replications (replicationOf request source) = some rep := hread
    dsimp only
    split_ifs with howned hdeleted
    · refine releaseSource_safe hcurrent hsource ?_
      intro other hother
      rw [hstored, Option.some.injEq] at hother
      subst other
      simpa [Hub.metadataAt] using howned
    · exact done hcurrent
    · rw [requestHub_bind]
      refine call_safe persistent_true hcurrent trivial ?_ ?_
      · intro current reply after hcurrent _ answer
        have hmoves := answersRequest_moves answer
        obtain ⟨hub, hanswer, rfl⟩ := hub_answer answer
        cases hanswer.effect with
        | same => exact .refl _
        | @deleted _ cur hcur =>
          have hdelete := interferes_rewrite { cur with
            resourceVersion := current.fleet.hub.nextVersion
            deletionTimestamp := some (cur.deletionTimestamp.getD current.fleet.hub.clock) }
            hcurrent hcur rfl rfl rfl rfl rfl (.inr rfl)
          refine ⟨hdelete, hmoves, fun linked => ?_⟩
          refine (preserves_setReplication ?_).linked linked
          intro new hnew
          rw [Hub.keepUnlessReleased_eq_some hnew]
          exact ⟨cur, hcur, rfl, rfl⟩
      · intro current reply after _ _ _ hafter
        cases reply with
        | ok _ => exact done hafter
        | error err => exact done hafter

/-- The source keeps its UID while it is held, so an owned Replication that is
found belongs to the source in hand. -/
theorem Bonded.sourceUID {uid : String} (bonded : Bonded request source ledger)
    (gripped : Gripped request source uid ledger.fleet.hub)
    (hrep : ledger.fleet.hub.replications (replicationOf request source) = some rep)
    (howned : ownedBySource request rep source.name = true) :
    rep.spec.sourceRef.uid = uid := by
  obtain ⟨obj, hobj, huid, _⟩ := gripped
  obtain ⟨other, hother, hrepUID, _⟩ :=
    bonded.linked.gripped rep hrep howned
  rw [hobj, Option.some.injEq] at hother
  rw [← hrepUID, ← hother, huid]

theorem linked_setReplication (new : Replication) {next : Option Replication}
    (linked : Linked request source hub) (hnext : ∀ rep, next = some rep → rep = new)
    (howner : new.ownerReferences = [ownerReference request source new.spec.sourceRef.uid])
    (gripped : Gripped request source new.spec.sourceRef.uid hub) :
    Linked request source (hub.setReplication (replicationOf request source) next) where
  identified := linked.identified
  owner := by
    intro rep hrep
    rw [Hub.setReplication_self] at hrep
    rw [hnext rep hrep]
    exact howner
  gripped := by
    intro rep hrep _
    rw [Hub.setReplication_self] at hrep
    rw [hnext rep hrep]
    exact gripped

theorem create_tolerated {reply : ApiResult Replication}
    (holding : Holding request source obj before)
    (answer : AnswersRequest before (.hub (.createReplication
      (desiredReplication request obj resolved))) reply after) :
    Tolerated request source before after := by
  have hmoves := answersRequest_moves answer
  obtain ⟨hub, hanswer, rfl⟩ := hub_answer answer
  have hkey : (desiredReplication request obj resolved).key = replicationOf request source := by
    unfold desiredReplication Replication.key replicationOf
    rw [holding.ns, holding.name]
  cases hanswer.effect with
  | same => exact .refl _
  | @created _ stored missing hstored =>
    rw [hkey] at missing hmoves ⊢
    obtain ⟨src, hsrc, huid, _⟩ := holding.gripped
    have hnonempty : obj.uid ≠ "" := by
      rw [← huid]
      exact holding.bonded.linked.identified src hsrc
    have hcreate : Ledger.UserStep (replicationOf request source)
        before { before with fleet := { before.fleet with
          hub := before.fleet.hub.setReplication
            (replicationOf request source) (some stored) } } :=
      .createReplication missing (by rw [hstored])
        (by rw [hstored]; exact hkey)
        (by rw [hstored]; exact hnonempty)
    refine ⟨hcreate.interferes holding.bonded.good, hmoves, ?_⟩
    intro linked
    refine linked_setReplication stored linked ?_ ?_ ?_
    · rintro rep ⟨⟩
      rfl
    · rw [hstored]
      simp only [desiredReplication, ownerReference, holding.name]
    · rw [hstored]
      exact holding.gripped

theorem update_tolerated {reply : ApiResult Replication}
    (holding : Holding request source obj before) (holds : before.fleet.hub.Holds rep)
    (hkey : rep.key = replicationOf request source) (huid : rep.spec.sourceRef.uid = obj.uid)
    (answer : AnswersRequest before (.hub (.updateReplication
      { rep with
        labels := (desiredReplication request obj resolved).labels
        ownerReferences :=
          (desiredReplication request obj resolved).ownerReferences
        spec := (desiredReplication request obj resolved).spec })) reply
      after) :
    Tolerated request source before after := by
  have hmoves := answersRequest_moves answer
  obtain ⟨hub, hanswer, rfl⟩ := hub_answer answer
  cases hanswer.effect with
  | same => exact .refl _
  | @updated _ cur stored hcur hnew =>
    obtain rfl : cur = rep := holds.eq_of_current rfl rfl hcur
    have hstored := (Hub.current_eq_some hcur).1
    have hwritten : Replication.key { cur with
        labels := (desiredReplication request obj resolved).labels
        ownerReferences :=
          (desiredReplication request obj resolved).ownerReferences
        spec := (desiredReplication request obj resolved).spec } =
          replicationOf request source := hkey
    rw [hwritten] at hstored hmoves ⊢
    refine ⟨interferes_rewrite stored holding.bonded hstored ?_ ?_ ?_ ?_ ?_ (.inr rfl), hmoves, ?_⟩
    · rw [hnew]
    · rw [hnew]
      rfl
    · rw [hnew]
      exact huid.symm
    · rw [hnew]
    · rw [hnew]
    · intro linked
      refine linked_setReplication stored linked ?_ ?_ ?_
      · exact fun other hother => Hub.keepUnlessReleased_eq_some hother
      · rw [hnew]
        simp only [desiredReplication, ownerReference, holding.name]
      · rw [hnew]
        exact holding.gripped

theorem writeReplication_safe (resolved : List ResolvedTarget)
    (holding : Holding request source obj ledger) :
    Safe (semantics request source .request) (requestGuard request source)
      (writeReplication request obj resolved)
      (fun _ => Bonded request source) ledger := by
  have hkey : replicationKey request obj = replicationOf request source := by
    unfold replicationKey replicationOf
    rw [holding.ns, holding.name]
  have hkeep : ∀ {current : Ledger}, Bonded request source current →
      Gripped request source obj.uid current.fleet.hub → Holding request source obj current :=
    fun hcurrent hgripped =>
      ⟨hcurrent, holding.ns, holding.name, hgripped⟩
  unfold writeReplication
  dsimp only
  rw [hkey, requestHub_bind]
  refine passive_call (.hub (.getReplication _)) trivial
    (persistent_gripped obj.uid) holding.bonded holding.gripped ?_
  intro current reply hcurrent hgripped answer
  obtain ⟨hub, ⟨hread, _⟩, _⟩ := hub_answer answer
  cases reply with
  | error err =>
    dsimp only
    split_ifs
    · exact done hcurrent
    · rw [requestHub_bind]
      refine call_safe (persistent_gripped obj.uid) hcurrent hgripped (fun hnow hgrip answer =>
          create_tolerated (hkeep hnow hgrip) answer) ?_
      intro current reply after _ _ _ hafter
      cases reply with
      | ok stored => exact done hafter
      | error err =>
        dsimp only
        split_ifs
        · exact passive_call (.emit _) trivial persistent_true hafter
            trivial fun _ hnow _ _ => done hnow
        · exact done hafter
  | ok rep =>
    have hstored : current.fleet.hub.replications (replicationOf request source) = some rep := hread
    dsimp only
    rw [holding.name]
    split_ifs with howned hequal
    · exact passive_call (.emit _) trivial persistent_true hcurrent trivial
        fun _ hnow _ _ => done hnow
    · exact done hcurrent
    · have huid := hcurrent.sourceUID hgripped hstored (by simpa using howned)
      have hrepKey := hcurrent.consistent.key _ rep hstored
      rw [requestHub_bind]
      refine call_safe ((persistent_gripped obj.uid).and (persistent_holds rep)) hcurrent
        ⟨hgripped, hcurrent.consistent.holds hstored⟩
        (fun hnow hfacts answer => update_tolerated
          (hkeep hnow hfacts.1) hfacts.2 hrepKey huid answer) ?_
      intro current reply after _ _ _ hafter
      cases reply with
      | ok stored => exact done hafter
      | error err => exact done hafter

theorem report_tolerated {conditions : List Condition} {reply : ApiResult Replication}
    (bonded : Bonded request source before) (holds : before.fleet.hub.Holds rep)
    (hkey : rep.key = replicationOf request source)
    (answer : AnswersRequest before (.hub (.updateReplicationStatus
      { rep with status := { rep.status with conditions := conditions } }))
      reply after) :
    Tolerated request source before after := by
  have hmoves := answersRequest_moves answer
  obtain ⟨hub, hanswer, rfl⟩ := hub_answer answer
  cases hanswer.effect with
  | same => exact .refl _
  | @statusUpdated _ cur stored hcur hnew =>
    obtain rfl : cur = rep := holds.eq_of_current rfl rfl hcur
    obtain rfl := hnew
    have hwritten : Replication.key { cur with
        status := { cur.status with conditions := conditions } } =
          replicationOf request source := hkey
    have hstored := (Hub.current_eq_some hcur).1
    rw [hwritten] at hstored hmoves ⊢
    have hreported := interferes_rewrite { cur with
      resourceVersion := before.fleet.hub.nextVersion
      status := { cur.status with conditions := conditions } }
      bonded hstored rfl rfl rfl rfl rfl (.inl rfl)
    refine ⟨hreported, hmoves, fun linked => ?_⟩
    refine (preserves_setReplication ?_).linked linked
    rintro new ⟨⟩
    exact ⟨cur, hstored, rfl, rfl⟩

theorem reportTargetResolution_safe (resolved : List ResolvedTarget) (denied : List Decision)
    (bonded : Bonded request source ledger) :
    Safe (semantics request source .request) (requestGuard request source)
      (reportTargetResolution (replicationOf request source) resolved denied)
      (fun _ => Bonded request source) ledger := by
  unfold reportTargetResolution
  rw [requestHub_bind]
  refine passive_call (.hub (.getReplication _)) trivial persistent_true bonded trivial ?_
  intro current reply hcurrent _ answer
  obtain ⟨hub, ⟨hread, _⟩, _⟩ := hub_answer answer
  cases reply with
  | error err => exact done hcurrent
  | ok rep =>
    have hstored : current.fleet.hub.replications (replicationOf request source) = some rep := hread
    have hrepKey := hcurrent.consistent.key _ rep hstored
    dsimp only
    rw [Program.perform_bind]
    refine passive_call .now trivial (persistent_holds rep) hcurrent
      (hcurrent.consistent.holds hstored) ?_
    intro current now hcurrent hholds _
    split_ifs
    · exact done hcurrent
    · rw [requestHub_bind]
      refine call_safe (persistent_holds rep) hcurrent hholds (fun hnow hheld answer =>
          report_tolerated hnow hheld hrepKey answer) ?_
      intro current reply after _ _ _ hafter
      cases reply with
      | ok stored => exact done hafter
      | error err => exact done hafter

theorem materialize_safe (parsed : AnnotationRequest) (bonded : Bonded request source ledger)
    (held : HoldsSource request source src ledger.fleet.hub)
    (gripped : sourceFinalizer ∈ src.finalizers →
      Gripped request source src.object.uid ledger.fleet.hub) :
    Safe (semantics request source .request) (requestGuard request source)
      (materialize request (Hub.metadataAt request.gvk source src) parsed)
      (fun _ => Bonded request source) ledger := by
  unfold materialize
  refine Safe.seq (holdSource_safe bonded held gripped) ?_
  rintro result current ⟨hcurrent, hholding⟩
  cases result with
  | error err => exact done hcurrent
  | ok obj =>
    have hobj := hholding obj rfl
    refine Safe.seq (passive_safe (resolveTargets_allCalls request obj
      parsed trivial trivial trivial) (persistent_gripped obj.uid) hcurrent hobj.gripped) ?_
    rintro targets current ⟨hcurrent, hgripped⟩
    cases targets with
    | error err => exact done hcurrent
    | ok targets =>
      refine Safe.seq (passive_safe (announceDenied_allCalls (fun _ => trivial) targets.2)
        (persistent_gripped obj.uid) hcurrent hgripped) ?_
      rintro _ current ⟨hcurrent, hgripped⟩
      have hnow : Holding request source obj current :=
        ⟨hcurrent, hobj.ns, hobj.name, hgripped⟩
      have hkey : replicationKey request obj = replicationOf request source := by
        unfold replicationKey replicationOf
        rw [hobj.ns, hobj.name]
      unfold placeReplication
      refine Safe.seq (writeReplication_safe targets.1 hnow) ?_
      intro written current hcurrent
      rcases written with err | _ | _
      · exact done hcurrent
      · exact done hcurrent
      · dsimp only
        rw [hkey]
        exact reportTargetResolution_safe _ _ hcurrent

theorem request_safe (bonded : Bonded request source ledger) :
    Safe (semantics request source .request) (requestGuard request source)
      (reconcileRequest request source)
      (fun _ => Bonded request source) ledger := by
  unfold reconcileRequest
  rw [requestHub_bind]
  refine passive_call (.hub (.getSourceMetadata _ _)) trivial persistent_true bonded trivial ?_
  intro current reply hcurrent _ answer
  obtain ⟨hub, ⟨hread, _⟩, _⟩ := hub_answer answer
  cases reply with
  | error err => exact done hcurrent
  | ok obj =>
    obtain ⟨src, hsrc, rfl⟩ := Option.map_eq_some_iff.mp hread
    have hheld : HoldsSource request source src current.fleet.hub := by
      refine ⟨hcurrent.consistent.sourceVersion _ _ src hsrc, ?_⟩
      intro cur hcur _
      rw [hsrc] at hcur
      exact (Option.some.inj hcur).symm
    have hgripped : sourceFinalizer ∈ src.finalizers →
        Gripped request source src.object.uid current.fleet.hub :=
      fun hmem => ⟨src, hsrc, rfl, hmem⟩
    dsimp only
    split_ifs
    · exact passive_call (.emit _) trivial persistent_true hcurrent trivial
        fun _ hnow _ _ => done hnow
    · exact done hcurrent
    · exact release_safe hcurrent hheld
    · cases parseAnnotations request.library
          (Hub.metadataAt request.gvk source src).annotations with
      | error errs =>
        exact passive_call (.emit _) trivial persistent_true hcurrent
          trivial fun _ hnow _ _ => done hnow
      | ok parsed =>
        cases parsed with
        | none => exact done hcurrent
        | some parsed =>
          exact materialize_safe parsed hcurrent hheld hgripped

end Request

end Handshake

end K8sR8r
