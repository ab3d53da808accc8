import K8sR8r.SoloReconcile
import K8sR8r.StatusWriters

/-!
# The request controller by itself

A valid request, taken up by the request controller while nobody else changes
the hub, leaves a Replication whose spec lists exactly the requested targets
that the policies grant.
-/

namespace K8sR8r

open Interaction

/-! ## Requested and granted targets -/

/-- A ready cluster that the selector matches, with a requested namespace. -/
structure AnnotationRequest.Asks
    (parsed : AnnotationRequest) (records : ClusterRecords)
    (sourceNamespace : String) (record : ClusterRecord) (ns : String) :
    Prop where
  discovered : ∃ key, records.lookup key = some record
  ready : record.ready = true
  selected : parsed.clusterSelector.matches record.labels = true
  ns_mem : ns ∈ parsed.effectiveNamespaces sourceNamespace

variable {records : ClusterRecords} {clusters : List ClusterRecord} {parsed : AnnotationRequest}
  {targetName : String} {resolved : List ResolvedTarget}

theorem ClusterRecords.Lists.mem_iff (lists : records.Lists clusters) (record : ClusterRecord) :
    record ∈ clusters ↔ ∃ key, records.lookup key = some record := by
  rw [← Multiset.mem_coe, lists, Multiset.mem_map]
  constructor
  · rintro ⟨⟨key, value⟩, hmem, rfl⟩
    exact ⟨key, Finmap.lookup_eq_some_iff.mpr hmem⟩
  · rintro ⟨key, hlookup⟩
    exact ⟨⟨key, record⟩, Finmap.lookup_eq_some_iff.mp hlookup, rfl⟩

theorem mem_candidateTargets_iff {sourceNamespace : String} (lists : records.Lists clusters)
    (target : PolicyTarget) :
    target ∈ candidateTargets parsed sourceNamespace clusters ↔
      ∃ record ns, parsed.Asks records sourceNamespace record ns ∧
        target = ⟨record.name, record.labels, ns⟩ := by
  unfold candidateTargets
  simp only [List.mem_flatMap, List.mem_filter, List.mem_insertionSort,
    lists.mem_iff, Bool.and_eq_true, List.mem_map]
  constructor
  · rintro ⟨record, ⟨hkey, hready, hselected⟩, ns, hns, rfl⟩
    exact ⟨record, ns, ⟨hkey, hready, hselected, hns⟩, rfl⟩
  · rintro ⟨record, ns, asks, rfl⟩
    exact ⟨record, ⟨asks.discovered, asks.ready, asks.selected⟩, ns, asks.ns_mem, rfl⟩

def decisionSlot (sourceName targetName : String) (dec : Decision) :
    SlotInfo :=
  ⟨dec.target.clusterName, dec.target.ns,
    if targetName = "" then sourceName else targetName⟩

/-- Grouping by cluster adds the slot of the decision and keeps the others. -/
theorem mem_specSlots_addResolved {sourceName : String}
    (named : ∀ tgt ∈ resolved, tgt.targetName = targetName) (dec : Decision) (slot : SlotInfo) :
    slot ∈ specSlots sourceName (addResolved targetName resolved dec) ↔
      slot ∈ specSlots sourceName resolved ∨ slot = decisionSlot sourceName targetName dec := by
  unfold addResolved
  dsimp only
  by_cases hany : resolved.any (fun tgt => tgt.clusterName = dec.target.clusterName) = true
  · rw [if_pos hany]
    obtain ⟨found, hfound, hsame⟩ := List.any_eq_true.mp hany
    have hcluster : found.clusterName = dec.target.clusterName := by
      simpa using hsame
    simp only [specSlots, List.mem_flatMap, List.mem_map]
    constructor
    · rintro ⟨_, ⟨tgt, htgt, rfl⟩, ns, hns, rfl⟩
      split_ifs at hns ⊢ with heq
      · rcases List.mem_append.mp hns with hold | hnew
        · exact .inl ⟨tgt, htgt, ns, hold, rfl⟩
        · right
          rw [List.mem_singleton] at hnew
          simp only [decisionSlot, ResolvedTarget.slotName, named tgt htgt, heq, hnew]
      · exact .inl ⟨tgt, htgt, ns, hns, rfl⟩
    · rintro (⟨tgt, htgt, ns, hns, rfl⟩ | rfl)
      · refine ⟨_, ⟨tgt, htgt, rfl⟩, ns, ?_, ?_⟩
        · split_ifs
          · exact List.mem_append_left _ hns
          · exact hns
        · split_ifs
          · rfl
          · rfl
      · refine ⟨_, ⟨found, hfound, rfl⟩, dec.target.ns, ?_, ?_⟩
        · rw [if_pos hcluster]
          simp
        · rw [if_pos hcluster]
          simp only [decisionSlot, ResolvedTarget.slotName, named found hfound, hcluster]
  · rw [if_neg hany]
    simp [specSlots, decisionSlot, ResolvedTarget.slotName]

theorem named_addResolved (named : ∀ tgt ∈ resolved, tgt.targetName = targetName) (dec : Decision) :
    ∀ tgt ∈ addResolved targetName resolved dec, tgt.targetName = targetName := by
  unfold addResolved
  dsimp only
  split_ifs
  · intro tgt hmem
    obtain ⟨old, hold, rfl⟩ := List.mem_map.mp hmem
    split_ifs
    · exact named old hold
    · exact named old hold
  · intro tgt hmem
    rcases List.mem_append.mp hmem with hold | hnew
    · exact named tgt hold
    · rw [List.mem_singleton] at hnew
      rw [hnew]

theorem mem_specSlots_foldl_addResolved {sourceName : String}
    (named : ∀ tgt ∈ resolved, tgt.targetName = targetName) (decisions : List Decision)
    (slot : SlotInfo) :
    slot ∈ specSlots sourceName (decisions.foldl (addResolved targetName) resolved) ↔
      slot ∈ specSlots sourceName resolved ∨
        ∃ dec ∈ decisions, slot = decisionSlot sourceName targetName dec := by
  induction decisions generalizing resolved with
  | nil => simp
  | cons dec rest ih =>
    rw [List.foldl_cons, ih (named_addResolved named dec),
      mem_specSlots_addResolved named dec slot, List.exists_mem_cons_iff,
      or_assoc]

def grantedTargets (source : PolicySource) (parsed : AnnotationRequest)
    (policies : List ReplicationPolicy) (clusters : List ClusterRecord) :
    List ResolvedTarget :=
  ((evaluate ⟨source, candidateTargets parsed source.ns clusters⟩
      policies).decisions.filter Decision.allowed).foldl
    (addResolved parsed.targetName) []

def AnnotationRequest.slot (parsed : AnnotationRequest) (sourceName cluster ns : String) :
    SlotInfo :=
  ⟨cluster, ns, if parsed.targetName = "" then sourceName
    else parsed.targetName⟩

/-- The spec has the slots of the requested pairs that a policy permits. -/
theorem mem_specSlots_grantedTargets_iff {source : PolicySource}
    {policies : List ReplicationPolicy} (lists : records.Lists clusters) (sourceName : String)
    (slot : SlotInfo) :
    slot ∈ specSlots sourceName (grantedTargets source parsed policies clusters) ↔
      ∃ record ns, parsed.Asks records source.ns record ns ∧ (∃ policy ∈ policies,
          policy.Permits source ⟨record.name, record.labels, ns⟩) ∧
        slot = parsed.slot sourceName record.name ns := by
  unfold grantedTargets
  rw [mem_specSlots_foldl_addResolved (by simp)]
  simp only [specSlots, List.flatMap_nil, List.not_mem_nil, false_or,
    evaluate_decisions, List.mem_filter, List.mem_map]
  constructor
  · rintro ⟨dec, ⟨⟨target, htarget, rfl⟩, hallowed⟩, rfl⟩
    obtain ⟨record, ns, asks, rfl⟩ :=
      (mem_candidateTargets_iff lists target).mp htarget
    refine ⟨record, ns, asks, (decideTarget_allowed_iff _ _ _).mp hallowed, ?_⟩
    simp only [decisionSlot, decideTarget_target]
    rfl
  · rintro ⟨record, ns, asks, hpermits, rfl⟩
    refine ⟨_, ⟨⟨_, (mem_candidateTargets_iff lists _).mpr ⟨record, ns, asks, rfl⟩, rfl⟩,
      (decideTarget_allowed_iff _ _ _).mpr hpermits⟩, ?_⟩
    simp only [decisionSlot, decideTarget_target]
    rfl

/-! ## The run -/

/-- Only the request controller's own calls change the fleet. -/
def Fleet.aloneRequest (fails : RequestCall → Prop) : Semantics Fleet RequestCall.Reply :=
  .undisturbed fun fleet call => fleet.AnswersRequest fails call

def Fleet.RequestSees (fleet : Fleet) (fails : RequestCall → Prop) (ns : String)
    (labels : StringMap) : Prop :=
  labels = (fleet.hub.namespaces ns).getD ∅ ∨ fails (.hub (.getNamespaceLabels ns)) ∧ labels = ∅

def Fleet.Specifies (fleet : Fleet) (config : RequestConfig) (key : NamespacedName)
    (spec : ReplicationSpec) : Prop :=
  ∀ rep, fleet.hub.replications ⟨key.ns, replicationName config key.name⟩ = some rep →
    ownedBySource config rep key.name = true → rep.spec = spec

section Materializing

variable {fails : RequestCall → Prop} {config : RequestConfig}
  {fleet : Fleet} {key : NamespacedName} {parsed : AnnotationRequest}
  {obj : PartialObjectMetadata}

def Resolves (fails : RequestCall → Prop) (config : RequestConfig) (fleet : Fleet) (ns : String)
    (parsed : AnnotationRequest) (resolved : List ResolvedTarget) : Prop :=
  ∃ clusters labels, fleet.records.Lists clusters ∧ fleet.RequestSees fails ns labels ∧
    resolved = grantedTargets ⟨config.gvk.kind, ns, labels⟩ parsed fleet.hub.policies.items clusters

theorem requestLabels_sees (ns : String) :
    Safe (Fleet.aloneRequest fails) unguarded (requestLabels ns)
      (fun labels later => later = fleet ∧ fleet.RequestSees fails ns labels) fleet := by
  unfold requestLabels
  refine Safe.undisturbed_perform trivial ?_
  rintro reply after ⟨hub, ⟨hreads, rfl⟩, rfl⟩
  cases reply with
  | ok labels =>
    have hstored : fleet.hub.namespaces ns = some labels := hreads
    refine Safe.undisturbed_done ⟨rfl, .inl ?_⟩
    rw [hstored]
    rfl
  | error err =>
    have hmissing : if err.isNotFound = true then fleet.hub.namespaces ns = none
      else fails (.hub (.getNamespaceLabels ns)) := hreads
    refine Safe.undisturbed_done ⟨rfl, ?_⟩
    split_ifs at hmissing
    · left
      rw [hmissing]
      rfl
    · exact .inr ⟨hmissing, rfl⟩

theorem resolveTargets_resolves : Safe (Fleet.aloneRequest fails) unguarded
      (resolveTargets config obj parsed)
      (fun result current => current = fleet ∧ ∀ targets, result = .ok targets →
          Resolves fails config fleet obj.ns parsed targets.1) fleet := by
  unfold resolveTargets
  refine Safe.undisturbed_perform trivial ?_
  rintro clusters current ⟨hlists, rfl⟩
  dsimp only
  split_ifs with hempty
  · refine Safe.undisturbed_done ⟨rfl, ?_⟩
    rintro targets ⟨⟩
    refine ⟨clusters, _, hlists, .inl rfl, ?_⟩
    unfold grantedTargets
    rw [List.isEmpty_iff.mp hempty]
    rfl
  · refine Safe.seq (requestLabels_sees obj.ns) ?_
    rintro labels later ⟨rfl, hlabels⟩
    refine Safe.undisturbed_perform trivial ?_
    rintro reply after ⟨hub, ⟨hreads, rfl⟩, rfl⟩
    cases reply with
    | error err => exact Safe.undisturbed_done ⟨rfl, fun _ h => nomatch h⟩
    | ok policies =>
      obtain rfl : later.hub.policies = policies := Option.some.inj hreads
      refine Safe.undisturbed_done ⟨rfl, ?_⟩
      rintro targets ⟨⟩
      exact ⟨clusters, labels, hlists, hlabels, rfl⟩

/-- The source is held, and nothing else about the fleet has changed. -/
structure Fleet.Holds
    (fleet : Fleet) (config : RequestConfig) (key : NamespacedName)
    (source : SourceObject) (after : Fleet) : Prop where
  held : ∃ held, after.hub.sources config.gvk key = some held ∧
    held.object = source.object
  policies : after.hub.policies = fleet.hub.policies
  namespaces : after.hub.namespaces = fleet.hub.namespaces
  spokes : after.spokes = fleet.spokes
  records : after.records = fleet.records

variable {source : SourceObject}

theorem Fleet.Holds.surrounds {held after : Fleet} (holds : fleet.Holds config key source held)
    (surrounds : held.Surrounds after) :
    fleet.Holds config key source after := by
  refine ⟨?_, surrounds.policies.trans holds.policies, surrounds.namespaces.trans holds.namespaces,
    surrounds.spokes.trans holds.spokes,
    surrounds.records.trans holds.records⟩
  rw [surrounds.sources]
  exact holds.held

theorem keepSourceUnlessReleased_of_mem {finalizer : String}
    (hmem : finalizer ∈ source.finalizers) :
    Hub.keepSourceUnlessReleased source = some source := by
  unfold Hub.keepSourceUnlessReleased
  rw [if_neg]
  simp [List.ne_nil_of_mem hmem]

theorem holdSource_holds (consistent : fleet.hub.Consistent)
    (hsource : fleet.hub.sources config.gvk key = some source) :
    Safe (Fleet.aloneRequest fails) unguarded (holdSource (Hub.metadataAt config.gvk key source))
      (fun result current => ∀ obj, result = .ok obj → obj.ns = key.ns ∧ obj.name = key.name ∧
          obj.uid = source.object.uid ∧ current.hub.Consistent ∧
          fleet.Holds config key source current) fleet := by
  unfold holdSource
  split_ifs with hfinalizer
  · refine Safe.undisturbed_done ?_
    rintro obj ⟨⟩
    exact ⟨rfl, rfl, rfl, consistent, ⟨source, hsource, rfl⟩, rfl, rfl, rfl, rfl⟩
  · refine Safe.undisturbed_call trivial ?_
    rintro reply after ⟨hub, hanswer, rfl⟩
    refine Safe.undisturbed_done ?_
    rintro obj rfl
    have hconsistent := consistent.answers hanswer
    have haccepted : ((fleet.hub.sources config.gvk key).filter _).map _ =
        some (obj, hub) := hanswer
    rw [hsource] at haccepted
    obtain ⟨cur, hcur, heq⟩ := Option.map_eq_some_iff.mp haccepted
    obtain ⟨hcur, _⟩ := Option.filter_eq_some_iff.mp hcur
    obtain rfl := Option.some.inj hcur
    obtain ⟨rfl, rfl⟩ := Prod.mk.inj heq
    refine ⟨rfl, rfl, rfl, hconsistent, ⟨{ source with
      resourceVersion := fleet.hub.nextVersion
      finalizers := addFinalizer source.finalizers sourceFinalizer }, ?_,
      rfl⟩, rfl, rfl, rfl, rfl⟩
    refine (Hub.setSource_self _ _ _ _).trans ?_
    exact keepSourceUnlessReleased_of_mem ((mem_addFinalizer_iff _ _ _).mpr (.inr rfl))

theorem writeReplication_specifies (consistent : fleet.hub.Consistent) (hns : obj.ns = key.ns)
    (hname : obj.name = key.name) (resolved : List ResolvedTarget) :
    Safe (Fleet.aloneRequest fails) unguarded (writeReplication config obj resolved)
      (fun result current => ∀ placed, result = .ok placed →
        fleet.Surrounds current ∧ current.hub.Consistent ∧ current.Specifies config key
            (desiredReplication config obj resolved).spec) fleet := by
  have hkey : replicationKey config obj = ⟨key.ns, replicationName config key.name⟩ := by
    unfold replicationKey
    rw [hns, hname]
  have hdesired : (desiredReplication config obj resolved).key =
    ⟨key.ns, replicationName config key.name⟩ := hkey
  unfold writeReplication
  dsimp only
  rw [requestHub_bind, hkey]
  refine Safe.undisturbed_call trivial ?_
  rintro reply after ⟨hub, ⟨hreads, rfl⟩, rfl⟩
  cases reply with
  | error err =>
    have hmissing : if err.isNotFound = true then
        fleet.hub.replications ⟨key.ns, replicationName config key.name⟩ = none else _ := hreads
    dsimp only
    split_ifs with hfound
    · exact Safe.undisturbed_done fun _ h => nomatch h
    · have hnone := hmissing
      rw [if_pos (by simpa using hfound)] at hnone
      refine Safe.undisturbed_perform trivial ?_
      rintro reply after ⟨hub, hanswer, rfl⟩
      have hconsistent := consistent.answers hanswer
      cases reply with
      | ok stored =>
        refine Safe.undisturbed_done fun _ _ => ?_
        have haccepted : fleet.hub.acceptCreate (desiredReplication config obj resolved) =
              some (stored, hub) := hanswer
        unfold Hub.acceptCreate at haccepted
        rw [hdesired, hnone] at haccepted
        obtain ⟨rfl, rfl⟩ := Prod.mk.inj (Option.some.inj haccepted)
        refine ⟨⟨rfl, rfl, rfl, rfl, rfl⟩, hconsistent, ?_⟩
        intro rep hrep _
        rw [Hub.setReplication_self] at hrep
        exact (Option.some.inj hrep) ▸ rfl
      | error err =>
        have hsame : hub = fleet.hub := hanswer.1
        subst hsame
        dsimp only
        split_ifs
        · refine Safe.undisturbed_call trivial ?_
          rintro reply after rfl
          refine Safe.undisturbed_done fun _ _ =>
            ⟨.refl fleet, consistent, ?_⟩
          intro rep hrep
          rw [hnone] at hrep
          cases hrep
        · exact Safe.undisturbed_done fun _ h => nomatch h
  | ok rep =>
    have hstored : fleet.hub.replications
      ⟨key.ns, replicationName config key.name⟩ = some rep := hreads
    have hself : ∀ spec, (ownedBySource config rep key.name = true →
        rep.spec = spec) → fleet.Specifies config key spec := by
      intro spec hspec other hother
      obtain rfl := Option.some.inj (hstored.symm.trans hother)
      exact hspec
    dsimp only
    rw [hname]
    split_ifs with howned hequal
    · refine Safe.undisturbed_call trivial ?_
      rintro reply after rfl
      refine Safe.undisturbed_done fun _ _ =>
        ⟨.refl fleet, consistent, hself _ ?_⟩
      intro htrue
      rw [htrue] at howned
      cases howned
    · refine Safe.undisturbed_done fun _ _ =>
        ⟨.refl fleet, consistent, hself _ fun _ => ?_⟩
      simp only [specEqual, Bool.and_eq_true, decide_eq_true_eq] at hequal
      exact hequal.1.1
    · refine Safe.undisturbed_perform trivial ?_
      rintro reply after ⟨hub, hanswer, rfl⟩
      have hconsistent := consistent.answers hanswer
      cases reply with
      | error err => exact Safe.undisturbed_done fun _ h => nomatch h
      | ok stored =>
        refine Safe.undisturbed_done fun _ _ => ?_
        obtain ⟨cur, _, heq⟩ := Option.map_eq_some_iff.mp hanswer
        obtain ⟨rfl, rfl⟩ := Prod.mk.inj heq
        refine ⟨⟨rfl, rfl, rfl, rfl, rfl⟩, hconsistent, ?_⟩
        intro other hother _
        have hrepKey : rep.key = _ := consistent.key _ rep hstored
        rw [← hrepKey] at hother
        have hkept := (Hub.setReplication_self _ _ _).symm.trans hother
        rw [Hub.keepUnlessReleased_eq_some hkept]

theorem reportTargetResolution_specifies {spec : ReplicationSpec} {repKey : NamespacedName}
    (hrepKey : repKey = ⟨key.ns, replicationName config key.name⟩)
    (consistent : fleet.hub.Consistent) (specifies : fleet.Specifies config key spec)
    (resolved : List ResolvedTarget) (denied : List Decision) :
    Safe (Fleet.aloneRequest fails) unguarded (reportTargetResolution repKey resolved denied)
      (fun _ current => fleet.Surrounds current ∧ current.hub.Consistent ∧
        current.Specifies config key spec) fleet := by
  have hsame : ∀ result : ApiResult Unit, Safe (Fleet.aloneRequest fails) unguarded (.done result)
        (fun _ current => fleet.Surrounds current ∧
          current.hub.Consistent ∧ current.Specifies config key spec)
        fleet := fun _ =>
    Safe.undisturbed_done ⟨.refl fleet, consistent, specifies⟩
  unfold reportTargetResolution
  refine Safe.undisturbed_perform trivial ?_
  rintro reply after ⟨hub, ⟨hreads, rfl⟩, rfl⟩
  cases reply with
  | error err => exact hsame _
  | ok rep =>
    dsimp only
    refine Safe.undisturbed_perform trivial ?_
    rintro now after rfl
    split_ifs
    · exact hsame _
    · refine Safe.undisturbed_perform trivial ?_
      rintro reply after ⟨hub, hanswer, rfl⟩
      have hconsistent := consistent.answers hanswer
      cases reply with
      | error err =>
        have hhub : hub = fleet.hub := hanswer.1
        subst hhub
        exact hsame _
      | ok stored =>
        obtain ⟨cur, hcur, heq⟩ := Option.map_eq_some_iff.mp hanswer
        obtain ⟨rfl, rfl⟩ := Prod.mk.inj heq
        refine Safe.undisturbed_done ⟨⟨rfl, rfl, rfl, rfl, rfl⟩, hconsistent, ?_⟩
        intro other hother howned
        -- The status write keeps what the spec was.
        have hstored : fleet.hub.replications repKey = some rep := hreads
        have hkey : rep.key = repKey := consistent.key _ rep hstored
        have hcur := (Hub.current_eq_some hcur).1
        rw [← hrepKey, ← hkey] at hother
        have hkept := (Hub.setReplication_self _ _ _).symm.trans hother
        obtain rfl := Option.some.inj hkept
        refine specifies cur ?_ howned
        rw [← hrepKey, ← hkey]
        exact hcur

theorem announceDenied_same (denied : List Decision) :
    Safe (Fleet.aloneRequest fails) unguarded (announceDenied denied)
      (fun _ current => current = fleet) fleet := by
  cases denied with
  | nil => exact Safe.undisturbed_done rfl
  | cons first rest =>
    refine Safe.undisturbed_call trivial ?_
    rintro _ after rfl
    exact Safe.undisturbed_done rfl

structure Materialized
    (fails : RequestCall → Prop) (config : RequestConfig) (fleet : Fleet)
    (key : NamespacedName) (source : SourceObject)
    (parsed : AnnotationRequest) (after : Fleet) : Prop
    extends fleet.Holds config key source after where
  consistent : after.hub.Consistent
  specifies : ∃ resolved,
    Resolves fails config fleet key.ns parsed resolved ∧
      after.Specifies config key
        { sourceRef := ⟨config.gvk.kind, key.ns, key.name,
            source.object.uid⟩
          origin := .annotated
          resolvedTargets := resolved }

theorem materialize_materializes (consistent : fleet.hub.Consistent)
    (hsource : fleet.hub.sources config.gvk key = some source) :
    Safe (Fleet.aloneRequest fails) unguarded
      (materialize config (Hub.metadataAt config.gvk key source) parsed)
      (fun result current => result = .ok () →
        Materialized fails config fleet key source parsed current)
      fleet := by
  unfold materialize
  refine Safe.seq (holdSource_holds consistent hsource) ?_
  intro held current hheld
  cases held with
  | error err => exact Safe.undisturbed_done fun h => nomatch h
  | ok obj =>
    obtain ⟨hns, hname, huid, hconsistent, holds⟩ := hheld obj rfl
    refine Safe.seq resolveTargets_resolves ?_
    rintro targets middle ⟨rfl, htargets⟩
    cases targets with
    | error err => exact Safe.undisturbed_done fun h => nomatch h
    | ok targets =>
      have hresolves : Resolves fails config fleet key.ns parsed targets.1 := by
        obtain ⟨clusters, labels, hlists, hsees, heq⟩ :=
          htargets targets rfl
        unfold Fleet.RequestSees at hsees
        rw [holds.records] at hlists
        rw [hns, holds.namespaces] at hsees
        rw [hns, holds.policies] at heq
        exact ⟨clusters, labels, hlists, hsees, heq⟩
      have hspec : ∀ {after : Fleet}, after.Specifies config key
          (desiredReplication config obj targets.1).spec →
        after.Specifies config key
          { sourceRef := ⟨config.gvk.kind, key.ns, key.name, source.object.uid⟩
            origin := .annotated
            resolvedTargets := targets.1 } := by
        intro after hafter
        rw [← hns, ← hname, ← huid]
        exact hafter
      have hrepKey : replicationKey config obj = ⟨key.ns, replicationName config key.name⟩ := by
        unfold replicationKey
        rw [hns, hname]
      dsimp only
      refine Safe.seq (announceDenied_same targets.2) ?_
      rintro _ current rfl
      unfold placeReplication
      refine Safe.seq (writeReplication_specifies hconsistent hns hname targets.1) ?_
      intro placed later hplaced
      rcases placed with err | _ | _
      · exact Safe.undisturbed_done fun h => nomatch h
      · obtain ⟨hsurrounds, hlater, hspecifies⟩ := hplaced false rfl
        exact Safe.undisturbed_done fun _ => ⟨holds.surrounds hsurrounds,
          hlater, targets.1, hresolves, hspec hspecifies⟩
      · obtain ⟨hsurrounds, hlater, hspecifies⟩ := hplaced true rfl
        refine (reportTargetResolution_specifies hrepKey hlater
          hspecifies targets.1 targets.2).weaken ?_
        rintro _ final ⟨hreported, hfinal, hspecified⟩ _
        exact ⟨holds.surrounds (hsurrounds.trans hreported), hfinal,
          targets.1, hresolves, hspec hspecified⟩

theorem replicates_of_parsed {library : ParserLibrary} {ann : StringMap}
    (hparsed : parseAnnotations library ann = .ok (some parsed)) :
    replicates ann = true := by
  unfold parseAnnotations at hparsed
  dsimp only at hparsed
  split_ifs at hparsed with _ hopted
  · cases hparsed
  · unfold parseOptional at hopted
    cases hraw : ann.lookup keyReplicate with
    | none => simp [hraw] at hopted
    | some raw =>
      by_cases htrue : raw = "true"
      · simp [replicates, StringMap.get, hraw, htrue]
      · by_cases hfalse : raw = "false"
        · simp [hraw, parseReplicate, hfalse] at hopted
        · simp [hraw, parseReplicate, htrue, hfalse] at hopted

theorem reconcileRequest_materializes (consistent : fleet.hub.Consistent)
    (henabled : config.enabled = true) (hsource : fleet.hub.sources config.gvk key = some source)
    (hlive : source.deletionTimestamp = none)
    (hparsed : parseAnnotations config.library source.object.annotations = .ok (some parsed)) :
    Safe (Fleet.aloneRequest fails) unguarded (reconcileRequest config key)
      (fun result current => result = .ok () →
        Materialized fails config fleet key source parsed current)
      fleet := by
  unfold reconcileRequest
  refine Safe.undisturbed_perform trivial ?_
  rintro reply after ⟨hub, ⟨hreads, rfl⟩, rfl⟩
  rw [hsource] at hreads
  cases reply with
  | error err =>
    have hmissing : if err.isNotFound = true then
        some (Hub.metadataAt config.gvk key source) = none
      else _ := hreads
    dsimp only
    split_ifs at hmissing ⊢ with hfound
    exact Safe.undisturbed_done fun h => nomatch h
  | ok obj =>
    obtain rfl : Hub.metadataAt config.gvk key source = obj :=
      Option.some.inj hreads
    have hann : (Hub.metadataAt config.gvk key source).annotations =
      source.object.annotations := rfl
    have hdeletion : (Hub.metadataAt config.gvk key source).deletionTimestamp = none := hlive
    dsimp only
    rw [henabled, hdeletion, hann, replicates_of_parsed hparsed, hparsed]
    exact materialize_materializes consistent hsource

end Materializing

end K8sR8r
