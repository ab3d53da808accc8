import K8sR8r.SoloRequest

/-!
# Resolving a request

The request controller sorts the discovered clusters, crosses them with the
requested namespaces, asks the policies about every pair and groups the allowed
ones by cluster.  With distinct cluster names the result is a function of the
snapshot, whatever order it is listed in, and the engine, which looks every
cluster up again, comes to the same decisions.
-/

namespace K8sR8r

open Interaction

/-! ## Grouping -/

def clusterEntry (targetName cluster : String) (namespaces : List String) : List ResolvedTarget :=
  if namespaces = [] then [] else [⟨cluster, namespaces, targetName⟩]

section

variable {resolved : List ResolvedTarget}

theorem foldl_addResolved_last {targetName cluster : String}
    (hother : ∀ tgt ∈ resolved, tgt.clusterName ≠ cluster) (block : List Decision)
    (hblock : ∀ dec ∈ block, dec.target.clusterName = cluster) (namespaces : List String) :
    block.foldl (addResolved targetName) (resolved ++ [⟨cluster, namespaces, targetName⟩]) =
      resolved ++ [⟨cluster,
        namespaces ++ block.map fun dec => dec.target.ns, targetName⟩] := by
  induction block generalizing namespaces with
  | nil => simp
  | cons dec rest ih =>
    have hcluster := hblock dec List.mem_cons_self
    have hkept : (resolved.map fun tgt =>
        if tgt.clusterName = cluster then
          { tgt with namespaces := tgt.namespaces ++ [dec.target.ns] }
        else tgt) = resolved := by
      conv_rhs => rw [← List.map_id resolved]
      apply List.map_congr_left
      intro tgt hmem
      rw [if_neg (hother tgt hmem)]
      rfl
    have hadd : addResolved targetName (resolved ++ [⟨cluster, namespaces, targetName⟩]) dec =
        resolved ++ [⟨cluster, namespaces ++ [dec.target.ns], targetName⟩] := by
      unfold addResolved
      rw [hcluster]
      dsimp only
      rw [if_pos (by simp), List.map_append, hkept]
      simp
    rw [List.foldl_cons, hadd, ih fun other hmem =>
      hblock other (List.mem_cons_of_mem _ hmem)]
    simp

theorem foldl_addResolved_block {targetName cluster : String}
    (hother : ∀ tgt ∈ resolved, tgt.clusterName ≠ cluster) (block : List Decision)
    (hblock : ∀ dec ∈ block, dec.target.clusterName = cluster) :
    block.foldl (addResolved targetName) resolved =
      resolved ++ clusterEntry targetName cluster (block.map fun dec => dec.target.ns) := by
  cases block with
  | nil => simp [clusterEntry]
  | cons dec rest =>
    have hcluster := hblock dec List.mem_cons_self
    have hadd : addResolved targetName resolved dec =
        resolved ++ [⟨cluster, [dec.target.ns], targetName⟩] := by
      unfold addResolved
      rw [hcluster]
      dsimp only
      rw [if_neg]
      simpa using hother
    rw [List.foldl_cons, hadd, foldl_addResolved_last hother rest
      fun other hmem => hblock other (List.mem_cons_of_mem _ hmem)]
    simp [clusterEntry]

/-! ## The resolution -/

def Permitted (source : PolicySource) (policies : List ReplicationPolicy) (record : ClusterRecord)
    (ns : String) : Prop :=
  ∃ policy ∈ policies, policy.Permits source ⟨record.name, record.labels, ns⟩
deriving Decidable

def selectedClusters (parsed : AnnotationRequest) (clusters : List ClusterRecord) :
    List ClusterRecord :=
  (clusters.insertionSort fun a b => a.name ≤ b.name).filter fun cluster =>
    cluster.ready && parsed.clusterSelector.matches cluster.labels

theorem mem_selectedClusters_iff {parsed : AnnotationRequest} {clusters : List ClusterRecord}
    {record : ClusterRecord} :
    record ∈ selectedClusters parsed clusters ↔ record ∈ clusters ∧ record.ready = true ∧
        parsed.clusterSelector.matches record.labels = true := by
  simp [selectedClusters]

end

section Resolution

variable (source : PolicySource) (parsed : AnnotationRequest) (policies : List ReplicationPolicy)

def permittedNamespaces (record : ClusterRecord) : List String :=
  (parsed.effectiveNamespaces source.ns).filter fun ns =>
    Permitted source policies record ns

def allowedDecisions (record : ClusterRecord) : List Decision :=
  ((parsed.effectiveNamespaces source.ns).map fun ns =>
    decideTarget source ⟨record.name, record.labels, ns⟩ policies).filter Decision.allowed

theorem allowedDecisions_ns (record : ClusterRecord) :
    (allowedDecisions source parsed policies record).map (fun dec => dec.target.ns) =
      permittedNamespaces source parsed policies record := by
  unfold allowedDecisions permittedNamespaces
  rw [List.filter_map, List.map_map]
  have hns : ((fun dec : Decision => dec.target.ns) ∘ fun ns =>
      decideTarget source ⟨record.name, record.labels, ns⟩ policies) = id := by
    funext ns
    exact congrArg PolicyTarget.ns (decideTarget_target _ _ _)
  rw [hns, List.map_id]
  apply List.filter_congr
  intro ns _
  rw [Bool.eq_iff_iff, decide_eq_true_iff]
  exact decideTarget_allowed_iff _ _ _

theorem allowedDecisions_cluster {record : ClusterRecord} {dec : Decision}
    (hmem : dec ∈ allowedDecisions source parsed policies record) :
    dec.target.clusterName = record.name := by
  obtain ⟨hdec, _⟩ := List.mem_filter.mp hmem
  obtain ⟨ns, _, rfl⟩ := List.mem_map.mp hdec
  rw [decideTarget_target]

def clusterEntries (records : List ClusterRecord) : List ResolvedTarget :=
  records.flatMap fun record => clusterEntry parsed.targetName record.name
    (permittedNamespaces source parsed policies record)

theorem clusterEntry_cluster {targetName cluster : String} {namespaces : List String}
    {tgt : ResolvedTarget} (hmem : tgt ∈ clusterEntry targetName cluster namespaces) :
    namespaces ≠ [] ∧ tgt = ⟨cluster, namespaces, targetName⟩ := by
  unfold clusterEntry at hmem
  split_ifs at hmem with hempty
  · cases hmem
  · exact ⟨hempty, List.mem_singleton.mp hmem⟩

theorem foldl_addResolved_blocks (records : List ClusterRecord)
    (hnames : (records.map ClusterRecord.name).Nodup) {resolved : List ResolvedTarget}
    (hother : ∀ tgt ∈ resolved, ∀ record ∈ records, tgt.clusterName ≠ record.name) :
    (records.flatMap (allowedDecisions source parsed policies)).foldl
        (addResolved parsed.targetName) resolved =
      resolved ++ clusterEntries source parsed policies records := by
  induction records generalizing resolved with
  | nil => simp [clusterEntries]
  | cons record rest ih =>
    rw [List.map_cons, List.nodup_cons] at hnames
    rw [List.flatMap_cons, List.foldl_append, foldl_addResolved_block
        (fun tgt hmem => hother tgt hmem record List.mem_cons_self)
        _ (fun dec hmem => allowedDecisions_cluster _ _ _ hmem),
      allowedDecisions_ns, ih hnames.2]
    · rw [List.append_assoc]
      rfl
    · intro tgt hmem later hlater
      rcases List.mem_append.mp hmem with hold | hnew
      · exact hother tgt hold later (List.mem_cons_of_mem _ hlater)
      · rw [(clusterEntry_cluster hnew).2]
        intro hname
        exact hnames.1 (List.mem_map.mpr ⟨later, hlater, hname.symm⟩)

def resolution (clusters : List ClusterRecord) : List ResolvedTarget × List Decision :=
  (grantedTargets source parsed policies clusters,
    (evaluate ⟨source, candidateTargets parsed source.ns clusters⟩
      policies).decisions.filter fun dec => !dec.allowed)

theorem candidateTargets_eq (clusters : List ClusterRecord) :
    candidateTargets parsed source.ns clusters =
      (selectedClusters parsed clusters).flatMap fun record =>
        (parsed.effectiveNamespaces source.ns).map fun ns =>
          ⟨record.name, record.labels, ns⟩ := rfl

variable {clusters listing : List ClusterRecord}

theorem grantedTargets_eq (hnames : (clusters.map ClusterRecord.name).Nodup) :
    grantedTargets source parsed policies clusters =
      clusterEntries source parsed policies (selectedClusters parsed clusters) := by
  have hselected : ((selectedClusters parsed clusters).map ClusterRecord.name).Nodup := by
    have hsorted := ((List.perm_insertionSort
      (fun a b : ClusterRecord => a.name ≤ b.name) clusters).map
        ClusterRecord.name).nodup_iff.mpr hnames
    exact hsorted.sublist (List.filter_sublist.map _)
  have hblocks : (evaluate ⟨source, candidateTargets parsed source.ns
      clusters⟩ policies).decisions.filter Decision.allowed =
      (selectedClusters parsed clusters).flatMap (allowedDecisions source parsed policies) := by
    rw [evaluate_decisions, candidateTargets_eq, List.map_flatMap, List.filter_flatMap]
    congr 1
    funext record
    rw [List.map_map]
    rfl
  unfold grantedTargets
  rw [hblocks, foldl_addResolved_blocks source parsed policies _ hselected
    (by simp), List.nil_append]

theorem selectedClusters_perm (hnames : (clusters.map ClusterRecord.name).Nodup)
    (hperm : listing.Perm clusters) :
    selectedClusters parsed listing = selectedClusters parsed clusters := by
  unfold selectedClusters
  congr 1
  have hsame : (listing.insertionSort fun a b => a.name ≤ b.name).Perm
      (clusters.insertionSort fun a b => a.name ≤ b.name) :=
    (List.perm_insertionSort _ _).trans (hperm.trans (List.perm_insertionSort _ _).symm)
  refine hsame.eq_of_pairwise ?_ (List.pairwise_insertionSort _ _) (List.pairwise_insertionSort _ _)
  intro first second hfirst hsecond hle hge
  exact List.inj_on_of_nodup_map hnames (hperm.mem_iff.mp ((List.mem_insertionSort _).mp hfirst))
    ((List.mem_insertionSort _).mp hsecond) (le_antisymm hle hge)

theorem resolution_perm (hnames : (clusters.map ClusterRecord.name).Nodup)
    (hperm : listing.Perm clusters) :
    resolution source parsed policies listing = resolution source parsed policies clusters := by
  unfold resolution grantedTargets
  rw [candidateTargets_eq, candidateTargets_eq, selectedClusters_perm parsed hnames hperm]

/-- The resolution of a request over a snapshot: one entry for every cluster,
ascending, with the permitted pairs, and the decisions about all others. -/
structure ResolvesExactly
    (records : ClusterRecords) (resolved : List ResolvedTarget)
    (denied : List Decision) : Prop where
  ascending : (resolved.map ResolvedTarget.clusterName).Pairwise (· < ·)
  named : ∀ tgt ∈ resolved, tgt.targetName = parsed.targetName
  nonempty : ∀ tgt ∈ resolved, tgt.namespaces ≠ []
  ordered : ∀ tgt ∈ resolved,
    tgt.namespaces.Sublist (parsed.effectiveNamespaces source.ns)
  once : ∀ tgt ∈ resolved, tgt.namespaces.Nodup
  granted : ∀ cluster ns,
    (∃ tgt ∈ resolved, tgt.clusterName = cluster ∧ ns ∈ tgt.namespaces) ↔
      ∃ record, parsed.Asks records source.ns record ns ∧
        record.name = cluster ∧ Permitted source policies record ns
  refused : ∀ dec, dec ∈ denied ↔
    ∃ record ns, parsed.Asks records source.ns record ns ∧
      ¬ Permitted source policies record ns ∧
      dec = decideTarget source ⟨record.name, record.labels, ns⟩ policies
  refusedOnce : (denied.map Decision.target).Nodup

theorem mem_clusterEntries_iff {records : List ClusterRecord} {tgt : ResolvedTarget} :
    tgt ∈ clusterEntries source parsed policies records ↔ ∃ record ∈ records,
        permittedNamespaces source parsed policies record ≠ [] ∧
        tgt = ⟨record.name, permittedNamespaces source parsed policies record,
          parsed.targetName⟩ := by
  unfold clusterEntries
  rw [List.mem_flatMap]
  constructor
  · rintro ⟨record, hrecord, hmem⟩
    exact ⟨record, hrecord, clusterEntry_cluster hmem⟩
  · rintro ⟨record, hrecord, hne, rfl⟩
    exact ⟨record, hrecord, by simp [clusterEntry, hne]⟩

theorem clusterEntries_names (records : List ClusterRecord) :
    ((clusterEntries source parsed policies records).map ResolvedTarget.clusterName).Sublist
        (records.map ClusterRecord.name) := by
  induction records with
  | nil => exact List.Sublist.slnil
  | cons record rest ih =>
    unfold clusterEntries at ih ⊢
    rw [List.flatMap_cons, List.map_append, List.map_cons]
    unfold clusterEntry
    split_ifs
    · exact ih.cons _
    · exact ih.cons_cons _

theorem selectedClusters_ascending (hnames : (clusters.map ClusterRecord.name).Nodup) :
    ((selectedClusters parsed clusters).map ClusterRecord.name).Pairwise (· < ·) := by
  have hsorted : (clusters.insertionSort fun a b =>
      a.name ≤ b.name).Pairwise fun a b => a.name ≤ b.name :=
    List.pairwise_insertionSort _ _
  have hdistinct : (clusters.insertionSort fun a b =>
      a.name ≤ b.name).Pairwise fun a b => a.name ≠ b.name := by
    have hnodup := ((List.perm_insertionSort
      (fun a b : ClusterRecord => a.name ≤ b.name) clusters).map
        ClusterRecord.name).nodup_iff.mpr hnames
    exact List.pairwise_map.mp hnodup
  unfold selectedClusters
  rw [List.pairwise_map]
  apply List.Pairwise.filter
  exact (hsorted.and hdistinct).imp fun h => lt_of_le_of_ne h.1 h.2

theorem mem_permittedNamespaces_iff {record : ClusterRecord} {ns : String} :
    ns ∈ permittedNamespaces source parsed policies record ↔
      ns ∈ parsed.effectiveNamespaces source.ns ∧ Permitted source policies record ns := by
  simp [permittedNamespaces]

theorem candidateTargets_nodup (hnames : (clusters.map ClusterRecord.name).Nodup)
    (hns : (parsed.effectiveNamespaces source.ns).Nodup) :
    (candidateTargets parsed source.ns clusters).Nodup := by
  rw [candidateTargets_eq, List.nodup_flatMap]
  constructor
  · intro record _
    exact hns.map fun _ _ heq => congrArg PolicyTarget.ns heq
  · have hascending := selectedClusters_ascending parsed hnames
    rw [List.pairwise_map] at hascending
    refine hascending.imp fun {first second} hlt => ?_
    intro target hfirst hsecond
    obtain ⟨_, _, rfl⟩ := List.mem_map.mp hfirst
    obtain ⟨_, _, heq⟩ := List.mem_map.mp hsecond
    exact hlt.ne (congrArg PolicyTarget.clusterName heq).symm

theorem resolution_exact {records : ClusterRecords} (lists : records.Lists clusters)
    (hnames : (clusters.map ClusterRecord.name).Nodup)
    (hns : (parsed.effectiveNamespaces source.ns).Nodup) :
    ResolvesExactly source parsed policies records (resolution source parsed policies clusters).1
      (resolution source parsed policies clusters).2 := by
  have hasks : ∀ record ns, parsed.Asks records source.ns record ns ↔
      record ∈ selectedClusters parsed clusters ∧ ns ∈ parsed.effectiveNamespaces source.ns := by
    intro record ns
    rw [mem_selectedClusters_iff, lists.mem_iff]
    exact ⟨fun asks => ⟨⟨asks.discovered, asks.ready, asks.selected⟩,
      asks.ns_mem⟩, fun ⟨⟨hkey, hready, hselected⟩, hmem⟩ =>
        ⟨hkey, hready, hselected, hmem⟩⟩
  have hentry : ∀ tgt ∈ (resolution source parsed policies clusters).1,
      ∃ record ∈ selectedClusters parsed clusters,
        permittedNamespaces source parsed policies record ≠ [] ∧
        tgt = ⟨record.name, permittedNamespaces source parsed policies record,
          parsed.targetName⟩ := by
    intro tgt hmem
    rw [resolution, grantedTargets_eq source parsed policies hnames] at hmem
    exact (mem_clusterEntries_iff source parsed policies).mp hmem
  constructor
  · rw [resolution, grantedTargets_eq source parsed policies hnames]
    exact (selectedClusters_ascending parsed hnames).sublist
      (clusterEntries_names source parsed policies _)
  · intro tgt hmem
    obtain ⟨_, _, _, rfl⟩ := hentry tgt hmem
    rfl
  · intro tgt hmem
    obtain ⟨_, _, hne, rfl⟩ := hentry tgt hmem
    exact hne
  · intro tgt hmem
    obtain ⟨_, _, _, rfl⟩ := hentry tgt hmem
    exact List.filter_sublist
  · intro tgt hmem
    obtain ⟨_, _, _, rfl⟩ := hentry tgt hmem
    exact hns.filter _
  · intro cluster ns
    constructor
    · rintro ⟨tgt, hmem, rfl, hnamespace⟩
      obtain ⟨record, hrecord, _, rfl⟩ := hentry tgt hmem
      obtain ⟨heffective, hpermitted⟩ :=
        (mem_permittedNamespaces_iff source parsed policies).mp hnamespace
      exact ⟨record, (hasks record ns).mpr ⟨hrecord, heffective⟩, rfl, hpermitted⟩
    · rintro ⟨record, asks, rfl, hpermitted⟩
      obtain ⟨hrecord, heffective⟩ := (hasks record ns).mp asks
      have hnamespace := (mem_permittedNamespaces_iff source parsed
        policies).mpr ⟨heffective, hpermitted⟩
      refine ⟨⟨record.name, permittedNamespaces source parsed policies record,
        parsed.targetName⟩, ?_, rfl, hnamespace⟩
      rw [resolution, grantedTargets_eq source parsed policies hnames]
      exact (mem_clusterEntries_iff source parsed policies).mpr
        ⟨record, hrecord, List.ne_nil_of_mem hnamespace, rfl⟩
  · intro dec
    rw [resolution, evaluate_decisions, List.mem_filter, List.mem_map]
    constructor
    · rintro ⟨⟨target, htarget, rfl⟩, hdenied⟩
      obtain ⟨record, ns, asks, rfl⟩ :=
        (mem_candidateTargets_iff lists target).mp htarget
      refine ⟨record, ns, asks, ?_, rfl⟩
      intro hpermitted
      have hallowed := (decideTarget_allowed_iff _ _ _).mpr hpermitted
      rw [hallowed] at hdenied
      cases hdenied
    · rintro ⟨record, ns, asks, hrefused, rfl⟩
      refine ⟨⟨_, (mem_candidateTargets_iff lists _).mpr ⟨record, ns, asks, rfl⟩, rfl⟩, ?_⟩
      rw [Bool.not_eq_true', ← Bool.not_eq_true]
      exact fun hallowed =>
        hrefused ((decideTarget_allowed_iff _ _ _).mp hallowed)
  · have htargets : (evaluate ⟨source, candidateTargets parsed source.ns
        clusters⟩ policies).decisions.map Decision.target =
        candidateTargets parsed source.ns clusters := by
      rw [evaluate_decisions, List.map_map]
      conv_rhs => rw [← List.map_id (candidateTargets _ _ _)]
      exact List.map_congr_left fun _ _ => decideTarget_target _ _ _
    have hnodup := candidateTargets_nodup source parsed hnames hns
    rw [← htargets] at hnodup
    exact hnodup.sublist (List.filter_sublist.map _)

end Resolution

/-! ## Both controllers on one fleet -/

def ClusterRecords.DistinctNames (records : ClusterRecords) : Prop :=
  ∀ key key' record record', records.lookup key = some record →
    records.lookup key' = some record' → record.name = record'.name → key = key'

section

variable {clusters : List ClusterRecord}

theorem ClusterRecords.Lists.names_nodup {records : ClusterRecords}
    (lists : records.Lists clusters) (distinct : records.DistinctNames) :
    (clusters.map ClusterRecord.name).Nodup := by
  have hmap : ((clusters.map ClusterRecord.name : List String) :
      Multiset String) = records.entries.map fun entry => entry.2.name := by
    rw [← Multiset.map_coe, lists, Multiset.map_map]
    rfl
  rw [← Multiset.coe_nodup, hmap]
  apply Multiset.Nodup.map_on _ records.nodup_entries
  rintro ⟨key, record⟩ hentry ⟨key', record'⟩ hentry' hname
  have hlookup := Finmap.lookup_eq_some_iff.mpr hentry
  have hlookup' := Finmap.lookup_eq_some_iff.mpr hentry'
  obtain rfl := distinct key key' record record' hlookup hlookup' hname
  rw [hlookup, Option.some.injEq] at hlookup'
  rw [hlookup']

theorem ClusterRecords.Lists.perm {records : ClusterRecords} {listing : List ClusterRecord}
    (lists : records.Lists clusters) (lists' : records.Lists listing) :
    listing.Perm clusters := by
  rw [← Multiset.coe_eq_coe]
  exact lists'.trans lists.symm

/-- The source as both controllers describe it to the policies. -/
def Fleet.policySource (fleet : Fleet) (config : RequestConfig) (ns : String) : PolicySource :=
  ⟨config.gvk.kind, ns, (fleet.hub.namespaces ns).getD ∅⟩

theorem resolveTargets_returns (config : RequestConfig) (obj : PartialObjectMetadata)
    (parsed : AnnotationRequest) (fleet : Fleet) :
    Safe (Fleet.aloneRequest fun _ => False) unguarded (resolveTargets config obj parsed)
      (fun result _ => ∃ clusters, fleet.records.Lists clusters ∧
        result = .ok (resolution (fleet.policySource config obj.ns) parsed
          fleet.hub.policies.items clusters)) fleet := by
  unfold resolveTargets
  refine Safe.undisturbed_perform trivial ?_
  rintro clusters current ⟨hlists, rfl⟩
  dsimp only
  split_ifs with hempty
  · refine Safe.undisturbed_done ⟨clusters, hlists, ?_⟩
    unfold resolution grantedTargets
    rw [show candidateTargets parsed (current.policySource config obj.ns).ns
      clusters = [] from List.isEmpty_iff.mp hempty]
    rfl
  · refine Safe.seq (requestLabels_sees obj.ns) ?_
    rintro labels later ⟨rfl, rfl | ⟨⟨⟩, _⟩⟩
    refine Safe.undisturbed_perform trivial ?_
    rintro reply after ⟨hub, ⟨hreads, rfl⟩, rfl⟩
    cases reply with
    | error err =>
      have hmissing : if err.isNotFound = true then
          some later.hub.policies = none else False := hreads
      split_ifs at hmissing
    | ok policies =>
      obtain rfl : later.hub.policies = policies := Option.some.inj hreads
      exact Safe.undisturbed_done ⟨clusters, hlists, rfl⟩

/-- The engine finds every resolved target permitted again. -/
theorem flattenTargets_permitted {fleet : Fleet} (distinct : fleet.records.DistinctNames)
    {source : PolicySource} {parsed : AnnotationRequest} {policies : List ReplicationPolicy}
    {resolved : List ResolvedTarget} {denied : List Decision}
    (exact' : ResolvesExactly source parsed policies fleet.records resolved denied)
    (sourceName : String) {targets : List (SlotInfo × PolicyTarget)}
    (looksUp : LooksUp fleet.records (specSlots sourceName resolved) targets) :
    ∀ dec ∈ (evaluate ⟨source, targets.map Prod.snd⟩ policies).decisions, dec.allowed = true := by
  intro dec hdec
  rw [evaluate_decisions, List.map_map] at hdec
  obtain ⟨target, htarget, rfl⟩ := List.mem_map.mp hdec
  obtain ⟨found, hfound, heq⟩ := looksUp.found target htarget
  have hslot : target.1 ∈ specSlots sourceName resolved := by
    rw [← looksUp.slots_eq]
    exact List.mem_map_of_mem htarget
  obtain ⟨tgt, htgt, hmem⟩ := List.mem_flatMap.mp hslot
  obtain ⟨ns, hns, hslot⟩ := List.mem_map.mp hmem
  obtain ⟨record, asks, hname, hpermitted⟩ :=
    (exact'.granted tgt.clusterName ns).mp ⟨tgt, htgt, rfl, hns⟩
  have hrecord : fleet.records.Finds tgt.clusterName (some record) :=
    ⟨hname, asks.discovered⟩
  have hlabels : found = some record := by
    refine ClusterRecords.Finds.unique ?_ ?_ hrecord
    · intro key key' first second hfirst hsecond hnames
      obtain rfl := distinct key key' first second hfirst hsecond hnames
      rw [hfirst, Option.some.injEq] at hsecond
      exact hsecond
    · rw [← hslot] at hfound
      exact hfound
  apply (decideTarget_allowed_iff _ _ _).mpr
  rw [heq, ← hslot, hlabels, ← hname]
  exact hpermitted

/-- Every run of the resolution returns the same exact list, whatever order the
clusters are listed in, and the engine allows every slot of it. -/
theorem target_resolution_exact (config : RequestConfig) (obj : PartialObjectMetadata)
    (parsed : AnnotationRequest) (fleet : Fleet)
    (distinct : fleet.records.DistinctNames)
    (hnamespaces : parsed.targetNamespaces.Nodup) :
    ∃ resolved denied,
      (∃ trace final,
        Run (Fleet.aloneRequest fun _ => False) fleet (resolveTargets config obj parsed) trace
          final (.done (.ok (resolved, denied)))) ∧
      (∀ trace final result,
        Run (Fleet.aloneRequest fun _ => False) fleet (resolveTargets config obj parsed) trace
          final (.done result) →
        result = .ok (resolved, denied)) ∧
      ResolvesExactly (fleet.policySource config obj.ns) parsed fleet.hub.policies.items
        fleet.records resolved denied ∧
      ∀ sourceName trace final targets,
        Run (Fleet.alone fun _ => False) fleet (flattenTargets sourceName resolved) trace final
          (.done targets) →
        targets.map Prod.fst = specSlots sourceName resolved ∧
          ∀ dec ∈
              (evaluate ⟨fleet.policySource config obj.ns, targets.map Prod.snd⟩
                fleet.hub.policies.items).decisions,
            dec.allowed = true := by
  have hns : (parsed.effectiveNamespaces (fleet.policySource config obj.ns).ns).Nodup := by
    unfold AnnotationRequest.effectiveNamespaces
    split_ifs
    · exact List.nodup_singleton _
    · exact hnamespaces
  have hruns : ∀ trace final result, Run (Fleet.aloneRequest fun _ => False) fleet
        (resolveTargets config obj parsed) trace final (.done result) →
      ∃ clusters, fleet.records.Lists clusters ∧
        result = .ok (resolution (fleet.policySource config obj.ns) parsed
          fleet.hub.policies.items clusters) := by
    intro trace final result run
    exact (resolveTargets_returns config obj parsed fleet).run_done run
  have hrun : Run (Fleet.aloneRequest fun _ => False) fleet (resolveTargets config obj parsed)
      (execute Fleet.handleRequest (resolveTargets config obj parsed) fleet).trace _ (.done _) :=
    run_execute (execute_answered
      (fun fleet call => Fleet.answersRequest_handleRequest (fun _ => False) fleet call) _ _)
  obtain ⟨clusters, hlists, hresult⟩ := hruns _ _ _ hrun
  rw [hresult] at hrun
  have hnames := hlists.names_nodup distinct
  have hexact := resolution_exact (fleet.policySource config obj.ns) parsed
    fleet.hub.policies.items hlists hnames hns
  refine ⟨_, _, ⟨_, _, hrun⟩, ?_, hexact, ?_⟩
  · intro trace final result run
    obtain ⟨listing, hlisting, rfl⟩ := hruns trace final result run
    rw [resolution_perm _ parsed _ hnames (hlists.perm hlisting)]
    rfl
  · intro sourceName trace final targets run
    have hlooks := (flattenTargets_looksUp fleet sourceName _).run_done run
    exact ⟨hlooks.2.slots_eq, flattenTargets_permitted distinct hexact sourceName hlooks.2⟩

end

namespace Sample

def productionRequest : AnnotationRequest where
  clusterSelector := .requirements [⟨"env", .equals, ["prod"]⟩]
  clusterSelectorString := "env=prod"
  targetNamespaces := ["app", "db"]
  targetName := ""
  conflictPolicy := .fail

def sourceMetadata : PartialObjectMetadata :=
  ⟨configMapGVK, "team", "settings", sourceUID, 2, source.annotations, [], none⟩

theorem fleet_distinctNames : fleet.records.DistinctNames := by
  have hkey : ∀ key record, fleet.records.lookup key = some record → key = cluster.key := by
    intro key record hlookup
    have hrecords : fleet.records =
        (∅ : ClusterRecords).insert cluster.key (recordFromCluster cluster) :=
      rfl
    by_contra hne
    rw [hrecords, Finmap.lookup_insert_of_ne _ hne, Finmap.lookup_empty] at hlookup
    cases hlookup
  intro key key' record record' hfirst hsecond _
  rw [hkey key record hfirst, hkey key' record' hsecond]

end Sample

open Sample

/-- One of the two requested namespaces is permitted. -/
theorem target_resolution_exact_sample :
    fleet.records.DistinctNames ∧
    productionRequest.targetNamespaces.Nodup ∧
    ∃ resolved denied,
      (∃ trace final,
        Run (Fleet.aloneRequest fun _ => False) fleet
          (resolveTargets request sourceMetadata productionRequest) trace final
          (.done (.ok (resolved, denied)))) ∧
      ResolvesExactly (fleet.policySource request "team") productionRequest
        fleet.hub.policies.items fleet.records resolved denied := by
  have hnamespaces : productionRequest.targetNamespaces.Nodup := by
    decide
  obtain ⟨resolved, denied, hrun, _, hexact, _⟩ :=
    target_resolution_exact request sourceMetadata
      productionRequest fleet fleet_distinctNames
      hnamespaces
  exact ⟨fleet_distinctNames, hnamespaces, resolved, denied, hrun, hexact⟩

end K8sR8r
