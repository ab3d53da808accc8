import K8sR8r.EngineReconciler

/-!
# Which replicas a revocation retains

A denied target with recorded replicas is revoked, either because the previous
evaluation allowed it or because the inventory says so.  The two ways carry
different provenance: the first remembers the names of the policies that
granted the target, the second none, and the policy that decides between Retain
and Delete is looked up from those names or, failing that, from the policies
that still match the source.
-/

namespace K8sR8r

def RetainedBySource (policies : List ReplicationPolicy) (src : PolicySource) : Prop :=
  ∃ policy ∈ policies, policy.MatchesSource src ∧ policy.Retains
deriving Decidable

/-- What becomes of a grant by the policies of the given names: the survivors
decide, and without survivors the policies that match the source. -/
def GrantRetained (policies : List ReplicationPolicy) (src : PolicySource) (names : List String) :
    Prop :=
  (∃ policy ∈ policies, policy.name ∈ names ∧ policy.Retains) ∨
    (∀ policy ∈ policies, policy.name ∉ names) ∧ RetainedBySource policies src

theorem grantRetained_nil_iff (policies : List ReplicationPolicy) (src : PolicySource) :
    GrantRetained policies src [] ↔ RetainedBySource policies src := by
  simp [GrantRetained]

theorem mem_sourceMatchingPolicies_iff (policies : List ReplicationPolicy) (rev : Revocation)
    (src : PolicySource) (policy : ReplicationPolicy) :
    policy ∈ sourceMatchingPolicies policies rev src ↔
      policy ∈ policies ∧ policy.MatchesSource src := by
  unfold sourceMatchingPolicies
  rw [← decideTarget_singleton_source_iff policy src rev.target]
  simp [or_assoc]

theorem effectiveRevocationPolicy_retain_iff (policies : List ReplicationPolicy)
    (rev : Revocation) (src : PolicySource) :
    effectiveRevocationPolicy policies rev src = .retain ↔
      GrantRetained policies src rev.previous.matchedPolicies := by
  unfold effectiveRevocationPolicy GrantRetained
  by_cases hsurvivors : ∃ policy ∈ policies, policy.name ∈ rev.previous.matchedPolicies
  · obtain ⟨policy, hmem, hname⟩ := hsurvivors
    have hgranting : policiesByName policies rev.previous.matchedPolicies ≠ [] :=
      List.ne_nil_of_mem ((mem_policiesByName_iff _ _ _).mpr ⟨hmem, hname⟩)
    have hnames : rev.previous.matchedPolicies ≠ [] :=
      List.ne_nil_of_mem hname
    rw [if_pos (by simp [hgranting, hnames]), resolveOptions_retain_iff]
    constructor
    · rintro ⟨other, hother, hretains⟩
      have hother := (mem_policiesByName_iff _ _ _).mp hother
      exact .inl ⟨other, hother.1, hother.2, hretains⟩
    · rintro (⟨other, hother, hmatched, hretains⟩ | ⟨hnone, _⟩)
      · exact ⟨other, (mem_policiesByName_iff _ _ _).mpr ⟨hother, hmatched⟩, hretains⟩
      · exact (hnone policy hmem hname).elim
  · have hnone : ∀ policy ∈ policies, policy.name ∉ rev.previous.matchedPolicies :=
      fun policy hmem hname => hsurvivors ⟨policy, hmem, hname⟩
    have hgranting : policiesByName policies rev.previous.matchedPolicies = [] := by
      simpa [policiesByName, List.filter_eq_nil_iff] using hnone
    have hfirst : ¬ ∃ policy ∈ policies,
        policy.name ∈ rev.previous.matchedPolicies ∧ policy.Retains := by
      rintro ⟨policy, hmem, hname, _⟩
      exact hnone policy hmem hname
    have hsubset : (∃ policy ∈ sourceMatchingPolicies policies rev src,
        policy.Retains) ↔ RetainedBySource policies src := by
      simp only [mem_sourceMatchingPolicies_iff, and_assoc, RetainedBySource]
    rw [if_neg (by simp [hgranting])]
    simp only [hfirst, false_or, and_iff_right hnone, ← hsubset]
    split_ifs with hempty
    · rw [List.isEmpty_iff] at hempty
      simp [hempty]
    · exact resolveOptions_retain_iff _

/-! ## Handling the revocations -/

/-- A revocation retains the recorded slots of its target unless the target
left the selection. -/
def Revocation.Keeps (rev : Revocation) (policies : List ReplicationPolicy) (src : PolicySource)
    (key : SlotKey) : Prop :=
  rev.current.isSome = true ∧ rev.target.clusterName = key.cluster ∧ rev.target.ns = key.ns ∧
    GrantRetained policies src rev.previous.matchedPolicies

theorem mem_map_entriesInNamespace_iff (inv : List InventoryEntry) (cluster ns : String)
    (key : SlotKey) :
    key ∈ (entriesInNamespace inv cluster ns).map keyForEntry ↔
      Recorded inv key ∧ cluster = key.cluster ∧ ns = key.ns := by
  rw [List.mem_map]
  constructor
  · rintro ⟨entry, hentry, rfl⟩
    obtain ⟨hmem, hcluster, hns⟩ :=
      (mem_entriesInNamespace_iff _ _ _ _).mp hentry
    exact ⟨⟨entry, hmem, rfl⟩, hcluster.symm, hns.symm⟩
  · rintro ⟨⟨entry, hmem, rfl⟩, rfl, rfl⟩
    exact ⟨entry, (mem_entriesInNamespace_iff _ _ _ _).mpr ⟨hmem, rfl, rfl⟩, rfl⟩

theorem mem_applyRevocation_retained_iff (policies : List ReplicationPolicy) (src : PolicySource)
    (inv : List InventoryEntry) (outcome : RevocationOutcome) (rev : Revocation) (key : SlotKey) :
    key ∈ (applyRevocation policies src inv outcome rev).retained ↔ key ∈ outcome.retained ∨
        Recorded inv key ∧ rev.Keeps policies src key := by
  have hentries := mem_map_entriesInNamespace_iff inv rev.target.clusterName rev.target.ns key
  have hretain := effectiveRevocationPolicy_retain_iff policies rev src
  unfold applyRevocation Revocation.Keeps
  dsimp only
  rw [← hretain]
  by_cases hskip : (rev.current.isNone || (entriesInNamespace inv rev.target.clusterName
        rev.target.ns).isEmpty) = true
  · rw [if_pos hskip]
    constructor
    · exact .inl
    · rintro (hmem | ⟨hrec, hcurrent, hcluster, hns, _⟩)
      · exact hmem
      · have hmem := hentries.mpr ⟨hrec, hcluster, hns⟩
        rcases Bool.or_eq_true_iff.mp hskip with hnone | hempty
        · cases hcase : rev.current with
          | none => simp [hcase] at hcurrent
          | some dec => simp [hcase] at hnone
        · rw [List.isEmpty_iff.mp hempty] at hmem
          simp at hmem
  · rw [if_neg hskip]
    have hcurrent : rev.current.isSome = true := by
      cases hcase : rev.current with
      | none => simp [hcase] at hskip
      | some dec => rfl
    cases heffective : effectiveRevocationPolicy policies rev src with
    | retain =>
      simp only [List.mem_append, hentries, hcurrent, true_and, and_true]
    | delete => simp

theorem mem_applyRevocations_retained_iff (revocations : List Revocation)
    (policies : List ReplicationPolicy) (src : PolicySource) (inv : List InventoryEntry)
    (key : SlotKey) :
    key ∈ (applyRevocations revocations policies src inv).retained ↔
      Recorded inv key ∧ ∃ rev ∈ revocations, rev.Keeps policies src key := by
  unfold applyRevocations
  suffices h : ∀ outcome : RevocationOutcome,
      key ∈ (revocations.foldl (applyRevocation policies src inv) outcome).retained ↔
        key ∈ outcome.retained ∨ Recorded inv key ∧
          ∃ rev ∈ revocations, rev.Keeps policies src key by
    rw [h]
    simp
  induction revocations with
  | nil => simp
  | cons rev rest ih =>
    intro outcome
    rw [List.foldl_cons, ih, mem_applyRevocation_retained_iff]
    simp only [List.mem_cons, exists_eq_or_imp, or_assoc, and_or_left]

theorem anyRetained_of_retained_nil {revocations : List Revocation}
    {policies : List ReplicationPolicy} {src : PolicySource} {inv : List InventoryEntry}
    (hnone : (applyRevocations revocations policies src inv).retained = []) :
    (applyRevocations revocations policies src inv).anyRetained = false := by
  unfold applyRevocations at hnone ⊢
  suffices h : ∀ outcome : RevocationOutcome,
      (outcome.retained = [] → outcome.anyRetained = false) →
      (revocations.foldl (applyRevocation policies src inv) outcome).retained = [] →
        (revocations.foldl (applyRevocation policies src inv) outcome).anyRetained = false from
    h _ (fun _ => rfl) hnone
  clear hnone
  induction revocations with
  | nil => exact fun _ h => h
  | cons rev rest ih =>
    intro outcome houtcome
    apply ih
    unfold applyRevocation
    dsimp only
    split_ifs with hskip
    · exact houtcome
    · split
      · -- Only an entry that is retained sets the flag.
        simp_all
      · exact houtcome

/-! ## Finding the revocations -/

/-- The revocation the inventory implies for a denied target. -/
def impliedRevocation (dec : Decision) : Revocation :=
  ⟨dec.target,
    { target := dec.target
      allowed := true
      matchedPolicies := []
      deniedDimension := none
      reason := "" }, some dec⟩

def Revocation.IsFor (rev : Revocation) (cluster ns : String) : Prop :=
  rev.target.clusterName = cluster ∧ rev.target.ns = ns

/-- What adding the implied revocations gives: nothing is lost, what is new is
implied by a denied decision whose target was not revoked yet, and no denied
target with recorded replicas is left out. -/
structure AddsRevocations
    (decisions : List Decision) (inv : List InventoryEntry)
    (before after : List Revocation) : Prop where
  keeps : ∀ rev ∈ before, rev ∈ after
  sound : ∀ rev ∈ after, rev ∈ before ∨ ∃ dec ∈ decisions,
    dec.allowed = false ∧ rev = impliedRevocation dec ∧
      ∀ other ∈ before,
        ¬ other.IsFor dec.target.clusterName dec.target.ns
  complete : ∀ dec ∈ decisions, dec.allowed = false →
    entriesInNamespace inv dec.target.clusterName dec.target.ns ≠ [] →
      ∃ rev ∈ after, rev.IsFor dec.target.clusterName dec.target.ns

theorem addInventoryRevocations_adds (revocations : List Revocation) (current : PolicyResult)
    (inv : List InventoryEntry) :
    AddsRevocations current.decisions inv revocations
      (addInventoryRevocations revocations current inv) := by
  unfold addInventoryRevocations
  induction current.decisions generalizing revocations with
  | nil => exact ⟨fun _ h => h, fun _ h => .inl h, by simp⟩
  | cons dec rest ih =>
    rw [List.foldl_cons]
    split_ifs with hskip
    · have hrest := ih revocations
      refine ⟨hrest.keeps, ?_, ?_⟩
      · intro rev hrev
        rcases hrest.sound rev hrev with hold | ⟨other, hmem, hother⟩
        · exact .inl hold
        · exact .inr ⟨other, List.mem_cons_of_mem _ hmem, hother⟩
      · intro other hmem hdenied hentries
        rcases List.mem_cons.mp hmem with rfl | hmem
        · simp only [hdenied, Bool.false_or, Bool.or_eq_true,
            List.any_eq_true, Bool.and_eq_true, decide_eq_true_eq,
            List.isEmpty_iff, hentries, or_false] at hskip
          obtain ⟨rev, hrev, hfor⟩ := hskip
          exact ⟨rev, hrest.keeps rev hrev, hfor⟩
        · exact hrest.complete other hmem hdenied hentries
    · have hrest := ih (revocations ++ [impliedRevocation dec])
      simp only [Bool.or_eq_true, not_or, Bool.not_eq_true,
        List.any_eq_false, Bool.and_eq_true, decide_eq_true_eq] at hskip
      obtain ⟨⟨hdenied, hnew⟩, hentries⟩ := hskip
      refine ⟨?_, ?_, ?_⟩
      · exact fun rev hrev => hrest.keeps rev (List.mem_append_left _ hrev)
      · intro rev hrev
        rcases hrest.sound rev hrev with hold | ⟨other, hmem, hden, heq, hfresh⟩
        · rcases List.mem_append.mp hold with hold | hold
          · exact .inl hold
          · rw [List.mem_singleton] at hold
            exact .inr ⟨dec, List.mem_cons_self, hdenied, hold, hnew⟩
        · exact .inr ⟨other, List.mem_cons_of_mem _ hmem, hden, heq,
            fun old hmem => hfresh old (List.mem_append_left _ hmem)⟩
      · intro other hmem hden hsome
        rcases List.mem_cons.mp hmem with rfl | hmem
        · exact ⟨_, hrest.keeps _ (List.mem_append_right _ (List.mem_singleton_self _)), rfl, rfl⟩
        · exact hrest.complete other hmem hden hsome

/-! ## The retained slots -/

def PolicyResult.Denies (result : PolicyResult) (cluster ns : String) : Prop :=
  ∀ dec ∈ result.decisions, dec.isFor cluster ns = true → dec.allowed = false

/-- Whether a denied target's replicas are retained, given what the engine
remembers. -/
def RetainsTarget (prev : PolicyResult) (policies : List ReplicationPolicy) (src : PolicySource)
    (cluster ns : String) : Prop :=
  (∃ dec ∈ prev.decisions, dec.isFor cluster ns = true ∧
      dec.allowed = true ∧ GrantRetained policies src dec.matchedPolicies) ∨
    prev.Denies cluster ns ∧ RetainedBySource policies src

theorem Decision.isFor_iff (dec : Decision) (cluster ns : String) :
    dec.isFor cluster ns = true ↔ dec.target.clusterName = cluster ∧ dec.target.ns = ns := by
  simp [Decision.isFor]

theorem denied_of_mem_retained {prev : Option PolicyResult} {result : PolicyResult}
    {policies : List ReplicationPolicy} {src : PolicySource} {inv : List InventoryEntry}
    {key : SlotKey} (hmem : key ∈ (handleRevocations prev result policies src inv).retained) :
    Recorded inv key ∧ ∃ dec ∈ result.decisions,
      dec.isFor key.cluster key.ns = true ∧ dec.allowed = false := by
  unfold handleRevocations at hmem
  rw [mem_applyRevocations_retained_iff] at hmem
  obtain ⟨hrecorded, rev, hrev, hcurrent, hcluster, hns, _⟩ := hmem
  refine ⟨hrecorded, ?_⟩
  have hadds := addInventoryRevocations_adds (detectRevocations (prev.getD ⟨[]⟩) result) result inv
  rcases hadds.sound rev hrev with hold | ⟨dec, hdec, hdenied, heq, _⟩
  · obtain ⟨_, _, _, hcur, hden⟩ := (mem_detectRevocations_iff _ _ _).mp hold
    obtain ⟨dec, hdec⟩ := Option.isSome_iff_exists.mp hcurrent
    obtain ⟨hmem, hc, hn⟩ := currentByKey_some (hcur.symm.trans hdec)
    refine ⟨dec, hmem, ?_, hden dec hdec⟩
    exact (dec.isFor_iff _ _).mpr ⟨hc.trans hcluster, hn.trans hns⟩
  · subst heq
    exact ⟨dec, hdec, (dec.isFor_iff _ _).mpr ⟨hcluster, hns⟩, hdenied⟩

section Denied

variable {prev : PolicyResult} {result : PolicyResult} {cluster ns : String}
  (denies : result.Denies cluster ns)
  (present : ∃ dec ∈ result.decisions, dec.isFor cluster ns = true)

include denies present in
theorem detected_of_allowed {dec : Decision} (hmem : dec ∈ prev.decisions)
    (hfor : dec.isFor cluster ns = true) (hallowed : dec.allowed = true) :
    ∃ rev ∈ detectRevocations prev result, rev.previous = dec ∧
      rev.current.isSome = true ∧ rev.IsFor cluster ns := by
  obtain ⟨now, hnow, hnowFor⟩ := present
  obtain ⟨hcluster, hns⟩ := (dec.isFor_iff _ _).mp hfor
  obtain ⟨hnowCluster, hnowNs⟩ := (now.isFor_iff _ _).mp hnowFor
  obtain ⟨found, hfound⟩ := currentByKey_isSome hnow
  rw [hnowCluster, hnowNs] at hfound
  obtain ⟨hfoundMem, hfoundFor⟩ := currentByKey_some hfound
  have hdenied := denies found hfoundMem ((found.isFor_iff _ _).mpr hfoundFor)
  refine ⟨⟨dec.target, dec, some found⟩, ?_, rfl, rfl, hcluster, hns⟩
  rw [mem_detectRevocations_iff]
  refine ⟨hmem, hallowed, rfl, ?_, ?_⟩
  · rw [hcluster, hns, hfound]
  · rintro cur ⟨⟩
    exact hdenied

theorem allowed_of_detected {rev : Revocation} (hrev : rev ∈ detectRevocations prev result)
    (hfor : rev.IsFor cluster ns) :
    rev.previous ∈ prev.decisions ∧ rev.previous.isFor cluster ns = true ∧
      rev.previous.allowed = true := by
  obtain ⟨hmem, hallowed, htarget, _⟩ := (mem_detectRevocations_iff _ _ _).mp hrev
  refine ⟨hmem, ?_, hallowed⟩
  rw [Decision.isFor_iff, ← htarget]
  exact hfor

end Denied

theorem mem_retained_iff {prev : Option PolicyResult} {result : PolicyResult}
    {policies : List ReplicationPolicy} {src : PolicySource} {inv : List InventoryEntry}
    {key : SlotKey} (denies : result.Denies key.cluster key.ns)
    (present : ∃ dec ∈ result.decisions, dec.isFor key.cluster key.ns = true)
    (recorded : Recorded inv key) :
    key ∈ (handleRevocations prev result policies src inv).retained ↔
      RetainsTarget (prev.getD ⟨[]⟩) policies src key.cluster key.ns := by
  have hadds := addInventoryRevocations_adds (detectRevocations (prev.getD ⟨[]⟩) result) result inv
  unfold handleRevocations
  rw [mem_applyRevocations_retained_iff, and_iff_right recorded]
  constructor
  · rintro ⟨rev, hrev, _, hcluster, hns, hgrant⟩
    rcases hadds.sound rev hrev with hold | ⟨dec, _, _, rfl, hfresh⟩
    · have hprevious := allowed_of_detected hold ⟨hcluster, hns⟩
      exact .inl ⟨rev.previous, hprevious.1, hprevious.2.1, hprevious.2.2, hgrant⟩
    · refine .inr ⟨?_, (grantRetained_nil_iff _ _).mp hgrant⟩
      intro old hold hfor
      by_contra hallowed
      obtain ⟨rev, hrev, _, _, hrevFor⟩ := detected_of_allowed denies
        present hold hfor (by simpa using hallowed)
      rw [← hcluster, ← hns] at hrevFor
      exact hfresh rev hrev hrevFor
  · rintro (⟨dec, hdec, hfor, hallowed, hgrant⟩ | ⟨hdenied, hsource⟩)
    · obtain ⟨rev, hrev, rfl, hcurrent, hrevFor⟩ := detected_of_allowed
        denies present hdec hfor hallowed
      exact ⟨rev, hadds.keeps rev hrev, hcurrent, hrevFor.1, hrevFor.2, hgrant⟩
    · obtain ⟨now, hnow, hnowFor⟩ := present
      have hnowDenied := denies now hnow hnowFor
      obtain ⟨hcluster, hns⟩ := (now.isFor_iff _ _).mp hnowFor
      have hentries : entriesInNamespace inv now.target.clusterName now.target.ns ≠ [] := by
        have hkey := (mem_map_entriesInNamespace_iff inv
          now.target.clusterName now.target.ns key).mpr ⟨recorded, hcluster, hns⟩
        intro hempty
        simp [hempty] at hkey
      obtain ⟨rev, hrev, hrevFor⟩ :=
        hadds.complete now hnow hnowDenied hentries
      rw [hcluster, hns] at hrevFor
      refine ⟨rev, hrev, ?_⟩
      rcases hadds.sound rev hrev with hold | ⟨dec, _, _, rfl, _⟩
      · obtain ⟨hmem, hfor, hallowed⟩ := allowed_of_detected hold hrevFor
        rw [hdenied _ hmem hfor] at hallowed
        cases hallowed
      · exact ⟨rfl, hrevFor.1, hrevFor.2, (grantRetained_nil_iff _ _).mpr hsource⟩

end K8sR8r
