import K8sR8r.ForeignObjects
import K8sR8r.SelectorConsistency

/-!
# The conflict policy warning

The webhook warns when no policy that could match the source lists the
requested conflict policy; the engine later acts on the weaker of the request
and the strongest value its matching policies list.  The two agree unless the
request asks for Adopt and a policy grants only the stronger Overwrite.
-/

namespace K8sR8r

/-! ## The warning -/

def conflictPolicyWarning (policies : List ReplicationPolicy) (kind sourceNamespace : String)
    (req : ParsedRequest) : String :=
  if req.conflictPolicy = .other "" ∨ req.conflictPolicy = .fail then ""
  else if (policiesForKind
      (policiesForSourceNamespace policies sourceNamespace) kind).any
        fun p => p.options.allowedConflictPolicies.contains req.conflictPolicy then ""
  else
    keyConflictPolicy ++ " is " ++ quoted req.conflictPolicy.text ++
      ", but no ReplicationPolicy that could match this source permits it; " ++
      "conflicts will be handled with the weaker of the request and the " ++
      "policy grant"

/-- A policy that could match the source lists the conflict policy. -/
def CandidateLists (policies : List ReplicationPolicy) (kind sourceNamespace : String)
    (cp : ConflictPolicy) : Prop :=
  ∃ policy ∈ policiesForKind (policiesForSourceNamespace policies sourceNamespace) kind,
    cp ∈ policy.options.allowedConflictPolicies
deriving Decidable

theorem conflictPolicyWarning_ne_empty_iff (policies : List ReplicationPolicy)
    (kind sourceNamespace : String) (req : ParsedRequest) :
    conflictPolicyWarning policies kind sourceNamespace req ≠ "" ↔
      req.conflictPolicy ≠ .other "" ∧
      req.conflictPolicy ≠ .fail ∧
      ¬ CandidateLists policies kind sourceNamespace req.conflictPolicy := by
  have hcandidates : ((policiesForKind
        (policiesForSourceNamespace policies sourceNamespace) kind).any
          fun p => p.options.allowedConflictPolicies.contains req.conflictPolicy) = true ↔
        CandidateLists policies kind sourceNamespace
          req.conflictPolicy := by
    simp [CandidateLists]
  unfold conflictPolicyWarning
  by_cases hnothing : req.conflictPolicy = .other "" ∨ req.conflictPolicy = .fail
  · rw [if_pos hnothing]
    rcases hnothing with h | h <;> simp [h]
  · rw [if_neg hnothing]
    rw [not_or] at hnothing
    by_cases hlisted : CandidateLists policies kind sourceNamespace req.conflictPolicy
    · rw [if_pos (hcandidates.mpr hlisted)]
      simp [hlisted]
    · rw [if_neg (fun hany => hlisted (hcandidates.mp hany))]
      simp [hnothing, hlisted, String.append_eq_empty_iff]

section

variable {cp : ConflictPolicy}

theorem parseConflictPolicy_known {raw : String} (hparse : parseConflictPolicy raw = .ok cp) :
    cp = .fail ∨ cp = .adopt ∨ cp = .overwrite := by
  unfold parseConflictPolicy defaultConflictPolicy at hparse
  dsimp only at hparse
  split_ifs at hparse <;> cases hparse <;> simp

theorem parseOptional_conflictPolicy_known (ann : StringMap) :
    let policy := parseOptional ann keyConflictPolicy defaultConflictPolicy
      parseConflictPolicy
    policy.1 = .fail ∨ policy.1 = .adopt ∨ policy.1 = .overwrite := by
  unfold parseOptional
  dsimp only
  split
  · exact .inl rfl
  · split
    · rename_i hvalue
      exact parseConflictPolicy_known hvalue
    · exact .inl rfl

theorem parseAnnotations_conflictPolicy_known {library : ParserLibrary} {ann : StringMap}
    {req : AnnotationRequest} (hparse : parseAnnotations library ann = .ok (some req)) :
    req.conflictPolicy = .fail ∨ req.conflictPolicy = .adopt ∨ req.conflictPolicy = .overwrite := by
  unfold parseAnnotations at hparse
  dsimp only at hparse
  split at hparse
  · cases hparse
  · split at hparse
    · cases hparse
    · cases hparse
      exact parseOptional_conflictPolicy_known ann

theorem parseRequest_conflictPolicy {library : ParserLibrary} {ann : StringMap}
    {sourceNamespace : String} {req : ParsedRequest}
    (hparse : parseRequest library ann sourceNamespace = (req, none)) :
    req.conflictPolicy = .fail ∨ req.conflictPolicy = .adopt ∨ req.conflictPolicy = .overwrite := by
  unfold parseRequest at hparse
  dsimp only at hparse
  split at hparse
  · cases hparse
  · cases hparse
    exact .inl rfl
  · rename_i hannotations
    cases hparse
    exact parseAnnotations_conflictPolicy_known hannotations

/-! ## Policies that can permit something -/

theorem exists_of_mem_mapM {α β : Type} {f : α → Option β} {items : List α} {results : List β}
    (hmap : items.mapM f = some results) {result : β} (hmem : result ∈ results) :
    ∃ item ∈ items, f item = some result := by
  induction items generalizing results with
  | nil =>
    cases hmap
    cases hmem
  | cons item rest ih =>
    simp only [List.mapM_cons, Option.pure_def, Option.bind_eq_bind,
      Option.bind_eq_some_iff, Option.some.injEq] at hmap
    obtain ⟨first, hfirst, others, hothers, rfl⟩ := hmap
    rcases List.mem_cons.mp hmem with rfl | hrest
    · exact ⟨item, List.mem_cons_self, hfirst⟩
    · obtain ⟨found, hfound, hresult⟩ := ih hothers hrest
      exact ⟨found, List.mem_cons_of_mem _ hfound, hresult⟩

theorem numberFree_of_labelSelector {selector : LabelSelector} {parsed : Selector}
    (hparsed : labelSelectorAsSelector selector = some parsed) :
    parsed.NumberFree := by
  unfold labelSelectorAsSelector at hparsed
  dsimp only at hparsed
  obtain ⟨requirements, hmap, rfl⟩ := Option.map_eq_some_iff.mp hparsed
  intro requirement hmem
  obtain ⟨candidate, hcandidate, hvalid⟩ :=
    exists_of_mem_mapM hmap hmem
  obtain ⟨hsome, _⟩ := Option.filter_eq_some_iff.mp hvalid
  subst hsome
  rcases List.mem_append.mp hcandidate with hlabel | hexpression
  · obtain ⟨entry, _, hentry⟩ := List.mem_map.mp hlabel
    cases hentry
    exact ⟨by simp, by simp⟩
  · obtain ⟨expression, _, hexpression⟩ := List.mem_map.mp hexpression
    unfold LabelSelectorRequirement.asRequirement at hexpression
    dsimp only at hexpression
    split_ifs at hexpression <;> cases hexpression <;>
      exact ⟨by simp, by simp⟩

/-- The selector is valid and some label set matches it. -/
def LabelSelector.isSatisfiable (selector : LabelSelector) : Bool :=
  match labelSelectorAsSelector selector with
  | none => false
  | some parsed => jointlySatisfiable parsed parsed

theorem LabelSelector.isSatisfiable_iff (selector : LabelSelector) :
    selector.isSatisfiable = true ↔
      ∃ labels : StringMap, selectorMatches selector labels = true := by
  unfold LabelSelector.isSatisfiable selectorMatches
  cases hparsed : labelSelectorAsSelector selector with
  | none => simp
  | some parsed =>
    have hfree := numberFree_of_labelSelector hparsed
    dsimp only
    rw [jointlySatisfiable_iff_of_numberFree hfree hfree]
    simp

/-- The policy permits some target of the source under some labels. -/
def ReplicationPolicy.couldPermit (policy : ReplicationPolicy) (kind sourceNamespace : String) :
    Bool :=
  policy.sources.kinds.contains kind && (policy.sources.namespaces.contains sourceNamespace ||
      policy.sources.namespaceSelector.any LabelSelector.isSatisfiable) &&
    policy.targets.clusterSelector.isSatisfiable &&
    !policy.targets.namespaces.isEmpty

theorem exists_matchSourceNamespace_iff (sources : PolicySources) (kind sourceNamespace : String) :
    (∃ labels, matchSourceNamespace sources ⟨kind, sourceNamespace, labels⟩ = true) ↔
      (sources.namespaces.contains sourceNamespace ||
        sources.namespaceSelector.any LabelSelector.isSatisfiable) =
          true := by
  unfold matchSourceNamespace
  dsimp only
  by_cases hlisted : sources.namespaces.contains sourceNamespace = true
  · exact iff_of_true ⟨∅, if_pos hlisted⟩ (by rw [hlisted]; rfl)
  · simp only [if_neg hlisted]
    rw [Bool.not_eq_true] at hlisted
    rw [hlisted, Bool.false_or]
    cases hselector : sources.namespaceSelector with
    | none => simp
    | some selector => simp [LabelSelector.isSatisfiable_iff]

theorem ReplicationPolicy.couldPermit_iff (policy : ReplicationPolicy)
    (kind sourceNamespace : String) :
    policy.couldPermit kind sourceNamespace = true ↔
      ∃ labels tgt, policy.Permits ⟨kind, sourceNamespace, labels⟩ tgt := by
  unfold ReplicationPolicy.couldPermit ReplicationPolicy.Permits
  rw [Bool.and_eq_true, Bool.and_eq_true, Bool.and_eq_true,
    ← exists_matchSourceNamespace_iff policy.sources kind,
    LabelSelector.isSatisfiable_iff]
  constructor
  · rintro ⟨⟨⟨hkind, labels, hsource⟩, clusterLabels, hcluster⟩, htargets⟩
    obtain ⟨ns, hns⟩ : ∃ ns, ns ∈ policy.targets.namespaces := by
      apply List.exists_mem_of_ne_nil
      simpa using htargets
    exact ⟨labels, ⟨"", clusterLabels, ns⟩, hsource, by simpa using hkind,
      hcluster, hns⟩
  · rintro ⟨labels, tgt, hsource, hkind, hcluster, hns⟩
    refine ⟨⟨⟨by simpa using hkind, labels, hsource⟩, _, hcluster⟩, ?_⟩
    simpa [List.isEmpty_iff] using List.ne_nil_of_mem hns

/-! ## Agreement with the engine -/

/-- The policies that permit the target give less than the request asks for. -/
def FallsShort (policies : List ReplicationPolicy) (src : PolicySource) (tgt : PolicyTarget)
    (requested : ConflictPolicy) : Prop :=
  conflictPolicyStrength (effectiveConflictPolicy requested
      (resolveOptions (policies.filter fun policy =>
        policy.Permits src tgt)).allowedConflictPolicies) <
    conflictPolicyStrength requested

theorem fallsShort_iff {policies : List ReplicationPolicy} {src : PolicySource}
    {tgt : PolicyTarget} {requested : ConflictPolicy} :
    FallsShort policies src tgt requested ↔ 0 < conflictPolicyStrength requested ∧
        ∀ policy ∈ policies, policy.Permits src tgt → ∀ cp ∈ policy.options.allowedConflictPolicies,
            conflictPolicyStrength cp < conflictPolicyStrength requested := by
  have hgrant := le_strongestGrant_iff (conflictPolicyStrength requested)
    (policies.filter fun policy => policy.Permits src tgt)
  unfold FallsShort
  rw [strength_effectiveConflictPolicy, strength_resolveOptions, min_lt_iff]
  simp only [lt_irrefl, false_or]
  rw [← not_le, hgrant, not_or, Nat.pos_iff_ne_zero]
  simp only [List.mem_filter, decide_eq_true_eq]
  push Not
  simp only [and_imp]

theorem conflictPolicyStrength_eq_two (hstrong : 2 ≤ conflictPolicyStrength cp) :
    cp = .overwrite := by
  cases cp with
  | overwrite => rfl
  | fail | adopt | other _ => simp [conflictPolicyStrength] at hstrong

theorem strong_cases (hstrong : 1 ≤ conflictPolicyStrength cp) :
    cp = .adopt ∨ cp = .overwrite := by
  cases cp with
  | overwrite => exact .inr rfl
  | adopt => exact .inl rfl
  | fail | other _ => simp [conflictPolicyStrength] at hstrong

/-- The engine honours nothing that the webhook warned about exactly when the
request does not ask for Adopt, or a candidate lists Adopt, or no policy that
lists Overwrite can permit a target of the source. -/
theorem conflict_warning_agrees_iff (library : ParserLibrary) (ann : StringMap)
    (policies : List ReplicationPolicy) (kind sourceNamespace : String) (req : ParsedRequest)
    (hparse : parseRequest library ann sourceNamespace = (req, none)) :
    (conflictPolicyWarning policies kind sourceNamespace req ≠ "" →
      ∀ (labels : StringMap) (tgt : PolicyTarget),
        FallsShort policies ⟨kind, sourceNamespace, labels⟩ tgt req.conflictPolicy) ↔
      req.conflictPolicy ≠ .adopt ∨
      CandidateLists policies kind sourceNamespace .adopt ∨
      ∀ policy ∈ policies,
        .overwrite ∈ policy.options.allowedConflictPolicies →
        policy.couldPermit kind sourceNamespace = false := by
  have hcandidate : ∀ {policy labels tgt cp}, policy ∈ policies →
      policy.Permits ⟨kind, sourceNamespace, labels⟩ tgt →
      cp ∈ policy.options.allowedConflictPolicies →
        CandidateLists policies kind sourceNamespace cp := by
    intro policy labels tgt cp hmem hpermits hcp
    exact ⟨policy, mem_kindMatched_of_permits hmem hpermits, hcp⟩
  rw [conflictPolicyWarning_ne_empty_iff]
  rcases parseRequest_conflictPolicy hparse with hreq | hreq | hreq
  · simp [hreq]
  · rw [hreq]
    constructor
    · intro hagrees
      by_cases hlists : CandidateLists policies kind sourceNamespace .adopt
      · exact .inr (.inl hlists)
      · refine .inr (.inr fun policy hmem hoverwrite => ?_)
        rw [← Bool.not_eq_true, ReplicationPolicy.couldPermit_iff]
        rintro ⟨labels, tgt, hpermits⟩
        have hshort := fallsShort_iff.mp (hagrees ⟨by simp, by simp, hlists⟩ labels tgt)
        exact absurd (hshort.2 policy hmem hpermits _ hoverwrite) (by decide)
    · rintro (hne | hlists | hnone) ⟨_, _, hunlisted⟩ labels tgt
      · exact absurd rfl hne
      · exact absurd hlists hunlisted
      · refine fallsShort_iff.mpr ⟨by decide, ?_⟩
        intro policy hmem hpermits cp hcp
        by_contra hstrong
        rcases strong_cases (Nat.le_of_not_lt hstrong) with rfl | rfl
        · exact hunlisted (hcandidate hmem hpermits hcp)
        · have hcould := (policy.couldPermit_iff kind sourceNamespace).mpr ⟨labels, tgt, hpermits⟩
          rw [hnone policy hmem hcp] at hcould
          cases hcould
  · rw [hreq]
    simp only [ne_eq, reduceCtorEq, not_false_eq_true, true_or, iff_true]
    rintro ⟨_, _, hunlisted⟩ labels tgt
    refine fallsShort_iff.mpr ⟨by decide, ?_⟩
    intro policy hmem hpermits cp hcp
    by_contra hstrong
    rw [conflictPolicyStrength_eq_two (Nat.le_of_not_lt hstrong)] at hcp
    exact hunlisted (hcandidate hmem hpermits hcp)

end

namespace Sample

def adoptAnnotations : StringMap :=
  ((∅ : StringMap).insert keyReplicate "true").insert keyConflictPolicy "Adopt"

def overwritePolicy : ReplicationPolicy where
  name := "overwrite"
  sources := ⟨["team"], none, ["Secret"]⟩
  targets := ⟨⟨[], []⟩, ["team"]⟩
  options := ⟨false, [.overwrite], none⟩

def adoptRequest : ParsedRequest :=
  (parseRequest admissionLibrary adoptAnnotations "team").1

end Sample

open Sample

theorem conflict_warning_agrees_iff_sample :
    parseRequest admissionLibrary adoptAnnotations "team" = (adoptRequest, none) ∧
    ∀ (labels : StringMap) (tgt : PolicyTarget),
      FallsShort [stagingPolicy] ⟨"Secret", "team", labels⟩ tgt adoptRequest.conflictPolicy := by
  have hparse : parseRequest admissionLibrary adoptAnnotations "team" =
        (adoptRequest, none) := Prod.ext rfl (by decide +kernel)
  refine ⟨hparse, (conflict_warning_agrees_iff _ _ [stagingPolicy]
    "Secret" "team" _ hparse).mpr ?_ (by decide +kernel)⟩
  exact .inr (.inr (by decide))

/-- The request asks for Adopt and the only policy lists Overwrite: the webhook
warns, and the engine adopts. -/
theorem warned_request_honoured :
    parseRequest admissionLibrary adoptAnnotations "team" = (adoptRequest, none) ∧
    conflictPolicyWarning [overwritePolicy] "Secret" "team" adoptRequest ≠ "" ∧
    effectiveConflictPolicy adoptRequest.conflictPolicy
      (resolveOptions
        ([overwritePolicy].filter fun policy =>
          policy.Permits ⟨"Secret", "team", ∅⟩ ⟨"spoke", ∅, "team"⟩)).allowedConflictPolicies =
      adoptRequest.conflictPolicy :=
  ⟨Prod.ext rfl (by decide +kernel), by decide +kernel, by decide +kernel⟩

end K8sR8r
