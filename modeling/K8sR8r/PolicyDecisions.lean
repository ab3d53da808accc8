import K8sR8r.PolicyEvaluation
import K8sR8r.RunningMaximum

/-!
# What a policy decision says

A decision is the union of what single policies say: the permitting policies by
name, or the furthest dimension any of them reached.  Everything in a decision
is a function of the set of policies, with one exception: the denial text names
the closest policy, and of several equally close ones the last in the list is
named.
-/

namespace K8sR8r

open RunningMaximum

/-! ## Failures of single policies -/

def policyFailures (src : PolicySource) (tgt : PolicyTarget) (policies : List ReplicationPolicy) :
    List (Dimension × String) :=
  policies.filterMap fun policy =>
    (matchPolicy policy src tgt).map fun dimension =>
      (dimension, policy.name)

def failureRank (failure : Dimension × String) : ℕ := failure.1.rank

theorem decideStep_best (src : PolicySource) (tgt : PolicyTarget)
    (policies : List ReplicationPolicy) (state : DecideState) :
    ((policies.foldl (decideStep src tgt) state).bestDim,
        (policies.foldl (decideStep src tgt) state).bestPolicy) =
      best failureRank (state.bestDim, state.bestPolicy) (policyFailures src tgt policies) := by
  induction policies generalizing state with
  | nil => rfl
  | cons policy rest ih =>
    rw [List.foldl_cons, ih]
    unfold policyFailures
    cases hmatch : matchPolicy policy src tgt with
    | none =>
      rw [List.filterMap_cons_none (by rw [hmatch]; rfl)]
      simp [decideStep, hmatch]
    | some dimension =>
      rw [List.filterMap_cons_some (by rw [hmatch]; rfl)]
      unfold best
      rw [List.foldl_cons]
      congr 1
      by_cases hrank : state.bestDim.rank ≤ dimension.rank
      · simp [decideStep, hmatch, failureRank, hrank]
      · simp [decideStep, hmatch, failureRank, hrank]

theorem Dimension.rank_injective : Function.Injective Dimension.rank := by
  intro first second heq
  cases first <;> cases second <;> first | rfl | cases heq

section

variable {policy : ReplicationPolicy} {src : PolicySource} {tgt : PolicyTarget}
  {dimension : Dimension} {policies reordered : List ReplicationPolicy}

theorem sourceNamespace_rank_le (hmatch : matchPolicy policy src tgt = some dimension) :
    Dimension.sourceNamespace.rank ≤ dimension.rank := by
  cases dimension with
  | noPolicies =>
    unfold matchPolicy at hmatch
    split_ifs at hmatch <;> cases hmatch
  | _ => decide

theorem mem_policyFailures_iff {failure : Dimension × String} :
    failure ∈ policyFailures src tgt policies ↔
      ∃ policy ∈ policies, matchPolicy policy src tgt = some failure.1 ∧
        policy.name = failure.2 := by
  unfold policyFailures
  rw [List.mem_filterMap]
  constructor
  · rintro ⟨policy, hmem, hfailure⟩
    obtain ⟨dimension, hmatch, rfl⟩ := Option.map_eq_some_iff.mp hfailure
    exact ⟨policy, hmem, hmatch, rfl⟩
  · rintro ⟨policy, hmem, hmatch, hname⟩
    refine ⟨policy, hmem, ?_⟩
    rw [hmatch, Option.map_some, hname]

theorem start_rank_le_failures (text : String) :
    ∀ failure ∈ policyFailures src tgt policies,
      failureRank (.sourceNamespace, text) ≤ failureRank failure := by
  intro failure hmem
  obtain ⟨policy, _, hmatch, _⟩ := mem_policyFailures_iff.mp hmem
  exact sourceNamespace_rank_le hmatch

/-! ## The two kinds of decisions -/

/-- The closest failure of a list of policies that permit nothing. -/
def closestFailure (src : PolicySource) (tgt : PolicyTarget) (policies : List ReplicationPolicy) :
    Dimension × String :=
  best failureRank (.sourceNamespace, "") (policyFailures src tgt policies)

theorem decideTarget_of_denied (hne : policies ≠ [])
    (hdenied : ∀ policy ∈ policies, ¬ policy.Permits src tgt) :
    decideTarget src tgt policies =
      { target := tgt
        allowed := false
        matchedPolicies := []
        deniedDimension := some (closestFailure src tgt policies).1
        reason := denialReason (closestFailure src tgt policies).1
          (closestFailure src tgt policies).2 src tgt } := by
  have hempty : policies.isEmpty = false := by
    simpa [List.isEmpty_iff] using hne
  have hmatched : (policies.foldl (decideStep src tgt)
      ⟨[], .sourceNamespace, ""⟩).matched = [] := by
    rw [decideStep_matched]
    simpa [List.filter_eq_nil_iff] using hdenied
  have hbest := decideStep_best src tgt policies ⟨[], .sourceNamespace, ""⟩
  unfold decideTarget
  rw [hempty]
  simp only [Bool.false_eq_true, if_false, hmatched, List.isEmpty_nil,
    if_true, closestFailure, ← hbest]

theorem decideTarget_of_permitted (hpermitted : ∃ policy ∈ policies, policy.Permits src tgt) :
    decideTarget src tgt policies =
      let matched := ((policies.filter fun policy =>
        policy.Permits src tgt).map ReplicationPolicy.name).insertionSort (· ≤ ·)
      { target := tgt
        allowed := true
        matchedPolicies := matched
        deniedDimension := none
        reason := "allowed by " ++ policyListText matched } := by
  obtain ⟨policy, hmem, hpermits⟩ := hpermitted
  have hempty : policies.isEmpty = false := by
    simpa [List.isEmpty_iff] using List.ne_nil_of_mem hmem
  have hmatched : ((policies.filter fun policy =>
      decide (policy.Permits src tgt)).map ReplicationPolicy.name).isEmpty = false := by
    have hname : policy.name ∈ (policies.filter fun policy =>
        decide (policy.Permits src tgt)).map ReplicationPolicy.name :=
      List.mem_map_of_mem (List.mem_filter.mpr ⟨hmem, by simpa using hpermits⟩)
    simpa [List.isEmpty_iff] using List.ne_nil_of_mem hname
  unfold decideTarget
  rw [hempty]
  simp only [Bool.false_eq_true, if_false, decideStep_matched, List.nil_append, hmatched]

/-- Some policy fails on the dimension and none gets further. -/
def FurthestReached (src : PolicySource) (tgt : PolicyTarget) (policies : List ReplicationPolicy)
    (dimension : Dimension) : Prop :=
  (∃ policy ∈ policies, matchPolicy policy src tgt = some dimension) ∧ ∀ policy ∈ policies, ∀ other,
      matchPolicy policy src tgt = some other → other.rank ≤ dimension.rank

section

variable (hne : policies ≠ []) (hdenied : ∀ policy ∈ policies, ¬ policy.Permits src tgt)
include hne hdenied

theorem failures_ne_nil : policyFailures src tgt policies ≠ [] := by
  obtain ⟨policy, hmem⟩ := List.exists_mem_of_ne_nil policies hne
  cases hmatch : matchPolicy policy src tgt with
  | none =>
    exact absurd ((matchPolicy_eq_none_iff policy src tgt).mp hmatch) (hdenied policy hmem)
  | some dimension =>
    have hfailure : (dimension, policy.name) ∈ policyFailures src tgt policies :=
      mem_policyFailures_iff.mpr ⟨policy, hmem, hmatch, rfl⟩
    exact List.ne_nil_of_mem hfailure

theorem closestFailure_mem :
    closestFailure src tgt policies ∈ policyFailures src tgt policies :=
  best_mem (failures_ne_nil hne hdenied) (start_rank_le_failures "")

theorem closestFailure_furthest :
    FurthestReached src tgt policies (closestFailure src tgt policies).1 := by
  obtain ⟨policy, hmem, hmatch, _⟩ :=
    mem_policyFailures_iff.mp (closestFailure_mem hne hdenied)
  refine ⟨⟨policy, hmem, hmatch⟩, ?_⟩
  intro other hother dimension hdimension
  have hfailure : (dimension, other.name) ∈ policyFailures src tgt policies :=
    mem_policyFailures_iff.mpr ⟨other, hother, hdimension, rfl⟩
  have hrank : failureRank (dimension, other.name) ≤
      failureRank (closestFailure src tgt policies) :=
    rank_le_best hfailure (Dimension.sourceNamespace, "")
  exact hrank

end

/-! ## Exact and monotone -/

/-- What a decision on a target has to say about a list of policies. -/
structure Decision.ExactFor
    (src : PolicySource) (policies : List ReplicationPolicy)
    (tgt : PolicyTarget) (decision : Decision) : Prop where
  target : decision.target = tgt
  allowed : decision.allowed = true ↔
    ∃ policy ∈ policies, policy.Permits src tgt
  sorted : decision.matchedPolicies.Pairwise (· < ·)
  matched : ∀ name, name ∈ decision.matchedPolicies ↔
    ∃ policy ∈ policies, policy.Permits src tgt ∧ policy.name = name
  undenied : decision.allowed = true → decision.deniedDimension = none
  denied : decision.allowed = false →
    ∃ dimension, decision.deniedDimension = some dimension ∧
      (policies = [] → dimension = .noPolicies) ∧
      (policies ≠ [] → FurthestReached src tgt policies dimension)

theorem matchedPolicies_sorted (policies : PolicyList) (src : PolicySource) (tgt : PolicyTarget) :
    (decideTarget src tgt policies.items).matchedPolicies.Pairwise (· < ·) := by
  by_cases hpermitted : ∃ policy ∈ policies.items, policy.Permits src tgt
  · rw [decideTarget_of_permitted hpermitted]
    dsimp only
    have hnodup : ((policies.items.filter fun policy =>
        decide (policy.Permits src tgt)).map ReplicationPolicy.name).Nodup :=
      policies.names_nodup.sublist (List.filter_sublist.map _)
    have hsorted := List.pairwise_insertionSort (· ≤ ·) ((policies.items.filter fun policy =>
        decide (policy.Permits src tgt)).map ReplicationPolicy.name)
    have hdistinct := ((List.perm_insertionSort (· ≤ ·) _).nodup_iff).mpr hnodup
    exact (hsorted.and hdistinct).imp fun h => lt_of_le_of_ne h.1 h.2
  · have hallowed : (decideTarget src tgt policies.items).allowed = false := by
      rw [← Bool.not_eq_true, decideTarget_allowed_iff]
      exact hpermitted
    have hnone : ∀ name, name ∉ (decideTarget src tgt policies.items).matchedPolicies := by
      intro name hname
      obtain ⟨policy, hmem, hpermits, _⟩ :=
        (mem_matchedPolicies_iff src tgt policies.items name).mp hname
      exact hpermitted ⟨policy, hmem, hpermits⟩
    rw [List.eq_nil_iff_forall_not_mem.mpr hnone]
    exact .nil

theorem decideTarget_exact (policies : PolicyList) (src : PolicySource) (tgt : PolicyTarget) :
    (decideTarget src tgt policies.items).ExactFor src policies.items tgt where
  target := decideTarget_target src tgt policies.items
  allowed := decideTarget_allowed_iff src tgt policies.items
  sorted := matchedPolicies_sorted policies src tgt
  matched := mem_matchedPolicies_iff src tgt policies.items
  undenied := by
    intro hallowed
    rw [decideTarget_of_permitted ((decideTarget_allowed_iff src tgt policies.items).mp hallowed)]
  denied := by
    intro hallowed
    have hdenied : ∀ policy ∈ policies.items, ¬ policy.Permits src tgt := by
      intro policy hmem hpermits
      have htrue := (decideTarget_allowed_iff src tgt policies.items).mpr ⟨policy, hmem, hpermits⟩
      rw [hallowed] at htrue
      cases htrue
    by_cases hempty : policies.items = []
    · refine ⟨.noPolicies, ?_, fun _ => rfl, fun hne => absurd hempty hne⟩
      rw [hempty]
      rfl
    · refine ⟨(closestFailure src tgt policies.items).1, ?_, fun h => absurd h hempty,
        fun _ => closestFailure_furthest hempty hdenied⟩
      rw [decideTarget_of_denied hempty hdenied]

theorem not_permits_of_invalid_clusterSelector
    (hinvalid : labelSelectorAsSelector policy.targets.clusterSelector = none)
    (src : PolicySource) (tgt : PolicyTarget) :
    ¬ policy.Permits src tgt := by
  rintro ⟨_, _, hcluster, _⟩
  unfold selectorMatches at hcluster
  rw [hinvalid] at hcluster
  cases hcluster

theorem ns_mem_of_invalid_namespaceSelector {selector : LabelSelector}
    (hselector : policy.sources.namespaceSelector = some selector)
    (hinvalid : labelSelectorAsSelector selector = none) (permits : policy.Permits src tgt) :
    src.ns ∈ policy.sources.namespaces := by
  have hns := permits.1
  unfold matchSourceNamespace selectorMatches at hns
  rw [hselector] at hns
  simp only [hinvalid] at hns
  simpa using hns

def Decision.Extends (before after : Decision) : Prop :=
  (before.allowed = true → after.allowed = true) ∧ before.matchedPolicies ⊆ after.matchedPolicies

theorem decideTarget_extends {more : List ReplicationPolicy} (hmore : policies ⊆ more)
    (src : PolicySource) (tgt : PolicyTarget) :
    (decideTarget src tgt policies).Extends (decideTarget src tgt more) := by
  constructor
  · rw [decideTarget_allowed_iff, decideTarget_allowed_iff]
    rintro ⟨policy, hmem, hpermits⟩
    exact ⟨policy, hmore hmem, hpermits⟩
  · intro name
    rw [mem_matchedPolicies_iff, mem_matchedPolicies_iff]
    rintro ⟨policy, hmem, hpermits⟩
    exact ⟨policy, hmore hmem, hpermits⟩

/-- The decisions of a request, one for each target in order: each is exact
about its own target and is what the target alone would get, an invalid
selector matches nothing, and more policies only add. -/
theorem evaluation_exact_union (req : PolicyRequest) (policies : PolicyList) :
    List.Forall₂ (Decision.ExactFor req.source policies.items) req.targets
      (evaluate req policies.items).decisions ∧
    (evaluate req policies.items).decisions =
      req.targets.flatMap (fun tgt => (evaluate ⟨req.source, [tgt]⟩ policies.items).decisions) ∧
    (∀ policy ∈ policies.items,
      ∀ tgt,
        policy.Permits req.source tgt →
        labelSelectorAsSelector policy.targets.clusterSelector ≠ none ∧
          ∀ selector,
            policy.sources.namespaceSelector = some selector →
            labelSelectorAsSelector selector = none →
            req.source.ns ∈ policy.sources.namespaces) ∧
    ∀ more,
      policies.items ⊆ more →
      List.Forall₂ Decision.Extends (evaluate req policies.items).decisions
        (evaluate req more).decisions := by
  refine ⟨?_, ?_, ?_, ?_⟩
  · rw [evaluate_decisions, List.forall₂_map_right_iff, List.forall₂_same]
    intro tgt _
    exact decideTarget_exact policies req.source tgt
  · simp only [evaluate_decisions, List.map_cons, List.map_nil]
    exact List.map_eq_flatMap
  · intro policy _ tgt hpermits
    refine ⟨fun hinvalid => not_permits_of_invalid_clusterSelector hinvalid
      req.source tgt hpermits, ?_⟩
    intro selector hselector hinvalid
    exact ns_mem_of_invalid_namespaceSelector hselector hinvalid hpermits
  · intro more hmore
    rw [evaluate_decisions, evaluate_decisions, List.forall₂_map_left_iff,
      List.forall₂_map_right_iff, List.forall₂_same]
    intro tgt _
    exact decideTarget_extends hmore req.source tgt

/-! ## The order of the policies -/

theorem flatMap_escape_injective {α β : Type} {escape : α → List β} (hne : ∀ c, escape c ≠ [])
    (hsplit : ∀ c d rest others, escape c ++ rest = escape d ++ others → c = d ∧ rest = others) :
    Function.Injective fun text : List α => text.flatMap escape := by
  intro first
  induction first with
  | nil =>
    intro second heq
    cases second with
    | nil => rfl
    | cons d others =>
      have hempty : escape d ++ others.flatMap escape = [] := heq.symm
      exact absurd (List.append_eq_nil_iff.mp hempty).1 (hne d)
  | cons c rest ih =>
    intro second heq
    cases second with
    | nil =>
      have hempty : escape c ++ rest.flatMap escape = [] := heq
      exact absurd (List.append_eq_nil_iff.mp hempty).1 (hne c)
    | cons d others =>
      obtain ⟨rfl, hrest⟩ := hsplit c d _ _ heq
      rw [ih hrest]

theorem quoted_injective : Function.Injective quoted := by
  intro first second heq
  unfold quoted at heq
  rw [String.append_left_inj, String.append_right_inj, String.ofList_inj] at heq
  apply String.toList_injective
  refine flatMap_escape_injective ?_ ?_ heq
  · intro c
    split_ifs <;> simp
  · intro c d rest others hsame
    by_cases hquote : c = '"'
    · by_cases hquote' : d = '"'
      · simpa [hquote, hquote'] using hsame
      · by_cases hslash' : d = '\\'
        · simp [hquote, hslash'] at hsame
        · simp [hquote, hquote', hslash', Ne.symm hslash'] at hsame
    · by_cases hslash : c = '\\'
      · by_cases hquote' : d = '"'
        · simp [hslash, hquote'] at hsame
        · by_cases hslash' : d = '\\'
          · simpa [hslash, hslash'] using hsame
          · simp [hslash, hquote', hslash', Ne.symm hslash'] at hsame
      · by_cases hquote' : d = '"'
        · simp [hquote, hslash, hquote'] at hsame
        · by_cases hslash' : d = '\\'
          · simp [hquote, hslash, hslash'] at hsame
          · simpa [hquote, hslash, hquote', hslash'] using hsame

/-- The denial text names the closest policy, unless not even the source
namespace matched. -/
theorem denialReason_closest_injective (hdimension : dimension ≠ .sourceNamespace)
    (hpolicies : dimension ≠ .noPolicies) (src : PolicySource) (tgt : PolicyTarget) :
    Function.Injective fun closest =>
      denialReason dimension closest src tgt := by
  intro first second heq
  apply quoted_injective
  cases dimension with
  | noPolicies => exact absurd rfl hpolicies
  | sourceNamespace => exact absurd rfl hdimension
  | _ =>
    dsimp only [denialReason] at heq
    rwa [String.append_left_inj, String.append_right_inj] at heq

/-- Two policies are equally close to permitting the target, closer than any
other, and past the source namespace. -/
def TiedClosest (src : PolicySource) (tgt : PolicyTarget) (policies : List ReplicationPolicy) :
    Prop :=
  ∃ first ∈ policies, ∃ second ∈ policies, first.name ≠ second.name ∧
    ∃ dimension, dimension ≠ .sourceNamespace ∧ matchPolicy first src tgt = some dimension ∧
      matchPolicy second src tgt = some dimension ∧
      ∀ policy ∈ policies, ∃ other, matchPolicy policy src tgt = some other ∧
          other.rank ≤ dimension.rank

theorem policyFailures_perm (hperm : reordered.Perm policies) (src : PolicySource)
    (tgt : PolicyTarget) :
    (policyFailures src tgt reordered).Perm (policyFailures src tgt policies) :=
  hperm.filterMap _

/-- Without a tie the order of the policies does not show. -/
theorem decideTarget_perm (hperm : reordered.Perm policies)
    (huntied : ¬ TiedClosest src tgt policies) :
    decideTarget src tgt reordered = decideTarget src tgt policies := by
  by_cases hempty : policies = []
  · subst hempty
    rw [hperm.eq_nil]
  have hempty' : reordered ≠ [] := by
    rintro rfl
    exact hempty hperm.nil_eq.symm
  by_cases hpermitted : ∃ policy ∈ policies, policy.Permits src tgt
  · have hpermitted' : ∃ policy ∈ reordered, policy.Permits src tgt := by
      obtain ⟨policy, hmem, hpermits⟩ := hpermitted
      exact ⟨policy, hperm.mem_iff.mpr hmem, hpermits⟩
    have hnames : ((reordered.filter fun policy =>
          decide (policy.Permits src tgt)).map ReplicationPolicy.name).insertionSort (· ≤ ·) =
        ((policies.filter fun policy =>
          decide (policy.Permits src tgt)).map ReplicationPolicy.name).insertionSort (· ≤ ·) := by
      apply List.Perm.eq_of_pairwise' (r := (· ≤ ·))
      · exact List.pairwise_insertionSort _ _
      · exact List.pairwise_insertionSort _ _
      · exact (List.perm_insertionSort _ _).trans
          (((hperm.filter _).map _).trans (List.perm_insertionSort _ _).symm)
    rw [decideTarget_of_permitted hpermitted, decideTarget_of_permitted hpermitted']
    simp only [hnames]
  · have hdenied : ∀ policy ∈ policies, ¬ policy.Permits src tgt :=
      fun policy hmem hpermits => hpermitted ⟨policy, hmem, hpermits⟩
    have hdenied' : ∀ policy ∈ reordered, ¬ policy.Permits src tgt :=
      fun policy hmem => hdenied policy (hperm.mem_iff.mp hmem)
    have hrank : failureRank (closestFailure src tgt reordered) =
        failureRank (closestFailure src tgt policies) :=
      rank_best_perm (failures_ne_nil hempty' hdenied')
        (start_rank_le_failures "") (policyFailures_perm hperm src tgt)
    have hdimension : (closestFailure src tgt reordered).1 = (closestFailure src tgt policies).1 :=
      Dimension.rank_injective hrank
    have hreason : denialReason (closestFailure src tgt policies).1
          (closestFailure src tgt reordered).2 src tgt =
        denialReason (closestFailure src tgt policies).1
          (closestFailure src tgt policies).2 src tgt := by
      by_cases hsource : (closestFailure src tgt policies).1 = .sourceNamespace
      · rw [hsource]
        rfl
      · obtain ⟨first, hfirst, hmatch, hname⟩ :=
          mem_policyFailures_iff.mp (closestFailure_mem hempty' hdenied')
        obtain ⟨second, hsecond, hmatch', hname'⟩ :=
          mem_policyFailures_iff.mp (closestFailure_mem hempty hdenied)
        rw [hdimension] at hmatch
        have hsame : first.name = second.name := by
          by_contra hne
          refine huntied ⟨first, hperm.mem_iff.mp hfirst, second, hsecond,
            hne, _, hsource, hmatch, hmatch', ?_⟩
          intro policy hmem
          cases hother : matchPolicy policy src tgt with
          | none =>
            exact absurd ((matchPolicy_eq_none_iff policy src tgt).mp hother) (hdenied policy hmem)
          | some other =>
            exact ⟨other, rfl, (closestFailure_furthest hempty hdenied).2 policy hmem other hother⟩
        rw [← hname, ← hname', hsame]
    rw [decideTarget_of_denied hempty' hdenied',
      decideTarget_of_denied hempty hdenied, hdimension, hreason]

theorem closestFailure_last (hmatch : matchPolicy policy src tgt = some dimension)
    (hfurthest : ∀ other ∈ policies, ∀ reached, matchPolicy other src tgt = some reached →
        reached.rank ≤ dimension.rank) :
    closestFailure src tgt (policies ++ [policy]) = (dimension, policy.name) := by
  have hfailures : policyFailures src tgt (policies ++ [policy]) =
      policyFailures src tgt policies ++ [(dimension, policy.name)] := by
    unfold policyFailures
    rw [List.filterMap_append]
    congr 1
    simp [hmatch]
  unfold closestFailure
  rw [hfailures]
  apply best_append_singleton
  · exact sourceNamespace_rank_le hmatch
  · intro failure hmem
    obtain ⟨other, hother, hreached, _⟩ := mem_policyFailures_iff.mp hmem
    exact hfurthest other hother _ hreached

theorem reason_of_last (hmem : policy ∈ policies)
    (hmatch : matchPolicy policy src tgt = some dimension)
    (hfurthest : ∀ other ∈ policies, ∃ reached, matchPolicy other src tgt = some reached ∧
        reached.rank ≤ dimension.rank) :
    (decideTarget src tgt (policies.erase policy ++ [policy])).reason =
      denialReason dimension policy.name src tgt := by
  have hdenied : ∀ other ∈ policies.erase policy ++ [policy], ¬ other.Permits src tgt := by
    intro other hother hpermits
    have hlisted : other ∈ policies := by
      rcases List.mem_append.mp hother with hrest | hlast
      · exact List.mem_of_mem_erase hrest
      · rw [List.mem_singleton.mp hlast]
        exact hmem
    obtain ⟨reached, hreached, _⟩ := hfurthest other hlisted
    rw [(matchPolicy_eq_none_iff other src tgt).mpr hpermits] at hreached
    cases hreached
  have hlast : closestFailure src tgt (policies.erase policy ++ [policy]) =
      (dimension, policy.name) := by
    apply closestFailure_last hmatch
    intro other hother reached hreached
    obtain ⟨found, hfound, hrank⟩ :=
      hfurthest other (List.mem_of_mem_erase hother)
    rw [hfound] at hreached
    cases hreached
    exact hrank
  rw [decideTarget_of_denied (by simp) hdenied, hlast]

theorem erase_append_perm (hmem : policy ∈ policies) :
    (policies.erase policy ++ [policy]).Perm policies :=
  (List.perm_append_singleton policy _).trans (List.perm_cons_erase hmem).symm

/-- The order of the policies never shows in the evaluation exactly when no two
policies tie for the closest one to some denied target. -/
theorem policy_order_hidden_iff (req : PolicyRequest) (policies : PolicyList) :
    (∀ reordered,
      reordered.Perm policies.items → evaluate req reordered = evaluate req policies.items) ↔
      ∀ tgt ∈ req.targets, ¬ TiedClosest req.source tgt policies.items := by
  constructor
  · rintro hhidden tgt htgt ⟨first, hfirst, second, hsecond, hne, dimension, hsource, hmatch,
        hmatch', hfurthest⟩
    have hnone : dimension ≠ .noPolicies := by
      rintro rfl
      exact absurd (sourceNamespace_rank_le hmatch) (by decide)
    have hdecision : ∀ reordered, reordered.Perm policies.items →
        decideTarget req.source tgt reordered = decideTarget req.source tgt policies.items := by
      intro reordered hperm
      have hsame := congrArg PolicyResult.decisions (hhidden reordered hperm)
      rw [evaluate_decisions, evaluate_decisions] at hsame
      exact List.map_inj_left.mp hsame tgt htgt
    have hreason : denialReason dimension first.name req.source tgt =
        denialReason dimension second.name req.source tgt := by
      rw [← reason_of_last hfirst hmatch hfurthest, ← reason_of_last hsecond hmatch' hfurthest,
        hdecision _ (erase_append_perm hfirst),
        hdecision _ (erase_append_perm hsecond)]
    exact hne (denialReason_closest_injective hsource hnone req.source tgt hreason)
  · intro huntied reordered hperm
    unfold evaluate
    congr 1
    apply List.map_congr_left
    intro tgt htgt
    exact decideTarget_perm hperm (huntied tgt htgt)

end

namespace Sample

def appPolicy (name : String) : ReplicationPolicy where
  name := name
  sources := ⟨["team"], none, ["ConfigMap"]⟩
  targets := ⟨⟨∅, []⟩, ["app"]⟩
  options := ⟨false, [], none⟩

def appPolicies : PolicyList where
  items := [appPolicy "first", appPolicy "second"]
  names_nodup := by decide

def otherNamespace : PolicyRequest where
  source := ⟨"ConfigMap", "team", ∅⟩
  targets := [⟨"spoke", ∅, "other"⟩]

end Sample

/-- Both policies let the source onto the cluster and miss the target
namespace: the status text names whichever is listed last. -/
theorem policy_order_shows :
    Sample.appPolicies.items.reverse.Perm Sample.appPolicies.items ∧
    evaluate Sample.otherNamespace Sample.appPolicies.items.reverse ≠
      evaluate Sample.otherNamespace Sample.appPolicies.items :=
  ⟨List.reverse_perm _, by decide +kernel⟩

end K8sR8r
