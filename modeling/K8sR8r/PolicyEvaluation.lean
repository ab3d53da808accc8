import K8sR8r.LabelSelectors

/-!
# Policy evaluation

The pure evaluation core of `internal/policy`: default deny, allowlists only,
and union across policies without ever mixing the dimensions of two policies.
A decision also records the names of the policies that granted it, or the
furthest dimension any single policy reached before it failed.
-/

namespace K8sR8r

/-! ## The policy API -/

/-- `ConflictPolicy`; the Go type is a string, so values outside the enum are
kept as text. -/
inductive ConflictPolicy where
  | fail
  | overwrite
  | adopt
  | other (text : String)
  deriving DecidableEq

inductive RevocationPolicy where
  | retain
  | delete
  deriving DecidableEq

structure PolicySources where
  namespaces : List String
  namespaceSelector : Option LabelSelector
  kinds : List String
  deriving DecidableEq

structure PolicyTargets where
  clusterSelector : LabelSelector
  namespaces : List String
  deriving DecidableEq

/-- `revocationPolicy` is unset as `none`, which reads as the default
`Delete`. -/
structure PolicyOptions where
  allowNamespaceCreation : Bool
  allowedConflictPolicies : List ConflictPolicy
  revocationPolicy : Option RevocationPolicy
  deriving DecidableEq

structure ReplicationPolicy where
  name : String
  sources : PolicySources
  targets : PolicyTargets
  options : PolicyOptions
  deriving DecidableEq

/-- A list of policies as the API server returns it: the resource is cluster
scoped, so names are unique. -/
structure PolicyList where
  items : List ReplicationPolicy
  names_nodup : (items.map ReplicationPolicy.name).Nodup

/-! ## Requests and decisions -/

inductive Dimension where
  | noPolicies
  | sourceNamespace
  | sourceKind
  | targetCluster
  | targetNamespace
  deriving DecidableEq

def Dimension.rank : Dimension → Nat
  | .noPolicies => 0
  | .sourceNamespace => 1
  | .sourceKind => 2
  | .targetCluster => 3
  | .targetNamespace => 4

structure PolicySource where
  kind : String
  ns : String
  namespaceLabels : StringMap
  deriving DecidableEq

structure PolicyTarget where
  clusterName : String
  clusterLabels : StringMap
  ns : String
  deriving DecidableEq

structure PolicyRequest where
  source : PolicySource
  targets : List PolicyTarget
  deriving DecidableEq

structure Decision where
  target : PolicyTarget
  allowed : Bool
  matchedPolicies : List String
  deniedDimension : Option Dimension
  reason : String
  deriving DecidableEq

structure PolicyResult where
  decisions : List Decision
  deriving DecidableEq

/-! ## Matching one policy -/

/-- An invalid selector fails closed. -/
def selectorMatches (selector : LabelSelector) (labels : StringMap) : Bool :=
  match labelSelectorAsSelector selector with
  | none => false
  | some selector => selector.matches labels

def matchSourceNamespace (sources : PolicySources) (src : PolicySource) : Bool :=
  if sources.namespaces.contains src.ns then true
  else
    match sources.namespaceSelector with
    | none => false
    | some selector => selectorMatches selector src.namespaceLabels

/-- The first dimension on which a policy fails, in evaluation order; `none`
means that every dimension matches. -/
def matchPolicy (policy : ReplicationPolicy) (src : PolicySource) (tgt : PolicyTarget) :
    Option Dimension :=
  if !matchSourceNamespace policy.sources src then some .sourceNamespace
  else if !policy.sources.kinds.contains src.kind then some .sourceKind
  else if !selectorMatches policy.targets.clusterSelector tgt.clusterLabels then
    some .targetCluster
  else if !policy.targets.namespaces.contains tgt.ns then some .targetNamespace
  else none

/-- One single policy permits the target on all four dimensions. -/
def ReplicationPolicy.Permits (policy : ReplicationPolicy) (src : PolicySource)
    (tgt : PolicyTarget) :
    Prop :=
  matchSourceNamespace policy.sources src = true ∧ src.kind ∈ policy.sources.kinds ∧
    selectorMatches policy.targets.clusterSelector tgt.clusterLabels = true ∧
    tgt.ns ∈ policy.targets.namespaces
deriving Decidable

/-- The two source dimensions alone. -/
def ReplicationPolicy.MatchesSource (policy : ReplicationPolicy) (src : PolicySource) : Prop :=
  matchSourceNamespace policy.sources src = true ∧ src.kind ∈ policy.sources.kinds
deriving Decidable

theorem matchPolicy_eq_none_iff (policy : ReplicationPolicy) (src : PolicySource)
    (tgt : PolicyTarget) :
    matchPolicy policy src tgt = none ↔ policy.Permits src tgt := by
  unfold matchPolicy ReplicationPolicy.Permits
  cases matchSourceNamespace policy.sources src with
  | false => simp
  | true =>
    by_cases hkind : src.kind ∈ policy.sources.kinds
    · cases selectorMatches policy.targets.clusterSelector tgt.clusterLabels with
      | false => simp [hkind]
      | true => simp [hkind]
    · simp [hkind]

/-- A policy reaches the target dimensions exactly when its source dimensions
match. -/
theorem matchPolicy_source_iff (policy : ReplicationPolicy) (src : PolicySource)
    (tgt : PolicyTarget) :
    (matchPolicy policy src tgt = none ∨ matchPolicy policy src tgt = some .targetCluster ∨
        matchPolicy policy src tgt = some .targetNamespace) ↔
      policy.MatchesSource src := by
  unfold matchPolicy ReplicationPolicy.MatchesSource
  cases matchSourceNamespace policy.sources src with
  | false => simp
  | true =>
    by_cases hkind : src.kind ∈ policy.sources.kinds
    · cases selectorMatches policy.targets.clusterSelector tgt.clusterLabels with
      | false => simp [hkind]
      | true =>
        by_cases hns : tgt.ns ∈ policy.targets.namespaces
        · simp [hkind, hns]
        · simp [hkind, hns]
    · simp [hkind]

/-! ## Deciding one target -/

def policyListText (names : List String) : String :=
  match names with
  | [name] => "policy " ++ quoted name
  | names => "policies " ++ bracketed names

def denialReason (dimension : Dimension) (closest : String) (src : PolicySource)
    (tgt : PolicyTarget) : String :=
  match dimension with
  | .sourceNamespace =>
    "denied: no ReplicationPolicy allowlists source namespace " ++
      quoted src.ns ++ " (sourceNamespace)"
  | .sourceKind =>
    "denied: no ReplicationPolicy matching source namespace " ++
      quoted src.ns ++ " allowlists kind " ++ quoted src.kind ++
      " (sourceKind, closest policy " ++ quoted closest ++ ")"
  | .targetCluster =>
    "denied: no single ReplicationPolicy matching the source permits " ++
      "target cluster " ++ quoted tgt.clusterName ++
      " (targetCluster, closest policy " ++ quoted closest ++ ")"
  | .targetNamespace =>
    "denied: no single ReplicationPolicy matching source and cluster " ++
      "allowlists target namespace " ++ quoted tgt.ns ++ " on cluster " ++
      quoted tgt.clusterName ++ " (targetNamespace, closest policy " ++
      quoted closest ++ ")"
  | .noPolicies =>
    "denied by default: no ReplicationPolicy permits this target"

/-- What the loop over the policies has seen so far. -/
structure DecideState where
  matched : List String
  bestDim : Dimension
  bestPolicy : String
  deriving DecidableEq

def decideStep (src : PolicySource) (tgt : PolicyTarget) (state : DecideState)
    (policy : ReplicationPolicy) : DecideState :=
  match matchPolicy policy src tgt with
  | none => { state with matched := state.matched ++ [policy.name] }
  | some failedDim =>
    if state.bestDim.rank ≤ failedDim.rank then
      { state with bestDim := failedDim, bestPolicy := policy.name }
    else state

/-- `decide` in the source. -/
def decideTarget (src : PolicySource) (tgt : PolicyTarget) (policies : List ReplicationPolicy) :
    Decision :=
  if policies.isEmpty then
    { target := tgt
      allowed := false
      matchedPolicies := []
      deniedDimension := some .noPolicies
      reason := "denied by default: no ReplicationPolicy objects exist" }
  else
    let state := policies.foldl (decideStep src tgt) ⟨[], .sourceNamespace, ""⟩
    if state.matched.isEmpty then
      { target := tgt
        allowed := false
        matchedPolicies := []
        deniedDimension := some state.bestDim
        reason := denialReason state.bestDim state.bestPolicy src tgt }
    else
      let matched := state.matched.insertionSort (· ≤ ·)
      { target := tgt
        allowed := true
        matchedPolicies := matched
        deniedDimension := none
        reason := "allowed by " ++ policyListText matched }

def evaluate (req : PolicyRequest) (policies : List ReplicationPolicy) : PolicyResult :=
  ⟨req.targets.map fun tgt => decideTarget req.source tgt policies⟩

@[simp] theorem evaluate_decisions (req : PolicyRequest) (policies : List ReplicationPolicy) :
    (evaluate req policies).decisions =
      req.targets.map fun tgt => decideTarget req.source tgt policies := rfl

theorem decideStep_matched (src : PolicySource) (tgt : PolicyTarget)
    (policies : List ReplicationPolicy) (state : DecideState) :
    (policies.foldl (decideStep src tgt) state).matched = state.matched ++
        (policies.filter fun policy => policy.Permits src tgt).map
          ReplicationPolicy.name := by
  induction policies generalizing state with
  | nil => simp
  | cons policy rest ih =>
    rw [List.foldl_cons, ih]
    cases hmatch : matchPolicy policy src tgt with
    | none =>
      have hpermits := (matchPolicy_eq_none_iff policy src tgt).mp hmatch
      simp [decideStep, hmatch, hpermits]
    | some dimension =>
      have hdenied : ¬ policy.Permits src tgt := by
        intro hpermits
        rw [(matchPolicy_eq_none_iff policy src tgt).mpr hpermits] at hmatch
        contradiction
      have hsame : (decideStep src tgt state policy).matched = state.matched := by
        simp only [decideStep, hmatch]
        split_ifs <;> rfl
      simp [hsame, hdenied]

@[simp] theorem decideTarget_target (src : PolicySource) (tgt : PolicyTarget)
    (policies : List ReplicationPolicy) :
    (decideTarget src tgt policies).target = tgt := by
  unfold decideTarget
  dsimp only
  split_ifs <;> rfl

/-- The matched policies are exactly the names of the policies that permit the
target. -/
theorem mem_matchedPolicies_iff (src : PolicySource) (tgt : PolicyTarget)
    (policies : List ReplicationPolicy) (name : String) :
    name ∈ (decideTarget src tgt policies).matchedPolicies ↔
      ∃ policy ∈ policies, policy.Permits src tgt ∧ policy.name = name := by
  unfold decideTarget
  cases policies with
  | nil => simp
  | cons policy rest =>
    simp only [List.isEmpty_cons, Bool.false_eq_true, if_false]
    rw [decideStep_matched]
    simp only [List.nil_append]
    by_cases hempty : ((policy :: rest).filter fun policy => decide (policy.Permits src tgt)).map
          ReplicationPolicy.name = []
    · rw [if_pos (by rw [hempty]; rfl)]
      have hnone : ∀ other ∈ policy :: rest, ¬ other.Permits src tgt := by
        simpa [List.filter_eq_nil_iff] using hempty
      constructor
      · intro h
        simp at h
      · rintro ⟨other, hmem, hpermits, _⟩
        exact (hnone other hmem hpermits).elim
    · rw [if_neg (by simpa [List.isEmpty_iff] using hempty)]
      rw [List.mem_insertionSort]
      simp only [List.mem_map, List.mem_filter, decide_eq_true_eq]
      constructor
      · rintro ⟨other, ⟨hmem, hpermits⟩, hname⟩
        exact ⟨other, hmem, hpermits, hname⟩
      · rintro ⟨other, hmem, hpermits, hname⟩
        exact ⟨other, ⟨hmem, hpermits⟩, hname⟩

/-- Union semantics: allowed exactly when one single policy permits the
target. -/
theorem decideTarget_allowed_iff (src : PolicySource) (tgt : PolicyTarget)
    (policies : List ReplicationPolicy) :
    (decideTarget src tgt policies).allowed = true ↔
      ∃ policy ∈ policies, policy.Permits src tgt := by
  unfold decideTarget
  cases policies with
  | nil => simp
  | cons policy rest =>
    simp only [List.isEmpty_cons, Bool.false_eq_true, if_false]
    rw [decideStep_matched]
    simp only [List.nil_append]
    by_cases hempty : ((policy :: rest).filter fun policy => decide (policy.Permits src tgt)).map
          ReplicationPolicy.name = []
    · rw [if_pos (by rw [hempty]; rfl)]
      simp only [Bool.false_eq_true, false_iff, not_exists, not_and]
      simpa [List.filter_eq_nil_iff] using hempty
    · rw [if_neg (by simpa [List.isEmpty_iff] using hempty)]
      simp only [true_iff]
      by_contra hnone
      apply hempty
      simp only [not_exists, not_and] at hnone
      simp only [List.map_eq_nil_iff, List.filter_eq_nil_iff, decide_eq_true_eq]
      exact hnone

theorem decideTarget_singleton_source_iff (policy : ReplicationPolicy) (src : PolicySource)
    (tgt : PolicyTarget) :
    ((decideTarget src tgt [policy]).allowed = true ∨
        (decideTarget src tgt [policy]).deniedDimension = some .targetCluster ∨
        (decideTarget src tgt [policy]).deniedDimension = some .targetNamespace) ↔
      policy.MatchesSource src := by
  rw [← matchPolicy_source_iff policy src tgt]
  unfold decideTarget
  simp only [List.isEmpty_cons, Bool.false_eq_true, if_false,
    List.foldl_cons, List.foldl_nil, decideStep]
  cases hmatch : matchPolicy policy src tgt with
  | none => simp
  | some dimension => cases dimension <;> simp [Dimension.rank]

end K8sR8r
