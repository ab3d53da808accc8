import K8sR8r.PolicyEvaluation

/-!
# Effective options and revocations

`internal/policy/options.go`: the options of several permitting policies
combine into one effective set, and two evaluations are compared to find the
targets that lost their permission.
-/

namespace K8sR8r

/-! ## Effective options -/

structure EffectiveOptions where
  allowNamespaceCreation : Bool
  allowedConflictPolicies : List ConflictPolicy
  revocationPolicy : RevocationPolicy
  deriving DecidableEq

def conflictPolicyRank : ConflictPolicy → Nat
  | .fail => 0
  | .adopt => 1
  | .overwrite => 2
  | .other _ => 0

def unionConflictPolicies (known : List ConflictPolicy) (more : List ConflictPolicy) :
    List ConflictPolicy :=
  more.foldl (fun seen cp => if seen.contains cp then seen else seen ++ [cp]) known

def resolveOptionsStep (eff : EffectiveOptions) (policy : ReplicationPolicy) : EffectiveOptions :=
  { allowNamespaceCreation :=
      eff.allowNamespaceCreation || policy.options.allowNamespaceCreation
    allowedConflictPolicies :=
      unionConflictPolicies eff.allowedConflictPolicies policy.options.allowedConflictPolicies
    revocationPolicy :=
      if policy.options.revocationPolicy = some .retain then .retain
      else eff.revocationPolicy }

def resolveOptions (matched : List ReplicationPolicy) : EffectiveOptions :=
  let eff := matched.foldl resolveOptionsStep ⟨false, [.fail], .delete⟩
  { eff with
    allowedConflictPolicies :=
      eff.allowedConflictPolicies.insertionSort
        (fun a b => conflictPolicyRank a ≤ conflictPolicyRank b) }

def ReplicationPolicy.Retains (policy : ReplicationPolicy) : Prop :=
  policy.options.revocationPolicy = some .retain
deriving Decidable

theorem resolveOptionsStep_namespaceCreation (policies : List ReplicationPolicy)
    (eff : EffectiveOptions) :
    (policies.foldl resolveOptionsStep eff).allowNamespaceCreation = true ↔
      eff.allowNamespaceCreation = true ∨ ∃ policy ∈ policies,
          policy.options.allowNamespaceCreation = true := by
  induction policies generalizing eff with
  | nil => simp
  | cons policy rest ih =>
    rw [List.foldl_cons, ih]
    simp [resolveOptionsStep, or_assoc]

theorem resolveOptions_namespaceCreation_iff (policies : List ReplicationPolicy) :
    (resolveOptions policies).allowNamespaceCreation = true ↔
      ∃ policy ∈ policies, policy.options.allowNamespaceCreation = true := by
  simpa [resolveOptions] using
    resolveOptionsStep_namespaceCreation policies ⟨false, [.fail], .delete⟩

theorem resolveOptionsStep_revocationPolicy (policies : List ReplicationPolicy)
    (eff : EffectiveOptions) :
    (policies.foldl resolveOptionsStep eff).revocationPolicy = .retain ↔
      eff.revocationPolicy = .retain ∨ ∃ policy ∈ policies, policy.Retains := by
  induction policies generalizing eff with
  | nil => simp
  | cons policy rest ih =>
    rw [List.foldl_cons, ih]
    by_cases hretain : policy.options.revocationPolicy = some .retain
    · simp [resolveOptionsStep, hretain, ReplicationPolicy.Retains]
    · simp [resolveOptionsStep, hretain, ReplicationPolicy.Retains]

theorem resolveOptions_retain_iff (policies : List ReplicationPolicy) :
    (resolveOptions policies).revocationPolicy = .retain ↔ ∃ policy ∈ policies, policy.Retains := by
  simpa [resolveOptions] using
    resolveOptionsStep_revocationPolicy policies ⟨false, [.fail], .delete⟩

theorem mem_unionConflictPolicies_iff (more known : List ConflictPolicy) (cp : ConflictPolicy) :
    cp ∈ unionConflictPolicies known more ↔ cp ∈ known ∨ cp ∈ more := by
  unfold unionConflictPolicies
  induction more generalizing known with
  | nil => simp
  | cons head rest ih =>
    rw [List.foldl_cons, ih]
    by_cases hseen : head ∈ known
    · have hcontains : known.contains head = true := by simpa using hseen
      rw [if_pos hcontains, List.mem_cons]
      constructor
      · rintro (h | h)
        · exact .inl h
        · exact .inr (.inr h)
      · rintro (h | rfl | h)
        · exact .inl h
        · exact .inl hseen
        · exact .inr h
    · have hcontains : ¬ known.contains head = true := by simpa using hseen
      rw [if_neg hcontains]
      simp [or_assoc]

theorem resolveOptionsStep_conflictPolicies (policies : List ReplicationPolicy)
    (eff : EffectiveOptions) (cp : ConflictPolicy) :
    cp ∈ (policies.foldl resolveOptionsStep eff).allowedConflictPolicies ↔
      cp ∈ eff.allowedConflictPolicies ∨ ∃ policy ∈ policies,
          cp ∈ policy.options.allowedConflictPolicies := by
  induction policies generalizing eff with
  | nil => simp
  | cons policy rest ih =>
    rw [List.foldl_cons, ih]
    simp [resolveOptionsStep, mem_unionConflictPolicies_iff, or_assoc]

theorem mem_allowedConflictPolicies_iff (policies : List ReplicationPolicy) (cp : ConflictPolicy) :
    cp ∈ (resolveOptions policies).allowedConflictPolicies ↔ cp = .fail ∨ ∃ policy ∈ policies,
          cp ∈ policy.options.allowedConflictPolicies := by
  have h :=
    resolveOptionsStep_conflictPolicies policies ⟨false, [.fail], .delete⟩ cp
  simpa [resolveOptions] using h

/-- Policies with one of the given names; unknown names are skipped. -/
def policiesByName (policies : List ReplicationPolicy) (names : List String) :
    List ReplicationPolicy :=
  policies.filter fun policy => names.contains policy.name

@[simp] theorem mem_policiesByName_iff (policies : List ReplicationPolicy) (names : List String)
    (policy : ReplicationPolicy) :
    policy ∈ policiesByName policies names ↔ policy ∈ policies ∧ policy.name ∈ names := by
  simp [policiesByName]

theorem PolicyList.eq_of_name_eq (policies : PolicyList) {first second : ReplicationPolicy}
    (hfirst : first ∈ policies.items) (hsecond : second ∈ policies.items)
    (hname : first.name = second.name) : first = second :=
  List.inj_on_of_nodup_map policies.names_nodup hfirst hsecond hname

/-- With unique names, the matched names lead back to exactly the policies that
permit the target. -/
theorem PolicyList.mem_policiesByName_matched_iff (policies : PolicyList) (src : PolicySource)
    (tgt : PolicyTarget) (policy : ReplicationPolicy) :
    policy ∈ policiesByName policies.items (decideTarget src tgt policies.items).matchedPolicies ↔
      policy ∈ policies.items ∧ policy.Permits src tgt := by
  rw [mem_policiesByName_iff, mem_matchedPolicies_iff]
  constructor
  · rintro ⟨hmem, other, hother, hpermits, hname⟩
    have heq := policies.eq_of_name_eq hother hmem hname
    subst other
    exact ⟨hmem, hpermits⟩
  · rintro ⟨hmem, hpermits⟩
    exact ⟨hmem, policy, hmem, hpermits, rfl⟩

/-! ## Revocations -/

/-- `current` is `none` when the target is absent from the current
evaluation. -/
structure Revocation where
  target : PolicyTarget
  previous : Decision
  current : Option Decision
  deriving DecidableEq

def Decision.isFor (decision : Decision) (cluster ns : String) : Bool :=
  decision.target.clusterName = cluster && decision.target.ns = ns

/-- The map from (cluster, namespace) to decisions keeps the last entry. -/
def currentByKey (current : PolicyResult) (cluster ns : String) : Option Decision :=
  current.decisions.reverse.find? fun decision => decision.isFor cluster ns

def detectRevocation (current : PolicyResult) (prev : Decision) : Option Revocation :=
  if !prev.allowed then none
  else
    match currentByKey current prev.target.clusterName prev.target.ns with
    | none => some ⟨prev.target, prev, none⟩
    | some cur =>
      if cur.allowed then none else some ⟨prev.target, prev, some cur⟩

def detectRevocations (previous current : PolicyResult) : List Revocation :=
  previous.decisions.filterMap (detectRevocation current)

theorem currentByKey_some {current : PolicyResult} {cluster ns : String} {decision : Decision}
    (hfind : currentByKey current cluster ns = some decision) :
    decision ∈ current.decisions ∧
      decision.target.clusterName = cluster ∧ decision.target.ns = ns := by
  unfold currentByKey at hfind
  have hmem := List.mem_of_find?_eq_some hfind
  have hkey := List.find?_some hfind
  simp only [Decision.isFor, Bool.and_eq_true, decide_eq_true_eq] at hkey
  exact ⟨List.mem_reverse.mp hmem, hkey⟩

theorem currentByKey_isSome {current : PolicyResult} {decision : Decision}
    (hmem : decision ∈ current.decisions) :
    ∃ found, currentByKey current decision.target.clusterName decision.target.ns = some found := by
  unfold currentByKey
  rw [← Option.isSome_iff_exists, List.find?_isSome]
  exact ⟨decision, List.mem_reverse.mpr hmem, by simp [Decision.isFor]⟩

/-- What a detected revocation says about the two evaluations. -/
theorem mem_detectRevocations_iff (previous current : PolicyResult) (rev : Revocation) :
    rev ∈ detectRevocations previous current ↔
      rev.previous ∈ previous.decisions ∧ rev.previous.allowed = true ∧
        rev.target = rev.previous.target ∧
        rev.current = currentByKey current rev.target.clusterName rev.target.ns ∧
        ∀ cur, rev.current = some cur → cur.allowed = false := by
  unfold detectRevocations
  rw [List.mem_filterMap]
  constructor
  · rintro ⟨prev, hmem, hrev⟩
    unfold detectRevocation at hrev
    cases hallowed : prev.allowed with
    | false => simp [hallowed] at hrev
    | true =>
      simp only [hallowed, Bool.not_true, Bool.false_eq_true, if_false] at hrev
      cases hcur : currentByKey current prev.target.clusterName prev.target.ns with
      | none =>
        simp only [hcur, Option.some.injEq] at hrev
        subst rev
        exact ⟨hmem, hallowed, rfl, hcur.symm, by simp⟩
      | some cur =>
        simp only [hcur] at hrev
        cases hnow : cur.allowed with
        | true => simp [hnow] at hrev
        | false =>
          simp only [hnow, Bool.false_eq_true, if_false, Option.some.injEq] at hrev
          subst rev
          refine ⟨hmem, hallowed, rfl, hcur.symm, ?_⟩
          intro other hother
          simp only [Option.some.injEq] at hother
          subst other
          exact hnow
  · rintro ⟨hmem, hallowed, htarget, hcurrent, hdenied⟩
    refine ⟨rev.previous, hmem, ?_⟩
    obtain ⟨target, prev, cur⟩ := rev
    simp only at htarget hcurrent hdenied hallowed
    subst htarget
    unfold detectRevocation
    simp only [hallowed, Bool.not_true, Bool.false_eq_true, if_false]
    cases hcur : currentByKey current prev.target.clusterName prev.target.ns with
    | none => simp [hcurrent, hcur]
    | some found =>
      have hnow := hdenied found (by rw [hcurrent, hcur])
      simp [hcurrent, hcur, hnow]

end K8sR8r
