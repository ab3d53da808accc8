import Mathlib.Order.CompletePartialOrder
import K8sR8r.ForeignObjects

/-!
# Effective options as a join

What a set of policies permits together is the join of what each one permits:
namespace creation and conflict policies are granted by any of them, and any of
them can ask to retain replicas.  `ResolveOptions` computes that join and lists
the conflict policies in a canonical order, so it is a function of the set of
policies.  The two-key rule is then a meet with what the request asks for.
-/

namespace K8sR8r

/-! ## Permissions -/

/-- Namespace creation, conflict policies and retention, each ordered by what
it adds. -/
abbrev Permissions := Bool × Finset ConflictPolicy × Bool

def ReplicationPolicy.permissions (policy : ReplicationPolicy) : Permissions :=
  (policy.options.allowNamespaceCreation, policy.options.allowedConflictPolicies.toFinset,
    decide policy.Retains)

def EffectiveOptions.permissions (eff : EffectiveOptions) : Permissions :=
  (eff.allowNamespaceCreation, eff.allowedConflictPolicies.toFinset,
    decide (eff.revocationPolicy = .retain))

/-- What is permitted when no policy says anything. -/
def defaultPermissions : Permissions := (false, {.fail}, false)

theorem toFinset_unionConflictPolicies (known more : List ConflictPolicy) :
    (unionConflictPolicies known more).toFinset = known.toFinset ∪ more.toFinset := by
  ext cp
  simp [mem_unionConflictPolicies_iff]

theorem permissions_resolveOptionsStep (eff : EffectiveOptions) (policy : ReplicationPolicy) :
    (resolveOptionsStep eff policy).permissions = eff.permissions ⊔ policy.permissions := by
  have hretain : decide ((resolveOptionsStep eff policy).revocationPolicy = .retain) =
        (decide (eff.revocationPolicy = .retain) || decide policy.Retains) := by
    by_cases hpolicy : policy.Retains
    · have hsome : policy.options.revocationPolicy = some .retain := hpolicy
      simp [resolveOptionsStep, hpolicy, hsome]
    · have hsome : policy.options.revocationPolicy ≠ some .retain := hpolicy
      simp [resolveOptionsStep, hpolicy, hsome]
  apply Prod.ext
  · rfl
  · apply Prod.ext
    · exact toFinset_unionConflictPolicies _ _
    · exact hretain

theorem permissions_foldl (policies : List ReplicationPolicy) (eff : EffectiveOptions) :
    (policies.foldl resolveOptionsStep eff).permissions = eff.permissions ⊔
        policies.toFinset.sup ReplicationPolicy.permissions := by
  induction policies generalizing eff with
  | nil => simp
  | cons policy rest ih =>
    rw [List.foldl_cons, ih, permissions_resolveOptionsStep,
      List.toFinset_cons, Finset.sup_insert, sup_assoc]

theorem permissions_resolveOptions (policies : List ReplicationPolicy) :
    (resolveOptions policies).permissions =
      defaultPermissions ⊔ policies.toFinset.sup ReplicationPolicy.permissions := by
  have hsorted : (resolveOptions policies).permissions = (policies.foldl resolveOptionsStep
        ⟨false, [.fail], .delete⟩).permissions := by
    apply Prod.ext
    · rfl
    · apply Prod.ext
      · exact List.toFinset_eq_of_perm _ _ (List.perm_insertionSort _ _)
      · rfl
  rw [hsorted, permissions_foldl]
  rfl

section

variable {policies : List ReplicationPolicy}

theorem permissions_mono {more : List ReplicationPolicy} (hsub : policies ⊆ more) :
    (resolveOptions policies).permissions ≤ (resolveOptions more).permissions := by
  rw [permissions_resolveOptions, permissions_resolveOptions]
  exact sup_le_sup_left (Finset.sup_mono fun policy hmem =>
    List.mem_toFinset.mpr (hsub (List.mem_toFinset.mp hmem))) _

/-! ## The canonical list -/

/-- The values the API server accepts for a conflict policy, weakest first. -/
def conflictPolicyOrder : List ConflictPolicy := [.fail, .adopt, .overwrite]

def ReplicationPolicy.FromEnums (policy : ReplicationPolicy) : Prop :=
  ∀ cp ∈ policy.options.allowedConflictPolicies, cp ∈ conflictPolicyOrder
deriving Decidable

instance : Std.Total fun a b =>
    conflictPolicyRank a ≤ conflictPolicyRank b :=
  ⟨fun a b => Nat.le_total (conflictPolicyRank a) (conflictPolicyRank b)⟩

instance : IsTrans ConflictPolicy fun a b =>
    conflictPolicyRank a ≤ conflictPolicyRank b :=
  ⟨fun _ _ _ => Nat.le_trans⟩

theorem conflictPolicyRank_inj {first second : ConflictPolicy}
    (hfirst : first ∈ conflictPolicyOrder) (hsecond : second ∈ conflictPolicyOrder)
    (hrank : conflictPolicyRank first = conflictPolicyRank second) :
    first = second := by
  simp only [conflictPolicyOrder, List.mem_cons, List.not_mem_nil, or_false] at hfirst hsecond
  rcases hfirst with rfl | rfl | rfl <;>
    rcases hsecond with rfl | rfl | rfl <;>
    simp_all [conflictPolicyRank]

theorem nodup_unionConflictPolicies (more known : List ConflictPolicy) (hknown : known.Nodup) :
    (unionConflictPolicies known more).Nodup := by
  unfold unionConflictPolicies
  induction more generalizing known with
  | nil => exact hknown
  | cons head rest ih =>
    rw [List.foldl_cons]
    apply ih
    by_cases hseen : known.contains head = true
    · rwa [if_pos hseen]
    · rw [if_neg hseen]
      apply hknown.append (List.nodup_singleton head)
      simpa using hseen

theorem nodup_foldl_conflictPolicies (policies : List ReplicationPolicy) (eff : EffectiveOptions)
    (hnodup : eff.allowedConflictPolicies.Nodup) :
    (policies.foldl resolveOptionsStep eff).allowedConflictPolicies.Nodup := by
  induction policies generalizing eff with
  | nil => exact hnodup
  | cons policy rest ih =>
    rw [List.foldl_cons]
    exact ih _ (nodup_unionConflictPolicies _ _ hnodup)

theorem nodup_allowedConflictPolicies (policies : List ReplicationPolicy) :
    (resolveOptions policies).allowedConflictPolicies.Nodup :=
  (List.perm_insertionSort _ _).nodup_iff.mpr
    (nodup_foldl_conflictPolicies _ _ (List.nodup_singleton _))

theorem allowedConflictPolicies_fromEnums (henum : ∀ policy ∈ policies, policy.FromEnums)
    {cp : ConflictPolicy} (hmem : cp ∈ (resolveOptions policies).allowedConflictPolicies) :
    cp ∈ conflictPolicyOrder := by
  rcases (mem_allowedConflictPolicies_iff policies cp).mp hmem with
    rfl | ⟨policy, hpolicy, hallowed⟩
  · simp [conflictPolicyOrder]
  · exact henum policy hpolicy cp hallowed

/-- The list is the canonical order with the missing values left out. -/
theorem allowedConflictPolicies_eq_filter (henum : ∀ policy ∈ policies, policy.FromEnums) :
    (resolveOptions policies).allowedConflictPolicies = conflictPolicyOrder.filter fun cp =>
        cp ∈ (resolveOptions policies).allowedConflictPolicies := by
  have hperm : (resolveOptions policies).allowedConflictPolicies.Perm
      (conflictPolicyOrder.filter fun cp =>
        cp ∈ (resolveOptions policies).allowedConflictPolicies) := by
    apply (List.perm_ext_iff_of_nodup (nodup_allowedConflictPolicies policies)
      ((by decide : conflictPolicyOrder.Nodup).filter _)).mpr
    intro cp
    simp only [List.mem_filter, decide_eq_true_eq]
    exact ⟨fun hmem => ⟨allowedConflictPolicies_fromEnums henum hmem, hmem⟩, And.right⟩
  have hsorted : (conflictPolicyOrder.filter fun cp => decide
      (cp ∈ (resolveOptions policies).allowedConflictPolicies)).Pairwise
        fun a b => conflictPolicyRank a ≤ conflictPolicyRank b :=
    (by decide : conflictPolicyOrder.Pairwise fun a b =>
      conflictPolicyRank a ≤ conflictPolicyRank b).filter _
  -- Both sides are sorted by a rank that tells enum values apart.
  refine hperm.eq_of_pairwise ?_ (List.pairwise_insertionSort _ _) hsorted
  intro first second hfirst hsecond hle hge
  exact conflictPolicyRank_inj (allowedConflictPolicies_fromEnums henum hfirst)
    (List.mem_filter.mp hsecond).1 (le_antisymm hle hge)

/-- With enum values the permissions determine the result. -/
theorem resolveOptions_eq_of_permissions {others : List ReplicationPolicy}
    (henum : ∀ policy ∈ policies, policy.FromEnums) (henum' : ∀ policy ∈ others, policy.FromEnums)
    (hsame : (resolveOptions others).permissions = (resolveOptions policies).permissions) :
    resolveOptions others = resolveOptions policies := by
  have hcreation : (resolveOptions others).allowNamespaceCreation =
      (resolveOptions policies).allowNamespaceCreation :=
    congrArg Prod.fst hsame
  have hset : (resolveOptions others).allowedConflictPolicies.toFinset =
      (resolveOptions policies).allowedConflictPolicies.toFinset :=
    congrArg (fun permissions => permissions.2.1) hsame
  have hretain : decide ((resolveOptions others).revocationPolicy = .retain) =
        decide ((resolveOptions policies).revocationPolicy = .retain) :=
    congrArg (fun permissions => permissions.2.2) hsame
  have hallowed : (resolveOptions others).allowedConflictPolicies =
      (resolveOptions policies).allowedConflictPolicies := by
    rw [allowedConflictPolicies_eq_filter henum, allowedConflictPolicies_eq_filter henum']
    apply List.filter_congr
    intro cp _
    have hmem := Finset.ext_iff.mp hset cp
    simpa using hmem
  have hrevocation : (resolveOptions others).revocationPolicy =
      (resolveOptions policies).revocationPolicy := by
    rw [decide_eq_decide] at hretain
    cases hfirst : (resolveOptions others).revocationPolicy <;>
      cases hsecond : (resolveOptions policies).revocationPolicy <;>
      simp_all
  cases hothers : resolveOptions others
  cases hpolicies : resolveOptions policies
  simp_all

/-! ## Adding policies and the two keys -/

/-- Nothing that was granted is taken back, and replicas that were retained
still are. -/
structure EffectiveOptions.GrantsAtLeast
    (more eff : EffectiveOptions) : Prop where
  creation : eff.allowNamespaceCreation = true →
    more.allowNamespaceCreation = true
  conflictPolicies : ∀ cp ∈ eff.allowedConflictPolicies,
    cp ∈ more.allowedConflictPolicies
  revocation : eff.revocationPolicy ≠ more.revocationPolicy →
    eff.revocationPolicy = .delete ∧ more.revocationPolicy = .retain

theorem EffectiveOptions.grantsAtLeast_of_permissions {more eff : EffectiveOptions}
    (hle : eff.permissions ≤ more.permissions) :
    more.GrantsAtLeast eff := by
  obtain ⟨hcreation, hallowed, hretain⟩ := hle
  constructor
  · exact Bool.le_iff_imp.mp hcreation
  · intro cp hmem
    exact List.mem_toFinset.mp (hallowed (List.mem_toFinset.mpr hmem))
  · intro hne
    have hkept : eff.revocationPolicy = .retain → more.revocationPolicy = .retain := by
      simpa [EffectiveOptions.permissions, Bool.le_iff_imp] using hretain
    cases hfirst : eff.revocationPolicy <;>
      cases hsecond : more.revocationPolicy <;> simp_all

theorem effectiveConflictPolicy_unknown (text : String) (allowed : List ConflictPolicy) :
    effectiveConflictPolicy (.other text) allowed = effectiveConflictPolicy .fail allowed := rfl

/-- Effective options are a function of the set of policies that grows with it,
and the effective conflict policy is the meet of the request and the strongest
grant. -/
theorem effective_options_semilattice (policies : List ReplicationPolicy)
    (henum : ∀ policy ∈ policies, policy.FromEnums) :
    (∀ others : List ReplicationPolicy,
      (∀ policy, policy ∈ others ↔ policy ∈ policies) →
      resolveOptions others = resolveOptions policies) ∧
    (resolveOptions policies).allowedConflictPolicies.Sublist conflictPolicyOrder ∧
    (resolveOptions policies).allowedConflictPolicies.Nodup ∧
    .fail ∈ (resolveOptions policies).allowedConflictPolicies ∧
    (∀ more : List ReplicationPolicy,
      policies ⊆ more → (resolveOptions more).GrantsAtLeast (resolveOptions policies)) ∧
    (∀ requested,
      conflictPolicyStrength
        (effectiveConflictPolicy requested (resolveOptions policies).allowedConflictPolicies) =
        min (conflictPolicyStrength requested) (strongestGrant policies)) ∧
    ∀ text,
      effectiveConflictPolicy (.other text) (resolveOptions policies).allowedConflictPolicies =
        effectiveConflictPolicy .fail (resolveOptions policies).allowedConflictPolicies := by
  refine ⟨?_, ?_, nodup_allowedConflictPolicies policies, ?_, ?_, ?_, ?_⟩
  · intro others hsame
    apply resolveOptions_eq_of_permissions henum
    · intro policy hmem
      exact henum policy ((hsame policy).mp hmem)
    · have hset : others.toFinset = policies.toFinset := by
        ext policy
        simpa using hsame policy
      rw [permissions_resolveOptions, permissions_resolveOptions, hset]
  · rw [allowedConflictPolicies_eq_filter henum]
    exact List.filter_sublist
  · exact (mem_allowedConflictPolicies_iff policies .fail).mpr (.inl rfl)
  · intro more hsub
    exact EffectiveOptions.grantsAtLeast_of_permissions (permissions_mono hsub)
  · intro requested
    rw [strength_effectiveConflictPolicy, strength_resolveOptions]
  · intro text
    exact effectiveConflictPolicy_unknown text _

end

namespace Sample

def grantingPolicy (name : String) (allowed : List ConflictPolicy)
    (revocation : Option RevocationPolicy) : ReplicationPolicy where
  name := name
  sources := ⟨["team"], none, ["ConfigMap"]⟩
  targets := ⟨⟨∅, []⟩, ["app"]⟩
  options := ⟨false, allowed, revocation⟩

def grantingPolicies : List ReplicationPolicy :=
  [grantingPolicy "first" [.overwrite, .fail] none, grantingPolicy "second" [.adopt] (some .retain)]

end Sample

theorem effective_options_semilattice_sample :
    (∀ policy ∈ Sample.grantingPolicies, policy.FromEnums) ∧
    resolveOptions Sample.grantingPolicies.reverse = resolveOptions Sample.grantingPolicies ∧
    conflictPolicyStrength
      (effectiveConflictPolicy .adopt
        (resolveOptions Sample.grantingPolicies).allowedConflictPolicies) =
      min 1 2 := by
  have henum : ∀ policy ∈ Sample.grantingPolicies, policy.FromEnums := by
    decide
  obtain ⟨hset, _, _, _, _, hmeet, _⟩ :=
    effective_options_semilattice Sample.grantingPolicies henum
  exact ⟨henum, hset _ fun policy => List.mem_reverse, hmeet .adopt⟩

end K8sR8r
