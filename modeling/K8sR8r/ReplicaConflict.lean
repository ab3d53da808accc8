import K8sR8r.AnnotationContract
import K8sR8r.ReplicaRendering

/-!
# Conflicts and ownership

`internal/engine/conflict.go` and the ownership classification of
`internal/engine/drift.go`: what the engine does with an object it finds at a
replica's intended name.

Two predicates look at the same two labels.  `isManagedReplica` wants both and
guards the conflict decision; `classifyReplicaOwnership` also names the case
where only the source UID is left.
-/

namespace K8sR8r

/-! ## Ownership -/

inductive ReplicaOwnership where
  | foreign
  | managed
  | stripped
  deriving DecidableEq

/-- An empty source UID never matches an object without the label. -/
def classifyReplicaOwnership (labels : StringMap) (sourceUID : String) : ReplicaOwnership :=
  if sourceUID = "" || StringMap.get labels labelSourceUID ≠ sourceUID then
    .foreign
  else if StringMap.get labels labelManagedBy = managedByValue then .managed
  else .stripped

variable {sourceUID : String} {labels : StringMap} {allowed : List ConflictPolicy}

theorem classifyReplicaOwnership_foreign_iff (labels : StringMap) (hUID : sourceUID ≠ "") :
    classifyReplicaOwnership labels sourceUID = .foreign ↔
      StringMap.get labels labelSourceUID ≠ sourceUID := by
  unfold classifyReplicaOwnership
  by_cases hlabel : StringMap.get labels labelSourceUID = sourceUID
  · by_cases hmanaged : StringMap.get labels labelManagedBy = managedByValue
    · simp [hUID, hlabel, hmanaged]
    · simp [hUID, hlabel, hmanaged]
  · simp [hlabel]

theorem sourceUID_of_ownership (hown : classifyReplicaOwnership labels sourceUID ≠ .foreign) :
    StringMap.get labels labelSourceUID = sourceUID := by
  by_contra hlabel
  apply hown
  simp [classifyReplicaOwnership, hlabel]

theorem sourceUID_ne_of_not_managed (hUID : sourceUID ≠ "")
    (hstripped : classifyReplicaOwnership labels sourceUID ≠ .stripped)
    (hmanaged : isManagedReplica labels sourceUID = false) :
    StringMap.get labels labelSourceUID ≠ sourceUID := by
  intro hlabel
  apply hstripped
  have hother : StringMap.get labels labelManagedBy ≠ managedByValue := by
    intro hvalue
    simp [isManagedReplica, hvalue, hlabel] at hmanaged
  simp [classifyReplicaOwnership, hUID, hlabel, hother]

theorem not_stripped_of_managed {uid : String} (hmanaged : isManagedReplica labels uid = true) :
    classifyReplicaOwnership labels uid ≠ .stripped := by
  simp only [isManagedReplica, Bool.and_eq_true, decide_eq_true_eq] at hmanaged
  unfold classifyReplicaOwnership
  rw [if_pos hmanaged.1]
  split_ifs <;> simp

/-! ## The two-key rule -/

def conflictPolicyStrength : ConflictPolicy → Nat
  | .overwrite => 2
  | .adopt => 1
  | .fail => 0
  | .other _ => 0

def normalizeConflictPolicy : ConflictPolicy → ConflictPolicy
  | .overwrite => .overwrite
  | .adopt => .adopt
  | _ => .fail

/-- The strongest member of the allowed list, the first one on a tie. -/
def conflictGrant (allowed : List ConflictPolicy) : ConflictPolicy :=
  allowed.foldl (fun grant cp =>
      if conflictPolicyStrength grant < conflictPolicyStrength cp then cp
      else grant) .fail

def effectiveConflictPolicy (requested : ConflictPolicy) (allowed : List ConflictPolicy) :
    ConflictPolicy :=
  let grant := conflictGrant allowed
  if conflictPolicyStrength requested < conflictPolicyStrength grant then
    normalizeConflictPolicy requested
  else grant

theorem strength_normalizeConflictPolicy (cp : ConflictPolicy) :
    conflictPolicyStrength (normalizeConflictPolicy cp) = conflictPolicyStrength cp := by
  cases cp <;> rfl

private theorem strength_grantFold (allowed : List ConflictPolicy) (grant : ConflictPolicy) :
    conflictPolicyStrength (allowed.foldl (fun grant cp =>
          if conflictPolicyStrength grant < conflictPolicyStrength cp then cp
          else grant) grant) =
      (allowed.map conflictPolicyStrength).foldl max (conflictPolicyStrength grant) := by
  induction allowed generalizing grant with
  | nil => rfl
  | cons cp rest ih =>
    rw [List.foldl_cons, ih, List.map_cons, List.foldl_cons]
    congr 1
    split_ifs with hlt <;> omega

theorem strength_conflictGrant (allowed : List ConflictPolicy) :
    conflictPolicyStrength (conflictGrant allowed) =
      (allowed.map conflictPolicyStrength).foldl max 0 :=
  strength_grantFold allowed .fail

theorem strength_effectiveConflictPolicy (requested : ConflictPolicy)
    (allowed : List ConflictPolicy) :
    conflictPolicyStrength (effectiveConflictPolicy requested allowed) =
      min (conflictPolicyStrength requested) (conflictPolicyStrength (conflictGrant allowed)) := by
  unfold effectiveConflictPolicy
  dsimp only
  split_ifs with hlt
  · rw [strength_normalizeConflictPolicy]
    omega
  · omega

/-! ## The decision -/

inductive ConflictAction where
  | apply
  | fail
  | adopt
  | overwrite
  deriving DecidableEq

structure ConflictDecision where
  action : ConflictAction
  message : String
  deriving DecidableEq

def explainConflictKeys (requested : ConflictPolicy) (allowed : List ConflictPolicy) : String :=
  let grant := conflictGrant allowed
  let requestedAsked := 0 < conflictPolicyStrength requested
  let granted := 0 < conflictPolicyStrength grant
  if ¬ requestedAsked ∧ ¬ granted then
    "the request does not set " ++ keyConflictPolicy ++
      " and no matching ReplicationPolicy permits more than Fail"
  else if ¬ requestedAsked then
    "policy permits up to " ++ grant.text ++
      ", but the request does not set " ++ keyConflictPolicy ++
      " (absent means " ++ defaultConflictPolicy.text ++ ")"
  else if ¬ granted then
    "the request asks for " ++ requested.text ++
      ", but no matching ReplicationPolicy permits more than Fail"
  else
    "the request asks for " ++ requested.text ++ " and policy permits up to " ++ grant.text

def decideConflict (renderer : Renderer) (existing src : Unstructured) (hash : String)
    (allowed : List ConflictPolicy) : ConflictDecision :=
  if isManagedReplica existing.labels src.uid then ⟨.apply, ""⟩
  else if StringMap.get existing.labels labelManagedBy = managedByValue then
    ⟨.fail, "existing object is managed by k8s-r8r for a different source " ++
      "(source-uid " ++
      quoted (StringMap.get existing.labels labelSourceUID) ++
      "); refusing to take it over"⟩
  else
    let requested := requestedConflictPolicy src.annotations
    match effectiveConflictPolicy requested allowed with
    | .overwrite =>
      ⟨.overwrite, "taking over unmanaged object (conflict policy Overwrite)"⟩
    | .adopt =>
      let existingHash := renderer.sourceHash existing
      if existingHash = hash then
        ⟨.adopt, "adopting unmanaged object with identical content hash"⟩
      else
        ⟨.fail, "unmanaged object exists and its content hash " ++
          existingHash ++ " does not equal the source hash " ++ hash ++
          " (Adopt requires identical content)"⟩
    | _ =>
      ⟨.fail, "unmanaged object already exists at the replica's name " ++
        "(effective conflict policy Fail): " ++
        explainConflictKeys requested allowed⟩

/-- Both keys have turned for an object that the engine does not own: nobody's
managed replica, and the effective policy reaches it. -/
def MayTakeOver (renderer : Renderer) (existing src : Unstructured) (hash : String)
    (allowed : List ConflictPolicy) : Prop :=
  StringMap.get existing.labels labelManagedBy ≠ managedByValue ∧
    (effectiveConflictPolicy (requestedConflictPolicy src.annotations) allowed = .overwrite ∨
      effectiveConflictPolicy (requestedConflictPolicy src.annotations) allowed = .adopt ∧
        renderer.sourceHash existing = hash)

/-- Every action other than `fail` is on an own replica or needs both keys. -/
theorem decideConflict_touches {renderer : Renderer} {existing src : Unstructured} {hash : String}
    (haction : (decideConflict renderer existing src hash allowed).action ≠ .fail) :
    StringMap.get existing.labels labelSourceUID = src.uid ∨
      MayTakeOver renderer existing src hash allowed := by
  unfold decideConflict at haction
  by_cases hown : isManagedReplica existing.labels src.uid = true
  · left
    simp only [isManagedReplica, Bool.and_eq_true, decide_eq_true_eq] at hown
    exact hown.2
  · right
    by_cases hmanaged : StringMap.get existing.labels labelManagedBy = managedByValue
    · simp [hown, hmanaged] at haction
    · refine ⟨hmanaged, ?_⟩
      simp only [hown, hmanaged, Bool.false_eq_true, if_false] at haction
      cases heff : effectiveConflictPolicy (requestedConflictPolicy src.annotations) allowed with
      | overwrite => exact .inl rfl
      | adopt =>
        right
        refine ⟨rfl, ?_⟩
        by_contra hhash
        simp [heff, hhash] at haction
      | fail => simp [heff] at haction
      | other text => simp [heff] at haction

theorem not_managed_of_decideConflict_fail {renderer : Renderer} {existing src : Unstructured}
    {hash : String} (haction : (decideConflict renderer existing src hash allowed).action = .fail) :
    isManagedReplica existing.labels src.uid = false := by
  by_contra hown
  rw [Bool.not_eq_false] at hown
  simp [decideConflict, hown] at haction

end K8sR8r
