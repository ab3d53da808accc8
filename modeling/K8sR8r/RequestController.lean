import K8sR8r.EngineInterface

/-!
# The request and authority controllers

`internal/controller/request`: the source controller turns an annotated source
into one operator-owned Replication and tears it down again, and the authority
controller marks Replications nobody owns.  Both are programs over their own
calls; the hub requests are the same as the engine's.
-/

namespace K8sR8r

open Interaction

/-- `request.Finalizer`, kept on the source while its Replication exists. -/
def sourceFinalizer : String := "r8r.io/finalizer"

def sourceKindLabel : String := "r8r.io/source-kind"
def sourceNameLabel : String := "r8r.io/source-name"
def conditionNotAuthoritative : String := "NotAuthoritative"

inductive RequestEvent where
  | kindNotEnabled (kind enabledKinds : String)
  | invalidAnnotations (message : String)
  | policyDenied (message : String)
  | nameConflict (name kind : String)
  deriving DecidableEq

inductive RequestCall where
  | hub (call : HubCall)
  | listClusters
  | now
  | emit (event : RequestEvent)

@[reducible] def RequestCall.Reply : RequestCall → Type
  | .hub call => call.Reply
  | .listClusters => List ClusterRecord
  | .now => Nat
  | .emit _ => Unit

abbrev RequestProgram := Program RequestCall.Reply

def requestHub (call : HubCall) : RequestProgram call.Reply :=
  Program.perform (RequestCall.hub call)

@[simp] theorem requestHub_bind {α : Type} (call : HubCall) (next : call.Reply → RequestProgram α) :
    requestHub call >>= next = .call (RequestCall.hub call) next := rfl

/-- One watched source kind.  `digest` is the hexadecimal SHA-256 of a text. -/
structure RequestConfig where
  gvk : GroupVersionKind
  enabled : Bool
  enabledKinds : String
  library : ParserLibrary
  digest : String → String

/-! ## Names and ownership -/

def toLower (text : String) : String :=
  String.ofList (text.toList.map Char.toLower)

/-- `strings.TrimRight`. -/
def trimRight (text : List Char) (cut : List Char) : List Char :=
  (text.reverse.dropWhile cut.contains).reverse

def RequestConfig.hash8 (config : RequestConfig) (text : String) : String :=
  String.ofList ((config.digest text).toList.take 8)

def replicationName (config : RequestConfig) (sourceName : String) : String :=
  let kind := config.gvk.kind
  let base := (toLower kind ++ "-" ++ sourceName).toList
  let kept := if 244 < base.length then
      trimRight (base.take 244) ['-', '.'] else base
  String.ofList kept ++ "-" ++ config.hash8 (kind ++ "/" ++ sourceName)

def labelSafeValue (config : RequestConfig) (name : String) : String :=
  if name.toList.length ≤ 63 then name
  else
    String.ofList (trimRight (name.toList.take 54) ['-', '.', '_']) ++ "-" ++ config.hash8 name

/-- The group of an API version; `none` when it has more than one slash. -/
def parseGroup (apiVersion : String) : Option String :=
  match apiVersion.toList.splitOn '/' with
  | [_] => some ""
  | [group, _] => some (String.ofList group)
  | _ => none

def apiVersionOf (gvk : GroupVersionKind) : String :=
  if gvk.group = "" then gvk.version else gvk.group ++ "/" ++ gvk.version

/-- The controller owner reference names the source by group, kind and name;
its UID is not compared. -/
def ownedBySource (config : RequestConfig) (rep : Replication) (sourceName : String) :
    Bool :=
  match rep.getControllerOf with
  | none => false
  | some ref =>
    parseGroup ref.apiVersion = some config.gvk.group &&
      ref.kind = config.gvk.kind && ref.name = sourceName

def replicationKey (config : RequestConfig) (obj : PartialObjectMetadata) : NamespacedName :=
  ⟨obj.ns, replicationName config obj.name⟩

def desiredReplication (config : RequestConfig) (obj : PartialObjectMetadata)
    (resolved : List ResolvedTarget) : Replication :=
  { ns := obj.ns
    name := replicationName config obj.name
    uid := ""
    resourceVersion := 0
    generation := 0
    labels := (((∅ : StringMap).insert labelManagedBy managedByValue).insert
      sourceKindLabel (toLower config.gvk.kind)).insert
      sourceNameLabel (labelSafeValue config obj.name)
    ownerReferences :=
      [⟨apiVersionOf config.gvk, config.gvk.kind, obj.name, obj.uid, true⟩]
    finalizers := []
    deletionTimestamp := none
    spec :=
      { sourceRef := ⟨config.gvk.kind, obj.ns, obj.name, obj.uid⟩
        origin := .annotated
        resolvedTargets := resolved }
    status := .empty }

def specEqual (existing desired : Replication) : Bool :=
  existing.spec = desired.spec && existing.labels = desired.labels &&
    existing.ownerReferences = desired.ownerReferences

/-! ## Resolving targets -/

/-- The allowed namespaces are grouped by cluster in order of appearance. -/
def addResolved (targetName : String) (resolved : List ResolvedTarget) (dec : Decision) :
    List ResolvedTarget :=
  let cluster := dec.target.clusterName
  if resolved.any fun tgt => tgt.clusterName = cluster then
    resolved.map fun tgt =>
      if tgt.clusterName = cluster then
        { tgt with namespaces := tgt.namespaces ++ [dec.target.ns] }
      else tgt
  else resolved ++ [⟨cluster, [dec.target.ns], targetName⟩]

/-- Ready clusters that match the selector, crossed with the namespaces. -/
def candidateTargets (parsed : AnnotationRequest) (sourceNamespace : String)
    (clusters : List ClusterRecord) : List PolicyTarget :=
  ((clusters.insertionSort fun a b => a.name ≤ b.name).filter fun cluster =>
      cluster.ready && parsed.clusterSelector.matches cluster.labels).flatMap
    fun cluster =>
      (parsed.effectiveNamespaces sourceNamespace).map fun ns =>
        ⟨cluster.name, cluster.labels, ns⟩

/-- Best effort: a failed read sees no labels. -/
def requestLabels (ns : String) : RequestProgram StringMap := do
  match ← requestHub (.getNamespaceLabels ns) with
  | .ok labels => pure labels
  | .error _ => pure ∅

def resolveTargets (config : RequestConfig) (obj : PartialObjectMetadata)
    (parsed : AnnotationRequest) :
    RequestProgram (ApiResult (List ResolvedTarget × List Decision)) := do
  let clusters : List ClusterRecord ← Program.perform RequestCall.listClusters
  let targets := candidateTargets parsed obj.ns clusters
  if targets.isEmpty then pure (.ok ([], []))
  else do
    let labels ← requestLabels obj.ns
    let listed : ApiResult PolicyList ← requestHub .listPolicies
    pure (listed.map fun policies =>
      let result := evaluate ⟨⟨config.gvk.kind, obj.ns, labels⟩, targets⟩ policies.items
      ((result.decisions.filter Decision.allowed).foldl (addResolved parsed.targetName) [],
        result.decisions.filter fun dec => !dec.allowed))

/-! ## The source controller -/

def moreDenied (message : String) (denied : List Decision) : String :=
  if 1 < denied.length then
    message ++ " (and " ++ toString (denied.length - 1) ++ " more denied targets)"
  else message

def resolutionCondition (rep : Replication) (resolved : List ResolvedTarget)
    (denied : List Decision) : Condition :=
  let verdict : ConditionStatus × String × String :=
    if !resolved.isEmpty then
      let message := toString resolved.length ++ " target cluster(s) resolved"
      (.conditionTrue, reasonTargetsResolved,
        if denied.isEmpty then message
        else message ++ ", " ++ toString denied.length ++ " target(s) denied by policy")
    else
      match denied with
      | first :: _ =>
        (.conditionFalse, reasonPolicyDenied, moreDenied first.reason denied)
      | [] =>
        (.conditionFalse, reasonNoTargets, "no ready cluster matched the target-clusters selector")
  { type := replicationConditionTargetsResolved
    status := verdict.1
    observedGeneration := rep.generation
    lastTransitionTime := 0
    reason := verdict.2.1
    message := verdict.2.2 }

/-- Status is written only when the condition changed. -/
def reportTargetResolution (key : NamespacedName) (resolved : List ResolvedTarget)
    (denied : List Decision) : RequestProgram (ApiResult Unit) := do
  match ← requestHub (.getReplication key) with
  | .error err => pure (if err.isNotFound then .ok () else .error err)
  | .ok rep => do
    let now : Nat ← Program.perform RequestCall.now
    let conditions := setStatusCondition now rep.status.conditions
      (resolutionCondition rep resolved denied)
    if conditions = rep.status.conditions then pure (.ok ())
    else
      match ← requestHub (.updateReplicationStatus
          { rep with
            status := { rep.status with conditions := conditions } }) with
      | .ok _ => pure (.ok ())
      | .error err => pure (.error err)

/-- Add or keep the finalizer on the source. -/
def holdSource (obj : PartialObjectMetadata) : RequestProgram (ApiResult PartialObjectMetadata) :=
  if obj.finalizers.contains sourceFinalizer then pure (.ok obj)
  else
    requestHub (.patchSourceFinalizers
      { obj with finalizers := addFinalizer obj.finalizers sourceFinalizer })

/-- Create the Replication or bring the owned one up to date; `true` when it
is in place. -/
def writeReplication (config : RequestConfig) (obj : PartialObjectMetadata)
    (resolved : List ResolvedTarget) : RequestProgram (ApiResult Bool) := do
  let key := replicationKey config obj
  let desired := desiredReplication config obj resolved
  match ← requestHub (.getReplication key) with
  | .error err =>
    if !err.isNotFound then pure (.error err)
    else
      match ← requestHub (.createReplication desired) with
      | .ok _ => pure (.ok true)
      | .error err =>
        if err.reason = .alreadyExists then do
          Program.perform (RequestCall.emit (.nameConflict key.name config.gvk.kind))
          pure (.ok false)
        else pure (.error err)
  | .ok rep =>
    if !ownedBySource config rep obj.name then do
      Program.perform (RequestCall.emit (.nameConflict key.name config.gvk.kind))
      pure (.ok false)
    else if specEqual rep desired then pure (.ok true)
    else
      match ← requestHub (.updateReplication
          { rep with
            labels := desired.labels
            ownerReferences := desired.ownerReferences
            spec := desired.spec }) with
      | .ok _ => pure (.ok true)
      | .error err => pure (.error err)

def announceDenied (denied : List Decision) : RequestProgram Unit :=
  match denied with
  | [] => pure ()
  | first :: _ =>
    Program.perform (RequestCall.emit (.policyDenied (moreDenied first.reason denied)))

/-- Write the Replication and report on it, unless its name is taken. -/
def placeReplication (config : RequestConfig) (obj : PartialObjectMetadata)
    (resolved : List ResolvedTarget) (denied : List Decision) :
    RequestProgram (ApiResult Unit) := do
  match ← writeReplication config obj resolved with
  | .error err => pure (.error err)
  | .ok false => pure (.ok ())
  | .ok true =>
    reportTargetResolution (replicationKey config obj) resolved denied

def materialize (config : RequestConfig) (obj : PartialObjectMetadata)
    (parsed : AnnotationRequest) : RequestProgram (ApiResult Unit) := do
  match ← holdSource obj with
  | .error err => pure (.error err)
  | .ok obj => do
    match ← resolveTargets config obj parsed with
    | .error err => pure (.error err)
    | .ok targets => do
      announceDenied targets.2
      placeReplication config obj targets.1 targets.2

/-- The source finalizer goes only when no owned Replication is left. -/
def releaseSource (obj : PartialObjectMetadata) : RequestProgram (ApiResult Unit) :=
  if obj.finalizers.contains sourceFinalizer then do
    match ← requestHub (.patchSourceFinalizers
        { obj with
          finalizers := removeFinalizer obj.finalizers sourceFinalizer }) with
    | .ok _ => pure (.ok ())
    | .error err => pure (.error err)
  else pure (.ok ())

def release (config : RequestConfig) (obj : PartialObjectMetadata) :
    RequestProgram (ApiResult Unit) := do
  match ← requestHub (.getReplication (replicationKey config obj)) with
  | .error err =>
    if err.isNotFound then releaseSource obj else pure (.error err)
  | .ok rep =>
    if !ownedBySource config rep obj.name then releaseSource obj
    else if rep.deletionTimestamp.isSome then pure (.ok ())
    else
      match ← requestHub (.deleteReplication
          (replicationKey config obj)) with
      | .ok _ => pure (.ok ())
      | .error err =>
        pure (if err.isNotFound then .ok () else .error err)

/-- `sourceReconciler.Reconcile`. -/
def reconcileRequest (config : RequestConfig) (key : NamespacedName) :
    RequestProgram (ApiResult Unit) := do
  match ← requestHub (.getSourceMetadata config.gvk key) with
  | .error err => pure (if err.isNotFound then .ok () else .error err)
  | .ok obj =>
    if !config.enabled then do
      if hasRequest obj.annotations && obj.deletionTimestamp.isNone then
        Program.perform (RequestCall.emit (.kindNotEnabled config.gvk.kind config.enabledKinds))
      else pure ()
      pure (.ok ())
    else if obj.deletionTimestamp.isSome || !replicates obj.annotations then
      release config obj
    else
      match parseAnnotations config.library obj.annotations with
      | .error errs => do
        Program.perform (RequestCall.emit (.invalidAnnotations (aggregateText errs)))
        pure (.ok ())
      | .ok none => pure (.ok ())
      | .ok (some parsed) => materialize config obj parsed

/-! ## The calls of the source controller -/

section Calls

variable {allowed : RequestCall → Prop}

theorem announceDenied_allCalls (hemit : ∀ event, allowed (.emit event)) (denied : List Decision) :
    (announceDenied denied).AllCalls allowed := by
  cases denied with
  | nil => trivial
  | cons first rest => exact ⟨hemit _, fun _ => trivial⟩

theorem requestLabels_allCalls {ns : String}
    (hlabels : allowed (.hub (.getNamespaceLabels ns))) : (requestLabels ns).AllCalls allowed := by
  unfold requestLabels
  rw [requestHub_bind]
  refine ⟨hlabels, fun reply => ?_⟩
  cases reply with
  | ok labels => trivial
  | error err => trivial

theorem resolveTargets_allCalls (config : RequestConfig) (obj : PartialObjectMetadata)
    (parsed : AnnotationRequest) (hclusters : allowed .listClusters)
    (hlabels : allowed (.hub (.getNamespaceLabels obj.ns)))
    (hpolicies : allowed (.hub .listPolicies)) :
    (resolveTargets config obj parsed).AllCalls allowed := by
  unfold resolveTargets
  rw [Program.perform_bind]
  refine ⟨hclusters, fun clusters => ?_⟩
  dsimp only
  split_ifs
  · trivial
  · exact (requestLabels_allCalls hlabels).bind fun labels => ⟨hpolicies, fun _ => trivial⟩

theorem writeReplication_allCalls (config : RequestConfig) (obj : PartialObjectMetadata)
    (resolved : List ResolvedTarget) (hemit : ∀ event, allowed (.emit event))
    (hget : ∀ key, allowed (.hub (.getReplication key)))
    (hcreate : allowed (.hub (.createReplication (desiredReplication config obj resolved))))
    (hupdate : ∀ rep : Replication, rep.spec = (desiredReplication config obj resolved).spec →
      allowed (.hub (.updateReplication rep))) :
    (writeReplication config obj resolved).AllCalls allowed := by
  unfold writeReplication
  dsimp only
  rw [requestHub_bind]
  refine ⟨hget _, fun reply => ?_⟩
  cases reply with
  | error err =>
    dsimp only
    split_ifs
    · trivial
    · rw [requestHub_bind]
      refine ⟨hcreate, fun reply => ?_⟩
      cases reply with
      | ok stored => trivial
      | error err =>
        dsimp only
        split_ifs
        · exact ⟨hemit _, fun _ => trivial⟩
        · trivial
  | ok rep =>
    dsimp only
    split_ifs
    · exact ⟨hemit _, fun _ => trivial⟩
    · trivial
    · rw [requestHub_bind]
      refine ⟨hupdate _ rfl, fun reply => ?_⟩
      cases reply with
      | ok stored => trivial
      | error err => trivial

theorem reportTargetResolution_allCalls (key : NamespacedName) (resolved : List ResolvedTarget)
    (denied : List Decision) (hnow : allowed .now)
    (hget : ∀ key, allowed (.hub (.getReplication key)))
    (hupdate : ∀ rep, allowed (.hub (.updateReplicationStatus rep))) :
    (reportTargetResolution key resolved denied).AllCalls allowed := by
  unfold reportTargetResolution
  rw [requestHub_bind]
  refine ⟨hget _, fun reply => ?_⟩
  cases reply with
  | error err => trivial
  | ok rep =>
    dsimp only
    rw [Program.perform_bind]
    refine ⟨hnow, fun now => ?_⟩
    dsimp only
    split_ifs
    · trivial
    · rw [requestHub_bind]
      refine ⟨hupdate _, fun reply => ?_⟩
      cases reply with
      | ok stored => trivial
      | error err => trivial

end Calls

/-! ## The authority controller -/

inductive AuthorityCall where
  | hub (call : HubCall)
  | now

@[reducible] def AuthorityCall.Reply : AuthorityCall → Type
  | .hub call => call.Reply
  | .now => Nat

abbrev AuthorityProgram := Program AuthorityCall.Reply

def notAuthoritativeMark (rep : Replication) : Condition :=
  { type := conditionNotAuthoritative
    status := .conditionTrue
    observedGeneration := rep.generation
    lastTransitionTime := 0
    reason := reasonNotAuthoritative
    message := "Replication was not materialized by the operator (no owning " ++
      "source); it will never be reconciled" }

def notAuthoritativeReady (rep : Replication) : Condition :=
  { type := replicationConditionReady
    status := .conditionFalse
    observedGeneration := rep.generation
    lastTransitionTime := 0
    reason := reasonNotAuthoritative
    message := "hand-authored Replication objects are ignored; request " ++
      "replication by annotating the source object" }

/-- The conditions the authority controller wants on the object. -/
def authorityConditions (now : Nat) (rep : Replication) : List Condition :=
  match rep.getControllerOf with
  | none =>
    setStatusCondition now (setStatusCondition now rep.status.conditions (notAuthoritativeMark rep))
      (notAuthoritativeReady rep)
  | some _ =>
    removeStatusCondition rep.status.conditions conditionNotAuthoritative

/-- `replicationReconciler.Reconcile`. -/
def reconcileAuthority (key : NamespacedName) : AuthorityProgram (ApiResult Unit) := do
  match ← Program.perform (AuthorityCall.hub (.getReplication key)) with
  | .error err => pure (if err.isNotFound then .ok () else .error err)
  | .ok rep => do
    let now : Nat ← Program.perform AuthorityCall.now
    let conditions := authorityConditions now rep
    if conditions = rep.status.conditions then pure (.ok ())
    else
      match ← Program.perform (AuthorityCall.hub
          (.updateReplicationStatus
            { rep with
              status := { rep.status with conditions := conditions } })) with
      | .ok _ => pure (.ok ())
      | .error err => pure (.error err)

end K8sR8r
