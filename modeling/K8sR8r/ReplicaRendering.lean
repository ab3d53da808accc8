import K8sR8r.KubernetesObjects

/-!
# Rendering replicas

`internal/engine/render.go`: the identity marks the engine writes on every
replica, the keys it never copies, the canonical content hash and the payloads
it applies.  The cryptographic digest is a parameter; everything around it is
as in the source.
-/

namespace K8sR8r

def labelManagedBy : String := "app.kubernetes.io/managed-by"
def managedByValue : String := "k8s-r8r"
def labelSourceCluster : String := "r8r.io/source-cluster"
def labelSourceNamespace : String := "r8r.io/source-namespace"
def labelSourceName : String := "r8r.io/source-name"
def labelSourceKind : String := "r8r.io/source-kind"
def labelSourceUID : String := "r8r.io/source-uid"
def annotationSourceHash : String := "r8r.io/source-hash"
def finalizerName : String := "r8r.io/engine-finalizer"
def annotationLastApplied : String :=
  "kubectl.kubernetes.io/last-applied-configuration"
def r8rKeyStart : String := "r8r.io/"

def foreignOwnershipKeyStarts : List String :=
  ["argocd.argoproj.io/", "replicator.v1.mittwald.de/",
    "reflector.v1.k8s.emberstack.com/", "meta.helm.sh/",
    "kustomize.toolkit.fluxcd.io/"]

def foreignOwnershipKeys : List String := ["app.kubernetes.io/instance"]

def serverManagedMetadataFields : List String :=
  ["resourceVersion", "uid", "generation", "creationTimestamp",
    "deletionTimestamp", "deletionGracePeriodSeconds", "managedFields",
    "ownerReferences", "selfLink", "finalizers"]

def namespaceGVK : GroupVersionKind := ⟨"", "v1", "Namespace"⟩

/-- What the content hash covers: no status, no identity, no server-managed
metadata and no stripped key. -/
structure CanonicalPayload where
  groupVersionKind : GroupVersionKind
  labels : StringMap
  annotations : StringMap
  fields : FieldMap
  deriving DecidableEq

/-- The renderer with the process-wide additions to the denylist.  `digest` is
the hexadecimal SHA-256 of the canonical JSON encoding. -/
structure Renderer where
  hubName : String
  extraStrippedKeys : List String
  extraStrippedStarts : List String
  digest : CanonicalPayload → String

namespace Renderer

def effectiveHubName (renderer : Renderer) : String :=
  if renderer.hubName = "" then "hub" else renderer.hubName

def isStrippedKey (renderer : Renderer) (key : String) : Bool :=
  hasPrefix key r8rKeyStart || key = labelManagedBy || key = annotationLastApplied ||
    foreignOwnershipKeys.contains key ||
    renderer.extraStrippedKeys.contains key ||
    foreignOwnershipKeyStarts.any (hasPrefix key) ||
    renderer.extraStrippedStarts.any (hasPrefix key)

def cleanStrippedKeys (renderer : Renderer) (map : StringMap) : StringMap :=
  map.filterKeys fun key => !renderer.isStrippedKey key

def canonicalPayload (renderer : Renderer) (obj : Unstructured) : CanonicalPayload :=
  { groupVersionKind := obj.groupVersionKind
    labels := renderer.cleanStrippedKeys obj.labels
    annotations := renderer.cleanStrippedKeys obj.annotations
    fields := obj.fields.filterKeys fun path => path.head? ≠ some "status" }

def sourceHash (renderer : Renderer) (obj : Unstructured) : String :=
  "sha256:" ++ renderer.digest (renderer.canonicalPayload obj)

end Renderer

def stripServerManaged (obj : Unstructured) : Unstructured :=
  { obj with
    uid := ""
    metadata := obj.metadata.filterKeys fun field =>
      !serverManagedMetadataFields.contains field
    fields := obj.fields.filterKeys fun path => path.head? ≠ some "status" }

namespace Renderer

/-- The engine's identity labels for a source, written over `labels`. -/
def identityLabels (renderer : Renderer) (src : Unstructured) (labels : StringMap) :
    StringMap :=
  (((((labels.insert labelManagedBy managedByValue).insert
      labelSourceCluster renderer.effectiveHubName).insert
      labelSourceNamespace src.ns).insert
      labelSourceName src.name).insert
      labelSourceKind src.groupVersionKind.kind).insert
      labelSourceUID src.uid

def render (renderer : Renderer) (src : Unstructured) (targetNamespace targetName : String) :
    Unstructured × String :=
  let hash := renderer.sourceHash src
  let rep := stripServerManaged src
  ({ rep with
      ns := targetNamespace
      name := if targetName = "" then src.name else targetName
      labels := renderer.identityLabels src (renderer.cleanStrippedKeys rep.labels)
      annotations := (renderer.cleanStrippedKeys rep.annotations).insert
        annotationSourceHash hash },
    hash)

/-- The metadata-only payload of an adoption. -/
def adoptPatch (renderer : Renderer) (src : Unstructured) (gvk : GroupVersionKind)
    (ns name hash : String) : Unstructured :=
  { groupVersionKind := gvk
    ns := ns
    name := name
    uid := ""
    labels := renderer.identityLabels src ∅
    annotations := (∅ : StringMap).insert annotationSourceHash hash
    metadata := ∅
    fields := ∅ }

end Renderer

def namespacePayload (name : String) : Unstructured :=
  { groupVersionKind := namespaceGVK
    ns := ""
    name := name
    uid := ""
    labels := (∅ : StringMap).insert labelManagedBy managedByValue
    annotations := ∅
    metadata := ∅
    fields := ∅ }

def isManagedReplica (labels : StringMap) (sourceUID : String) : Bool :=
  StringMap.get labels labelManagedBy = managedByValue &&
    StringMap.get labels labelSourceUID = sourceUID

/-! ## The identity marks of what is applied -/

theorem Renderer.identityLabels_sourceUID (renderer : Renderer) (src : Unstructured)
    (labels : StringMap) :
    (renderer.identityLabels src labels).lookup labelSourceUID = some src.uid := by
  simp [Renderer.identityLabels]

theorem Renderer.identityLabels_managedBy (renderer : Renderer) (src : Unstructured)
    (labels : StringMap) :
    (renderer.identityLabels src labels).lookup labelManagedBy = some managedByValue := by
  unfold Renderer.identityLabels
  rw [Finmap.lookup_insert_of_ne _ (by decide),
    Finmap.lookup_insert_of_ne _ (by decide),
    Finmap.lookup_insert_of_ne _ (by decide),
    Finmap.lookup_insert_of_ne _ (by decide),
    Finmap.lookup_insert_of_ne _ (by decide), Finmap.lookup_insert]

@[simp] theorem Renderer.render_sourceUID (renderer : Renderer) (src : Unstructured)
    (ns name : String) :
    (renderer.render src ns name).1.labels.lookup labelSourceUID = some src.uid :=
  renderer.identityLabels_sourceUID src _

@[simp] theorem Renderer.adoptPatch_sourceUID (renderer : Renderer) (src : Unstructured)
    (gvk : GroupVersionKind) (ns name hash : String) :
    (renderer.adoptPatch src gvk ns name hash).labels.lookup labelSourceUID = some src.uid :=
  renderer.identityLabels_sourceUID src _

theorem namespacePayload_plain (ns : String) :
    (namespacePayload ns).labels.lookup labelSourceUID = none := by
  have hne : labelSourceUID ≠ labelManagedBy := by decide
  simp [namespacePayload, Finmap.lookup_insert_of_ne _ hne]

@[simp] theorem Renderer.render_hash (renderer : Renderer) (src : Unstructured) (ns name : String) :
    (renderer.render src ns name).2 = renderer.sourceHash src := rfl

end K8sR8r
