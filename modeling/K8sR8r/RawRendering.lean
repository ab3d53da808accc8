import K8sR8r.Adoption
import K8sR8r.RawContent
import K8sR8r.RequestedReadiness

/-!
# Rendering the JSON

`internal/engine/render.go` on the nested JSON itself.  Two separately coded
reductions have to agree there: the replica is built with the typed accessors,
which read string maps, and the hash is taken over the raw maps, where empty
and missing maps are dropped.

Objects live behind pointers, since the code edits the copy in place while it
goes on reading the source.  `view` is the object as the rest of the
development sees it, and rendering commutes with it.
-/

namespace K8sR8r

variable {J : Type}

namespace Renderer

/-- One entry of `--strip-metadata-keys`. -/
def addStrippedKey (renderer : Renderer) (entry : String) : Renderer :=
  let key := trimSpace entry
  if key = "" ∨ key = "/" then renderer
  else if key.toList.getLast? = some '/' then
    { renderer with
      extraStrippedStarts := renderer.extraStrippedStarts ++ [key] }
  else
    { renderer with
      extraStrippedKeys := renderer.extraStrippedKeys ++ [key] }

/-- `SetExtraStrippedKeys`. -/
def setExtraStrippedKeys (renderer : Renderer) (keys : List String) :
    Renderer :=
  keys.foldl addStrippedKey
    { renderer with extraStrippedKeys := [], extraStrippedStarts := [] }

def coversKey (entry key : String) : Bool :=
  let covered := trimSpace entry
  covered ≠ "" && covered ≠ "/" &&
    if covered.toList.getLast? = some '/' then hasPrefix key covered
    else key = covered

theorem isStrippedKey_addStrippedKey (renderer : Renderer) (entry key : String) :
    (renderer.addStrippedKey entry).isStrippedKey key =
      (renderer.isStrippedKey key || coversKey entry key) := by
  unfold addStrippedKey coversKey
  dsimp only
  by_cases hempty : trimSpace entry = "" ∨ trimSpace entry = "/"
  · rw [if_pos hempty]
    rcases hempty with hempty | hempty <;> simp [hempty]
  · rw [if_neg hempty]
    rw [not_or] at hempty
    split_ifs
    · simp [isStrippedKey, hempty, Bool.or_assoc]
    · simp [isStrippedKey, hempty, Bool.or_assoc, Bool.or_comm, Bool.or_left_comm]

theorem isStrippedKey_setExtraStrippedKeys (renderer : Renderer) (keys : List String)
    (key : String) :
    (renderer.setExtraStrippedKeys keys).isStrippedKey key =
      ((renderer.setExtraStrippedKeys []).isStrippedKey key ||
        keys.any fun entry => coversKey entry key) := by
  have hfold : ∀ start : Renderer, (keys.foldl addStrippedKey start).isStrippedKey key =
        (start.isStrippedKey key || keys.any fun entry => coversKey entry key) := by
    induction keys with
    | nil => simp
    | cons entry rest ih =>
      intro start
      rw [List.foldl_cons, ih, isStrippedKey_addStrippedKey, List.any_cons, Bool.or_assoc]
  exact hfold _

/-- `stringListFlag.Set`, on the list so far. -/
def stringListSet (list : List String) (value : String) : List String :=
  list ++ ((value.toList.splitOn ',').map fun part => trimSpace (String.ofList part)).filter
    (· ≠ "")

/-- Under `--strip-metadata-keys`, given any number of times, exactly the
built-in keys and those that a part of a value covers are taken away. -/
theorem lookup_cleanStrippedKeys_flags (renderer : Renderer) (values : List String)
    (map : StringMap) (key : String) :
    ((renderer.setExtraStrippedKeys (values.foldl stringListSet [])).cleanStrippedKeys
        map).lookup key =
      if (renderer.setExtraStrippedKeys []).isStrippedKey key ∨
          ∃ value ∈ values,
            ∃ part ∈ value.toList.splitOn ',', coversKey (trimSpace (String.ofList part)) key then
        none
      else map.lookup key := by
  have hflags : (values.foldl stringListSet []).any (coversKey · key) = true ↔ ∃ value ∈ values,
      ∃ part ∈ value.toList.splitOn ',', coversKey (trimSpace (String.ofList part)) key := by
    have hblank : ∀ entry, coversKey entry key = true → entry ≠ "" := by
      rintro _ hcovers rfl
      cases hcovers
    unfold stringListSet
    simp only [List.foldl_append_eq_append, List.nil_append, List.any_eq_true]
    grind
  rw [cleanStrippedKeys, Finmap.lookup_filterKeys, isStrippedKey_setExtraStrippedKeys]
  simp only [← hflags]
  grind

end Renderer

namespace RawContent

/-! ## The source functions -/

def stripServerManaged (content : RawContent J) : RawContent J :=
  let content := content.erase "status"
  match content.lookup "metadata" with
  | some (.object fields) =>
    content.insert "metadata" (.object (serverManagedMetadataFields.foldl
        (fun fields field => fields.erase field) fields))
  | _ => content

/-- `cleanStrippedKeys`: nil in, nil out. -/
def cleanStrippedKeys (renderer : Renderer) (map : Option StringMap) : Option StringMap :=
  map.map renderer.cleanStrippedKeys

/-- `cleanRawKeys`: nil unless the value is an object. -/
def cleanRawKeys (renderer : Renderer) : Option (RawField J) → Option (RawMap J)
  | some (.object entries) =>
    some (entries.filterKeys fun key => !renderer.isStrippedKey key)
  | _ => none

/-- `if l := …; len(l) > 0 { reduced[field] = l }` -/
def addNonempty (field : String) (entries : Option (RawMap J)) (reduced : RawMetadata J) :
    RawMetadata J :=
  match entries with
  | some entries =>
    if 0 < entries.keys.card then reduced.insert field (.object entries)
    else reduced
  | none => reduced

def reducedMetadata (renderer : Renderer) (content : RawContent J) : RawMetadata J :=
  match content.lookup "metadata" with
  | some (.object fields) =>
    addNonempty "annotations" (cleanRawKeys renderer (fields.lookup "annotations"))
      (addNonempty "labels" (cleanRawKeys renderer (fields.lookup "labels")) ∅)
  | _ => ∅

def canonicalPayload (renderer : Renderer) (content : RawContent J) : RawContent J :=
  let content := content.erase "status"
  let reduced := reducedMetadata renderer content
  if 0 < reduced.keys.card then content.insert "metadata" (.object reduced)
  else content.erase "metadata"

/-- The identity labels of a source, as the code writes them into a map. -/
def identityLabels (renderer : Renderer) (src : RawContent J) (labels : StringMap) :
    StringMap :=
  (((((labels.insert labelManagedBy managedByValue).insert
      labelSourceCluster renderer.effectiveHubName).insert
      labelSourceNamespace (getNamespace src)).insert
      labelSourceName (getName src)).insert
      labelSourceKind (getKind src)).insert
      labelSourceUID (getUID src)

end RawContent

/-! ## The object as the engine's model sees it -/

/-- The JSON text of opaque values. -/
structure RawEncoding (J : Type) where
  field : RawField J → String
  value : RawValue (RawField J) J → String

def topLevelPath : String ↪ List String :=
  ⟨fun key => [key], fun _ _ heq => List.head_eq_of_cons_eq heq⟩

/-- Group and version of an `apiVersion`. -/
def groupVersion (apiVersion : String) : String × String :=
  let chars := apiVersion.toList
  if chars.contains '/' then
    (String.ofList (chars.takeWhile (· ≠ '/')), String.ofList ((chars.dropWhile (· ≠ '/')).drop 1))
  else ("", apiVersion)

namespace RawContent

def namedMetadata : List String :=
  ["name", "namespace", "uid", "labels", "annotations"]

/-- Every top-level field becomes one path; `apiVersion` and `kind` stay among
them, so that the view loses nothing of the payload. -/
def view (encoding : RawEncoding J) (content : RawContent J) : Unstructured where
  groupVersionKind :=
    ⟨(groupVersion (topString content "apiVersion")).1,
      (groupVersion (topString content "apiVersion")).2, getKind content⟩
  ns := getNamespace content
  name := getName content
  uid := getUID content
  labels := (getLabels content).getD ∅
  annotations := (getAnnotations content).getD ∅
  metadata := ((metadata content).filterKeys
    fun field => !namedMetadata.contains field).mapValues encoding.field
  fields := (content.erase "metadata").mapEntries topLevelPath encoding.value

def payloadView (encoding : RawEncoding J) (payload : RawContent J) :
    CanonicalPayload :=
  let obj := view encoding payload
  ⟨obj.groupVersionKind, obj.labels, obj.annotations, obj.fields⟩

/-- `SourceHash`.  The digest is taken over the JSON text of the payload. -/
def sourceHash (renderer : Renderer) (encoding : RawEncoding J) (content : RawContent J) : String :=
  "sha256:" ++ renderer.digest (payloadView encoding (canonicalPayload renderer content))

end RawContent

/-! ## Rendering in place -/

/-- The objects behind the pointers below `next`. -/
structure Heap (J : Type) where
  next : Nat
  load : Nat → RawContent J

namespace Heap

/-- `DeepCopy`: a new object that shares nothing with the old one. -/
def deepCopy (heap : Heap J) (ptr : Nat) : Heap J × Nat :=
  (⟨heap.next + 1, Function.update heap.load heap.next (heap.load ptr)⟩, heap.next)

def edit (heap : Heap J) (ptr : Nat) (change : RawContent J → RawContent J) : Heap J :=
  { heap with
    load := Function.update heap.load ptr (change (heap.load ptr)) }

@[simp] theorem edit_load_self (heap : Heap J) (ptr : Nat) (change : RawContent J → RawContent J) :
    (heap.edit ptr change).load ptr = change (heap.load ptr) :=
  Function.update_self _ _ _

theorem edit_load_of_ne (heap : Heap J) {ptr other : Nat} (hne : other ≠ ptr)
    (change : RawContent J → RawContent J) :
    (heap.edit ptr change).load other = heap.load other :=
  Function.update_of_ne hne _ _

end Heap

structure RenderOutcome (J : Type) where
  heap : Heap J
  rep : Nat
  hash : String

namespace RawContent

/-- `Render`: the source is read again after the copy has been edited. -/
def render (renderer : Renderer) (encoding : RawEncoding J) (heap : Heap J) (src : Nat)
    (targetNamespace targetName : String) : RenderOutcome J :=
  let hash := sourceHash renderer encoding (heap.load src)
  let (heap, rep) := heap.deepCopy src
  let heap := heap.edit rep stripServerManaged
  let heap := heap.edit rep (setNamespace targetNamespace)
  let targetName :=
    if targetName = "" then getName (heap.load src) else targetName
  let heap := heap.edit rep (setName targetName)
  let labels :=
    (cleanStrippedKeys renderer (getLabels (heap.load rep))).getD ∅
  let heap := heap.edit rep
    (setLabels (some (identityLabels renderer (heap.load src) labels)))
  let ann :=
    (cleanStrippedKeys renderer (getAnnotations (heap.load rep))).getD ∅
  let heap := heap.edit rep
    (setAnnotations (some (ann.insert annotationSourceHash hash)))
  ⟨heap, rep, hash⟩

/-- The copy before its labels and annotations are written. -/
def bareReplica (src : RawContent J) (targetNamespace targetName : String) : RawContent J :=
  setName (if targetName = "" then getName src else targetName)
    (setNamespace targetNamespace (stripServerManaged src))

def labelledReplica (renderer : Renderer) (src : RawContent J)
    (targetNamespace targetName : String) : RawContent J :=
  let bare := bareReplica src targetNamespace targetName
  setLabels (some (identityLabels renderer src
    ((cleanStrippedKeys renderer (getLabels bare)).getD ∅))) bare

def replica (renderer : Renderer) (encoding : RawEncoding J) (src : RawContent J)
    (targetNamespace targetName : String) : RawContent J :=
  let labelled := labelledReplica renderer src targetNamespace targetName
  setAnnotations (some (((cleanStrippedKeys renderer (getAnnotations labelled)).getD ∅).insert
      annotationSourceHash (sourceHash renderer encoding src))) labelled

section InPlace

variable {renderer : Renderer} {encoding : RawEncoding J} {heap : Heap J}
  {src : Nat} {targetNamespace targetName : String}

/-- Rendering puts the replica behind a new pointer and leaves every other
object as it was. -/
theorem render_load (hsrc : src < heap.next) (ptr : Nat) :
    (render renderer encoding heap src targetNamespace targetName).heap.load ptr =
      if ptr = heap.next then
        replica renderer encoding (heap.load src) targetNamespace targetName
      else heap.load ptr := by
  have hne : src ≠ heap.next := hsrc.ne
  by_cases hptr : ptr = heap.next
  · subst hptr
    simp [render, replica, labelledReplica, bareReplica, Heap.deepCopy,
      Heap.edit_load_of_ne _ hne, Function.update_of_ne hne]
  · rw [if_neg hptr]
    simp [render, Heap.deepCopy, Heap.edit_load_of_ne _ hptr, Function.update_of_ne hptr]

end InPlace

/-! ## What the copy carries -/

theorem lookup_eraseAll (erased : List String) (fields : RawMetadata J) (field : String) :
    (erased.foldl (fun fields field => fields.erase field) fields).lookup field =
      if field ∈ erased then none else fields.lookup field := by
  induction erased generalizing fields with
  | nil => simp
  | cons head rest ih =>
    rw [List.foldl_cons, ih]
    by_cases hrest : field ∈ rest
    · simp [hrest]
    · by_cases hhead : field = head
      · subst hhead
        simp [hrest]
      · simp [hrest, hhead, Finmap.lookup_erase_ne hhead]

theorem metadata_erase_status (content : RawContent J) :
    metadata (content.erase "status") = metadata content := by
  have hne : "metadata" ≠ "status" := by decide
  simp only [metadata, Finmap.lookup_erase_ne hne]

theorem edits_stripServerManaged {content : RawContent J} (hmetadata : HasMetadata content) :
    Edits (serverManagedMetadataFields.foldl fun fields field => fields.erase field)
      (content.erase "status") (stripServerManaged content) := by
  have hne : "metadata" ≠ "status" := by decide
  have hlookup : (content.erase "status").lookup "metadata" =
      content.lookup "metadata" := Finmap.lookup_erase_ne hne
  unfold stripServerManaged
  dsimp only
  rw [hlookup]
  cases hvalue : content.lookup "metadata" with
  | none =>
    refine ⟨?_, SameOutside.refl _, ?_⟩
    · intro value h
      rw [hlookup, hvalue] at h
      cases h
    · rw [metadata_erase_status]
      apply Finmap.ext_lookup
      intro field
      rw [lookup_eraseAll]
      simp [metadata, hvalue]
  | some value =>
    obtain ⟨fields, rfl⟩ := hmetadata value hvalue
    refine ⟨hasMetadata_insert, sameOutside_insert, ?_⟩
    rw [metadata_erase_status]
    simp [metadata, hvalue]

section Replica

variable {renderer : Renderer} {encoding : RawEncoding J}
  {src : RawContent J} {targetNamespace targetName : String}

def stringField (value : String) : Option (RawField J) :=
  if value = "" then none else some (.text value)

theorem lookup_stringEdit (fields : RawMetadata J) (field value other : String) :
    (if value = "" then fields.erase field
      else fields.insert field (.text value)).lookup other =
      if other = field then stringField value else fields.lookup other := by
  unfold stringField
  by_cases hother : other = field
  · subst hother
    rw [if_pos rfl]
    split_ifs
    · exact Finmap.lookup_erase _ _
    · exact Finmap.lookup_insert _
  · rw [if_neg hother]
    split_ifs
    · exact Finmap.lookup_erase_ne hother
    · exact Finmap.lookup_insert_of_ne _ hother

/-- The object is the source without its status, and its metadata fields are
the given ones. -/
structure Reshapes
    (field : String → Option (RawField J)) (src rep : RawContent J) :
    Prop where
  hasMetadata : HasMetadata rep
  outside : SameOutside (src.erase "status") rep
  metadata : ∀ name, (metadata rep).lookup name = field name

theorem Reshapes.edited {field : String → Option (RawField J)}
    {edit : RawMetadata J → RawMetadata J} {middle rep : RawContent J}
    (shape : Reshapes field src middle) (edits : Edits edit middle rep)
    {next : String → Option (RawField J)}
    (hnext : ∀ fields : RawMetadata J, (∀ name, fields.lookup name = field name) →
        ∀ name, (edit fields).lookup name = next name) :
    Reshapes next src rep :=
  ⟨edits.hasMetadata, shape.outside.trans edits.outside, by
    rw [edits.metadata]
    exact hnext _ shape.metadata⟩

def bareField (src : RawContent J) (targetNamespace targetName : String) (field : String) :
    Option (RawField J) :=
  if field = "name" then
    stringField (if targetName = "" then getName src else targetName)
  else if field = "namespace" then stringField targetNamespace
  else if field ∈ serverManagedMetadataFields then none
  else (metadata src).lookup field

theorem bareReplica_reshapes (hmetadata : HasMetadata src) :
    Reshapes (bareField src targetNamespace targetName) src
      (bareReplica src targetNamespace targetName) := by
  have hstrip := edits_stripServerManaged hmetadata
  have hstripped : Reshapes (fun field =>
      if field ∈ serverManagedMetadataFields then none
      else (metadata src).lookup field) src (stripServerManaged src) := by
    refine ⟨hstrip.hasMetadata, hstrip.outside, ?_⟩
    intro field
    rw [hstrip.metadata, metadata_erase_status, lookup_eraseAll]
  have hplaced := hstripped.edited (edits_setNestedString hstripped.hasMetadata targetNamespace)
    fun fields hfields field => by
      rw [lookup_stringEdit fields "namespace", hfields]
  exact hplaced.edited (edits_setNestedString hplaced.hasMetadata _) fun fields hfields field => by
      rw [lookup_stringEdit fields "name", hfields]
      rfl

def travelling (renderer : Renderer) (map : Option StringMap) : StringMap :=
  renderer.cleanStrippedKeys (map.getD ∅)

theorem cleanStrippedKeys_getD (renderer : Renderer) (map : Option StringMap) :
    (cleanStrippedKeys renderer map).getD ∅ = travelling renderer map := by
  cases map with
  | some map => rfl
  | none =>
    apply Finmap.ext_lookup
    intro key
    simp [cleanStrippedKeys, travelling, Renderer.cleanStrippedKeys]

def labelledField (renderer : Renderer) (src : RawContent J) (targetNamespace targetName : String)
    (field : String) :
    Option (RawField J) :=
  if field = "labels" then
    some (.object (RawMap.ofStrings (identityLabels renderer src
      (travelling renderer (getLabels src)))))
  else bareField src targetNamespace targetName field

theorem labelledReplica_reshapes (hmetadata : HasMetadata src) :
    Reshapes (labelledField renderer src targetNamespace targetName) src
      (labelledReplica renderer src targetNamespace targetName) := by
  have hbare : Reshapes (bareField src targetNamespace targetName) src _ :=
    bareReplica_reshapes hmetadata
  have hlabels : getLabels (bareReplica src targetNamespace targetName) = getLabels src :=
    nestedStringMap_congr (hbare.metadata "labels")
  unfold labelledReplica
  dsimp only
  rw [cleanStrippedKeys_getD, hlabels]
  refine hbare.edited (edits_setNestedStringMap hbare.hasMetadata _) ?_
  intro fields hfields field
  unfold labelledField
  by_cases hfield : field = "labels"
  · rw [hfield, Finmap.lookup_insert, if_pos rfl]
  · rw [Finmap.lookup_insert_of_ne _ hfield, if_neg hfield, hfields]

def replicaField (renderer : Renderer) (encoding : RawEncoding J) (src : RawContent J)
    (targetNamespace targetName : String) (field : String) :
    Option (RawField J) :=
  if field = "annotations" then
    some (.object (RawMap.ofStrings
      ((travelling renderer (getAnnotations src)).insert annotationSourceHash
        (sourceHash renderer encoding src))))
  else labelledField renderer src targetNamespace targetName field

theorem replica_reshapes (hmetadata : HasMetadata src) :
    Reshapes (replicaField renderer encoding src targetNamespace targetName)
      src (replica renderer encoding src targetNamespace targetName) := by
  have hlabelled : Reshapes (labelledField renderer src targetNamespace targetName) src _ :=
    labelledReplica_reshapes hmetadata
  have hann : getAnnotations (labelledReplica renderer src targetNamespace targetName) =
        getAnnotations src :=
    nestedStringMap_congr (hlabelled.metadata "annotations")
  unfold replica
  dsimp only
  rw [cleanStrippedKeys_getD, hann]
  refine hlabelled.edited (edits_setNestedStringMap hlabelled.hasMetadata _) ?_
  intro fields hfields field
  unfold replicaField
  by_cases hfield : field = "annotations"
  · rw [hfield, Finmap.lookup_insert, if_pos rfl]
  · rw [Finmap.lookup_insert_of_ne _ hfield, if_neg hfield, hfields]

theorem getLabels_replica (hmetadata : HasMetadata src) :
    getLabels (replica renderer encoding src targetNamespace targetName) =
      some (identityLabels renderer src (travelling renderer (getLabels src))) :=
  nestedStringMap_of_lookup ((replica_reshapes hmetadata).metadata "labels")

theorem getAnnotations_replica (hmetadata : HasMetadata src) : getAnnotations
        (replica renderer encoding src targetNamespace targetName) =
      some ((travelling renderer (getAnnotations src)).insert
        annotationSourceHash (sourceHash renderer encoding src)) :=
  nestedStringMap_of_lookup ((replica_reshapes hmetadata).metadata "annotations")

theorem wellTyped_replica (hmetadata : HasMetadata src) : WellTyped
      (replica renderer encoding src targetNamespace targetName) := by
  have hshape : Reshapes (replicaField renderer encoding src targetNamespace targetName) src _ :=
    replica_reshapes hmetadata
  refine ⟨hshape.hasMetadata, ?_, ?_⟩
  · rw [rawMap_of_lookup (hshape.metadata "labels")]
    exact RawMap.allText_ofStrings _
  · rw [rawMap_of_lookup (hshape.metadata "annotations")]
    exact RawMap.allText_ofStrings _

end Replica

/-! ## What the hash covers -/

section Canonical

variable {renderer : Renderer} {content left right : RawContent J}

def nonemptyObject {Inner : Type} (fields : Finmap fun _ : String => Inner) :
    Option (RawValue Inner J) :=
  if 0 < fields.keys.card then some (.object fields) else none

variable {Inner : Type}

@[simp] theorem nonemptyObject_empty :
    (nonemptyObject ∅ : Option (RawValue Inner J)) = none := rfl

theorem nonemptyObject_of_ne {fields : Finmap fun _ : String => Inner} (hne : fields ≠ ∅) :
    (nonemptyObject fields : Option (RawValue Inner J)) = some (.object fields) :=
  if_pos (Finmap.keys_card_pos_iff.mpr hne)

theorem nonemptyObject_inj {first second : Finmap fun _ : String => Inner} :
    (nonemptyObject first : Option (RawValue Inner J)) =
        nonemptyObject second ↔ first = second := by
  refine ⟨fun heq => ?_, fun heq => by rw [heq]⟩
  by_cases hfirst : first = ∅
  · by_cases hsecond : second = ∅
    · rw [hfirst, hsecond]
    · rw [hfirst, nonemptyObject_of_ne hsecond] at heq
      cases heq
  · by_cases hsecond : second = ∅
    · rw [hsecond, nonemptyObject_of_ne hfirst] at heq
      cases heq
    · rw [nonemptyObject_of_ne hfirst, nonemptyObject_of_ne hsecond] at heq
      simpa using heq

def cleaned (renderer : Renderer) (content : RawContent J) (field : String) : RawMap J :=
  (rawMap content field).filterKeys fun key => !renderer.isStrippedKey key

theorem cleanRawKeys_getD (field : String) :
    (cleanRawKeys renderer ((metadata content).lookup field)).getD ∅ =
      cleaned renderer content field := by
  have hempty : ∀ keep : String → Bool, (∅ : RawMap J).filterKeys keep = ∅ := fun keep => by
    apply Finmap.ext_lookup
    intro key
    simp
  unfold cleaned rawMap
  cases hlookup : (metadata content).lookup field with
  | none => exact (hempty _).symm
  | some value =>
    cases value with
    | text value => exact (hempty _).symm
    | other value => exact (hempty _).symm
    | object entries => rfl

theorem lookup_addNonempty {field : String} (entries : Option (RawMap J))
    {reduced : RawMetadata J} (hfresh : reduced.lookup field = none) (other : String) :
    (addNonempty field entries reduced).lookup other =
      if other = field then nonemptyObject (entries.getD ∅)
      else reduced.lookup other := by
  by_cases hother : other = field
  · subst hother
    rw [if_pos rfl]
    cases entries with
    | none => exact hfresh
    | some entries =>
      simp only [addNonempty, nonemptyObject, Option.getD_some]
      split_ifs
      · exact Finmap.lookup_insert _
      · exact hfresh
  · rw [if_neg hother]
    cases entries with
    | none => rfl
    | some entries =>
      simp only [addNonempty]
      split_ifs
      · exact Finmap.lookup_insert_of_ne _ hother
      · rfl

/-- The reduced metadata holds the labels and the annotations that are not
stripped, if there are any. -/
theorem lookup_reducedMetadata (field : String) : (reducedMetadata renderer content).lookup field =
      if field = "annotations" then
        nonemptyObject (cleaned renderer content "annotations")
      else if field = "labels" then
        nonemptyObject (cleaned renderer content "labels")
      else none := by
  have hmetadata : reducedMetadata renderer content = addNonempty "annotations"
        (cleanRawKeys renderer ((metadata content).lookup "annotations"))
        (addNonempty "labels" (cleanRawKeys renderer ((metadata content).lookup "labels")) ∅) := by
    unfold reducedMetadata metadata
    cases content.lookup "metadata" with
    | none => rfl
    | some value =>
      cases value with
      | text value => rfl
      | other value => rfl
      | object fields => rfl
  have hlabels := lookup_addNonempty (cleanRawKeys renderer ((metadata content).lookup "labels"))
    (Finmap.lookup_empty "labels")
  rw [cleanRawKeys_getD] at hlabels
  have hne : "annotations" ≠ "labels" := by decide
  rw [hmetadata, lookup_addNonempty _ (by rw [hlabels, if_neg hne]; rfl),
    cleanRawKeys_getD, hlabels, Finmap.lookup_empty]

theorem reducedMetadata_eq_iff :
    reducedMetadata renderer left = reducedMetadata renderer right ↔
      cleaned renderer left "labels" = cleaned renderer right "labels" ∧
      cleaned renderer left "annotations" = cleaned renderer right "annotations" := by
  constructor
  · intro heq
    have hlabels := congrArg (Finmap.lookup "labels") heq
    have hannotations := congrArg (Finmap.lookup "annotations") heq
    have hne : "labels" ≠ "annotations" := by decide
    rw [lookup_reducedMetadata, lookup_reducedMetadata, if_neg hne,
      if_neg hne, if_pos rfl, if_pos rfl] at hlabels
    rw [lookup_reducedMetadata, lookup_reducedMetadata, if_pos rfl, if_pos rfl] at hannotations
    exact ⟨nonemptyObject_inj.mp hlabels, nonemptyObject_inj.mp hannotations⟩
  · rintro ⟨hlabels, hannotations⟩
    apply Finmap.ext_lookup
    intro field
    rw [lookup_reducedMetadata, lookup_reducedMetadata, hlabels, hannotations]

theorem lookup_canonicalPayload (key : String) : (canonicalPayload renderer content).lookup key =
      if key = "metadata" then
        nonemptyObject (reducedMetadata renderer (content.erase "status"))
      else if key = "status" then none
      else content.lookup key := by
  have hrest : key ≠ "metadata" → (content.erase "status").lookup key =
        if key = "status" then none else content.lookup key := by
    intro _
    split_ifs with hstatus
    · rw [hstatus, Finmap.lookup_erase]
    · exact Finmap.lookup_erase_ne hstatus
  unfold canonicalPayload nonemptyObject
  dsimp only
  by_cases hkey : key = "metadata"
  · subst hkey
    rw [if_pos rfl]
    split_ifs
    · exact Finmap.lookup_insert _
    · exact Finmap.lookup_erase _ _
  · rw [if_neg hkey, ← hrest hkey]
    split_ifs
    · exact Finmap.lookup_insert_of_ne _ hkey
    · exact Finmap.lookup_erase_ne hkey

theorem cleaned_erase_status (field : String) : cleaned renderer (content.erase "status") field =
      cleaned renderer content field := by
  unfold cleaned rawMap
  rw [metadata_erase_status]

/-- The payload is everything outside metadata and status together with the
labels and annotations that are not stripped. -/
theorem canonicalPayload_eq_iff :
    canonicalPayload renderer left = canonicalPayload renderer right ↔
      (∀ key, key ≠ "metadata" → key ≠ "status" → left.lookup key = right.lookup key) ∧
      cleaned renderer left "labels" = cleaned renderer right "labels" ∧
      cleaned renderer left "annotations" = cleaned renderer right "annotations" := by
  have hreduced : reducedMetadata renderer (left.erase "status") =
      reducedMetadata renderer (right.erase "status") ↔ _ :=
    reducedMetadata_eq_iff
  simp only [cleaned_erase_status] at hreduced
  rw [← hreduced]
  constructor
  · intro heq
    refine ⟨fun key hmetadata hstatus => ?_, ?_⟩
    · have hlookup := congrArg (Finmap.lookup key) heq
      rwa [lookup_canonicalPayload, lookup_canonicalPayload,
        if_neg hmetadata, if_neg hmetadata, if_neg hstatus, if_neg hstatus]
        at hlookup
    · have hlookup := congrArg (Finmap.lookup "metadata") heq
      rw [lookup_canonicalPayload, lookup_canonicalPayload, if_pos rfl, if_pos rfl] at hlookup
      exact nonemptyObject_inj.mp hlookup
  · rintro ⟨hpayload, hsame⟩
    apply Finmap.ext_lookup
    intro key
    rw [lookup_canonicalPayload, lookup_canonicalPayload, hsame]
    split_ifs with hmetadata hstatus
    · rfl
    · rfl
    · exact hpayload key hmetadata hstatus

def labelOf (content : RawContent J) (key : String) : Option String :=
  ((getLabels content).getD ∅).lookup key

def annotationOf (content : RawContent J) (key : String) : Option String :=
  ((getAnnotations content).getD ∅).lookup key

structure SameContent (renderer : Renderer) (left right : RawContent J) :
    Prop where
  payload : ∀ key, key ≠ "metadata" → key ≠ "status" →
    left.lookup key = right.lookup key
  labels : ∀ key, renderer.isStrippedKey key = false →
    labelOf left key = labelOf right key
  annotations : ∀ key, renderer.isStrippedKey key = false →
    annotationOf left key = annotationOf right key

theorem cleaned_eq_iff {field : String} (hleft : RawMap.AllText (rawMap left field))
    (hright : RawMap.AllText (rawMap right field)) :
    cleaned renderer left field = cleaned renderer right field ↔
      ∀ key, renderer.isStrippedKey key = false → ((nestedStringMap left field).getD ∅).lookup key =
          ((nestedStringMap right field).getD ∅).lookup key := by
  unfold cleaned
  rw [Finmap.filterKeys_eq_iff, nestedStringMap_getD hleft, nestedStringMap_getD hright]
  refine forall_congr' fun key => ?_
  rw [Bool.not_eq_true', RawMap.lookup_strings_eq_iff hleft hright]

theorem canonicalPayload_eq_iff_sameContent (hleft : WellTyped left) (hright : WellTyped right) :
    canonicalPayload renderer left = canonicalPayload renderer right ↔
      SameContent renderer left right := by
  rw [canonicalPayload_eq_iff, cleaned_eq_iff hleft.labels hright.labels,
    cleaned_eq_iff hleft.annotations hright.annotations]
  exact ⟨fun h => ⟨h.1, h.2.1, h.2.2⟩, fun h => ⟨h.payload, h.labels, h.annotations⟩⟩

theorem SameContent.symm (same : SameContent renderer left right) :
    SameContent renderer right left :=
  ⟨fun key hmetadata hstatus => (same.payload key hmetadata hstatus).symm,
    fun key hkey => (same.labels key hkey).symm,
    fun key hkey => (same.annotations key hkey).symm⟩

theorem SameContent.trans {third : RawContent J} (head : SameContent renderer left right)
    (tail : SameContent renderer right third) :
    SameContent renderer left third :=
  ⟨fun key hmetadata hstatus => (head.payload key hmetadata hstatus).trans
      (tail.payload key hmetadata hstatus),
    fun key hkey => (head.labels key hkey).trans (tail.labels key hkey),
    fun key hkey => (head.annotations key hkey).trans (tail.annotations key hkey)⟩

end Canonical

/-! ## The replica has the content of the source -/

section Rendered

variable {renderer : Renderer} {encoding : RawEncoding J}
  {src : RawContent J} {targetNamespace targetName : String}

def identityLabel (renderer : Renderer) (src : RawContent J) (key : String) : Option String :=
  if key = labelSourceUID then some (getUID src)
  else if key = labelSourceKind then some (getKind src)
  else if key = labelSourceName then some (getName src)
  else if key = labelSourceNamespace then some (getNamespace src)
  else if key = labelSourceCluster then some renderer.effectiveHubName
  else if key = labelManagedBy then some managedByValue
  else none

theorem lookup_identityLabels (labels : StringMap) (key : String) :
    (identityLabels renderer src labels).lookup key =
      (identityLabel renderer src key).or (labels.lookup key) := by
  unfold identityLabels identityLabel
  simp only [Finmap.lookup_insert_eq]
  split_ifs <;> rfl

theorem identityLabel_eq_none {key : String} (hkey : key ∉ identityLabelKeys) :
    identityLabel renderer src key = none := by
  simp only [identityLabelKeys, List.mem_cons, List.not_mem_nil, or_false, not_or] at hkey
  simp [identityLabel, hkey]

theorem notMem_identityLabelKeys {key : String} (hkey : renderer.isStrippedKey key = false) :
    key ∉ identityLabelKeys := by
  intro hmem
  simp only [identityLabelKeys, List.mem_cons, List.not_mem_nil, or_false] at hmem
  have hkeeps : renderer.keepsKey key = true := by
    rw [Renderer.keepsKey, hkey]
    rfl
  rcases hmem with rfl | rfl | rfl | rfl | rfl | rfl
  · rw [renderer.keepsKey_managedBy] at hkeeps
    cases hkeeps
  all_goals
    rw [renderer.keepsKey_r8r (by decide)] at hkeeps
    cases hkeeps

theorem lookup_travelling (map : Option StringMap) (key : String) :
    (travelling renderer map).lookup key =
      if renderer.isStrippedKey key then none
      else (map.getD ∅).lookup key := by
  unfold travelling Renderer.cleanStrippedKeys
  rw [Finmap.lookup_filterKeys]
  cases renderer.isStrippedKey key <;> rfl

theorem sameContent_replica (htyped : WellTyped src) : SameContent renderer
      (replica renderer encoding src targetNamespace targetName) src := by
  refine ⟨fun key hmetadata hstatus => ?_, fun key hkey => ?_, fun key hkey => ?_⟩
  · rw [(replica_reshapes htyped.hasMetadata).outside key hmetadata]
    exact Finmap.lookup_erase_ne hstatus
  · rw [labelOf, getLabels_replica htyped.hasMetadata, Option.getD_some, lookup_identityLabels,
      identityLabel_eq_none (notMem_identityLabelKeys hkey),
      Option.none_or, lookup_travelling, hkey]
    rfl
  · have hne : key ≠ annotationSourceHash := by
      apply renderer.ne_sourceHash_of_keepsKey
      rw [Renderer.keepsKey, hkey]
      rfl
    rw [annotationOf, getAnnotations_replica htyped.hasMetadata,
      Option.getD_some, Finmap.lookup_insert_of_ne _ hne, lookup_travelling,
      hkey]
    rfl

theorem canonicalPayload_replica (htyped : WellTyped src) : canonicalPayload renderer
        (replica renderer encoding src targetNamespace targetName) =
      canonicalPayload renderer src :=
  (canonicalPayload_eq_iff_sameContent (wellTyped_replica htyped.hasMetadata)
    htyped).mpr (sameContent_replica htyped)

theorem sourceHash_replica (htyped : WellTyped src) : sourceHash renderer encoding
        (replica renderer encoding src targetNamespace targetName) =
      sourceHash renderer encoding src := by
  rw [sourceHash, canonicalPayload_replica htyped]
  rfl

end Rendered

/-! ## The view commutes with rendering -/

section View

variable {renderer : Renderer} {encoding : RawEncoding J}
  {content src : RawContent J} {targetNamespace targetName : String}

variable {left right : RawContent J} {field : String}

theorem topString_congr {key : String} (hkey : left.lookup key = right.lookup key) :
    topString left key = topString right key := by
  simp only [topString, hkey]

theorem metadata_canonicalPayload : metadata (canonicalPayload renderer content) =
      reducedMetadata renderer (content.erase "status") := by
  have hlookup : (canonicalPayload renderer content).lookup "metadata" =
      nonemptyObject (reducedMetadata renderer (content.erase "status")) :=
    (lookup_canonicalPayload "metadata").trans (if_pos rfl)
  unfold metadata
  rw [hlookup]
  by_cases hempty : reducedMetadata renderer (content.erase "status") = ∅
  · rw [hempty, nonemptyObject_empty]
  · rw [nonemptyObject_of_ne hempty]

theorem rawMap_canonicalPayload (hfield : field = "labels" ∨ field = "annotations") :
    rawMap (canonicalPayload renderer content) field = cleaned renderer content field := by
  have hlookup : (metadata (canonicalPayload renderer content)).lookup field =
      nonemptyObject (cleaned renderer content field) := by
    rw [metadata_canonicalPayload, lookup_reducedMetadata]
    rcases hfield with rfl | rfl
    · rw [if_neg (by decide), if_pos rfl, cleaned_erase_status]
    · rw [if_pos rfl, cleaned_erase_status]
  unfold rawMap
  rw [hlookup]
  by_cases hempty : cleaned renderer content field = ∅
  · rw [hempty, nonemptyObject_empty]
  · rw [nonemptyObject_of_ne hempty]

theorem allText_cleaned (htext : RawMap.AllText (rawMap content field)) :
    RawMap.AllText (cleaned renderer content field) := by
  rw [RawMap.allText_iff] at htext ⊢
  intro key entry hentry
  unfold cleaned at hentry
  rw [Finmap.lookup_filterKeys] at hentry
  split_ifs at hentry
  exact htext key entry hentry

theorem strings_cleaned (field : String) : RawMap.strings (cleaned renderer content field) =
      renderer.cleanStrippedKeys (RawMap.strings (rawMap content field)) := by
  apply Finmap.ext_lookup
  intro key
  unfold RawMap.strings cleaned Renderer.cleanStrippedKeys
  rw [Finmap.lookup_mapValues, Finmap.lookup_filterKeys,
    Finmap.lookup_filterKeys, Finmap.lookup_mapValues]
  split_ifs <;> rfl

/-- The typed reading of the payload is the cleaned typed reading of the
object. -/
theorem nestedStringMap_canonicalPayload (hfield : field = "labels" ∨ field = "annotations")
    (htext : RawMap.AllText (rawMap content field)) :
    (nestedStringMap (canonicalPayload renderer content) field).getD ∅ = renderer.cleanStrippedKeys
        ((nestedStringMap content field).getD ∅) := by
  have hraw : rawMap (canonicalPayload renderer content) field =
      cleaned renderer content field := rawMap_canonicalPayload hfield
  rw [nestedStringMap_getD (by rw [hraw]; exact allText_cleaned htext), hraw,
    strings_cleaned, nestedStringMap_getD htext]

theorem lookup_view_fields (key : String) : (view encoding content).fields.lookup [key] =
      if key = "metadata" then none
      else (content.lookup key).map encoding.value := by
  refine (Finmap.lookup_mapEntries topLevelPath _ _ key).trans ?_
  split_ifs with hkey
  · rw [hkey, Finmap.lookup_erase, Option.map_none]
  · rw [Finmap.lookup_erase_ne hkey]

theorem lookup_view_fields_of_ne {path : List String} (hpath : ∀ key, path ≠ [key]) :
    (view encoding content).fields.lookup path = none :=
  Finmap.lookup_mapEntries_of_notMem _ _ _ fun key => (hpath key).symm

/-- The fields of the view without the status, whenever the object outside
metadata is the other one without its status. -/
theorem view_fields_eq_filter
    (hsame : ∀ key, key ≠ "metadata" → left.lookup key =
      if key = "status" then none else right.lookup key) :
    (view encoding left).fields = (view encoding right).fields.filterKeys
        fun path => path.head? ≠ some "status" := by
  apply Finmap.ext_lookup
  intro path
  rw [Finmap.lookup_filterKeys]
  by_cases hpath : ∃ key, path = [key]
  · obtain ⟨key, rfl⟩ := hpath
    rw [lookup_view_fields, lookup_view_fields]
    by_cases hmetadata : key = "metadata"
    · simp [hmetadata]
    · rw [if_neg hmetadata, if_neg hmetadata, hsame key hmetadata]
      by_cases hstatus : key = "status"
      · simp [hstatus]
      · simp [hstatus]
  · have hnone : ∀ key, path ≠ [key] := fun key heq => hpath ⟨key, heq⟩
    rw [lookup_view_fields_of_ne hnone, lookup_view_fields_of_ne hnone, ite_self]

theorem view_groupVersionKind_congr
    (hversion : left.lookup "apiVersion" = right.lookup "apiVersion")
    (hkind : left.lookup "kind" = right.lookup "kind") :
    (view encoding left).groupVersionKind = (view encoding right).groupVersionKind := by
  simp only [view, getKind, topString_congr hversion, topString_congr hkind]

theorem canonicalPayload_view (htyped : WellTyped content) :
    renderer.canonicalPayload (view encoding content) =
      payloadView encoding (canonicalPayload renderer content) := by
  have hrest : ∀ key, key ≠ "metadata" → (canonicalPayload renderer content).lookup key =
        if key = "status" then none else content.lookup key := by
    intro key hkey
    rw [lookup_canonicalPayload, if_neg hkey]
  unfold Renderer.canonicalPayload payloadView
  rw [CanonicalPayload.mk.injEq]
  refine ⟨?_, ?_, ?_, ?_⟩
  · refine (view_groupVersionKind_congr ?_ ?_).symm
    · rw [hrest _ (by decide), if_neg (by decide)]
    · rw [hrest _ (by decide), if_neg (by decide)]
  · exact (nestedStringMap_canonicalPayload (.inl rfl) htyped.labels).symm
  · exact (nestedStringMap_canonicalPayload (.inr rfl) htyped.annotations).symm
  · exact (view_fields_eq_filter hrest).symm

theorem sourceHash_view (htyped : WellTyped content) : renderer.sourceHash (view encoding content) =
      sourceHash renderer encoding content := by
  rw [Renderer.sourceHash, canonicalPayload_view htyped]
  rfl

theorem nestedString_of_stringField {value : String}
    (hlookup : (metadata content).lookup field = stringField value) :
    nestedString content field = value := by
  unfold nestedString
  rw [hlookup, stringField]
  split_ifs with hvalue
  · exact hvalue.symm
  · rfl

theorem lookup_view_metadata (field : String) : (view encoding content).metadata.lookup field =
      if field ∈ namedMetadata then none
      else ((metadata content).lookup field).map encoding.field := by
  refine (Finmap.lookup_mapValues _ _ field).trans ?_
  rw [Finmap.lookup_filterKeys]
  by_cases hnamed : field ∈ namedMetadata
  · simp [hnamed]
  · simp [hnamed]

/-- Among the fields the model keeps apart from the named ones, a replica
lacks the server-managed ones. -/
theorem replicaField_of_notMem (hfield : field ∉ namedMetadata) :
    replicaField renderer encoding src targetNamespace targetName field =
      if field ∈ serverManagedMetadataFields then none
      else (metadata src).lookup field := by
  simp only [namedMetadata, List.mem_cons, List.not_mem_nil, or_false, not_or] at hfield
  simp only [replicaField, labelledField, bareField, hfield, if_false]

/-- Rendering the JSON and rendering the model's object are the same. -/
theorem view_replica (htyped : WellTyped src) : view encoding
        (replica renderer encoding src targetNamespace targetName) =
      (renderer.render (view encoding src) targetNamespace targetName).1 := by
  have hshape : Reshapes (replicaField renderer encoding src targetNamespace targetName) src _ :=
    replica_reshapes htyped.hasMetadata
  have hrest : ∀ key, key ≠ "metadata" →
      (replica renderer encoding src targetNamespace targetName).lookup key =
        if key = "status" then none else src.lookup key := by
    intro key hkey
    rw [hshape.outside key hkey]
    split_ifs with hstatus
    · rw [hstatus, Finmap.lookup_erase]
    · exact Finmap.lookup_erase_ne hstatus
  unfold Renderer.render K8sR8r.stripServerManaged
  dsimp only
  rw [Unstructured.mk.injEq]
  refine ⟨?_, ?_, ?_, ?_, ?_, ?_, ?_, ?_⟩
  · apply view_groupVersionKind_congr
    · rw [hrest _ (by decide), if_neg (by decide)]
    · rw [hrest _ (by decide), if_neg (by decide)]
  · exact nestedString_of_stringField (hshape.metadata "namespace")
  · exact nestedString_of_stringField (hshape.metadata "name")
  · have hnone : (metadata (replica renderer encoding src targetNamespace
        targetName)).lookup "uid" = none := hshape.metadata "uid"
    have huid : getUID (replica renderer encoding src targetNamespace targetName) = "" := by
      simp only [getUID, nestedString, hnone]
    exact huid
  · simp only [view, getLabels_replica htyped.hasMetadata, Option.getD_some]
    rfl
  · simp only [view, getAnnotations_replica htyped.hasMetadata, Option.getD_some]
    rw [← sourceHash_view htyped]
    rfl
  · apply Finmap.ext_lookup
    intro field
    rw [lookup_view_metadata, Finmap.lookup_filterKeys, lookup_view_metadata]
    by_cases hnamed : field ∈ namedMetadata
    · rw [if_pos hnamed, if_pos hnamed, ite_self]
    · rw [if_neg hnamed, if_neg hnamed, hshape.metadata, replicaField_of_notMem hnamed]
      by_cases hmanaged : field ∈ serverManagedMetadataFields
      · simp [hmanaged]
      · simp [hmanaged]
  · exact view_fields_eq_filter hrest

end View

end RawContent

end K8sR8r
