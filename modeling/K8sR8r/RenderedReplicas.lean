import K8sR8r.RawRendering

/-!
# What a rendered replica carries, and when it is written again

Rendering is a frame statement about the whole JSON object: every field, label
and annotation of the replica is accounted for.  The hash on it covers exactly
what it carries over, so a replica that nobody touched is left alone.
-/

namespace K8sR8r

open Interaction

variable {J : Type}

namespace RawContent

/-! ## The replica, field by field -/

/-- The replica carries the payload of the source, no status and no
server-managed metadata, and exactly the intended labels and annotations. -/
structure Carries
    (renderer : Renderer) (encoding : RawEncoding J)
    (src rep : RawContent J) : Prop where
  payload : ∀ key, key ≠ "metadata" → key ≠ "status" →
    rep.lookup key = src.lookup key
  noStatus : rep.lookup "status" = none
  unmanaged : ∀ field ∈ serverManagedMetadataFields,
    (metadata rep).lookup field = none
  rest : ∀ field, field ∉ namedMetadata →
    field ∉ serverManagedMetadataFields →
      (metadata rep).lookup field = (metadata src).lookup field
  labels : ∃ labels,
    (metadata rep).lookup "labels" =
      some (.object (RawMap.ofStrings labels)) ∧
    ∀ key, labels.lookup key = (identityLabel renderer src key).or
      (if renderer.isStrippedKey key then none else labelOf src key)
  annotations : ∃ ann,
    (metadata rep).lookup "annotations" =
      some (.object (RawMap.ofStrings ann)) ∧
    ∀ key, ann.lookup key =
      if key = annotationSourceHash then
        some (sourceHash renderer encoding src)
      else if renderer.isStrippedKey key then none
      else annotationOf src key

/-- The same object but for the values of the identity labels. -/
structure SameButIdentity (before after : RawContent J) : Prop where
  outside : SameOutside before after
  metadata : ∀ field, field ≠ "labels" →
    (metadata after).lookup field = (metadata before).lookup field
  labels : ∀ key, key ∉ identityLabelKeys →
    (rawMap after "labels").lookup key = (rawMap before "labels").lookup key

section Carrying

variable {renderer : Renderer} {encoding : RawEncoding J}
  {src : RawContent J} {targetNamespace targetName : String}

theorem replicaField_serverManaged {field : String} (hfield : field ∈ serverManagedMetadataFields) :
    replicaField renderer encoding src targetNamespace targetName field =
      none := by
  have hnamed : ∀ other ∈ serverManagedMetadataFields,
      other ≠ "annotations" ∧ other ≠ "labels" ∧ other ≠ "name" ∧ other ≠ "namespace" := by decide
  obtain ⟨hann, hlabels, hname, hns⟩ := hnamed field hfield
  simp only [replicaField, labelledField, bareField, hann, hlabels, hname,
    hns, hfield, if_false, if_true]

theorem carries_replica (htyped : WellTyped src) : Carries renderer encoding src
      (replica renderer encoding src targetNamespace targetName) := by
  have hshape : Reshapes (replicaField renderer encoding src targetNamespace targetName) src _ :=
    replica_reshapes htyped.hasMetadata
  refine ⟨(sameContent_replica htyped).payload, ?_, ?_, ?_,
    ⟨_, hshape.metadata "labels", ?_⟩, ⟨_, hshape.metadata "annotations", ?_⟩⟩
  · rw [hshape.outside _ (by decide)]
    exact Finmap.lookup_erase _ _
  · intro field hfield
    rw [hshape.metadata, replicaField_serverManaged hfield]
  · intro field hnamed hmanaged
    rw [hshape.metadata, replicaField_of_notMem hnamed, if_neg hmanaged]
  · intro key
    rw [lookup_identityLabels, lookup_travelling]
    rfl
  · intro key
    rw [Finmap.lookup_insert_eq, lookup_travelling]
    rfl

theorem hasRequest_of_carries {rep : RawContent J} (carries : Carries renderer encoding src rep) :
    hasRequest ((getAnnotations rep).getD ∅) = false := by
  obtain ⟨ann, hlookup, hann⟩ := carries.annotations
  have hkeys : ∀ key ∈ requestKeys, key ≠ annotationSourceHash ∧
      hasPrefix key r8rKeyStart = true := by decide
  have hget : getAnnotations rep = some ann := nestedStringMap_of_lookup hlookup
  rw [hget, Option.getD_some, hasRequest, List.any_eq_false]
  intro key hkey
  obtain ⟨hne, hstart⟩ := hkeys key hkey
  have hstripped : renderer.isStrippedKey key = true := by
    simp [Renderer.isStrippedKey, hstart]
  rw [hann, if_neg hne, if_pos hstripped]
  simp

theorem getName_replica (htyped : WellTyped src) :
    getName (replica renderer encoding src targetNamespace targetName) =
      if targetName = "" then getName src else targetName :=
  nestedString_of_stringField ((replica_reshapes htyped.hasMetadata).metadata "name")

theorem travelling_annotations_replica (htyped : WellTyped src) :
    travelling renderer (getAnnotations
        (replica renderer encoding src targetNamespace targetName)) =
      travelling renderer (getAnnotations src) := by
  have hstripped : renderer.isStrippedKey annotationSourceHash = true := by
    have hstart : hasPrefix annotationSourceHash r8rKeyStart = true := by
      decide
    simp [Renderer.isStrippedKey, hstart]
  apply Finmap.ext_lookup
  intro key
  rw [getAnnotations_replica htyped.hasMetadata, lookup_travelling,
    Option.getD_some, Finmap.lookup_insert_eq, lookup_travelling]
  by_cases hkey : key = annotationSourceHash
  · simp [hkey, hstripped]
  · rw [if_neg hkey]
    split_ifs <;> rfl

theorem lookup_labels_replica (htyped : WellTyped src) {key : String}
    (hkey : key ∉ identityLabelKeys) :
    (rawMap (replica renderer encoding src targetNamespace targetName) "labels").lookup key =
      ((travelling renderer (getLabels src)).lookup key).map .text := by
  rw [rawMap_of_lookup ((replica_reshapes htyped.hasMetadata).metadata
    "labels"), RawMap.ofStrings, Finmap.lookup_mapValues,
    lookup_identityLabels, identityLabel_eq_none hkey, Option.none_or]

/-- Rendering the replica for its own slot again changes its identity labels
only: its hash is the hash of the source. -/
theorem replica_again (htyped : WellTyped src) : SameButIdentity
      (replica renderer encoding src targetNamespace targetName)
      (replica renderer encoding (replica renderer encoding src targetNamespace targetName)
        targetNamespace targetName) := by
  have hshape : Reshapes (replicaField renderer encoding src targetNamespace targetName) src
      (replica renderer encoding src targetNamespace targetName) :=
    replica_reshapes htyped.hasMetadata
  have hagain : WellTyped (replica renderer encoding src targetNamespace targetName) :=
    wellTyped_replica htyped.hasMetadata
  have hcarries : Carries renderer encoding src
      (replica renderer encoding src targetNamespace targetName) :=
    carries_replica htyped
  refine ⟨?_, ?_, ?_⟩
  · intro key hkey
    rw [(replica_reshapes hagain.hasMetadata).outside key hkey]
    by_cases hstatus : key = "status"
    · rw [hstatus, Finmap.lookup_erase, hcarries.noStatus]
    · exact Finmap.lookup_erase_ne hstatus
  · intro field hlabels
    rw [(replica_reshapes hagain.hasMetadata).metadata field]
    by_cases hann : field = "annotations"
    · rw [hann, hshape.metadata, replicaField, replicaField, if_pos rfl,
        if_pos rfl, travelling_annotations_replica htyped,
        sourceHash_replica htyped]
    · rw [replicaField, if_neg hann, labelledField, if_neg hlabels]
      unfold bareField
      by_cases hname : field = "name"
      · rw [hname, if_pos rfl, hshape.metadata, getName_replica htyped]
        split_ifs with hempty
        · simp [replicaField, labelledField, bareField, hempty]
        · simp [replicaField, labelledField, bareField, hempty]
      · rw [if_neg hname]
        by_cases hns : field = "namespace"
        · rw [hns, if_pos rfl, hshape.metadata]
          rfl
        · rw [if_neg hns]
          split_ifs with hmanaged
          · exact (hcarries.unmanaged field hmanaged).symm
          · rfl
  · intro key hkey
    rw [lookup_labels_replica hagain hkey, lookup_labels_replica htyped hkey,
      lookup_travelling, getLabels_replica htyped.hasMetadata,
      Option.getD_some, lookup_identityLabels, identityLabel_eq_none hkey,
      Option.none_or, lookup_travelling]
    split_ifs <;> rfl

end Carrying

section Rendering

variable {renderer : Renderer} {encoding : RawEncoding J} {heap : Heap J}
  {src : Nat} {targetNamespace targetName : String}

theorem render_replica (hsrc : src < heap.next) : (render renderer encoding heap src targetNamespace
        targetName).heap.load
        (render renderer encoding heap src targetNamespace targetName).rep =
      replica renderer encoding (heap.load src) targetNamespace
        targetName :=
  (render_load hsrc heap.next).trans (if_pos rfl)

/-- The whole of what rendering does: the replica carries what it should, asks
for nothing, would be rendered to itself but for the identity labels, and no
object that existed before has changed. -/
theorem render_carries_intended (renderer : Renderer) (encoding : RawEncoding J)
    (targetNamespace targetName : String)
    (hsrc : src < heap.next)
    (htyped : WellTyped (heap.load src)) :
    let out := render renderer encoding heap src targetNamespace targetName
    let rep := out.heap.load out.rep
    let again := render renderer encoding out.heap out.rep targetNamespace targetName
    Carries renderer encoding (heap.load src) rep ∧
    hasRequest ((getAnnotations rep).getD ∅) = false ∧
    SameButIdentity rep (again.heap.load again.rep) ∧
    ∀ ptr < heap.next, out.heap.load ptr = heap.load ptr := by
  intro out rep again
  have hrep : rep = replica renderer encoding (heap.load src)
      targetNamespace targetName := render_replica hsrc
  have hagain : again.heap.load again.rep = replica renderer encoding rep
      targetNamespace targetName :=
    render_replica (Nat.lt_succ_self heap.next)
  have hcarries : Carries renderer encoding (heap.load src) rep := by
    rw [hrep]
    exact carries_replica htyped
  refine ⟨hcarries, hasRequest_of_carries hcarries, ?_, ?_⟩
  · rw [hagain, hrep]
    exact replica_again htyped
  · intro ptr hptr
    exact (render_load hsrc ptr).trans (if_neg hptr.ne)

/-- Editing the JSON of the copy in place comes to the same object and the same
hash as rendering by value. -/
theorem render_refines
    (hsrc : src < heap.next)
    (htyped : WellTyped (heap.load src)) :
    let out := render renderer encoding heap src targetNamespace targetName
    (view encoding (out.heap.load out.rep), out.hash) =
      renderer.render (view encoding (heap.load src)) targetNamespace targetName := by
  intro out
  refine Prod.ext ?_ (sourceHash_view htyped).symm
  rw [render_replica hsrc]
  exact view_replica htyped

end Rendering

end RawContent

namespace Sample

def rawMetadata : RawMetadata Unit :=
  ((((∅ : RawMetadata Unit).insert "name" (.text "settings")).insert
      "namespace" (.text "team")).insert
      "uid" (.text sourceUID)).insert
      "annotations" (.object (RawMap.ofStrings ((∅ : StringMap).insert keyReplicate "true")))

def rawSource : RawContent Unit :=
  (((∅ : RawContent Unit).insert "apiVersion" (.text "v1")).insert
      "kind" (.text "ConfigMap")).insert "metadata" (.object rawMetadata)

def rawHeap : Heap Unit :=
  ⟨1, fun _ => rawSource⟩

def rawEncoding : RawEncoding Unit :=
  ⟨fun _ => "", fun
    | .text value => value
    | _ => ""⟩

theorem rawSource_wellTyped : RawContent.WellTyped rawSource := by
  have hmetadata : RawContent.metadata rawSource = rawMetadata :=
    RawContent.metadata_insert
  refine ⟨RawContent.hasMetadata_insert, ?_, ?_⟩
  · have hlabels : rawMetadata.lookup "labels" = none := by decide +kernel
    rw [RawContent.rawMap, hmetadata, hlabels, RawMap.allText_iff]
    simp
  · have hann : (RawContent.metadata rawSource).lookup "annotations" =
        some (.object (RawMap.ofStrings ((∅ : StringMap).insert keyReplicate "true"))) := by
      rw [hmetadata]
      exact Finmap.lookup_insert _
    rw [RawContent.rawMap_of_lookup hann]
    exact RawMap.allText_ofStrings _

end Sample

open Sample

theorem RawContent.render_carries_intended_sample :
    RawContent.Carries engine.renderer rawEncoding rawSource
      ((RawContent.render engine.renderer rawEncoding rawHeap 0 "app" "").heap.load 1) ∧
    (RawContent.render engine.renderer rawEncoding rawHeap 0 "app" "").heap.load 0 = rawSource :=
  have hrender := RawContent.render_carries_intended engine.renderer
    rawEncoding "app" "" (by decide : 0 < rawHeap.next)
    rawSource_wellTyped
  ⟨hrender.1, hrender.2.2.2 0 (by decide)⟩

theorem RawContent.render_refines_sample :
    RawContent.view rawEncoding
      ((RawContent.render engine.renderer rawEncoding rawHeap 0 "app" "").heap.load 1) =
      (engine.renderer.render (RawContent.view rawEncoding rawSource) "app" "").1 :=
  congrArg Prod.fst (RawContent.render_refines (by decide : 0 < rawHeap.next)
    rawSource_wellTyped)

/-! ## An untouched replica is not written -/

section Untouched

variable {config : EngineConfig} {servers : SpokeServers} {src : Unstructured}
  {slot : SlotInfo} {allowed : List ConflictPolicy} {existing : SpokeObject}
  {spokes : OwnedSpokes}

/-- The marks and the hash of an object at a slot are those of the source. -/
structure Converged
    (config : EngineConfig) (src existing : Unstructured) : Prop where
  managed : isManagedReplica existing.labels src.uid = true
  recorded : StringMap.get existing.annotations annotationSourceHash =
    config.renderer.sourceHash src
  observed : config.renderer.sourceHash existing =
    config.renderer.sourceHash src

theorem ensureNamespace_untouching (gvk : GroupVersionKind) {allowCreate : Bool} :
    Safe servers.semantics (fun _ call => call.SparesSlot (slot.key gvk))
      (ensureNamespace slot.cluster slot.ns allowCreate)
      (fun _ current =>
        current (slot.key gvk) = spokes (slot.key gvk)) spokes := by
  unfold ensureNamespace
  refine Safe.undisturbed_perform trivial ?_
  rintro reply after ⟨hget, rfl⟩
  cases reply with
  | ok found => exact Safe.undisturbed_done rfl
  | error err =>
    dsimp only
    split_ifs with hfound
    · exact Safe.undisturbed_done rfl
    · exact Safe.undisturbed_done rfl
    · rw [Bool.not_eq_true', Bool.not_eq_false] at hfound
      rw [Spokes.AnswersGet, if_pos hfound] at hget
      have hne : slot.key gvk ≠ namespaceSlot slot.cluster slot.ns :=
        key_ne_namespaceSlot hget.1 _ _ _
      refine Safe.undisturbed_perform hne.symm ?_
      intro reply later answer
      cases reply with
      | ok _ =>
        obtain ⟨_, _, rfl⟩ := answer
        exact Safe.undisturbed_done (Function.update_of_ne hne _ _)
      | error err =>
        obtain ⟨rfl, _⟩ := answer
        exact Safe.undisturbed_done rfl

theorem convergeExisting_rests {existing : Unstructured}
    (converged : Converged config src existing) (desired : Unstructured) :
    convergeExisting config src src.groupVersionKind slot allowed desired
      (config.renderer.sourceHash src) existing =
      pure .ready := by
  have haction : (decideConflict config.renderer existing src
      (config.renderer.sourceHash src) allowed).action = .apply := by
    unfold decideConflict
    rw [if_pos converged.managed]
  unfold convergeExisting
  dsimp only
  rw [haction]
  dsimp only
  rw [if_neg]
  simp [converged.recorded, converged.observed]

theorem convergeSlot_rests (hexisting : spokes (slot.key src.groupVersionKind) = some existing)
    (converged : Converged config src existing.view) :
    Safe servers.semantics (fun _ call => call.SparesSlot (slot.key src.groupVersionKind))
      (convergeSlot config src src.groupVersionKind slot allowed)
      (fun _ _ => True) spokes := by
  unfold convergeSlot
  dsimp only
  refine Safe.undisturbed_perform trivial ?_
  rintro reply after ⟨hget, rfl⟩
  cases reply with
  | error err =>
    dsimp only
    by_cases hfound : err.isNotFound = true
    · rw [Spokes.AnswersGet, if_pos hfound] at hget
      have hnone : after (slot.key src.groupVersionKind) = none :=
        Option.map_eq_none_iff.mp hget.2
      rw [hexisting] at hnone
      cases hnone
    · rw [if_neg hfound]
      exact Safe.undisturbed_done trivial
  | ok found =>
    obtain ⟨other, hother, rfl⟩ := Option.map_eq_some_iff.mp hget.2
    obtain rfl : existing = other :=
      Option.some.inj (hexisting.symm.trans hother)
    dsimp only
    rw [if_neg (not_stripped_of_managed converged.managed),
      config.renderer.render_hash, convergeExisting_rests converged]
    exact Safe.undisturbed_done trivial

variable {inv : List InventoryEntry}

theorem settleSlot_untouching {nn : NamespacedName} {gvk : GroupVersionKind} {hash : String}
    (key : SlotKey) (verdict : SlotVerdict) :
    Safe servers.semantics (fun _ call => call.SparesSlot key)
      (settleSlot nn gvk slot hash inv verdict) (fun _ _ => True) spokes := by
  cases verdict with
  | retry reason message =>
    refine Safe.undisturbed_call trivial fun _ _ _ => ?_
    exact Safe.undisturbed_done trivial
  | refused reason message => exact Safe.undisturbed_done trivial
  | ready =>
    refine Safe.undisturbed_call trivial fun _ _ _ => ?_
    refine Safe.undisturbed_call trivial fun _ _ _ => ?_
    exact Safe.undisturbed_done trivial

theorem applyTarget_rests {nn : NamespacedName} {eff : EffectiveOptions}
    (hexisting : spokes (slot.key src.groupVersionKind) = some existing)
    (converged : Converged config src existing.view) :
    Safe servers.semantics (fun _ call => call.SparesSlot (slot.key src.groupVersionKind))
      (applyTarget config nn src src.groupVersionKind slot eff inv)
      (fun _ _ => True) spokes := by
  unfold applyTarget
  refine Safe.seq (ensureNamespace_untouching src.groupVersionKind) ?_
  intro result current hkept
  cases result with
  | missing text =>
    refine Safe.undisturbed_call trivial fun _ _ _ => ?_
    exact Safe.undisturbed_done trivial
  | failed err => exact settleSlot_untouching _ _
  | ensured =>
    refine Safe.seq (convergeSlot_rests (hkept.trans hexisting) converged) ?_
    intro verdict later _
    exact settleSlot_untouching _ _

end Untouched

namespace RawContent

/-- The object has the payload, the labels and the annotations of the
replica. -/
structure Untouched (rep live : RawContent J) : Prop where
  payload : ∀ key, key ≠ "metadata" → key ≠ "status" →
    live.lookup key = rep.lookup key
  labels : getLabels live = getLabels rep
  annotations : getAnnotations live = getAnnotations rep

theorem Untouched.sameContent {rep live : RawContent J} (untouched : Untouched rep live)
    (renderer : Renderer) : SameContent renderer live rep :=
  ⟨untouched.payload, fun key _ => by rw [labelOf, untouched.labels, labelOf],
    fun key _ => by rw [annotationOf, untouched.annotations, annotationOf]⟩

variable {encoding : RawEncoding J}

theorem converged_of_untouched {config : EngineConfig} {src live : RawContent J}
    {targetNamespace targetName : String} (htyped : WellTyped src) (hlive : WellTyped live)
    (untouched : Untouched (replica config.renderer encoding src targetNamespace targetName) live) :
    Converged config (view encoding src) (view encoding live) := by
  have hpayload : canonicalPayload config.renderer live = canonicalPayload config.renderer src :=
    (canonicalPayload_eq_iff_sameContent hlive htyped).mpr
      ((untouched.sameContent _).trans (sameContent_replica htyped))
  have hhash : sourceHash config.renderer encoding live =
      sourceHash config.renderer encoding src := by
    rw [sourceHash, hpayload]
    rfl
  refine ⟨?_, ?_, ?_⟩
  · have hlabels : (view encoding live).labels = config.renderer.identityLabels (view encoding src)
          (travelling config.renderer (getLabels src)) := by
      simp only [view, untouched.labels, getLabels_replica htyped.hasMetadata, Option.getD_some]
      rfl
    rw [hlabels]
    simp [isManagedReplica, StringMap.get,
      Renderer.identityLabels_managedBy, Renderer.identityLabels_sourceUID]
  · have hann : (view encoding live).annotations =
        (travelling config.renderer (getAnnotations src)).insert
          annotationSourceHash (sourceHash config.renderer encoding src) := by
      simp only [view, untouched.annotations,
        getAnnotations_replica htyped.hasMetadata, Option.getD_some]
    rw [hann, StringMap.get_insert_self, sourceHash_view htyped]
  · rw [sourceHash_view hlive, sourceHash_view htyped, hhash]

/-- The hash covers exactly what rendering keeps: equal payloads mean equal
content with the replica, the replica carries its own hash, and converging a
slot that holds the replica as it was written sends no write there. -/
theorem hash_covers_rendered (config : EngineConfig) (encoding : RawEncoding J) (slot : SlotInfo)
    {heap : Heap J} {src : Nat} {other : RawContent J}
    (hsrc : src < heap.next)
    (htyped : WellTyped (heap.load src))
    (hother : WellTyped other) :
    let out := render config.renderer encoding heap src slot.ns slot.name
    let rep := out.heap.load out.rep
    let source := view encoding (heap.load src)
    (canonicalPayload config.renderer other = canonicalPayload config.renderer (heap.load src) ↔
      SameContent config.renderer other rep) ∧
    canonicalPayload config.renderer rep = canonicalPayload config.renderer (heap.load src) ∧
    annotationOf rep annotationSourceHash = some (sourceHash config.renderer encoding rep) ∧
    ∀ (servers : SpokeServers) (nn : NamespacedName) (eff : EffectiveOptions)
        (inv : List InventoryEntry) (before after : OwnedSpokes)
        (trace : List (Exchange OwnedSpokes EngineCall.Reply))
        (rest : EngineProgram TargetOutcome) (existing : SpokeObject) (live : RawContent J),
      before (slot.key source.groupVersionKind) = some existing →
      existing.view = view encoding live →
      WellTyped live →
      Untouched rep live →
      Run servers.semantics before
        (applyTarget config nn source source.groupVersionKind slot eff inv) trace after rest →
      ∀ exchange ∈ trace, exchange.request.SparesSlot (slot.key source.groupVersionKind) := by
  intro out rep source
  have hrep : rep = replica config.renderer encoding (heap.load src) slot.ns
      slot.name := render_replica hsrc
  have hcontent : SameContent config.renderer rep (heap.load src) := by
    rw [hrep]
    exact sameContent_replica htyped
  have hpayload : canonicalPayload config.renderer rep =
      canonicalPayload config.renderer (heap.load src) := by
    rw [hrep]
    exact canonicalPayload_replica htyped
  refine ⟨?_, hpayload, ?_, ?_⟩
  · rw [canonicalPayload_eq_iff_sameContent hother htyped]
    exact ⟨fun same => same.trans hcontent.symm, fun same => same.trans hcontent⟩
  · rw [hrep, sourceHash_replica htyped, annotationOf,
      getAnnotations_replica htyped.hasMetadata, Option.getD_some,
      Finmap.lookup_insert]
  · intro servers nn eff inv before after trace rest existing live hexisting
      hview hlive untouched hrun
    have converged : Converged config source existing.view := by
      rw [hview]
      rw [hrep] at untouched
      exact converged_of_untouched htyped hlive untouched
    exact ((applyTarget_rests hexisting converged).run hrun).1

end RawContent

namespace Sample

def rawReplica : RawContent Unit :=
  (RawContent.render engine.renderer rawEncoding rawHeap 0 "app" "settings").heap.load 1

def writtenReplica : SpokeObject :=
  let obj := RawContent.view rawEncoding rawReplica
  { groupVersionKind := obj.groupVersionKind
    ns := obj.ns
    name := obj.name
    uid := obj.uid
    labels := ownedBy managedByValue obj.labels
    annotations := ownedBy managedByValue obj.annotations
    metadata := obj.metadata
    fields := ownedBy managedByValue obj.fields }

def written : OwnedSpokes :=
  fun other => if other = slot then some writtenReplica else labelledSpokes "" other

def converging : Execution OwnedSpokes EngineCall.Reply TargetOutcome :=
  let source := RawContent.view rawEncoding rawSource
  execute handleOwned (applyTarget engine key source source.groupVersionKind target
    ⟨false, [], .delete⟩ []) written

end Sample

/-- The source has the content of its rendered replica, whose slot is converged
without a write. -/
theorem RawContent.hash_covers_rendered_sample :
    SameContent engine.renderer rawSource rawReplica ∧
    canonicalPayload engine.renderer rawReplica = canonicalPayload engine.renderer rawSource ∧
    annotationOf rawReplica annotationSourceHash =
      some (sourceHash engine.renderer rawEncoding rawReplica) ∧
    converging.value.state.ready = true ∧
    ∀ exchange ∈ converging.trace, exchange.request.SparesSlot slot := by
  have hreplica : rawReplica = replica engine.renderer rawEncoding
      rawSource "app" "settings" := render_replica (by decide : 0 < rawHeap.next)
  have htyped := rawSource_wellTyped
  have hlive : WellTyped rawReplica := by
    rw [hreplica]
    exact wellTyped_replica htyped.hasMetadata
  obtain ⟨hcontent, hpayload, hhash, hspares⟩ := hash_covers_rendered engine
    rawEncoding target (by decide : 0 < rawHeap.next) htyped htyped
  have hslot : target.key (view rawEncoding rawSource).groupVersionKind =
      slot := by
    decide +kernel
  refine ⟨hcontent.mp rfl, hpayload, hhash, by decide +kernel, ?_⟩
  rw [← hslot]
  refine hspares servers key _ [] written _ _ _ writtenReplica
    rawReplica ?_ rfl hlive ⟨fun _ _ _ => rfl, rfl, rfl⟩
    (run_execute (execute_answered answers_handleOwned _ _))
  exact if_pos hslot

end K8sR8r
