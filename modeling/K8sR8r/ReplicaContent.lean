import K8sR8r.FieldManagers
import K8sR8r.FleetSimulation
import K8sR8r.InteractionSafety

/-!
# What a ready replica contains

`FleetWorld` leaves open which entries survive a server-side apply.  Here every
label, annotation and field of a spoke object has its owners, so that the
object an apply leaves behind is determined, and a slot reported as ready can
be compared with its source.
-/

namespace K8sR8r

open Interaction FieldManagers

/-- A spoke object with the field managers of its entries. -/
structure SpokeObject where
  groupVersionKind : GroupVersionKind
  ns : String
  name : String
  uid : String
  labels : OwnedMap String String
  annotations : OwnedMap String String
  metadata : StringMap
  fields : OwnedMap (List String) String

namespace SpokeObject

def view (obj : SpokeObject) : Unstructured where
  groupVersionKind := obj.groupVersionKind
  ns := obj.ns
  name := obj.name
  uid := obj.uid
  labels := obj.labels.entries
  annotations := obj.annotations.entries
  metadata := obj.metadata
  fields := obj.fields.entries

def applied (manager : String) (existing : Option SpokeObject) (payload : Unstructured) :
    SpokeObject where
  groupVersionKind := payload.groupVersionKind
  ns := payload.ns
  name := payload.name
  uid := (existing.map SpokeObject.uid).getD ""
  labels := ((existing.map SpokeObject.labels).getD .empty).apply manager payload.labels
  annotations := ((existing.map SpokeObject.annotations).getD .empty).apply
    manager payload.annotations
  metadata := (existing.map SpokeObject.metadata).getD ∅
  fields := ((existing.map SpokeObject.fields).getD .empty).apply manager payload.fields

end SpokeObject

theorem appliesMap_apply {κ : Type} [DecidableEq κ] (manager : String) (map : OwnedMap κ String)
    (config : Finmap (fun _ : κ => String)) :
    AppliesMap map.entries config (map.apply manager config).entries := by
  intro key
  by_cases hkey : key ∈ config
  · obtain ⟨value, hvalue⟩ := Finmap.mem_iff.mp hkey
    rw [hvalue, OwnedMap.lookup_apply_of_mem hkey]
    exact hvalue
  · rw [Finmap.lookup_eq_none.mpr hkey, OwnedMap.lookup_apply_of_notMem hkey]
    dsimp only
    split_ifs
    · exact .inl rfl
    · exact .inr rfl

theorem SpokeObject.serverSideApply (manager : String) (existing : Option SpokeObject)
    (payload : Unstructured) :
    ServerSideApply (existing.map SpokeObject.view) payload
      (SpokeObject.applied manager existing payload).view := by
  cases existing with
  | none =>
    exact ⟨rfl, rfl, rfl, appliesMap_apply manager .empty _,
      appliesMap_apply manager .empty _, appliesMap_apply manager .empty _⟩
  | some obj =>
    exact ⟨rfl, rfl, rfl, appliesMap_apply manager obj.labels _,
      appliesMap_apply manager obj.annotations _,
      appliesMap_apply manager obj.fields _⟩

/-! ## The spokes with owners -/

abbrev OwnedSpokes := SlotKey → Option SpokeObject

def OwnedSpokes.view (spokes : OwnedSpokes) : Spokes :=
  fun slot => (spokes slot).map SpokeObject.view

def OwnedSpokes.erase (spokes : OwnedSpokes) (slot : SlotKey) :
    OwnedSpokes :=
  fun key =>
    if key = slot ∨ (slot.isNamespace = true ∧ slot.name ≠ "" ∧
        key.cluster = slot.cluster ∧ key.ns = slot.name) then none
    else spokes key

/-- The API servers of the spokes: the engine's field manager, and which
payloads they reject as invalid over what they store. -/
structure SpokeServers where
  manager : String
  rejects : Option SpokeObject → Unstructured → Prop

namespace SpokeServers

def AnswersApply (servers : SpokeServers) (spokes : OwnedSpokes) (slot : SlotKey)
    (payload : Unstructured) (reply : ApiResult Unit) (after : OwnedSpokes) :
    Prop :=
  match reply with
  | .ok () =>
    spokes.view.Admits slot ∧ ¬ servers.rejects (spokes slot) payload ∧
      after = Function.update spokes slot
        (some (SpokeObject.applied servers.manager (spokes slot) payload))
  | .error err =>
    after = spokes ∧ (err.isInvalid = true → servers.rejects (spokes slot) payload)

def AnswersDelete (spokes : OwnedSpokes) (slot : SlotKey) (reply : ApiResult Unit)
    (after : OwnedSpokes) : Prop :=
  match reply with
  | .ok () => (spokes slot).isSome = true ∧ after = spokes.erase slot
  | .error err =>
    after = spokes ∧ (err.isNotFound = true → spokes slot = none)

/-- Every transport call may fail.  The other calls do not reach a spoke. -/
def Answers (servers : SpokeServers) (spokes : OwnedSpokes) :
    (call : EngineCall) → call.Reply → OwnedSpokes → Prop
  | .transportGet cluster gvk key, reply, after =>
    spokes.view.AnswersGet True (slotOf cluster gvk key) reply ∧ after = spokes
  | .transportApply cluster obj, reply, after =>
    servers.AnswersApply spokes (slotOf cluster obj.groupVersionKind obj.key) obj reply after
  | .transportDelete cluster gvk key, reply, after =>
    AnswersDelete spokes (slotOf cluster gvk key) reply after
  | _, _, after => after = spokes

def semantics (servers : SpokeServers) : Semantics OwnedSpokes EngineCall.Reply :=
  .undisturbed servers.Answers

end SpokeServers

/-! ## Canonical content -/

namespace Renderer

variable (renderer : Renderer)

/-- The labels and annotations that count as content. -/
def keepsKey (key : String) : Bool :=
  !renderer.isStrippedKey key

def keepsPath (path : List String) : Bool :=
  path.head? ≠ some "status"

variable {key : String}

theorem keepsKey_r8r (hstart : hasPrefix key r8rKeyStart = true) :
    renderer.keepsKey key = false := by
  simp [keepsKey, isStrippedKey, hstart]

theorem keepsKey_managedBy : renderer.keepsKey labelManagedBy = false := by
  simp [keepsKey, isStrippedKey]

theorem ne_of_keepsKey {other : String} (hkey : renderer.keepsKey key = true)
    (hother : renderer.keepsKey other = false) : key ≠ other := by
  rintro rfl
  rw [hother] at hkey
  cases hkey

theorem lookup_identityLabels (src : Unstructured) (labels : StringMap)
    (hkey : renderer.keepsKey key = true) :
    (renderer.identityLabels src labels).lookup key = labels.lookup key := by
  have hne : ∀ other, hasPrefix other r8rKeyStart = true → key ≠ other :=
    fun other hstart =>
      renderer.ne_of_keepsKey hkey (renderer.keepsKey_r8r hstart)
  unfold identityLabels
  rw [Finmap.lookup_insert_of_ne _ (hne _ (by decide)),
    Finmap.lookup_insert_of_ne _ (hne _ (by decide)),
    Finmap.lookup_insert_of_ne _ (hne _ (by decide)),
    Finmap.lookup_insert_of_ne _ (hne _ (by decide)),
    Finmap.lookup_insert_of_ne _ (hne _ (by decide)),
    Finmap.lookup_insert_of_ne _ (renderer.ne_of_keepsKey hkey renderer.keepsKey_managedBy)]

theorem lookup_render_labels (src : Unstructured) (ns name : String)
    (hkey : renderer.keepsKey key = true) :
    (renderer.render src ns name).1.labels.lookup key = src.labels.lookup key := by
  refine (renderer.lookup_identityLabels src _ hkey).trans ?_
  rw [cleanStrippedKeys, Finmap.lookup_filterKeys]
  exact if_pos hkey

theorem ne_sourceHash_of_keepsKey (hkey : renderer.keepsKey key = true) :
    key ≠ annotationSourceHash :=
  renderer.ne_of_keepsKey hkey (renderer.keepsKey_r8r (by decide))

theorem lookup_render_annotations (src : Unstructured) (ns name : String)
    (hkey : renderer.keepsKey key = true) :
    (renderer.render src ns name).1.annotations.lookup key = src.annotations.lookup key := by
  refine (Finmap.lookup_insert_of_ne _ (renderer.ne_sourceHash_of_keepsKey hkey)).trans ?_
  rw [cleanStrippedKeys, Finmap.lookup_filterKeys]
  exact if_pos hkey

theorem lookup_render_fields (src : Unstructured) (ns name : String) {path : List String}
    (hpath : keepsPath path = true) :
    (renderer.render src ns name).1.fields.lookup path = src.fields.lookup path := by
  refine (Finmap.lookup_filterKeys _ _ _).trans ?_
  exact if_pos hpath

theorem canonicalPayload_eq_iff {left right : Unstructured}
    (hkind : left.groupVersionKind = right.groupVersionKind) :
    renderer.canonicalPayload left = renderer.canonicalPayload right ↔
      left.labels.filterKeys renderer.keepsKey = right.labels.filterKeys renderer.keepsKey ∧
        left.annotations.filterKeys renderer.keepsKey =
          right.annotations.filterKeys renderer.keepsKey ∧
        left.fields.filterKeys keepsPath = right.fields.filterKeys keepsPath := by
  unfold canonicalPayload
  rw [CanonicalPayload.mk.injEq]
  constructor
  · rintro ⟨_, hlabels, hannotations, hfields⟩
    exact ⟨hlabels, hannotations, hfields⟩
  · rintro ⟨hlabels, hannotations, hfields⟩
    exact ⟨hkind, hlabels, hannotations, hfields⟩

theorem canonicalPayload_render (src : Unstructured) (ns name : String) :
    renderer.canonicalPayload (renderer.render src ns name).1 = renderer.canonicalPayload src := by
  refine (renderer.canonicalPayload_eq_iff ?_).mpr ?_
  · rfl
  exact ⟨Finmap.filterKeys_eq_iff.mpr fun key hkey =>
      renderer.lookup_render_labels src ns name hkey,
    Finmap.filterKeys_eq_iff.mpr fun key hkey =>
      renderer.lookup_render_annotations src ns name hkey,
    Finmap.filterKeys_eq_iff.mpr fun path hpath =>
      renderer.lookup_render_fields src ns name hpath⟩

end Renderer

/-! ## What an apply leaves behind -/

namespace SpokeObject

variable (renderer : Renderer) (manager : String)

/-- What the source does not have belongs to the engine alone. -/
structure Surrenders (existing : SpokeObject) (src : Unstructured) : Prop where
  labels : existing.labels.Surrenders manager renderer.keepsKey src.labels
  annotations : existing.annotations.Surrenders manager renderer.keepsKey
    src.annotations
  fields : existing.fields.Surrenders manager Renderer.keepsPath src.fields

/-- None of the content belongs to the engine alone. -/
structure Shared (existing : SpokeObject) : Prop where
  labels : existing.labels.Shared manager renderer.keepsKey
  annotations : existing.annotations.Shared manager renderer.keepsKey
  fields : existing.fields.Shared manager Renderer.keepsPath

variable {renderer manager}

theorem surrenders_congr {κ : Type} [DecidableEq κ] {map : OwnedMap κ String} {view : κ → Bool}
    {config other : Finmap (fun _ : κ => String)}
    (heq : ∀ key, view key = true → config.lookup key = other.lookup key) :
    map.Surrenders manager view config ↔ map.Surrenders manager view other := by
  refine forall_congr' fun key => forall_congr' fun hview => ?_
  rw [← Finmap.lookup_eq_none, ← Finmap.lookup_eq_none, heq key hview]

variable {existing : SpokeObject} {src : Unstructured}

/-- A written replica matches its source when the object it was written over
surrenders the rest. -/
theorem applied_render_iff {ns name : String} :
    renderer.canonicalPayload
      (applied manager (some existing) (renderer.render src ns name).1).view =
      renderer.canonicalPayload src ↔
      existing.Surrenders renderer manager src := by
  rw [← renderer.canonicalPayload_render src ns name]
  have hlabels : existing.labels.Surrenders manager renderer.keepsKey
      (renderer.render src ns name).1.labels ↔ _ :=
    surrenders_congr fun key hkey =>
      renderer.lookup_render_labels src ns name hkey
  have hannotations : existing.annotations.Surrenders manager
      renderer.keepsKey (renderer.render src ns name).1.annotations ↔ _ :=
    surrenders_congr fun key hkey =>
      renderer.lookup_render_annotations src ns name hkey
  have hfields : existing.fields.Surrenders manager Renderer.keepsPath
      (renderer.render src ns name).1.fields ↔ _ :=
    surrenders_congr fun path hpath =>
      renderer.lookup_render_fields src ns name hpath
  refine (renderer.canonicalPayload_eq_iff ?_).trans ?_
  · rfl
  constructor
  · rintro ⟨h₁, h₂, h₃⟩
    exact ⟨hlabels.mp (OwnedMap.apply_eq_config_iff.mp h₁),
      hannotations.mp (OwnedMap.apply_eq_config_iff.mp h₂),
      hfields.mp (OwnedMap.apply_eq_config_iff.mp h₃)⟩
  · rintro ⟨h₁, h₂, h₃⟩
    exact ⟨OwnedMap.apply_eq_config_iff.mpr (hlabels.mpr h₁),
      OwnedMap.apply_eq_config_iff.mpr (hannotations.mpr h₂),
      OwnedMap.apply_eq_config_iff.mpr (hfields.mpr h₃)⟩

theorem applied_render_of_none (src : Unstructured) (ns name : String) :
    renderer.canonicalPayload (applied manager none (renderer.render src ns name).1).view =
      renderer.canonicalPayload src := by
  have hnothing : ∀ {κ : Type} [DecidableEq κ] (view : κ → Bool)
      (config : Finmap (fun _ : κ => String)),
      (OwnedMap.empty : OwnedMap κ String).Surrenders manager view config :=
    fun _ _ _ _ hmem => (Finmap.notMem_empty hmem).elim
  rw [← renderer.canonicalPayload_render src ns name]
  refine (renderer.canonicalPayload_eq_iff ?_).mpr ?_
  · rfl
  exact ⟨OwnedMap.apply_eq_config_iff.mpr (hnothing _ _),
    OwnedMap.apply_eq_config_iff.mpr (hnothing _ _),
    OwnedMap.apply_eq_config_iff.mpr (hnothing _ _)⟩

theorem surrenders_of_content
    (hcontent : renderer.canonicalPayload existing.view = renderer.canonicalPayload src) :
    existing.Surrenders renderer manager src := by
  have hnothing : ∀ {κ : Type} [DecidableEq κ] {map : OwnedMap κ String}
      {view : κ → Bool} {config : Finmap (fun _ : κ => String)},
      map.entries.filterKeys view = config.filterKeys view →
        map.Surrenders manager view config := by
    intro κ _ map view config heq key hview hmem hkey
    have hlookup := Finmap.filterKeys_eq_iff.mp heq key hview
    rw [Finmap.lookup_eq_none.mpr hkey] at hlookup
    exact (Finmap.lookup_eq_none.mp hlookup hmem).elim
  exact ⟨hnothing (congrArg CanonicalPayload.labels hcontent),
    hnothing (congrArg CanonicalPayload.annotations hcontent),
    hnothing (congrArg CanonicalPayload.fields hcontent)⟩

/-- An adoption keeps the content it found when nothing of it hangs on the
engine alone: the patch names no content, so the engine gives up what it
owned. -/
theorem applied_adoptPatch_iff {ns name hash : String}
    (hcontent : renderer.canonicalPayload existing.view = renderer.canonicalPayload src) :
    renderer.canonicalPayload
      (applied manager (some existing)
        (renderer.adoptPatch src src.groupVersionKind ns name hash)).view =
      renderer.canonicalPayload src ↔
      existing.Shared renderer manager := by
  have hkind : src.groupVersionKind = existing.view.groupVersionKind :=
    (congrArg CanonicalPayload.groupVersionKind hcontent).symm
  have hlabels : ∀ key, renderer.keepsKey key = true →
      key ∉ (renderer.adoptPatch src src.groupVersionKind ns name hash).labels := by
    intro key hkey
    rw [← Finmap.lookup_eq_none]
    exact renderer.lookup_identityLabels src ∅ hkey
  have hannotations : ∀ key, renderer.keepsKey key = true →
      key ∉ (renderer.adoptPatch src src.groupVersionKind ns name hash).annotations := by
    intro key hkey
    rw [← Finmap.lookup_eq_none]
    exact Finmap.lookup_insert_of_ne _ (renderer.ne_sourceHash_of_keepsKey hkey)
  have hfields : ∀ path, Renderer.keepsPath path = true →
      path ∉ (renderer.adoptPatch src src.groupVersionKind ns name
        hash).fields := fun _ _ hmem => (Finmap.notMem_empty hmem).elim
  rw [← hcontent]
  refine (renderer.canonicalPayload_eq_iff ?_).trans ?_
  · exact hkind
  constructor
  · rintro ⟨h₁, h₂, h₃⟩
    exact ⟨(OwnedMap.apply_eq_self_iff hlabels).mp h₁,
      (OwnedMap.apply_eq_self_iff hannotations).mp h₂,
      (OwnedMap.apply_eq_self_iff hfields).mp h₃⟩
  · rintro ⟨h₁, h₂, h₃⟩
    exact ⟨(OwnedMap.apply_eq_self_iff hlabels).mpr h₁,
      (OwnedMap.apply_eq_self_iff hannotations).mpr h₂,
      (OwnedMap.apply_eq_self_iff hfields).mpr h₃⟩

end SpokeObject

/-! ## Converging a slot -/

section Converging

variable {config : EngineConfig} {servers : SpokeServers} {src : Unstructured}
  {slot : SlotInfo} {allowed : List ConflictPolicy}

/-- The object found at the slot is taken over by a metadata patch. -/
def Adopts (config : EngineConfig) (src : Unstructured) (allowed : List ConflictPolicy)
    (existing : SpokeObject) : Prop :=
  classifyReplicaOwnership existing.view.labels src.uid ≠ .stripped ∧
    (decideConflict config.renderer existing.view src
      (config.renderer.sourceHash src) allowed).action = .adopt

/-- A write replaces the content: the server rejects it, so that the object is
recreated, or nobody holds on to anything else. -/
def Replaced (config : EngineConfig) (servers : SpokeServers) (src : Unstructured)
    (slot : SlotInfo) (existing : SpokeObject) : Prop :=
  servers.rejects (some existing) (config.renderer.render src slot.ns slot.name).1 ∨
    existing.Surrenders config.renderer servers.manager src

/-- The object found at the slot ends up with the content of the source,
whether it is patched or written over. -/
def Yields (config : EngineConfig) (servers : SpokeServers) (src : Unstructured) (slot : SlotInfo)
    (allowed : List ConflictPolicy) (existing : SpokeObject) : Prop :=
  (Adopts config src allowed existing → existing.Shared config.renderer servers.manager) ∧
  (¬ Adopts config src allowed existing → Replaced config servers src slot existing)

/-- The slot holds an object, and it has the content of the source exactly
under the condition. -/
def Leaves (config : EngineConfig) (src : Unstructured) (slot : SlotInfo) (condition : Prop)
    (spokes : OwnedSpokes) : Prop :=
  ∃ live, spokes (slot.key src.groupVersionKind) = some live ∧
    (config.renderer.canonicalPayload live.view = config.renderer.canonicalPayload src ↔ condition)

variable {spokes : OwnedSpokes} {existing : SpokeObject}

theorem Leaves.congr {first second : Prop} (leaves : Leaves config src slot first spokes)
    (hiff : first ↔ second) :
    Leaves config src slot second spokes := by
  obtain ⟨live, hlive, hcontent⟩ := leaves
  exact ⟨live, hlive, hcontent.trans hiff⟩

theorem emitAll_leaves {α : Type} {signals : List EngineSignal} {next : Unit → EngineProgram α}
    {post : α → OwnedSpokes → Prop}
    (safe : Safe servers.semantics unguarded (next ()) post spokes) :
    Safe servers.semantics unguarded (emitAll signals >>= next) post spokes := by
  induction signals with
  | nil => exact safe
  | cons signal rest ih =>
    rintro current rfl
    refine ⟨trivial, ?_⟩
    rintro reply after rfl
    exact ih

theorem update_leaves {key : SlotKey} {obj : SpokeObject} {condition : Prop}
    (hkey : key = slot.key src.groupVersionKind)
    (hiff : config.renderer.canonicalPayload obj.view =
      config.renderer.canonicalPayload src ↔ condition) :
    Leaves config src slot condition (Function.update spokes key (some obj)) := by
  refine ⟨obj, ?_, hiff⟩
  rw [hkey]
  exact Function.update_self _ _ _

theorem recreate_leaves (hname : slot.name ≠ "")
    (hnone : spokes (slot.key src.groupVersionKind) = none)
    (hrejects : servers.rejects (some existing) (config.renderer.render src slot.ns slot.name).1) :
    Safe servers.semantics unguarded (Program.perform (EngineCall.transportApply slot.cluster
        (config.renderer.render src slot.ns slot.name).1))
      (fun result current => result = .ok () →
        Leaves config src slot (Replaced config servers src slot existing) current) spokes := by
  have hkey : slotOf slot.cluster _ _ = slot.key src.groupVersionKind :=
    slotOf_render config.renderer fun hempty => (hname hempty).elim
  rintro current rfl
  refine ⟨trivial, ?_⟩
  rintro reply after answer current rfl rfl
  obtain ⟨_, _, rfl⟩ := answer
  refine update_leaves hkey ?_
  rw [hkey, hnone]
  exact iff_of_true (SpokeObject.applied_render_of_none src _ _) (.inl hrejects)

theorem applyWithRecreate_leaves (hname : slot.name ≠ "")
    (hexisting : spokes (slot.key src.groupVersionKind) = some existing) :
    Safe servers.semantics unguarded (applyWithRecreate slot.cluster
        (config.renderer.render src slot.ns slot.name).1)
      (fun result current => result = .ok () →
        Leaves config src slot (Replaced config servers src slot existing) current) spokes := by
  have hkey : slotOf slot.cluster _ _ = slot.key src.groupVersionKind :=
    slotOf_render config.renderer fun hempty => (hname hempty).elim
  have herror : ∀ (err : ApiError) (spokes : OwnedSpokes), Safe servers.semantics unguarded
        (Program.done (Except.error err : ApiResult Unit))
        (fun result current => result = .ok () →
          Leaves config src slot (Replaced config servers src slot existing)
            current) spokes := fun _ _ => Safe.undisturbed_done fun h => nomatch h
  unfold applyWithRecreate
  rw [Program.perform_bind]
  rintro current rfl
  refine ⟨trivial, ?_⟩
  intro reply after answer
  cases reply with
  | ok _ =>
    obtain ⟨_, haccepted, rfl⟩ := answer
    rintro current rfl _
    rw [hkey, hexisting] at haccepted
    refine update_leaves hkey ?_
    rw [hkey, hexisting]
    exact SpokeObject.applied_render_iff.trans (or_iff_right haccepted).symm
  | error err =>
    obtain ⟨rfl, hinvalid⟩ := answer
    dsimp only
    split_ifs with hother
    · exact herror err _
    · have hrejects := hinvalid (by simpa using hother)
      rw [hkey, hexisting] at hrejects
      rw [Program.perform_bind]
      rintro current rfl
      refine ⟨trivial, ?_⟩
      intro reply after answer
      cases reply with
      | ok _ =>
        obtain ⟨_, rfl⟩ := answer
        refine recreate_leaves hname ?_ hrejects
        rw [hkey]
        exact if_pos (.inl rfl)
      | error delErr =>
        obtain ⟨rfl, habsent⟩ := answer
        dsimp only
        split_ifs with hfound
        · exact herror delErr _
        · have hnone := habsent (by simpa using hfound)
          rw [hkey] at hnone
          exact recreate_leaves hname hnone hrejects

theorem writeThenEmit_leaves (hname : slot.name ≠ "")
    (hexisting : spokes (slot.key src.groupVersionKind) = some existing)
    (signals : List EngineSignal) :
    Safe servers.semantics unguarded
      (do
        match ← applyWithRecreate slot.cluster
            (config.renderer.render src slot.ns slot.name).1 with
        | .error err => pure (SlotVerdict.ofErr err)
        | .ok () => do
          emitAll signals
          pure SlotVerdict.ready)
      (fun verdict current => verdict = .ready →
        Leaves config src slot (Replaced config servers src slot existing) current) spokes := by
  refine Safe.seq (applyWithRecreate_leaves hname hexisting) ?_
  intro result current hleaves
  cases result with
  | error err => exact Safe.undisturbed_done fun h => nomatch h
  | ok _ => exact emitAll_leaves (Safe.undisturbed_done fun _ => hleaves rfl)

theorem yields_iff_shared (hadopts : Adopts config src allowed existing) :
    Yields config servers src slot allowed existing ↔
      existing.Shared config.renderer servers.manager := by
  simp [Yields, hadopts]

theorem yields_iff_replaced (hadopts : ¬ Adopts config src allowed existing) :
    Yields config servers src slot allowed existing ↔
      Replaced config servers src slot existing := by
  simp [Yields, hadopts]

theorem hash_of_decideConflict_adopt {renderer : Renderer} {existing : Unstructured}
    {hash : String}
    (haction : (decideConflict renderer existing src hash allowed).action = .adopt) :
    renderer.sourceHash existing = hash := by
  by_contra hhash
  unfold decideConflict at haction
  dsimp only at haction
  rw [if_neg hhash] at haction
  split_ifs at haction
  cases heff : effectiveConflictPolicy (requestedConflictPolicy src.annotations) allowed with
  | adopt => simp [heff] at haction
  | overwrite => simp [heff] at haction
  | fail => simp [heff] at haction
  | other text => simp [heff] at haction

theorem convergeExisting_leaves (hname : slot.name ≠ "")
    (hexisting : spokes (slot.key src.groupVersionKind) = some existing)
    (hcollision : config.renderer.sourceHash existing.view = config.renderer.sourceHash src →
      config.renderer.canonicalPayload existing.view = config.renderer.canonicalPayload src)
    (hstripped : classifyReplicaOwnership existing.view.labels src.uid ≠ .stripped) :
    Safe servers.semantics unguarded (convergeExisting config src src.groupVersionKind slot allowed
        (config.renderer.render src slot.ns slot.name).1
        (config.renderer.sourceHash src) existing.view)
      (fun verdict current => verdict = .ready → Leaves config src slot
          (Yields config servers src slot allowed existing) current)
      spokes := by
  unfold convergeExisting
  dsimp only
  split
  case h_1 => exact emitAll_leaves (Safe.undisturbed_done fun h => nomatch h)
  case h_2 haction =>
      have hadopts : Adopts config src allowed existing :=
        ⟨hstripped, haction⟩
      have hcontent := hcollision (hash_of_decideConflict_adopt haction)
      refine emitAll_leaves ?_
      rw [Program.perform_bind]
      rintro current rfl
      refine ⟨trivial, ?_⟩
      intro reply after answer
      cases reply with
      | error err => exact Safe.undisturbed_done fun h => nomatch h
      | ok _ =>
        obtain ⟨_, _, rfl⟩ := answer
        refine emitAll_leaves (Safe.undisturbed_done fun _ => ?_)
        have hkey := slotOf_adoptPatch config.renderer src
          src.groupVersionKind slot (config.renderer.sourceHash src)
        refine update_leaves hkey ?_
        rw [hkey, hexisting]
        exact (SpokeObject.applied_adoptPatch_iff hcontent).trans (yields_iff_shared hadopts).symm
  case h_3 haction =>
      have hadopts : ¬ Adopts config src allowed existing := by
        rintro ⟨_, hadopt⟩
        rw [haction] at hadopt
        cases hadopt
      refine emitAll_leaves ((writeThenEmit_leaves hname hexisting _).weaken ?_)
      intro verdict current hleaves hready
      exact (hleaves hready).congr (yields_iff_replaced hadopts).symm
  case h_4 haction =>
      have hadopts : ¬ Adopts config src allowed existing := by
        rintro ⟨_, hadopt⟩
        rw [haction] at hadopt
        cases hadopt
      by_cases hoff : StringMap.get existing.view.annotations annotationSourceHash ≠
              config.renderer.sourceHash src ∨
            config.renderer.sourceHash existing.view ≠ config.renderer.sourceHash src
      · rw [if_pos hoff]
        refine (writeThenEmit_leaves hname hexisting _).weaken ?_
        intro verdict current hleaves hready
        exact (hleaves hready).congr (yields_iff_replaced hadopts).symm
      · rw [if_neg hoff]
        rw [not_or, not_not, not_not] at hoff
        have hcontent := hcollision hoff.2
        refine Safe.undisturbed_done fun _ => ⟨existing, hexisting, ?_⟩
        refine iff_of_true hcontent ((yields_iff_replaced hadopts).mpr ?_)
        exact .inr (SpokeObject.surrenders_of_content hcontent)

/-- No two objects at the slot and the source share a hash without sharing
the content. -/
def CollisionFree (config : EngineConfig) (src : Unstructured) (prior : Option SpokeObject) :
    Prop :=
  ∀ existing, prior = some existing → config.renderer.sourceHash existing.view =
        config.renderer.sourceHash src →
      config.renderer.canonicalPayload existing.view = config.renderer.canonicalPayload src

theorem convergeSlot_leaves {prior : Option SpokeObject}
    (hcollision : CollisionFree config src prior)
    (hprior : slot.name ≠ "" → spokes (slot.key src.groupVersionKind) = prior) :
    Safe servers.semantics unguarded (convergeSlot config src src.groupVersionKind slot allowed)
      (fun verdict current => verdict = .ready → Leaves config src slot
          (∀ existing, prior = some existing →
            Yields config servers src slot allowed existing) current)
      spokes := by
  unfold convergeSlot
  dsimp only
  rw [Program.perform_bind]
  rintro current rfl
  refine ⟨trivial, ?_⟩
  rintro reply after ⟨hget, rfl⟩
  cases reply with
  | error err =>
    dsimp only
    by_cases hfound : err.isNotFound = true
    · rw [if_pos hfound]
      rw [Spokes.AnswersGet, if_pos hfound] at hget
      have hname : slot.name ≠ "" := hget.1
      have hnone : after (slot.key src.groupVersionKind) = none :=
        Option.map_eq_none_iff.mp hget.2
      have hkey : slotOf slot.cluster _ _ = slot.key src.groupVersionKind :=
        slotOf_render config.renderer fun hempty => (hname hempty).elim
      rw [Program.perform_bind]
      rintro current rfl
      refine ⟨trivial, ?_⟩
      intro reply later answer
      cases reply with
      | error err => exact Safe.undisturbed_done fun h => by cases h
      | ok _ =>
        obtain ⟨_, _, rfl⟩ := answer
        refine Safe.undisturbed_done fun _ => update_leaves hkey ?_
        rw [hkey, hnone]
        refine iff_of_true (SpokeObject.applied_render_of_none src _ _) ?_
        intro existing hexisting
        rw [← hprior hname, hnone] at hexisting
        cases hexisting
    · rw [if_neg hfound]
      exact Safe.undisturbed_done fun h => by cases h
  | ok found =>
    obtain ⟨hname, hfound⟩ := hget
    obtain ⟨existing, hexisting, rfl⟩ := Option.map_eq_some_iff.mp hfound
    have hexisting : after (slot.key src.groupVersionKind) = some existing := hexisting
    have hsome : prior = some existing :=
      (hprior hname).symm.trans hexisting
    have hiff : Yields config servers src slot allowed existing ↔ ∀ other, prior = some other →
          Yields config servers src slot allowed other := by
      rw [hsome]
      simp
    dsimp only
    split_ifs with hstripped
    · have hadopts : ¬ Adopts config src allowed existing :=
        fun hadopts => hadopts.1 hstripped
      refine (writeThenEmit_leaves hname hexisting _).weaken ?_
      intro verdict current hleaves hready
      exact (hleaves hready).congr ((yields_iff_replaced hadopts).symm.trans hiff)
    · refine (convergeExisting_leaves hname hexisting
        (hcollision existing hsome) hstripped).weaken ?_
      intro verdict current hleaves hready
      exact (hleaves hready).congr hiff

/-! ## Converging a target -/

theorem key_ne_namespaceSlot (hns : slot.ns ≠ "") (gvk : GroupVersionKind) (cluster ns : String) :
    slot.key gvk ≠ namespaceSlot cluster ns :=
  fun heq => hns (congrArg SlotKey.ns heq)

theorem ensureNamespace_keeps (gvk : GroupVersionKind) {allowCreate : Bool} :
    Safe servers.semantics unguarded (ensureNamespace slot.cluster slot.ns allowCreate)
      (fun _ current => current (slot.key gvk) = spokes (slot.key gvk)) spokes := by
  refine (Safe.undisturbed_within
    (fun current : OwnedSpokes => current (slot.key gvk) = spokes (slot.key gvk))
    (ensureNamespace_calls _ _ allowCreate) ?_ rfl).weaken fun _ _ h => h.2
  rintro before call reply after (rfl | ⟨_, rfl⟩) hsame answer
  · obtain ⟨_, rfl⟩ := answer
    exact hsame
  · cases reply with
    | error err =>
      obtain ⟨rfl, _⟩ := answer
      exact hsame
    | ok _ =>
      obtain ⟨⟨hns, _⟩, _, rfl⟩ := answer
      exact (Function.update_of_ne (key_ne_namespaceSlot hns _ _ _) _ _).trans hsame

theorem SpokeServers.answers_passive {after : OwnedSpokes} {call : EngineCall}
    {reply : call.Reply} (passive : call.IsPassive)
    (answer : servers.Answers spokes call reply after) : after = spokes := by
  cases call with
  | transportGet cluster gvk key => exact answer.2
  | transportApply cluster obj => exact passive.elim
  | transportDelete cluster gvk key => exact passive.elim
  | _ => exact answer

theorem applyTarget_leaves {nn : NamespacedName} {eff : EffectiveOptions}
    {inv : List InventoryEntry}
    (hcollision : CollisionFree config src (spokes (slot.key src.groupVersionKind))) :
    Safe servers.semantics unguarded (applyTarget config nn src src.groupVersionKind slot eff inv)
      (fun outcome current => outcome.state.ready = true → Leaves config src slot (∀ existing,
            spokes (slot.key src.groupVersionKind) = some existing →
              Yields config servers src slot eff.allowedConflictPolicies
                existing) current) spokes := by
  unfold applyTarget
  refine Safe.seq (ensureNamespace_keeps src.groupVersionKind) ?_
  intro result current hkept
  cases result with
  | missing text =>
    rintro later rfl
    refine ⟨trivial, ?_⟩
    rintro reply after rfl
    exact Safe.undisturbed_done fun h => nomatch h
  | failed err =>
    refine settleSlot_still SpokeServers.answers_passive fun h => ?_
    split_ifs at h
  | ensured =>
    refine Safe.seq (convergeSlot_leaves hcollision fun _ => hkept) ?_
    intro verdict later hleaves
    exact settleSlot_still SpokeServers.answers_passive hleaves

/-- A slot that is reported as ready holds an object, and it has the content
of the source exactly when the object that was there before yields. -/
theorem ready_matches_source_iff {nn : NamespacedName} {eff : EffectiveOptions}
    {inv : List InventoryEntry} {before after : OwnedSpokes}
    {trace : List (Exchange OwnedSpokes EngineCall.Reply)} {outcome : TargetOutcome}
    (hcollision : CollisionFree config src (before (slot.key src.groupVersionKind)))
    (hrun : Run servers.semantics before
      (applyTarget config nn src src.groupVersionKind slot eff inv) trace after (.done outcome))
    (hready : outcome.state.ready = true) :
    ∃ live,
      after (slot.key src.groupVersionKind) = some live ∧
      (config.renderer.canonicalPayload live.view = config.renderer.canonicalPayload src ↔
        ∀ existing,
          before (slot.key src.groupVersionKind) = some existing →
          Yields config servers src slot eff.allowedConflictPolicies existing) :=
  (applyTarget_leaves hcollision).run_done hrun hready

end Converging

namespace Sample

def servers : SpokeServers :=
  ⟨managedByValue, fun _ _ => False⟩

def handleOwned (spokes : OwnedSpokes) : (call : EngineCall) → call.Reply × OwnedSpokes
  | .transportGet cluster gvk key =>
    (spokes.view.handleGet (slotOf cluster gvk key), spokes)
  | .transportApply cluster obj =>
    let slot := slotOf cluster obj.groupVersionKind obj.key
    if spokes.view.Admits slot then
      (.ok (), Function.update spokes slot
        (some (SpokeObject.applied managedByValue (spokes slot) obj)))
    else (.error ⟨.notFound, "namespace not found"⟩, spokes)
  | .transportDelete _ _ _ => (.error ⟨.other, "forbidden"⟩, spokes)
  | .hub call => ((hub.handle call).1, spokes)
  | .lookupCluster _ => (none, spokes)
  | .previousResult _ => (none, spokes)
  | .storeResult _ _ => ((), spokes)
  | .forgetResult _ => ((), spokes)
  | .backoffFailure _ _ => (1, spokes)
  | .backoffSuccess _ _ => ((), spokes)
  | .backoffForget _ => ((), spokes)
  | .limiterForget _ => ((), spokes)
  | .ensureWatch _ _ => ((), spokes)
  | .now => (0, spokes)
  | .emit _ => ((), spokes)

theorem answers_handleOwned (spokes : OwnedSpokes) (call : EngineCall) :
    servers.Answers spokes call (handleOwned spokes call).1 (handleOwned spokes call).2 := by
  cases call with
  | transportGet cluster gvk key =>
    exact ⟨spokes.view.answersGet_handleGet _ _, rfl⟩
  | transportApply cluster obj =>
    simp only [handleOwned]
    split_ifs with hadmits
    · exact ⟨hadmits, fun h => h, rfl⟩
    · exact ⟨rfl, fun h => nomatch h⟩
  | transportDelete cluster gvk key => exact ⟨rfl, fun h => nomatch h⟩
  | _ => rfl

/-- A digest that tells the source from everything else. -/
def contentEngine : EngineConfig :=
  { engine with
    renderer := { engine.renderer with
      digest := fun payload =>
        if payload = engine.renderer.canonicalPayload source then "5f2c"
        else "00ff" } }

def target : SlotInfo := ⟨"east", "app", "settings"⟩

def apply (spokes : OwnedSpokes) : Execution OwnedSpokes EngineCall.Reply TargetOutcome :=
  execute handleOwned (applyTarget contentEngine key source configMapGVK target
      ⟨false, [], .delete⟩ []) spokes

def ownedBy {κ : Type} (manager : String) (entries : Finmap (fun _ : κ => String)) :
    OwnedMap κ String :=
  ⟨entries, fun _ => {manager}⟩

def labelled (manager : String) : SpokeObject :=
  let rendered := (contentEngine.renderer.render source "app" "settings").1
  { groupVersionKind := rendered.groupVersionKind
    ns := rendered.ns
    name := rendered.name
    uid := "c0de"
    labels := ⟨rendered.labels.insert "team" "blue", fun key =>
      if key = "team" then {manager} else {managedByValue}⟩
    annotations := ownedBy managedByValue rendered.annotations
    metadata := ∅
    fields := ownedBy managedByValue rendered.fields }

def namespaceOnSpoke : SpokeObject :=
  ⟨namespaceGVK, "", "app", "90b2", .empty, .empty, ∅, .empty⟩

def labelledSpokes (manager : String) : OwnedSpokes :=
  fun other =>
    if other = slot then some (labelled manager)
    else if other = namespaceSlot "east" "app" then some namespaceOnSpoke
    else none

theorem run_apply (spokes : OwnedSpokes) : Run servers.semantics spokes
      (applyTarget contentEngine key source configMapGVK target ⟨false, [], .delete⟩ [])
      (apply spokes).trace (apply spokes).final
      (.done (apply spokes).value) :=
  run_execute (execute_answered answers_handleOwned _ _)

end Sample

open Sample

theorem ready_matches_source_iff_sample :
    (apply (labelledSpokes managedByValue)).value.state.ready = true ∧
    ∃ live,
      (apply (labelledSpokes managedByValue)).final slot = some live ∧
      (contentEngine.renderer.canonicalPayload live.view =
          contentEngine.renderer.canonicalPayload source ↔
        ∀ existing,
          labelledSpokes managedByValue slot = some existing →
          Yields contentEngine servers source target [] existing) := by
  have hready : (apply (labelledSpokes managedByValue)).value.state.ready = true := by
    decide +kernel
  have hcollision : CollisionFree contentEngine source
      (labelledSpokes managedByValue slot) := by
    intro existing hexisting
    obtain rfl : labelled managedByValue = existing :=
      Option.some.inj hexisting
    decide +kernel
  exact ⟨hready, ready_matches_source_iff hcollision (run_apply _) hready⟩

/-- A label that somebody put on the replica outlives every correction, and
the slot is reported as ready all the same. -/
theorem labelled_replica_ready :
    ∃ trace after outcome live,
      Run servers.semantics (labelledSpokes "kubectl")
        (applyTarget contentEngine key source configMapGVK target ⟨false, [], .delete⟩ []) trace
        after (.done outcome) ∧
      outcome.state.ready = true ∧
      after slot = some live ∧
      contentEngine.renderer.canonicalPayload live.view ≠
        contentEngine.renderer.canonicalPayload source ∧
      contentEngine.renderer.sourceHash live.view ≠ contentEngine.renderer.sourceHash source := by
  have hlive : (((apply (labelledSpokes "kubectl")).final slot).any fun live =>
        contentEngine.renderer.canonicalPayload live.view ≠
            contentEngine.renderer.canonicalPayload source ∧
          contentEngine.renderer.sourceHash live.view ≠
            contentEngine.renderer.sourceHash source) =
      true := by decide +kernel
  rw [Option.any_eq_true] at hlive
  obtain ⟨live, hfinal, hdiffers⟩ := hlive
  obtain ⟨hcontent, hhash⟩ := of_decide_eq_true hdiffers
  exact ⟨_, _, _, live, run_apply _, by decide +kernel, hfinal,
    hcontent, hhash⟩

end K8sR8r
