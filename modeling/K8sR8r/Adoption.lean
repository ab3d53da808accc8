import K8sR8r.ReplicaContent

/-!
# What an adoption leaves alone

An adoption applies the identity labels and the source hash and nothing else.
Whether the rest of the object survives is decided by who owned it before: the
engine gives up every field it had applied earlier, and a field nobody else
holds goes with it.
-/

namespace K8sR8r

open Interaction FieldManagers

def identityLabelKeys : List String :=
  [labelManagedBy, labelSourceCluster, labelSourceNamespace, labelSourceName,
    labelSourceKind, labelSourceUID]

def isForeignLabel (key : String) : Bool :=
  key ∉ identityLabelKeys

def isForeignAnnotation (key : String) : Bool :=
  key ≠ annotationSourceHash

namespace SpokeObject

/-- The same payload and the same metadata entries beyond the identity. -/
structure SameBeyondIdentity (before after : SpokeObject) : Prop where
  groupVersionKind : after.groupVersionKind = before.groupVersionKind
  fields : after.view.fields = before.view.fields
  labels : after.view.labels.filterKeys isForeignLabel =
    before.view.labels.filterKeys isForeignLabel
  annotations : after.view.annotations.filterKeys isForeignAnnotation =
    before.view.annotations.filterKeys isForeignAnnotation

/-- Nothing beyond the identity is owned by the manager alone. -/
structure HeldByOthers (manager : String) (obj : SpokeObject) : Prop where
  fields : obj.fields.Shared manager fun _ => true
  labels : obj.labels.Shared manager isForeignLabel
  annotations : obj.annotations.Shared manager isForeignAnnotation

theorem SameBeyondIdentity.refl (obj : SpokeObject) : obj.SameBeyondIdentity obj :=
  ⟨rfl, rfl, rfl, rfl⟩

end SpokeObject

/-! ## The patch -/

section Patch

variable {renderer : Renderer} {src : Unstructured} {manager : String} {ns name hash : String}

theorem Renderer.foreignLabel_notMem_adoptPatch (gvk : GroupVersionKind) {key : String}
    (hkey : isForeignLabel key = true) :
    key ∉ (renderer.adoptPatch src gvk ns name hash).labels := by
  have hkey : key ∉ identityLabelKeys := of_decide_eq_true hkey
  simp only [identityLabelKeys, List.mem_cons, List.not_mem_nil, or_false, not_or] at hkey
  simp [Renderer.adoptPatch, Renderer.identityLabels, Finmap.notMem_empty, hkey]

theorem Renderer.foreignAnnotation_notMem_adoptPatch (gvk : GroupVersionKind) {key : String}
    (hkey : isForeignAnnotation key = true) :
    key ∉ (renderer.adoptPatch src gvk ns name hash).annotations := by
  have hkey : key ≠ annotationSourceHash := of_decide_eq_true hkey
  simp [Renderer.adoptPatch, Finmap.notMem_empty, hkey]

/-- The patch leaves everything beyond the identity exactly when the engine's
manager is nowhere the last owner of it. -/
theorem SpokeObject.applied_adoptPatch_same_iff {existing : SpokeObject}
    (hkind : existing.groupVersionKind = src.groupVersionKind) :
    existing.SameBeyondIdentity
      (applied manager (some existing)
        (renderer.adoptPatch src src.groupVersionKind ns name hash)) ↔
      existing.HeldByOthers manager := by
  have hfields : (existing.fields.apply manager (renderer.adoptPatch src
            src.groupVersionKind ns name hash).fields).entries =
          existing.fields.entries ↔
        existing.fields.Shared manager fun _ => true := by
    rw [← OwnedMap.apply_eq_self_iff fun _ _ => Finmap.notMem_empty,
      Finmap.filterKeys_true, Finmap.filterKeys_true]
    rfl
  constructor
  · intro same
    exact ⟨hfields.mp same.fields, (OwnedMap.apply_eq_self_iff fun _ =>
        Renderer.foreignLabel_notMem_adoptPatch _).mp same.labels,
      (OwnedMap.apply_eq_self_iff fun _ =>
        Renderer.foreignAnnotation_notMem_adoptPatch _).mp same.annotations⟩
  · intro held
    exact ⟨hkind.symm, hfields.mpr held.fields, (OwnedMap.apply_eq_self_iff fun _ =>
        Renderer.foreignLabel_notMem_adoptPatch _).mpr held.labels,
      (OwnedMap.apply_eq_self_iff fun _ =>
        Renderer.foreignAnnotation_notMem_adoptPatch _).mpr held.annotations⟩

end Patch

/-! ## Converging a slot by adoption -/

section Adopting

variable {config : EngineConfig} {servers : SpokeServers} {src : Unstructured}
  {slot : SlotInfo} {allowed : List ConflictPolicy} {existing : SpokeObject}
  {spokes : OwnedSpokes}

def PatchedIf (config : EngineConfig) (servers : SpokeServers) (src : Unstructured)
    (slot : SlotInfo) (existing : SpokeObject) (written : Prop) (spokes : OwnedSpokes) : Prop :=
  (written → spokes (slot.key src.groupVersionKind) =
    some (SpokeObject.applied servers.manager (some existing)
      (config.renderer.adoptPatch src src.groupVersionKind slot.ns slot.name
        (config.renderer.sourceHash src)))) ∧
  (¬ written → spokes (slot.key src.groupVersionKind) = some existing)

theorem PatchedIf.untouched {written : Prop} (hwritten : ¬ written)
    (hexisting : spokes (slot.key src.groupVersionKind) = some existing) :
    PatchedIf config servers src slot existing written spokes :=
  ⟨fun h => (hwritten h).elim, fun _ => hexisting⟩

theorem convergeExisting_adopts (hexisting : spokes (slot.key src.groupVersionKind) = some existing)
    (hadopts : Adopts config src allowed existing) :
    Safe servers.semantics unguarded (convergeExisting config src src.groupVersionKind slot allowed
        (config.renderer.render src slot.ns slot.name).1
        (config.renderer.sourceHash src) existing.view)
      (fun verdict => PatchedIf config servers src slot existing (verdict = .ready)) spokes := by
  unfold convergeExisting
  dsimp only
  rw [hadopts.2]
  refine emitAll_leaves ?_
  refine Safe.undisturbed_perform trivial ?_
  intro reply after answer
  cases reply with
  | error err =>
    obtain ⟨rfl, _⟩ := answer
    exact Safe.undisturbed_done (.untouched (fun h => nomatch h) hexisting)
  | ok _ =>
    obtain ⟨_, _, rfl⟩ := answer
    refine emitAll_leaves (Safe.undisturbed_done ⟨fun _ => ?_, ?_⟩)
    · rw [slotOf_adoptPatch, Function.update_self, hexisting]
    · exact fun h => (h rfl).elim

theorem convergeSlot_adopts (hexisting : spokes (slot.key src.groupVersionKind) = some existing)
    (hadopts : Adopts config src allowed existing) :
    Safe servers.semantics unguarded (convergeSlot config src src.groupVersionKind slot allowed)
      (fun verdict => PatchedIf config servers src slot existing (verdict = .ready)) spokes := by
  unfold convergeSlot
  dsimp only
  refine Safe.undisturbed_perform trivial ?_
  rintro reply after ⟨hget, rfl⟩
  cases reply with
  | error err =>
    dsimp only
    by_cases hfound : err.isNotFound = true
    · rw [Spokes.AnswersGet, if_pos hfound] at hget
      have hnone : after (slot.key src.groupVersionKind) = none :=
        Option.map_eq_none_iff.mp hget.2
      rw [hexisting] at hnone
      cases hnone
    · rw [if_neg hfound]
      exact Safe.undisturbed_done (.untouched (fun h => by cases h) hexisting)
  | ok found =>
    obtain ⟨other, hother, rfl⟩ := Option.map_eq_some_iff.mp hget.2
    obtain rfl : existing = other :=
      Option.some.inj (hexisting.symm.trans hother)
    dsimp only
    rw [if_neg hadopts.1]
    exact convergeExisting_adopts hexisting hadopts

variable {inv : List InventoryEntry}

theorem settleSlot_rests {nn : NamespacedName} {gvk : GroupVersionKind} {hash : String}
    (verdict : SlotVerdict) :
    Safe servers.semantics unguarded (settleSlot nn gvk slot hash inv verdict)
      (fun outcome current => current = spokes ∧
        (outcome.state.ready = true ↔ verdict = .ready)) spokes := by
  cases verdict with
  | retry reason message =>
    refine Safe.undisturbed_call trivial ?_
    rintro delay after rfl
    exact Safe.undisturbed_done ⟨rfl, by simp [slotState]⟩
  | refused reason message =>
    exact Safe.undisturbed_done ⟨rfl, by simp [slotState]⟩
  | ready =>
    refine Safe.undisturbed_call trivial ?_
    rintro _ after rfl
    refine Safe.undisturbed_call trivial ?_
    rintro _ later rfl
    exact Safe.undisturbed_done ⟨rfl, by simp [slotState]⟩

theorem applyTarget_adopts {nn : NamespacedName} {eff : EffectiveOptions}
    (hexisting : spokes (slot.key src.groupVersionKind) = some existing)
    (hadopts : Adopts config src eff.allowedConflictPolicies existing) :
    Safe servers.semantics unguarded (applyTarget config nn src src.groupVersionKind slot eff inv)
      (fun outcome => PatchedIf config servers src slot existing
        (outcome.state.ready = true)) spokes := by
  unfold applyTarget
  refine Safe.seq (ensureNamespace_keeps src.groupVersionKind) ?_
  intro result current hkept
  have hcurrent : current (slot.key src.groupVersionKind) = some existing :=
    hkept.trans hexisting
  cases result with
  | missing text =>
    refine Safe.undisturbed_call trivial ?_
    rintro delay after rfl
    exact Safe.undisturbed_done (.untouched (fun h => nomatch h) hcurrent)
  | failed err =>
    refine (settleSlot_rests _).weaken ?_
    rintro outcome later ⟨rfl, hready⟩
    refine .untouched (fun h => ?_) hcurrent
    have hverdict := hready.mp h
    split_ifs at hverdict
  | ensured =>
    refine Safe.seq (convergeSlot_adopts hcurrent hadopts) ?_
    intro verdict later hpatched
    refine (settleSlot_rests verdict).weaken ?_
    rintro outcome final ⟨rfl, hready⟩
    rw [hready]
    exact hpatched

/-- Converging a slot by adoption leaves everything beyond the identity as it
was exactly when the patch was not written or nothing of it was owned by the
engine's manager alone.  The object is read under the kind of the source. -/
theorem adoption_leaves_rest_iff {nn : NamespacedName} {eff : EffectiveOptions}
    {inv : List InventoryEntry} {before after : OwnedSpokes}
    {trace : List (Exchange OwnedSpokes EngineCall.Reply)} {outcome : TargetOutcome}
    (hexisting : before (slot.key src.groupVersionKind) = some existing)
    (hkind : existing.groupVersionKind = src.groupVersionKind)
    (hadopts : Adopts config src eff.allowedConflictPolicies existing)
    (hrun : Run servers.semantics before
      (applyTarget config nn src src.groupVersionKind slot eff inv) trace after (.done outcome)) :
    ∃ live,
      after (slot.key src.groupVersionKind) = some live ∧
      (existing.SameBeyondIdentity live ↔
        (outcome.state.ready = true → existing.HeldByOthers servers.manager)) := by
  obtain ⟨hwritten, huntouched⟩ :=
    (applyTarget_adopts hexisting hadopts).run_done hrun
  by_cases hready : outcome.state.ready = true
  · refine ⟨_, hwritten hready, ?_⟩
    rw [SpokeObject.applied_adoptPatch_same_iff hkind]
    simp [hready]
  · refine ⟨existing, huntouched hready, ?_⟩
    simp [hready, SpokeObject.SameBeyondIdentity.refl]

end Adopting

namespace Sample

def adoptedSource : Unstructured :=
  { source with
    annotations := source.annotations.insert keyConflictPolicy "Adopt" }

def adopt (spokes : OwnedSpokes) : Execution OwnedSpokes EngineCall.Reply TargetOutcome :=
  execute handleOwned (applyTarget contentEngine key adoptedSource configMapGVK target
      ⟨false, [.adopt], .delete⟩ []) spokes

theorem run_adopt (spokes : OwnedSpokes) : Run servers.semantics spokes
      (applyTarget contentEngine key adoptedSource configMapGVK target
        ⟨false, [.adopt], .delete⟩ [])
      (adopt spokes).trace (adopt spokes).final
      (.done (adopt spokes).value) :=
  run_execute (execute_answered answers_handleOwned _ _)

def unlabelled (manager : String) : SpokeObject :=
  { labelled manager with
    labels := .empty
    annotations := .empty
    fields := ownedBy manager source.fields }

def unlabelledSpokes (manager : String) : OwnedSpokes :=
  fun other =>
    if other = slot then some (unlabelled manager)
    else labelledSpokes manager other

theorem unlabelled_adopts (manager : String) :
    Adopts contentEngine adoptedSource [.adopt] (unlabelled manager) := by
  have hview : (unlabelled manager).view = (unlabelled "").view := rfl
  unfold Adopts
  rw [hview]
  decide +kernel

end Sample

open Sample

theorem adoption_leaves_rest_iff_sample :
    (adopt (unlabelledSpokes "kubectl")).value.state.ready = true ∧
    ∃ live,
      (adopt (unlabelledSpokes "kubectl")).final slot = some live ∧
      ((unlabelled "kubectl").SameBeyondIdentity live ↔
        ((adopt (unlabelledSpokes "kubectl")).value.state.ready = true →
          (unlabelled "kubectl").HeldByOthers servers.manager)) :=
  ⟨by decide +kernel, adoption_leaves_rest_iff rfl rfl (unlabelled_adopts _)
    (run_adopt _)⟩

/-- A replica that lost its labels is emptied by its adoption: the engine's
manager owns the data from its own earlier apply, and the patch omits it. -/
theorem adoption_empties_own_replica :
    ∃ existing trace after outcome live,
      unlabelledSpokes managedByValue slot = some existing ∧
      Adopts contentEngine adoptedSource [.adopt] existing ∧
      Run servers.semantics (unlabelledSpokes managedByValue)
        (applyTarget contentEngine key adoptedSource configMapGVK target
          ⟨false, [.adopt], .delete⟩ []) trace after (.done outcome) ∧
      outcome.state.ready = true ∧
      after slot = some live ∧
      existing.view.fields ≠ ∅ ∧
      live.view.fields = ∅ := by
  have hlive : (((adopt (unlabelledSpokes managedByValue)).final slot).any
        fun live => live.view.fields = ∅) = true := by decide +kernel
  rw [Option.any_eq_true] at hlive
  obtain ⟨live, hfinal, hempty⟩ := hlive
  exact ⟨_, _, _, _, live, rfl, unlabelled_adopts _,
    run_adopt _, by decide +kernel, hfinal, by decide +kernel,
    of_decide_eq_true hempty⟩

end K8sR8r
