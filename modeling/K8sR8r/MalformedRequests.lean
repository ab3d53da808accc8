import K8sR8r.RequestedReadiness

/-!
# Malformed requests

A source whose annotations do not parse keeps its Replication and its finalizer,
so that a typo does not delete replicas.  The controller looks at the opt-in
annotation before it parses, though, and anything but the exact text `true`
counts as a withdrawal there.  A misspelt opt-in value therefore takes the
release path, and what it spares is only what release has nothing to do for.
-/

namespace K8sR8r

open Interaction

/-- The Replication of the source is the one there was, and the source has not
lost its finalizer. -/
structure Fleet.Spares
    (config : RequestConfig) (key : NamespacedName) (before after : Fleet) :
    Prop where
  replication :
    after.hub.replications ⟨key.ns, replicationName config key.name⟩ =
      before.hub.replications ⟨key.ns, replicationName config key.name⟩
  finalizer : ∀ source, before.hub.sources config.gvk key = some source →
    sourceFinalizer ∈ source.finalizers →
      ∃ stored, after.hub.sources config.gvk key = some stored ∧
        sourceFinalizer ∈ stored.finalizers

/-- Release finds something to take down: an owned Replication that is not
going yet, or the finalizer of a source whose Replication is another's. -/
def Releasable (config : RequestConfig) (key : NamespacedName) (rep : Replication)
    (source : SourceObject) : Prop :=
  if ownedBySource config rep key.name = true then
    rep.deletionTimestamp = none
  else sourceFinalizer ∈ source.finalizers

section

variable {fails : RequestCall → Prop} {config : RequestConfig}
  {fleet : Fleet} {key : NamespacedName} {source : SourceObject}
  {rep : Replication}

/-- The program does not change the fleet at all. -/
abbrev LeavesFleet (fails : RequestCall → Prop) (fleet : Fleet) {α : Type}
    (program : RequestProgram α) : Prop :=
  Safe (Fleet.aloneRequest fails) (fun current _ => current = fleet) program
    (fun _ current => current = fleet) fleet

theorem LeavesFleet.run {α : Type} {program rest : RequestProgram α} {final : Fleet}
    {trace : List (Exchange Fleet RequestCall.Reply)} (leaves : LeavesFleet fails fleet program)
    (run : Run (Fleet.aloneRequest fails) fleet program trace final rest) :
    final = fleet :=
  (Safe.run leaves run).2.holds (fun _ _ h => h) (fun _ _ h => h)

theorem emit_leavesFleet (event : RequestEvent) : LeavesFleet fails fleet (do
      Program.perform (RequestCall.emit event)
      pure (.ok ()) : RequestProgram (ApiResult Unit)) := by
  refine Safe.undisturbed_perform rfl ?_
  rintro _ after rfl
  exact Safe.undisturbed_done rfl

theorem release_leavesFleet
    (hrep : fleet.hub.replications ⟨key.ns, replicationName config key.name⟩ = some rep)
    (hnothing : ¬ Releasable config key rep source) :
    LeavesFleet fails fleet (release config (Hub.metadataAt config.gvk key source)) := by
  unfold release
  refine Safe.undisturbed_perform rfl ?_
  rintro reply after ⟨hub, ⟨hreads, rfl⟩, rfl⟩
  cases reply with
  | error err =>
    have hmissing : if err.isNotFound = true then
        fleet.hub.replications ⟨key.ns, replicationName config key.name⟩ = none
      else _ := hreads
    dsimp only
    split_ifs at hmissing ⊢
    · rw [hrep] at hmissing
      cases hmissing
    · exact Safe.undisturbed_done rfl
  | ok read =>
    have hread : fleet.hub.replications
        ⟨key.ns, replicationName config key.name⟩ = some read := hreads
    rw [hrep] at hread
    cases hread
    have hname : (Hub.metadataAt config.gvk key source).name = key.name := rfl
    unfold Releasable at hnothing
    dsimp only
    rw [hname]
    by_cases howned : ownedBySource config rep key.name = true
    · rw [if_pos howned] at hnothing
      rw [if_neg (by simpa using howned),
        if_pos (Option.isSome_iff_ne_none.mpr hnothing)]
      exact Safe.undisturbed_done rfl
    · rw [if_neg howned] at hnothing
      rw [if_pos (by simpa using howned)]
      unfold releaseSource
      rw [if_neg (by simpa [Hub.metadataAt] using hnothing)]
      exact Safe.undisturbed_done rfl

theorem reconcileRequest_leavesFleet {value : String} {errs : List String}
    (hsource : fleet.hub.sources config.gvk key = some source)
    (hlive : source.deletionTimestamp = none)
    (hrep : fleet.hub.replications ⟨key.ns, replicationName config key.name⟩ = some rep)
    (hvalue : source.object.annotations.lookup keyReplicate = some value)
    (hmalformed : parseAnnotations config.library source.object.annotations = .error errs)
    (hholds : value = "true" ∨ config.enabled = false ∨ ¬ Releasable config key rep source) :
    LeavesFleet fails fleet (reconcileRequest config key) := by
  unfold reconcileRequest
  refine Safe.undisturbed_perform rfl ?_
  rintro reply after ⟨hub, ⟨hreads, rfl⟩, rfl⟩
  rw [hsource] at hreads
  cases reply with
  | error err => exact Safe.undisturbed_done rfl
  | ok obj =>
    obtain rfl : Hub.metadataAt config.gvk key source = obj :=
      Option.some.inj hreads
    have hann : (Hub.metadataAt config.gvk key source).annotations =
        source.object.annotations := rfl
    have hdeletion : (Hub.metadataAt config.gvk key source).deletionTimestamp = none := hlive
    dsimp only
    rw [hann, hdeletion, hmalformed]
    cases henabled : config.enabled with
    | false =>
      rw [Bool.not_false, if_pos rfl]
      split_ifs
      · exact emit_leavesFleet _
      · exact Safe.undisturbed_done rfl
    | true =>
      by_cases htrue : value = "true"
      · have hreplicates : replicates source.object.annotations = true := by
          simp [replicates, StringMap.get, hvalue, htrue]
        rw [hreplicates]
        exact emit_leavesFleet _
      · have hreplicates : replicates source.object.annotations =
            false := by
          simp [replicates, StringMap.get, hvalue, htrue]
        rw [hreplicates]
        refine release_leavesFleet hrep ?_
        rcases hholds with h | h | h
        · exact absurd h htrue
        · rw [henabled] at h
          cases h
        · exact h

/-! ## A release that takes something down -/

theorem run_requestHub {α : Type} {call : HubCall} {next : call.Reply → RequestProgram α}
    {reply : call.Reply} {hub : Hub} {final : Fleet} {rest : RequestProgram α}
    (answer : fleet.hub.Answers (fails (.hub call)) call reply hub)
    (tail : ∃ trace, Run (Fleet.aloneRequest fails) { fleet with hub := hub }
      (next reply) trace final rest) :
    ∃ trace, Run (Fleet.aloneRequest fails) fleet (requestHub call >>= next) trace final rest := by
  obtain ⟨trace, run⟩ := tail
  exact ⟨_, .call ⟨hub, answer, rfl⟩ run⟩

def Hub.withDeleted (hub : Hub) (key : NamespacedName) (rep : Replication) : Hub :=
  hub.setReplication key (keepUnlessReleased { rep with
    resourceVersion := hub.nextVersion
    deletionTimestamp := some (rep.deletionTimestamp.getD hub.clock) })

def Hub.withReleased (hub : Hub) (gvk : GroupVersionKind) (key : NamespacedName)
    (source : SourceObject) : Hub :=
  hub.setSource gvk key (keepSourceUnlessReleased { source with
    resourceVersion := hub.nextVersion
    finalizers := removeFinalizer source.finalizers sourceFinalizer })

section

variable (hrep : fleet.hub.replications ⟨key.ns, replicationName config key.name⟩ = some rep)
include hrep

theorem run_release_deletes (howned : ownedBySource config rep key.name = true)
    (hgoing : rep.deletionTimestamp = none) :
    ∃ trace, Run (Fleet.aloneRequest fails) fleet
      (release config (Hub.metadataAt config.gvk key source)) trace
      { fleet with
        hub := fleet.hub.withDeleted ⟨key.ns, replicationName config key.name⟩ rep }
      (.done (.ok ())) := by
  have hname : (Hub.metadataAt config.gvk key source).name = key.name := rfl
  have hread : ReadsAs (fails (.hub (.getReplication
      (replicationKey config (Hub.metadataAt config.gvk key source)))))
      (fleet.hub.replications ⟨key.ns, replicationName config key.name⟩)
      (.ok rep) := hrep
  refine run_requestHub ⟨hread, rfl⟩ ?_
  dsimp only
  rw [hname, if_neg (by simpa using howned), if_neg (by simp [hgoing])]
  have hdelete : fleet.hub.Answers (fails (.hub (.deleteReplication
      (replicationKey config (Hub.metadataAt config.gvk key source)))))
      (.deleteReplication (replicationKey config (Hub.metadataAt config.gvk key source)))
      (.ok ()) (fleet.hub.withDeleted ⟨key.ns, replicationName config key.name⟩ rep) := by
    change fleet.hub.acceptDelete ⟨key.ns, replicationName config key.name⟩ = some _
    unfold Hub.acceptDelete
    rw [hrep]
    rfl
  exact run_requestHub hdelete ⟨_, .refl⟩

theorem run_release_patches (hsource : fleet.hub.sources config.gvk key = some source)
    (hforeign : ownedBySource config rep key.name ≠ true)
    (hheld : sourceFinalizer ∈ source.finalizers) :
    ∃ trace, Run (Fleet.aloneRequest fails) fleet
      (release config (Hub.metadataAt config.gvk key source)) trace
      { fleet with hub := fleet.hub.withReleased config.gvk key source }
      (.done (.ok ())) := by
  have hname : (Hub.metadataAt config.gvk key source).name = key.name := rfl
  have hread : ReadsAs (fails (.hub (.getReplication
      (replicationKey config (Hub.metadataAt config.gvk key source)))))
      (fleet.hub.replications ⟨key.ns, replicationName config key.name⟩)
      (.ok rep) := hrep
  refine run_requestHub ⟨hread, rfl⟩ ?_
  dsimp only
  rw [hname, if_pos (by simpa using hforeign)]
  unfold releaseSource
  rw [if_pos (by simpa [Hub.metadataAt] using hheld)]
  have hpatch : fleet.hub.Answers (fails (.hub (.patchSourceFinalizers
      { Hub.metadataAt config.gvk key source with
        finalizers := removeFinalizer source.finalizers sourceFinalizer })))
      (.patchSourceFinalizers { Hub.metadataAt config.gvk key source with
        finalizers := removeFinalizer source.finalizers sourceFinalizer })
      (.ok (Hub.metadataAt config.gvk key { source with
        resourceVersion := fleet.hub.nextVersion
        finalizers := removeFinalizer source.finalizers sourceFinalizer }))
      (fleet.hub.withReleased config.gvk key source) := by
    change ((fleet.hub.sources config.gvk key).filter _).map _ = some _
    rw [hsource, Option.filter_some_pos (by simp [Hub.metadataAt])]
    rfl
  exact run_requestHub hpatch ⟨_, .refl⟩

theorem withDeleted_not_spares (hgoing : rep.deletionTimestamp = none) :
    ¬ fleet.Spares config key { fleet with
        hub := fleet.hub.withDeleted ⟨key.ns, replicationName config key.name⟩ rep } := by
  intro spares
  have hsame := spares.replication
  rw [hrep] at hsame
  simp only [Hub.withDeleted, Hub.setReplication, Function.update_self,
    Hub.keepUnlessReleased] at hsame
  split_ifs at hsame
  have htime := congrArg Replication.deletionTimestamp (Option.some.inj hsame)
  rw [hgoing] at htime
  cases htime

end

theorem withReleased_not_spares (hsource : fleet.hub.sources config.gvk key = some source)
    (hheld : sourceFinalizer ∈ source.finalizers) :
    ¬ fleet.Spares config key { fleet with
        hub := fleet.hub.withReleased config.gvk key source } := by
  intro spares
  obtain ⟨stored, hstored, hkept⟩ := spares.finalizer source hsource hheld
  simp only [Hub.withReleased, Hub.setSource, Function.update_self,
    Hub.keepSourceUnlessReleased] at hstored
  split_ifs at hstored
  obtain rfl := Option.some.inj hstored
  simp at hkept

/-- A misspelt opt-in sends the run in which nothing fails into the release. -/
theorem exists_run_not_spares {value : String}
    (hsource : fleet.hub.sources config.gvk key = some source)
    (hrep : fleet.hub.replications ⟨key.ns, replicationName config key.name⟩ = some rep)
    (hvalue : source.object.annotations.lookup keyReplicate = some value) (htrue : value ≠ "true")
    (henabled : config.enabled = true) (hreleasable : Releasable config key rep source) :
    ∃ trace final,
      Run (Fleet.aloneRequest fails) fleet (reconcileRequest config key) trace final
        (.done (.ok ())) ∧
      ¬ fleet.Spares config key final := by
  have hreplicates : replicates source.object.annotations = false := by
    simp [replicates, StringMap.get, hvalue, htrue]
  have hann : (Hub.metadataAt config.gvk key source).annotations =
      source.object.annotations := rfl
  have hreads : ReadsAs (fails (.hub (.getSourceMetadata config.gvk key)))
      ((fleet.hub.sources config.gvk key).map (Hub.metadataAt config.gvk key))
      (.ok (Hub.metadataAt config.gvk key source)) := by
    rw [hsource]
    rfl
  have hrun : ∀ {final}, (∃ trace, Run (Fleet.aloneRequest fails) fleet
      (release config (Hub.metadataAt config.gvk key source)) trace final (.done (.ok ()))) →
      ∃ trace, Run (Fleet.aloneRequest fails) fleet
        (reconcileRequest config key) trace final (.done (.ok ())) := by
    intro final hreleases
    refine run_requestHub ⟨hreads, rfl⟩ ?_
    dsimp only
    rw [henabled, Bool.not_true, if_neg (by simp), hann, hreplicates,
      if_pos (by simp)]
    exact hreleases
  unfold Releasable at hreleasable
  by_cases howned : ownedBySource config rep key.name = true
  · rw [if_pos howned] at hreleasable
    obtain ⟨trace, run⟩ := hrun (run_release_deletes hrep howned hreleasable)
    exact ⟨trace, _, run, withDeleted_not_spares hrep hreleasable⟩
  · rw [if_neg howned] at hreleasable
    obtain ⟨trace, run⟩ :=
      hrun (run_release_patches hrep hsource howned hreleasable)
    exact ⟨trace, _, run, withReleased_not_spares hsource hreleasable⟩

end

/-- A request that does not parse leaves its Replication and the finalizer in
every run exactly when the opt-in is spelt right, the kind is not enabled, or a
release would find nothing to do. -/
theorem malformed_request_spares_iff {fails : RequestCall → Prop} {config : RequestConfig}
    {fleet : Fleet} {key : NamespacedName} {source : SourceObject} {rep : Replication}
    {value : String} {errs : List String}
    (hsource : fleet.hub.sources config.gvk key = some source)
    (hlive : source.deletionTimestamp = none)
    (hrep : fleet.hub.replications ⟨key.ns, replicationName config key.name⟩ = some rep)
    (hvalue : source.object.annotations.lookup keyReplicate = some value)
    (_hkept : value ≠ "false")
    (hmalformed : parseAnnotations config.library source.object.annotations = .error errs) :
    (∀ trace final rest,
      Run (Fleet.aloneRequest fails) fleet (reconcileRequest config key) trace final rest →
      fleet.Spares config key final) ↔
      value = "true" ∨ config.enabled = false ∨ ¬ Releasable config key rep source := by
  constructor
  · intro hspares
    by_contra hnone
    push Not at hnone
    obtain ⟨htrue, henabled, hreleasable⟩ := hnone
    obtain ⟨trace, final, run, hnot⟩ := exists_run_not_spares hsource hrep
      hvalue htrue (by simpa using henabled) hreleasable
    exact hnot (hspares trace final _ run)
  · intro hholds trace final rest run
    have leaves : LeavesFleet fails fleet (reconcileRequest config key) :=
      reconcileRequest_leavesFleet hsource hlive hrep hvalue hmalformed hholds
    rw [leaves.run run]
    exact ⟨rfl, fun other hother hheld => ⟨other, hother, hheld⟩⟩

namespace Sample

def annotated (annotations : StringMap) : Fleet :=
  { fleet with
    hub := { hub with
      sources := fun gvk other =>
        if gvk = configMapGVK ∧ other = sourceKey then
          some ⟨{ source with annotations := annotations }, 2,
            [sourceFinalizer], none⟩
        else none } }

/-- The target list is malformed; the opt-in is not. -/
def doubledNamespaces : StringMap :=
  source.annotations.insert keyTargetNamespaces "app,app"

def misspeltOptIn : StringMap :=
  source.annotations.insert keyReplicate "True"

end Sample

open Sample

theorem malformed_request_spares_iff_sample :
    ∃ errs,
      parseAnnotations request.library doubledNamespaces = .error errs ∧
      ((∀ trace final rest,
          Run (Fleet.aloneRequest fun _ => True) (annotated doubledNamespaces)
            (reconcileRequest request sourceKey) trace final rest →
          (annotated doubledNamespaces).Spares request sourceKey final) ↔
        "true" = "true" ∨
        request.enabled = false ∨
        ¬ Releasable request sourceKey replication
          ⟨{ source with annotations := doubledNamespaces }, 2, [sourceFinalizer], none⟩) := by
  have hmalformed : (parseAnnotations request.library
      doubledNamespaces).isOk = false := by
    decide +kernel
  cases hparse : parseAnnotations request.library doubledNamespaces with
  | ok parsed =>
    rw [hparse] at hmalformed
    cases hmalformed
  | error errs =>
    exact ⟨errs, rfl, malformed_request_spares_iff (by decide +kernel) rfl
      (by decide +kernel) (by decide +kernel) (by decide) hparse⟩

/-- The opt-in is misspelt, the annotations do not parse, and the Replication is
deleted. -/
theorem misspelt_opt_in_tears_down :
    ∃ errs trace final result,
      misspeltOptIn.lookup keyReplicate = some "True" ∧
      parseAnnotations request.library misspeltOptIn = .error errs ∧
      (annotated misspeltOptIn).hub.replications key = some replication ∧
      Run (Fleet.aloneRequest fun _ => False) (annotated misspeltOptIn)
        (reconcileRequest request sourceKey) trace final (.done result) ∧
      final.hub.replications key = none := by
  have hmalformed : (parseAnnotations request.library
      misspeltOptIn).isOk = false := by
    decide +kernel
  cases hparse : parseAnnotations request.library misspeltOptIn with
  | ok parsed =>
    rw [hparse] at hmalformed
    cases hmalformed
  | error errs =>
    refine ⟨errs, _, _, _, by decide +kernel, rfl, by decide +kernel,
      run_soloRequest _, ?_⟩
    decide +kernel

end K8sR8r
