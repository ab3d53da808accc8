import K8sR8r.ReadySoundness
import K8sR8r.SoloRequest

/-!
# Readiness and the request

The request controller drops the denied targets before the engine counts, so a
Ready status speaks about the granted targets only.  Through both controllers a
Ready Replication serves every requested target exactly when every requested
target is permitted.
-/

namespace K8sR8r

open Interaction

/-! ## Marked replicas -/

/-- The slot holds a replica that carries the marks of the source. -/
def Spokes.HoldReplica (spokes : Spokes) (renderer : Renderer) (src : Unstructured)
    (slot : SlotKey) : Prop :=
  ∃ obj, spokes slot = some obj ∧ isManagedReplica obj.labels src.uid = true ∧
    StringMap.get obj.annotations annotationSourceHash = renderer.sourceHash src

/-- A payload that writes the marks. -/
structure Unstructured.Marks
    (payload : Unstructured) (renderer : Renderer) (src : Unstructured) :
    Prop where
  managedBy : payload.labels.lookup labelManagedBy = some managedByValue
  sourceUID : payload.labels.lookup labelSourceUID = some src.uid
  sourceHash : payload.annotations.lookup annotationSourceHash =
    some (renderer.sourceHash src)

theorem Renderer.render_marks (renderer : Renderer) (src : Unstructured) (ns name : String) :
    (renderer.render src ns name).1.Marks renderer src :=
  ⟨renderer.identityLabels_managedBy src _, renderer.render_sourceUID src _ _,
    Finmap.lookup_insert _⟩

theorem Renderer.adoptPatch_marks (renderer : Renderer) (src : Unstructured)
    (gvk : GroupVersionKind) (ns name : String) :
    (renderer.adoptPatch src gvk ns name (renderer.sourceHash src)).Marks renderer src :=
  ⟨renderer.identityLabels_managedBy src _,
    renderer.adoptPatch_sourceUID src _ _ _ _, Finmap.lookup_insert _⟩

theorem AppliesMap.lookup {κ : Type} [DecidableEq κ]
    {existing payload result : Finmap (fun _ : κ => String)}
    (applies : AppliesMap existing payload result) {key : κ} {value : String}
    (hkey : payload.lookup key = some value) :
    result.lookup key = some value := by
  have happlies := applies key
  rw [hkey] at happlies
  exact happlies

section Marking

variable {fails : EngineCall → Prop} {config : EngineConfig}
  {src : Unstructured} {gvk : GroupVersionKind} {slot : SlotInfo}
  {fleet : Fleet}

variable {cluster : String} {payload : Unstructured} {key : SlotKey}

section

variable (marks : payload.Marks config.renderer src)
  (hkey : slotOf cluster payload.groupVersionKind payload.key = key)
include marks hkey

theorem apply_marks {after : Fleet}
    (answer : fleet.Answers fails (.transportApply cluster payload) (.ok ()) after) :
    after.spokes.HoldReplica config.renderer src key := by
  obtain ⟨spokes, ⟨_, result, happlied, rfl⟩, rfl⟩ := answer
  refine ⟨result, ?_, ?_, ?_⟩
  · rw [← hkey]
    exact Function.update_self _ _ _
  · have hmanaged := happlied.labels.lookup marks.managedBy
    have huid := happlied.labels.lookup marks.sourceUID
    simp [isManagedReplica, StringMap.get, hmanaged, huid]
  · have hhash := happlied.annotations.lookup marks.sourceHash
    simp [StringMap.get, hhash]

theorem perform_apply_marks :
    Safe (Fleet.alone fails) unguarded (Program.perform (EngineCall.transportApply cluster payload))
      (fun result current => result = .ok () →
        current.spokes.HoldReplica config.renderer src key) fleet := by
  refine Safe.undisturbed_call trivial ?_
  intro reply after answer
  refine Safe.undisturbed_done ?_
  rintro rfl
  exact apply_marks marks hkey answer

theorem applyWithRecreate_marks :
    Safe (Fleet.alone fails) unguarded (applyWithRecreate cluster payload)
      (fun result current => result = .ok () →
        current.spokes.HoldReplica config.renderer src key) fleet := by
  unfold applyWithRecreate
  refine Safe.undisturbed_perform trivial ?_
  intro reply after answer
  cases reply with
  | ok _ => exact Safe.undisturbed_done fun _ => apply_marks marks hkey answer
  | error err =>
    dsimp only
    split_ifs
    · exact Safe.undisturbed_done fun h => nomatch h
    · refine Safe.undisturbed_perform trivial ?_
      intro reply later _
      cases reply with
      | ok _ => exact perform_apply_marks marks hkey
      | error delErr =>
        dsimp only
        split_ifs
        · exact Safe.undisturbed_done fun h => nomatch h
        · exact perform_apply_marks marks hkey

end

theorem reported_marks {program : EngineProgram (ApiResult Unit)} {signals : List EngineSignal}
    (marks : Safe (Fleet.alone fails) unguarded program (fun result current => result = .ok () →
        current.spokes.HoldReplica config.renderer src key) fleet) :
    Safe (Fleet.alone fails) unguarded
      (do
        match ← program with
        | .error err => pure (SlotVerdict.ofErr err)
        | .ok () => do
          emitAll signals
          pure SlotVerdict.ready)
      (fun verdict current => verdict = .ready →
        current.spokes.HoldReplica config.renderer src key) fleet := by
  refine Safe.seq marks ?_
  intro result current hmarks
  cases result with
  | error err => exact Safe.undisturbed_done fun h => nomatch h
  | ok _ =>
    exact emitAll_alone (Safe.undisturbed_done fun _ => hmarks rfl)

theorem managed_of_decideConflict_apply {renderer : Renderer} {existing : Unstructured}
    {hash : String} {allowed : List ConflictPolicy}
    (haction : (decideConflict renderer existing src hash allowed).action = .apply) :
    isManagedReplica existing.labels src.uid = true := by
  by_contra hown
  unfold decideConflict at haction
  rw [if_neg hown] at haction
  dsimp only at haction
  split_ifs at haction
  · cases heff : effectiveConflictPolicy (requestedConflictPolicy src.annotations) allowed <;>
      simp [heff] at haction
  · cases heff : effectiveConflictPolicy (requestedConflictPolicy src.annotations) allowed <;>
      simp [heff] at haction

theorem convergeExisting_marks (hkind : src.groupVersionKind = gvk)
    (hname : slot.name = "" → src.name = "") (allowed : List ConflictPolicy)
    {existing : Unstructured} (hexisting : fleet.spokes (slot.key gvk) = some existing) :
    Safe (Fleet.alone fails) unguarded (convergeExisting config src gvk slot allowed
        (config.renderer.render src slot.ns slot.name).1
        (config.renderer.render src slot.ns slot.name).2 existing)
      (fun verdict current => verdict = .ready →
        current.spokes.HoldReplica config.renderer src (slot.key gvk))
      fleet := by
  have hrender : ∀ {fleet : Fleet}, Safe (Fleet.alone fails) unguarded
      (applyWithRecreate slot.cluster (config.renderer.render src slot.ns slot.name).1)
      (fun result current => result = .ok () →
        current.spokes.HoldReplica config.renderer src (slot.key gvk))
      fleet :=
    applyWithRecreate_marks (config.renderer.render_marks src _ _)
      (hkind ▸ slotOf_render config.renderer hname)
  unfold convergeExisting
  dsimp only
  cases haction : (decideConflict config.renderer existing src
      (config.renderer.render src slot.ns slot.name).2 allowed).action with
  | fail =>
    exact emitAll_alone (Safe.undisturbed_done fun h => nomatch h)
  | adopt =>
    refine emitAll_alone (Safe.seq (perform_apply_marks
      (config.renderer.adoptPatch_marks src gvk _ _)
      (slotOf_adoptPatch _ _ _ _ _)) ?_)
    intro result current hmarks
    cases result with
    | error err => exact Safe.undisturbed_done fun h => nomatch h
    | ok _ =>
      exact emitAll_alone (Safe.undisturbed_done fun _ => hmarks rfl)
  | overwrite => exact emitAll_alone (reported_marks hrender)
  | apply =>
    dsimp only
    by_cases hwrite : StringMap.get existing.annotations annotationSourceHash ≠
            (config.renderer.render src slot.ns slot.name).2 ∨
          config.renderer.sourceHash existing ≠ (config.renderer.render src slot.ns slot.name).2
    · rw [if_pos hwrite]
      exact reported_marks hrender
    · rw [if_neg hwrite]
      rw [not_or, not_not] at hwrite
      exact Safe.undisturbed_done fun _ => ⟨existing, hexisting,
        managed_of_decideConflict_apply haction, hwrite.1⟩

theorem convergeSlot_marks (hkind : src.groupVersionKind = gvk)
    (hname : slot.name = "" → src.name = "") (allowed : List ConflictPolicy) :
    Safe (Fleet.alone fails) unguarded (convergeSlot config src gvk slot allowed)
      (fun verdict current => verdict = .ready →
        current.spokes.HoldReplica config.renderer src (slot.key gvk))
      fleet := by
  have hmarks := config.renderer.render_marks src slot.ns slot.name
  have hslot : slotOf slot.cluster (config.renderer.render src slot.ns slot.name).1.groupVersionKind
      (config.renderer.render src slot.ns slot.name).1.key = slot.key gvk := by
    rw [← hkind]
    exact slotOf_render config.renderer hname
  unfold convergeSlot
  dsimp only
  refine Safe.undisturbed_perform trivial ?_
  rintro reply after ⟨hget, rfl⟩
  cases reply with
  | error err =>
    dsimp only
    split_ifs
    · refine Safe.seq (perform_apply_marks hmarks hslot) ?_
      intro result current hresult
      cases result with
      | error err => exact Safe.undisturbed_done fun h => nomatch h
      | ok _ => exact Safe.undisturbed_done fun _ => hresult rfl
    · exact Safe.undisturbed_done fun h => nomatch h
  | ok existing =>
    dsimp only
    split_ifs
    · exact reported_marks (applyWithRecreate_marks hmarks hslot)
    · exact convergeExisting_marks hkind hname allowed hget.2

theorem applyTarget_marks {nn : NamespacedName} {eff : EffectiveOptions}
    {inv : List InventoryEntry} (hkind : src.groupVersionKind = gvk)
    (hname : slot.name = "" → src.name = "") :
    Safe (Fleet.alone fails) unguarded (applyTarget config nn src gvk slot eff inv)
      (fun out current => out.state.ready = true →
        current.spokes.HoldReplica config.renderer src (slot.key gvk))
      fleet := by
  unfold applyTarget
  refine Safe.seq (Safe.undisturbed_within (fun _ => True)
    (Program.within_true _) (fun _ _ _ => trivial) trivial) ?_
  intro result current _
  cases result with
  | missing text =>
    refine Safe.undisturbed_call trivial ?_
    rintro reply after rfl
    exact Safe.undisturbed_done fun h => nomatch h
  | failed err =>
    refine settleSlot_still Fleet.answers_passive fun h => ?_
    split_ifs at h
  | ensured =>
    refine Safe.seq (convergeSlot_marks hkind hname _) ?_
    intro verdict later hmarks
    exact settleSlot_still Fleet.answers_passive hmarks

end Marking

/-! ## What later calls leave alone -/

namespace EngineCall

/-- The call does not reach the slot, not even through its namespace. -/
def SparesSlot (slot : SlotKey) : EngineCall → Prop
  | .transportApply cluster obj =>
    slotOf cluster obj.groupVersionKind obj.key ≠ slot
  | .transportDelete cluster gvk key =>
    slotOf cluster gvk key ≠ slot ∧ (slotOf cluster gvk key).isNamespace = false
  | _ => True

variable {call : EngineCall} {slot : SlotKey}

theorem IsPassive.sparesSlot (passive : call.IsPassive) : call.SparesSlot slot := by
  cases call with
  | transportApply cluster obj => exact passive.elim
  | transportDelete cluster gvk key => exact passive.elim
  | _ => trivial

theorem Converges.sparesSlot {other : SlotKey} (converges : call.Converges other)
    (hne : other ≠ slot) (hother : other.isNamespace = false) :
    call.SparesSlot slot := by
  rcases converges with hpassive | happlies | hdeletes
  · exact hpassive.sparesSlot
  · cases call with
    | transportApply cluster obj =>
      intro heq
      exact hne (happlies.1.symm.trans heq)
    | _ => exact happlies.elim
  · cases call with
    | transportDelete cluster gvk key =>
      have hsame : slotOf cluster gvk key = other := hdeletes
      refine ⟨?_, ?_⟩
      · rw [hsame]
        exact hne
      · rw [hsame]
        exact hother
    | _ => exact hdeletes.elim

theorem CreatesNamespace.sparesSlot {cluster ns : String}
    (creates : call.CreatesNamespace cluster ns) (hslot : slot.isNamespace = false) :
    call.SparesSlot slot := by
  cases call with
  | transportApply other obj =>
    obtain ⟨_, rfl⟩ := creates
    rintro rfl
    cases hslot
  | _ => exact creates.elim

end EngineCall

section

variable {fails : EngineCall → Prop} {slot : SlotKey}

theorem Fleet.answers_sparesSlot {fleet after : Fleet} {call : EngineCall} {reply : call.Reply}
    (spares : call.SparesSlot slot) (answer : fleet.Answers fails call reply after) :
    after.spokes slot = fleet.spokes slot := by
  cases Fleet.answers_effect answer with
  | apply => exact Function.update_of_ne (Ne.symm spares) _ _
  | delete =>
    refine if_neg ?_
    rintro (rfl | ⟨hnamespace, _⟩)
    · exact spares.1 rfl
    · rw [spares.2] at hnamespace
      cases hnamespace
  | _ => rfl

theorem sparesSlot_holds {α : Type} {program : EngineProgram α} {fleet : Fleet}
    {renderer : Renderer} {src : Unstructured}
    (spares : program.AllCalls (EngineCall.SparesSlot slot))
    (holds : fleet.spokes.HoldReplica renderer src slot) :
    Safe (Fleet.alone fails) unguarded program
      (fun _ current => current.spokes.HoldReplica renderer src slot)
      fleet := by
  refine (Safe.undisturbed_within
    (fun current : Fleet => current.spokes.HoldReplica renderer src slot)
    spares ?_ holds).weaken fun _ _ h => h.2
  rintro before call reply after hcall ⟨obj, hobj, hmarks⟩ answer
  refine ⟨obj, ?_, hmarks⟩
  rw [Fleet.answers_sparesSlot hcall answer]
  exact hobj

def EngineConfig.Namespaced (config : EngineConfig) : Prop :=
  ∀ gvk ∈ config.kindGVKs.map Prod.snd, ¬ (gvk.group = "" ∧ gvk.kind = "Namespace")
deriving Decidable

theorem isNamespace_slotOf {gvk : GroupVersionKind}
    (hkind : ¬ (gvk.group = "" ∧ gvk.kind = "Namespace")) (cluster : String)
    (key : NamespacedName) :
    (slotOf cluster gvk key).isNamespace = false := by
  rw [Bool.eq_false_iff]
  intro htrue
  rw [SlotKey.isNamespace, Bool.and_eq_true, Bool.and_eq_true] at htrue
  exact hkind ⟨of_decide_eq_true htrue.1.2, of_decide_eq_true htrue.2⟩

theorem EngineCall.CleansUp.sparesSlot {config : EngineConfig} {entry : InventoryEntry}
    {call : EngineCall} (cleans : call.CleansUp config entry) (namespaced : config.Namespaced)
    (hne : keyForEntry entry ≠ slot) : call.SparesSlot slot := by
  cases cleans with
  | minor minor => exact minor.passive.sparesSlot
  | orphans => trivial
  | @deletes gvk hgvk =>
    refine ⟨?_, isNamespace_slotOf (namespaced gvk (List.mem_of_find?_eq_some hgvk)) _ _⟩
    rwa [slotOf_gvkForEntry hgvk]

theorem collectGarbage_sparesSlot {config : EngineConfig} (namespaced : config.Namespaced)
    (nn : NamespacedName) (sourceUID : String) {keep : List SlotKey} (inv : List InventoryEntry)
    (hslot : slot ∈ keep) :
    (collectGarbage config nn sourceUID keep inv).AllCalls (EngineCall.SparesSlot slot) := by
  refine (collectGarbage_cleansUp config nn sourceUID keep inv).weaken ?_ fun _ _ => trivial
  intro call sweeps
  cases sweeps with
  | minor minor => exact minor.passive.sparesSlot
  | releases => trivial
  | collects hmem hkeep cleans =>
    refine cleans.sparesSlot namespaced ?_
    rintro rfl
    exact hkeep hslot

/-! ## The replicas of a ready fanout -/

end

section FanOut

variable {fails : EngineCall → Prop} {config : EngineConfig}
  {nn : NamespacedName} {src : Unstructured} {gvk : GroupVersionKind}
  {policies : List ReplicationPolicy} {outcome : RevocationOutcome}

theorem applyTarget_sparesSlot {slot : SlotInfo} {eff : EffectiveOptions}
    {inv : List InventoryEntry} {key : SlotKey} (hkind : src.groupVersionKind = gvk)
    (hname : slot.name = "" → src.name = "") (hcore : ¬ (gvk.group = "" ∧ gvk.kind = "Namespace"))
    (hkey : key.isNamespace = false) (hne : slot.key gvk ≠ key) :
    (applyTarget config nn src gvk slot eff inv).AllCalls (EngineCall.SparesSlot key) := by
  refine (applyTarget_within config hkind hname nn eff inv).weaken ?_ fun _ _ => trivial
  rintro call (hconverges | ⟨_, hcreates⟩)
  · exact hconverges.sparesSlot hne (isNamespace_slotOf hcore slot.cluster ⟨slot.ns, slot.name⟩)
  · exact hcreates.sparesSlot hkey

/-- When every state is ready, the slots hold replicas and older replicas are
still there. -/
theorem loop_marks {fleet final : Fleet} {fan last : FanOut} {slots : List (SlotInfo × Decision)}
    {trace : List (Exchange Fleet EngineCall.Reply)} (hkind : src.groupVersionKind = gvk)
    (hcore : ¬ (gvk.group = "" ∧ gvk.kind = "Namespace"))
    (loop : Loop (Fleet.alone fails)
      (fanOutSlot config nn src gvk policies outcome) fleet fan slots trace
      final last) (hname : ∀ slot ∈ slots, slot.1.name = "" → src.name = "")
    (hready : ∀ state ∈ last.states, state.ready = true) :
    ∀ key : SlotKey, key.isNamespace = false → (fleet.spokes.HoldReplica config.renderer src key ∨
        ∃ slot ∈ slots, slot.1.key gvk = key) →
      final.spokes.HoldReplica config.renderer src key := by
  induction loop with
  | nil change =>
    obtain rfl := change
    rintro key _ (hold | ⟨slot, hslot, _⟩)
    · exact hold
    · simp at hslot
  | @cons fleet middle final fan next last slot slots first second head tail
      ih =>
      obtain ⟨states, hstates, _⟩ := loop_fanOut tail
      have hlater := ih (fun other hmem =>
        hname other (List.mem_cons_of_mem _ hmem)) hready
      unfold fanOutSlot at head
      split_ifs at head with hallowed
      · obtain ⟨segment, rest, point, out, rfl, hserved, hdone⟩ := head.split
        obtain ⟨rfl, hnext, hsame⟩ := hdone.of_done
        obtain rfl := Program.done.inj hnext
        obtain rfl : point = middle := hsame
        have hout : out.state.ready = true := by
          apply hready
          rw [hstates]
          simp
        have hslotName := hname slot List.mem_cons_self
        -- This slot is marked now; the others are as they were.
        have hnow : ∀ key : SlotKey, key.isNamespace = false →
            (fleet.spokes.HoldReplica config.renderer src key ∨ slot.1.key gvk = key) →
            point.spokes.HoldReplica config.renderer src key := by
          intro key hkey hcase
          by_cases hslot : slot.1.key gvk = key
          · rw [← hslot]
            exact (applyTarget_marks hkind hslotName).run_done hserved hout
          · exact (sparesSlot_holds (applyTarget_sparesSlot hkind hslotName
              hcore hkey hslot) (hcase.resolve_right hslot)).run_done hserved
        intro key hkey hcase
        apply hlater key hkey
        rcases hcase with hold | ⟨other, hother, hsame⟩
        · exact .inl (hnow key hkey (.inl hold))
        · rcases List.mem_cons.mp hother with rfl | hrest
          · exact .inl (hnow key hkey (.inr hsame))
          · exact .inr ⟨other, hrest, hsame⟩
      · obtain ⟨segment, rest, point, _, rfl, _, hdone⟩ := head.split
        obtain ⟨rfl, hnext, _⟩ := hdone.of_done
        obtain rfl := Program.done.inj hnext
        have hdenied : (deniedState slot.1 slot.2 outcome fan.inv gvk).1.ready = true := by
          apply hready
          rw [hstates]
          simp
        rw [deniedState_notReady] at hdenied
        cases hdenied

end FanOut

/-- After a reconcile that leaves the Replication ready, every slot of its
spec holds a replica of the source. -/
theorem FannedOut.holdReplica {fails : EngineCall → Prop} {config : EngineConfig}
    {fleet final : Fleet} {nn : NamespacedName} {rep : Replication}
    {trace : List (Exchange Fleet EngineCall.Reply)}
    (fanned : FannedOut fails config nn rep fleet trace final) (namespaced : config.Namespaced)
    (hlive : rep.deletionTimestamp = none) (ready : IsReady fanned.stages.stored.status)
    {slot : SlotInfo} (hslot : slot ∈ specSlots rep.spec.sourceRef.name rep.spec.resolvedTargets) :
    final.spokes.HoldReplica config.renderer fanned.src (slot.key fanned.gvk) := by
  obtain ⟨_, _, hstates, hslots, _⟩ := fanned.all_ready hlive ready
  obtain ⟨pair, hpair, rfl⟩ := (fanned.mem_specSlots_iff slot).mp hslot
  have hready : ∀ state ∈ fanned.stages.fan.states, state.ready = true := by
    intro state hmem
    rw [hstates] at hmem
    obtain ⟨served, _, rfl⟩ := List.mem_map.mp hmem
    rfl
  have hcore := namespaced fanned.gvk (mem_kindGVKs_of_lookup fanned.decided.kind)
  have hkey : (pair.1.key fanned.gvk).isNamespace = false :=
    isNamespace_slotOf hcore pair.1.cluster ⟨pair.1.ns, pair.1.name⟩
  have hconverged := loop_marks fanned.decided.groupVersionKind hcore
    fanned.stages.loops fanned.decided.slot_name hready _ hkey
    (.inr ⟨pair, hpair, rfl⟩)
  have hkept : pair.1.key fanned.gvk ∈
      fanned.outcome.retained ++ allowedKeys fanned.gvk fanned.slots :=
    List.mem_append_right _ ((mem_allowedKeys_iff _ _ _).mpr
      ⟨pair, hpair, (hslots pair hpair).1, rfl⟩)
  have hcollected := (sparesSlot_holds (collectGarbage_sparesSlot namespaced
    nn _ _ hkept) hconverged).run_done fanned.stages.collects
  obtain ⟨out, hwrites⟩ := fanned.stages.writes
  refine (sparesSlot_holds ?_ hcollected).run_done hwrites
  refine (finishFanOut_calls config nn _ _ _ _ _ _).weaken ?_ fun _ _ => trivial
  rintro call (hminor | hrecords)
  · exact hminor.passive.sparesSlot
  · cases call with
    | hub call => trivial
    | _ => exact hrecords.elim

/-! ## Both controllers -/

def ClusterRecords.UniqueNames (records : ClusterRecords) : Prop :=
  ∀ key key' record record', records.lookup key = some record →
    records.lookup key' = some record' → record.name = record'.name → record = record'

/-- The slot is recorded in the status and holds a replica of the source. -/
def Fleet.Serves (fleet : Fleet) (config : EngineConfig) (gvk : GroupVersionKind)
    (src : Unstructured) (status : ReplicationStatus) (slot : SlotInfo) :
    Prop :=
  Recorded status.inventory (slot.key gvk) ∧
    fleet.spokes.HoldReplica config.renderer src (slot.key gvk)

theorem SlotInfo.key_injective {first second : SlotInfo} {gvk : GroupVersionKind}
    (heq : first.key gvk = second.key gvk) : first = second := by
  obtain ⟨cluster, ns, name⟩ := first
  obtain ⟨cluster', ns', name'⟩ := second
  simp only [SlotInfo.key, SlotKey.mk.injEq, and_true] at heq
  obtain ⟨rfl, rfl, rfl⟩ := heq
  rfl

section Composition

variable {failsRequest : RequestCall → Prop} {fails : EngineCall → Prop}
  {request : RequestConfig} {engine : EngineConfig}
  {fleet middle final : Fleet} {key nn : NamespacedName}
  {source : SourceObject} {parsed : AnnotationRequest}
  {rep stored : Replication}
  {requestTrace : List (Exchange Fleet RequestCall.Reply)}
  {engineTrace : List (Exchange Fleet EngineCall.Reply)}
  {out : ReconcileOutcome}

/-- The fanout that follows a materialized request is over its kind and its
source. -/
theorem FannedOut.materialized
    (materialized : Materialized failsRequest request fleet key source parsed middle)
    (hallowlist : engine.kindGVKs.lookup request.gvk.kind = some request.gvk)
    {resolved : List ResolvedTarget}
    (hspec : rep.spec = ⟨⟨request.gvk.kind, key.ns, key.name, source.object.uid⟩, .annotated,
        resolved⟩) (fanned : FannedOut fails engine nn rep middle engineTrace final) :
    fanned.gvk = request.gvk ∧ fanned.src = Hub.objectAt request.gvk key source := by
  have hkind := fanned.decided.kind
  obtain ⟨other, hother, hsrc⟩ := fanned.decided.source
  rw [hspec] at hkind hother hsrc
  have hgvk : fanned.gvk = request.gvk :=
    Option.some.inj (hkind.symm.trans hallowlist)
  refine ⟨hgvk, ?_⟩
  obtain ⟨held, hheld, hobject⟩ := materialized.held
  rw [hgvk] at hother hsrc
  obtain rfl : held = other :=
    Option.some.inj (Eq.trans (Eq.symm hheld) hother)
  rw [hsrc]
  unfold Hub.objectAt
  rw [hobject]

/-- After both controllers have reconciled a valid request, a Ready
Replication serves every requested target exactly when every requested target
is permitted. -/
theorem ready_answers_request_iff
    (consistent : fleet.hub.Consistent)
    (henabled : request.enabled = true)
    (hallowlist : engine.kindGVKs.lookup request.gvk.kind = some request.gvk)
    (namespaced : engine.Namespaced)
    (hsource : fleet.hub.sources request.gvk key = some source)
    (hkept : source.deletionTimestamp = none)
    (hparsed : parseAnnotations request.library source.object.annotations = .ok (some parsed))
    (unique : fleet.records.UniqueNames)
    (hreads : ∀ ns,
      ¬ failsRequest (.hub (.getNamespaceLabels ns)) ∧ ¬ fails (.hub (.getNamespaceLabels ns)))
    (requested : Run (Fleet.aloneRequest failsRequest) fleet (reconcileRequest request key)
      requestTrace middle (.done (.ok ())))
    (hnn : nn = ⟨key.ns, replicationName request key.name⟩)
    (hrep : middle.hub.replications nn = some rep)
    (howned : ownedBySource request rep key.name = true)
    (hlive : rep.deletionTimestamp = none)
    (hauthority : isNotAuthoritative rep = false)
    (reconciled : Run (Fleet.alone fails) middle (reconcile engine nn) engineTrace final
      (.done (.ok out)))
    (hstored : final.hub.replications nn = some stored)
    (ready : IsReady stored.status) :
    (∀ record ns,
      parsed.Asks fleet.records key.ns record ns →
      final.Serves engine request.gvk (Hub.objectAt request.gvk key source) stored.status
        (parsed.slot key.name record.name ns)) ↔
      ∀ record ns,
        parsed.Asks fleet.records key.ns record ns →
        ∃ policy ∈ fleet.hub.policies.items,
          policy.Permits ⟨request.gvk.kind, key.ns, (fleet.hub.namespaces key.ns).getD ∅⟩
            ⟨record.name, record.labels, ns⟩ := by
  have materialized := (reconcileRequest_materializes consistent henabled
    hsource hkept hparsed).run_done requested rfl
  obtain ⟨resolved, ⟨clusters, labels, hlists, hsees, hresolved⟩,
    hspecifies⟩ := materialized.specifies
  have hspec := hspecifies rep (hnn ▸ hrep) howned
  have hlabels : labels = (fleet.hub.namespaces key.ns).getD ∅ :=
    hsees.resolve_right fun h => (hreads _).1 h.1
  obtain ⟨fanned⟩ := fannedOut_of_ready materialized.consistent hrep hlive
    hauthority reconciled hstored ready
  obtain rfl : fanned.stages.stored = stored :=
    Option.some.inj (Eq.trans (Eq.symm fanned.stages.stores) hstored)
  obtain ⟨hgvk, hsrc⟩ := fanned.materialized materialized hallowlist hspec
  have haccounts := fanned.accounts (fun ns => (hreads ns).2) hlive ready
  -- The slots of the spec are those of the permitted pairs.
  have hslots : ∀ slot, slot ∈ specSlots rep.spec.sourceRef.name rep.spec.resolvedTargets ↔
        ∃ record ns, parsed.Asks fleet.records key.ns record ns ∧
          (∃ policy ∈ fleet.hub.policies.items, policy.Permits ⟨request.gvk.kind, key.ns,
              (fleet.hub.namespaces key.ns).getD ∅⟩
            ⟨record.name, record.labels, ns⟩) ∧
          slot = parsed.slot key.name record.name ns := by
    intro slot
    rw [hspec, hresolved, hlabels]
    exact mem_specSlots_grantedTargets_iff hlists key.name slot
  constructor
  · intro hserves record ns asks
    have hrecorded := (hserves record ns asks).1
    obtain ⟨slot, hslot, hkey⟩ := (haccounts.keys _).mp hrecorded
    rw [hgvk] at hkey
    obtain ⟨other, ns', hasks, hpermits, rfl⟩ := (hslots slot).mp hslot
    have hpair := SlotInfo.key_injective hkey
    simp only [AnnotationRequest.slot, SlotInfo.mk.injEq, and_true] at hpair
    obtain ⟨key₁, hlookup₁⟩ := hasks.discovered
    obtain ⟨key₂, hlookup₂⟩ := asks.discovered
    obtain rfl := unique key₁ key₂ other record hlookup₁ hlookup₂ hpair.1
    rwa [← hpair.2]
  · intro hpermitted record ns asks
    have hslot := (hslots _).mpr ⟨record, ns, asks, hpermitted record ns asks, rfl⟩
    refine ⟨?_, ?_⟩
    · refine (haccounts.keys _).mpr ⟨_, hslot, ?_⟩
      rw [hgvk]
    · have hholds := fanned.holdReplica namespaced hlive ready hslot
      rwa [hgvk, hsrc] at hholds

end Composition

/-! ## Sample runs -/

namespace Sample

def sourceKey : NamespacedName := ⟨"team", "settings"⟩

def soloRequest (fleet : Fleet) : Execution Fleet RequestCall.Reply (ApiResult Unit) :=
  execute Fleet.handleRequest (reconcileRequest request sourceKey) fleet

theorem run_soloRequest (fleet : Fleet) : Run (Fleet.aloneRequest fun _ => False) fleet
      (reconcileRequest request sourceKey) (soloRequest fleet).trace
      (soloRequest fleet).final (.done (soloRequest fleet).value) :=
  run_execute (execute_answered (Fleet.answersRequest_handleRequest fun _ => False) _ _)

def asked (namespaces : List String) : AnnotationRequest where
  clusterSelector := .requirements [⟨"env", .equals, ["prod"]⟩]
  clusterSelectorString := "env=prod"
  targetNamespaces := namespaces
  targetName := ""
  conflictPolicy := .fail

theorem fleet_uniqueNames : fleet.records.UniqueNames := by
  intro first second record other hfirst hsecond _
  rw [record_unique hfirst, record_unique hsecond]

def widened : SourceObject :=
  ⟨{ source with
    annotations := source.annotations.insert keyTargetNamespaces "app,db" },
    2, [], none⟩

def widenedFleet : Fleet :=
  { fleet with
    hub := { hub with
      sources := fun gvk other =>
        if gvk = configMapGVK ∧ other = sourceKey then some widened
        else none } }

end Sample

open Sample

theorem ready_answers_request_iff_sample :
    ∃ stored,
      (soloReconcile (soloRequest fleet).final).final.hub.replications key = some stored ∧
      IsReady stored.status ∧
      ((∀ record ns,
          (asked ["app"]).Asks fleet.records "team" record ns →
          (soloReconcile (soloRequest fleet).final).final.Serves engine configMapGVK source
            stored.status ((asked ["app"]).slot "settings" record.name ns)) ↔
        ∀ record ns,
          (asked ["app"]).Asks fleet.records "team" record ns →
          ∃ policy ∈ fleet.hub.policies.items,
            policy.Permits ⟨"ConfigMap", "team", ∅⟩ ⟨record.name, record.labels, ns⟩) := by
  have hrequested : (soloRequest fleet).value = .ok () := by
    decide +kernel
  have hmiddle : ((soloRequest fleet).final.hub.replications
      key).any (fun rep =>
        ownedBySource request rep "settings" &&
          rep.deletionTimestamp.isNone && !isNotAuthoritative rep) =
        true := by
    decide +kernel
  have hvalue : (soloReconcile
      (soloRequest fleet).final).value = .ok ⟨600⟩ := by
    decide +kernel
  have hstored : ((soloReconcile
      (soloRequest fleet).final).final.hub.replications
        key).any (fun stored => IsReady stored.status) = true := by
    decide +kernel
  rw [Option.any_eq_true] at hmiddle hstored
  obtain ⟨rep, hrep, hserved⟩ := hmiddle
  obtain ⟨stored, hstored, hready⟩ := hstored
  simp only [Bool.and_eq_true, Option.isNone_iff_eq_none, Bool.not_eq_true'] at hserved
  have hrequest := run_soloRequest fleet
  rw [hrequested] at hrequest
  have hengine := run_soloReconcile (soloRequest fleet).final
  rw [hvalue] at hengine
  refine ⟨stored, hstored, of_decide_eq_true hready, ?_⟩
  exact ready_answers_request_iff hub_consistent rfl rfl (by decide)
    rfl rfl rfl fleet_uniqueNames (fun _ => ⟨fun h => h, fun h => h⟩)
    hrequest rfl hrep hserved.1.1 hserved.1.2 hserved.2 hengine hstored
    (of_decide_eq_true hready)

/-- One of two requested namespaces is denied, nothing is replicated there, and
the Replication is ready. -/
theorem denied_request_ready :
    ∃ requestTrace middle engineTrace final out stored,
      parseAnnotations request.library widened.object.annotations =
        .ok (some (asked ["app", "db"])) ∧
      Run (Fleet.aloneRequest fun _ => False) widenedFleet (reconcileRequest request sourceKey)
        requestTrace middle (.done (.ok ())) ∧
      Run (Fleet.alone fun _ => False) middle (reconcile engine key) engineTrace final
        (.done (.ok out)) ∧
      final.hub.replications key = some stored ∧
      IsReady stored.status ∧
      (asked ["app", "db"]).Asks widenedFleet.records "team" (recordFromCluster cluster) "db" ∧
      final.spokes ⟨"east", "db", "settings", "", "ConfigMap"⟩ = none := by
  have hrequested : (soloRequest widenedFleet).value = .ok () := by decide +kernel
  have hvalue : (soloReconcile
      (soloRequest widenedFleet).final).value = .ok ⟨600⟩ := by
    decide +kernel
  have hstored : ((soloReconcile
      (soloRequest widenedFleet).final).final.hub.replications
        key).any (fun stored => IsReady stored.status) = true := by
    decide +kernel
  rw [Option.any_eq_true] at hstored
  obtain ⟨stored, hstored, hready⟩ := hstored
  have hrequest := run_soloRequest widenedFleet
  rw [hrequested] at hrequest
  have hengine := run_soloReconcile (soloRequest widenedFleet).final
  rw [hvalue] at hengine
  exact ⟨_, _, _, _, _, stored, rfl, hrequest, hengine, hstored,
    of_decide_eq_true hready, ⟨⟨cluster.key, rfl⟩, by decide +kernel,
      by decide +kernel, by decide⟩, by decide +kernel⟩

end K8sR8r
