import K8sR8r.EngineFrames

/-!
# What the parts of the engine write

The slots a subprogram may write are visible in its arguments, independently of
any reply.  A slot is written when it is converged or collected, a Namespace
only when creation is allowed, and nothing else on a spoke is ever written.
-/

namespace K8sR8r

open Interaction

namespace EngineCall

/-- A replica is applied at the slot; replicas name their source UID. -/
def AppliesAt (slot : SlotKey) : EngineCall → Prop
  | .transportApply cluster obj =>
    slotOf cluster obj.groupVersionKind obj.key = slot ∧
      (obj.labels.lookup labelSourceUID).isSome = true
  | _ => False

def DeletesAt (slot : SlotKey) : EngineCall → Prop
  | .transportDelete cluster gvk key => slotOf cluster gvk key = slot
  | _ => False

def CreatesNamespace (cluster ns : String) : EngineCall → Prop
  | .transportApply other obj => other = cluster ∧ obj = namespacePayload ns
  | _ => False

def Converges (slot : SlotKey) (call : EngineCall) : Prop :=
  call.IsPassive ∨ call.AppliesAt slot ∨ call.DeletesAt slot

def SparesHub : EngineCall → Prop
  | .hub call => call.IsRead
  | _ => True

variable {call : EngineCall}

theorem IsPassive.sparesHub (passive : call.IsPassive) : call.SparesHub := by
  cases call with
  | hub call => exact passive
  | _ => trivial

theorem AppliesAt.sparesHub {slot : SlotKey} (applies : call.AppliesAt slot) :
    call.SparesHub := by
  cases call with
  | hub call => exact applies.elim
  | _ => trivial

theorem DeletesAt.sparesHub {slot : SlotKey} (deletes : call.DeletesAt slot) :
    call.SparesHub := by
  cases call with
  | hub call => exact deletes.elim
  | _ => trivial

theorem CreatesNamespace.sparesHub {cluster ns : String}
    (creates : call.CreatesNamespace cluster ns) : call.SparesHub := by
  cases call with
  | hub call => exact creates.elim
  | _ => trivial

def SparesSpokes : EngineCall → Prop
  | .transportApply _ _ => False
  | .transportDelete _ _ _ => False
  | _ => True

/-- Calls that leave the spokes and the spec of every Replication alone. -/
def IsCalm : EngineCall → Prop
  | .transportApply _ _ => False
  | .transportDelete _ _ _ => False
  | .hub (.updateReplicationStatus _) => True
  | .hub call => call.IsRead
  | _ => True

theorem IsPassive.calm (passive : call.IsPassive) : call.IsCalm := by
  cases call with
  | transportApply cluster obj => exact passive
  | transportDelete cluster gvk key => exact passive
  | hub call =>
    cases call with
    | updateReplicationStatus rep => trivial
    | _ => exact passive
  | _ => trivial

theorem IsCalm.sparesSpokes (calm : call.IsCalm) : call.SparesSpokes := by
  cases call with
  | transportApply cluster obj => exact calm
  | transportDelete cluster gvk key => exact calm
  | _ => trivial

theorem IsPassive.sparesSpokes (passive : call.IsPassive) : call.SparesSpokes :=
  passive.calm.sparesSpokes

def Collects (slot : SlotKey) (call : EngineCall) : Prop :=
  call.IsPassive ∨ call.DeletesAt slot

end EngineCall

/-- Only the entry of `slot` may have come or gone. -/
def KeepsOthers (slot : SlotKey) (before after : List InventoryEntry) :
    Prop :=
  ∀ other, other ≠ slot → (Recorded after other ↔ Recorded before other)

theorem keepsOthers_refl (slot : SlotKey) (inv : List InventoryEntry) :
    KeepsOthers slot inv inv := fun _ _ => Iff.rfl

theorem keepsOthers_removeEntry (slot : SlotKey) (inv : List InventoryEntry) :
    KeepsOthers slot inv (removeEntry inv slot) := by
  intro other hne
  rw [recorded_removeEntry_iff]
  exact and_iff_left hne

/-- Every entry of `inv` takes the place of one of `plan` for its slot. -/
def Fits (inv plan : List InventoryEntry) : Prop :=
  (inv.map keyForEntry).Subperm (plan.map keyForEntry)

section Fits

variable {inv plan : List InventoryEntry} {slot : SlotKey}

theorem fits_refl (inv : List InventoryEntry) : Fits inv inv :=
  List.Subperm.refl _

theorem Fits.removeEntry (fits : Fits inv plan) (slot : SlotKey) :
    Fits (removeEntry inv slot) plan :=
  (List.filter_sublist.map keyForEntry).subperm.trans fits

theorem Fits.upsertEntry (fits : Fits inv plan) {entry : InventoryEntry}
    (recorded : Recorded plan (keyForEntry entry)) :
    Fits (upsertEntry entry inv) plan := by
  unfold Fits
  by_cases hrec : Recorded inv (keyForEntry entry)
  · rw [keys_upsertEntry entry hrec]
    exact fits
  · rw [keys_upsertEntry_of_new entry hrec]
    rw [recorded_iff_mem_keys] at hrec recorded
    exact List.perm_append_singleton _ _ |>.subperm.trans
      (List.cons_subperm_of_not_mem_of_mem hrec recorded fits)

/-- Once no entry was dropped, the same slots are recorded. -/
theorem Fits.recorded_iff (fits : Fits inv plan) (hlength : plan.length ≤ inv.length) :
    Recorded inv slot ↔ Recorded plan slot := by
  have hperm := List.Subperm.perm_of_length_le fits (by simpa using hlength)
  rw [recorded_iff_mem_keys, recorded_iff_mem_keys, hperm.mem_iff]

/-- A status that shows the inventory as it is records the same slots. -/
theorem Fits.recorded_of_shared {planned : Bool} {status : ReplicationStatus}
    (fits : Fits inv status.inventory)
    (shared : (shareInventory planned status inv).inventory = inv) :
    Recorded inv slot ↔ Recorded status.inventory slot := by
  unfold shareInventory at shared
  split_ifs at shared
  · refine fits.recorded_iff ?_
    rw [← List.drop_eq_nil_iff]
    simpa using shared
  · rw [shared]

end Fits

def TouchesSlot (slot : SlotKey) (before after : List InventoryEntry) : Prop :=
  after = before ∨ after = removeEntry before slot ∨
    ∃ entry, keyForEntry entry = slot ∧ after = upsertEntry entry before

section TouchesSlot

variable {slot : SlotKey} {before after plan : List InventoryEntry}

theorem TouchesSlot.keepsOthers (touches : TouchesSlot slot before after) :
    KeepsOthers slot before after := by
  rcases touches with rfl | rfl | ⟨entry, rfl, rfl⟩
  · exact keepsOthers_refl _ _
  · exact keepsOthers_removeEntry _ _
  · intro other hne
    rw [recorded_upsertEntry_iff]
    exact or_iff_right hne

theorem TouchesSlot.fits (touches : TouchesSlot slot before after)
    (recorded : Recorded plan slot) (fits : Fits before plan) : Fits after plan := by
  rcases touches with rfl | rfl | ⟨entry, rfl, rfl⟩
  · exact fits
  · exact fits.removeEntry slot
  · exact fits.upsertEntry recorded

end TouchesSlot

/-! ## Converging -/

theorem settleSlot_within (nn : NamespacedName) (gvk : GroupVersionKind) (slot : SlotInfo)
    (hash : String) (inv : List InventoryEntry) (verdict : SlotVerdict) :
    (settleSlot nn gvk slot hash inv verdict).Within EngineCall.IsMinor
      (fun out => TouchesSlot (slot.key gvk) inv out.inv) := by
  cases verdict with
  | ready =>
    exact ⟨trivial, fun _ => ⟨trivial, fun _ => .inr (.inr ⟨_, rfl, rfl⟩)⟩⟩
  | retry reason message => exact ⟨trivial, fun _ => .inl rfl⟩
  | refused reason message => exact .inr (.inl rfl)

section Slot

variable (config : EngineConfig) {src : Unstructured} {gvk : GroupVersionKind} {slot : SlotInfo}

theorem applyTarget_works (nn : NamespacedName) (eff : EffectiveOptions)
    (inv : List InventoryEntry) :
    (applyTarget config nn src gvk slot eff inv).Within
      (EngineCall.WorksOn config src gvk slot eff.allowNamespaceCreation)
      (fun out => TouchesSlot (slot.key gvk) inv out.inv) := by
  have hsettle : ∀ verdict, (settleSlot nn gvk slot (config.renderer.sourceHash src) inv
      verdict).Within (EngineCall.WorksOn config src gvk slot eff.allowNamespaceCreation)
        (fun out => TouchesSlot (slot.key gvk) inv out.inv) := fun verdict =>
    (settleSlot_within nn gvk slot _ inv verdict).weaken (fun _ => .minor) fun _ h => h
  unfold applyTarget
  dsimp only
  refine Program.Within.bind ((ensureNamespace_calls slot.cluster slot.ns
    eff.allowNamespaceCreation).weaken ?_ fun _ h => h) ?_
  · rintro call (rfl | ⟨hallowed, rfl⟩)
    · exact .minor trivial
    · exact .creates hallowed
  · intro result _
    cases result with
    | missing text => exact ⟨.minor trivial, fun _ => .inr (.inl rfl)⟩
    | failed err => exact hsettle _
    | ensured =>
      exact Program.Within.bind (convergeSlot_works eff.allowedConflictPolicies)
        fun verdict _ => hsettle verdict

theorem fanOutSlot_works (nn : NamespacedName) (policies : List ReplicationPolicy)
    (outcome : RevocationOutcome) (fan : FanOut) (slot : SlotInfo × Decision) :
    (fanOutSlot config nn src gvk policies outcome fan slot).AllCalls
      (EngineCall.WorksOn config src gvk slot.1 (resolveOptions (policiesByName policies
        slot.2.matchedPolicies)).allowNamespaceCreation) := by
  unfold fanOutSlot
  split_ifs
  · exact Program.Within.bind (applyTarget_works config nn _ _) fun _ _ => trivial
  · exact (emitAll_works (deniedState_minor _ _ _ _ _)).bind fun _ => trivial

theorem EngineCall.WorksOn.serves {config : EngineConfig} {create : Bool} {call : EngineCall}
    (works : call.WorksOn config src gvk slot create) (hkind : src.groupVersionKind = gvk)
    (hname : slot.name = "" → src.name = "") :
    call.Converges (slot.key gvk) ∨
      create = true ∧ call.CreatesNamespace slot.cluster slot.ns := by
  have hslot := slotOf_render config.renderer hname
  rw [hkind] at hslot
  cases works with
  | minor minor => exact .inl (.inl minor.passive)
  | creates allowed => exact .inr ⟨allowed, rfl, rfl⟩
  | writes => exact .inl (.inr (.inl ⟨hslot, by simp⟩))
  | recreates => exact .inl (.inr (.inr hslot))
  | adopts hash => exact .inl (.inr (.inl ⟨slotOf_adoptPatch _ _ _ _ _, by simp⟩))

/-- One target writes its slot, and its Namespace when that is allowed. -/
theorem applyTarget_within (hkind : src.groupVersionKind = gvk)
    (hname : slot.name = "" → src.name = "") (nn : NamespacedName) (eff : EffectiveOptions)
    (inv : List InventoryEntry) :
    (applyTarget config nn src gvk slot eff inv).Within (fun call => call.Converges (slot.key gvk) ∨
        eff.allowNamespaceCreation = true ∧ call.CreatesNamespace slot.cluster slot.ns)
      (fun out => TouchesSlot (slot.key gvk) inv out.inv) :=
  (applyTarget_works config nn eff inv).weaken (fun _ works => works.serves hkind hname)
    fun _ h => h

end Slot

/-! ## Collecting -/

theorem planGC_within (keep : List SlotKey) (inv : List InventoryEntry) :
    (planGC keep inv).Within EngineCall.IsMinor fun plan =>
      ∀ entry, entry ∈ plan.delete ∨ entry ∈ plan.release ↔
        entry ∈ inv ∧ keyForEntry entry ∉ keep := by
  induction inv with
  | nil => simp [planGC, Program.Within]
  | cons head rest ih =>
    unfold planGC
    split_ifs with hkeep
    · have hhead : keyForEntry head ∈ keep := by simpa using hkeep
      refine ih.weaken (fun _ h => h) ?_
      intro plan hplan entry
      rw [hplan, List.mem_cons]
      constructor
      · exact fun h => ⟨.inr h.1, h.2⟩
      · rintro ⟨rfl | hmem, hentry⟩
        · exact (hentry hhead).elim
        · exact ⟨hmem, hentry⟩
    · have hhead : keyForEntry head ∉ keep := by simpa using hkeep
      have hsplit : ∀ entry, entry = head ∨ (entry ∈ rest ∧ keyForEntry entry ∉ keep) ↔
            entry ∈ head :: rest ∧ keyForEntry entry ∉ keep := by
        intro entry
        rw [List.mem_cons]
        constructor
        · rintro (rfl | ⟨hmem, hentry⟩)
          · exact ⟨.inl rfl, hhead⟩
          · exact ⟨.inr hmem, hentry⟩
        · rintro ⟨rfl | hmem, hentry⟩
          · exact .inl rfl
          · exact .inr ⟨hmem, hentry⟩
      refine ⟨trivial, fun found => ih.bind ?_⟩
      intro plan hplan
      cases found with
      | none =>
        intro entry
        rw [← hsplit, ← hplan]
        simp only [List.mem_cons]
        tauto
      | some record =>
        intro entry
        rw [← hsplit, ← hplan]
        simp only [List.mem_cons]
        tauto

theorem releaseEntries_within (entries inv : List InventoryEntry) :
    (releaseEntries entries inv).Within (fun call => ∃ entry ∈ entries,
        call = .emit (.event (.clusterGone entry)))
      (fun left => ∀ slot, Recorded left slot ↔
        Recorded inv slot ∧ ∀ entry ∈ entries, keyForEntry entry ≠ slot) := by
  induction entries generalizing inv with
  | nil => simp [releaseEntries, Program.Within]
  | cons head rest ih =>
    refine ⟨⟨head, List.mem_cons_self, rfl⟩, fun _ => ?_⟩
    refine (ih (removeEntry inv (keyForEntry head))).weaken ?_ ?_
    · rintro call ⟨entry, hmem, rfl⟩
      exact ⟨entry, List.mem_cons_of_mem _ hmem, rfl⟩
    · intro left hleft slot
      rw [hleft, recorded_removeEntry_iff]
      simp only [List.mem_cons, forall_eq_or_imp, ne_comm, and_assoc]

def DropsAtMost (entry : InventoryEntry) (before after : List InventoryEntry) :
    Prop :=
  after = before ∨ after = removeEntry before (keyForEntry entry)

theorem DropsAtMost.keepsOthers {entry : InventoryEntry} {before after : List InventoryEntry}
    (drops : DropsAtMost entry before after) :
    KeepsOthers (keyForEntry entry) before after := by
  rcases drops with rfl | rfl
  · exact keepsOthers_refl _ _
  · exact keepsOthers_removeEntry _ _

theorem DropsAtMost.fits {entry : InventoryEntry} {before after plan : List InventoryEntry}
    (drops : DropsAtMost entry before after) (fits : Fits before plan) : Fits after plan := by
  rcases drops with rfl | rfl
  · exact fits
  · exact fits.removeEntry _

/-- The calls with which an entry is collected. -/
inductive EngineCall.CleansUp (config : EngineConfig) (entry : InventoryEntry) :
    EngineCall → Prop where
  | minor {call : EngineCall} (minor : call.IsMinor) : CleansUp config entry call
  | deletes {gvk : GroupVersionKind} (hgvk : gvkForEntry config entry = some gvk) :
      CleansUp config entry (.transportDelete entry.clusterName gvk ⟨entry.ns, entry.name⟩)
  | orphans : CleansUp config entry (.emit (.event (.replicaOrphaned entry)))

theorem EngineCall.CleansUp.collects {config : EngineConfig} {entry : InventoryEntry}
    {call : EngineCall} (cleans : call.CleansUp config entry) :
    call.Collects (keyForEntry entry) := by
  cases cleans with
  | minor minor => exact .inl minor.passive
  | deletes hgvk => exact .inr (slotOf_gvkForEntry hgvk)
  | orphans => exact .inl id

theorem collectEntry_cleansUp (config : EngineConfig) (nn : NamespacedName) (sourceUID : String)
    (gc : FanOut) (entry : InventoryEntry) :
    (collectEntry config nn sourceUID gc entry).Within (EngineCall.CleansUp config entry)
      (fun left => DropsAtMost entry gc.inv left.inv) := by
  have hdrop : DropsAtMost entry gc.inv (dropEntry gc entry).inv := .inr rfl
  have hretry : ∀ step err, (retryEntry nn gc entry step err).Within
      (EngineCall.CleansUp config entry)
      (fun left => DropsAtMost entry gc.inv left.inv) :=
    fun _ _ => ⟨.minor trivial, fun _ => .inl rfl⟩
  have hcleaned : (cleanedEntry nn gc entry).Within (EngineCall.CleansUp config entry)
      (fun left => DropsAtMost entry gc.inv left.inv) :=
    ⟨.minor trivial, fun _ => ⟨.minor ⟨id, id⟩, fun _ => hdrop⟩⟩
  unfold collectEntry
  cases hgvk : gvkForEntry config entry with
  | none => exact .inl rfl
  | some gvk =>
    have hdelete : (deleteEntry nn gc entry gvk).Within (EngineCall.CleansUp config entry)
        (fun left => DropsAtMost entry gc.inv left.inv) := by
      unfold deleteEntry
      rw [Program.perform_bind]
      refine ⟨.deletes hgvk, ?_⟩
      intro reply
      cases reply with
      | ok _ => exact hcleaned
      | error err =>
        dsimp only
        split_ifs
        · exact hcleaned
        · exact hretry _ _
    dsimp only
    rw [Program.perform_bind]
    refine ⟨.minor trivial, ?_⟩
    intro reply
    cases reply with
    | error err =>
      dsimp only
      split_ifs
      · exact ⟨.minor trivial, fun _ => hdrop⟩
      · exact hretry _ _
    | ok existing =>
      dsimp only
      cases classifyReplicaOwnership existing.labels sourceUID with
      | foreign =>
        refine Program.Within.bind (emitAll_allCalls ?_) fun _ _ => hdrop
        simp only [List.mem_cons, List.not_mem_nil, or_false]
        rintro signal (rfl | rfl)
        · exact .minor ⟨id, id⟩
        · exact .orphans
      | stripped =>
        refine Program.Within.bind (emitAll_allCalls fun signal hmem => .minor ?_)
          fun _ _ => hdelete
        exact (show ∀ signal ∈ _, EngineSignal.IsMinor signal by simp) signal hmem
      | managed => exact hdelete

theorem collectEntry_within (config : EngineConfig) (nn : NamespacedName) (sourceUID : String)
    (gc : FanOut) (entry : InventoryEntry) :
    (collectEntry config nn sourceUID gc entry).Within (EngineCall.Collects (keyForEntry entry))
      (fun left => DropsAtMost entry gc.inv left.inv) :=
  (collectEntry_cleansUp config nn sourceUID gc entry).weaken
    (fun _ => EngineCall.CleansUp.collects) fun _ h => h

/-- The calls of a collection: entries that are not kept are released or collected. -/
inductive EngineCall.Sweeps (config : EngineConfig) (keep : List SlotKey)
    (inv : List InventoryEntry) : EngineCall → Prop where
  | minor {call : EngineCall} (minor : call.IsMinor) : Sweeps config keep inv call
  | releases {entry : InventoryEntry} (hmem : entry ∈ inv) (hkeep : keyForEntry entry ∉ keep) :
      Sweeps config keep inv (.emit (.event (.clusterGone entry)))
  | collects {entry : InventoryEntry} (hmem : entry ∈ inv) (hkeep : keyForEntry entry ∉ keep)
      {call : EngineCall} (cleans : call.CleansUp config entry) : Sweeps config keep inv call

theorem EngineCall.Sweeps.offHub {config : EngineConfig} {keep : List SlotKey}
    {inv : List InventoryEntry} {call : EngineCall} (sweeps : call.Sweeps config keep inv) :
    call.IsOffHub := by
  cases sweeps with
  | minor minor => exact minor.offHub
  | releases => trivial
  | collects hmem hkeep cleans =>
    cases cleans with
    | minor minor => exact minor.offHub
    | _ => trivial

/-- Collection deletes or releases only entries that are not kept, and the
kept ones stay. -/
theorem collectGarbage_cleansUp (config : EngineConfig) (nn : NamespacedName) (sourceUID : String)
    (keep : List SlotKey) (inv : List InventoryEntry) :
    (collectGarbage config nn sourceUID keep inv).Within (EngineCall.Sweeps config keep inv)
      (fun gc => ∀ slot ∈ keep, Recorded inv slot → Recorded gc.inv slot) := by
  unfold collectGarbage
  refine Program.Within.bind ((planGC_within keep inv).weaken (fun _ => .minor) fun _ h => h) ?_
  intro plan hplan
  have hrelease : ∀ entry ∈ plan.release, entry ∈ inv ∧ keyForEntry entry ∉ keep :=
    fun entry hmem => (hplan entry).mp (.inr hmem)
  have hdelete : ∀ entry ∈ plan.delete, entry ∈ inv ∧ keyForEntry entry ∉ keep :=
    fun entry hmem => (hplan entry).mp (.inl hmem)
  refine Program.Within.bind ((releaseEntries_within plan.release inv).weaken ?_ fun _ h => h) ?_
  · rintro call ⟨entry, hmem, rfl⟩
    obtain ⟨hinv, hkeep⟩ := hrelease entry hmem
    exact .releases hinv hkeep
  · intro left hleft
    have hkept : ∀ slot ∈ keep, Recorded inv slot → Recorded left slot := by
      intro slot hslot hrec
      rw [hleft]
      refine ⟨hrec, ?_⟩
      rintro entry hmem rfl
      exact (hrelease entry hmem).2 hslot
    refine Program.Within.foldlM ?_ hkept
    intro entry hmem gc hgc
    obtain ⟨hinv, hkeep⟩ := hdelete entry hmem
    refine (collectEntry_cleansUp config nn sourceUID gc entry).weaken
      (fun _ => .collects hinv hkeep) ?_
    · intro left hdrops slot hslot hrec
      have hne : slot ≠ keyForEntry entry := by
        rintro rfl
        exact hkeep hslot
      exact (hdrops.keepsOthers slot hne).mpr (hgc slot hslot hrec)

theorem collectGarbage_within (config : EngineConfig) (nn : NamespacedName) (sourceUID : String)
    (keep : List SlotKey) (inv : List InventoryEntry) :
    (collectGarbage config nn sourceUID keep inv).Within (fun call => call.IsPassive ∨
        ∃ entry ∈ inv, keyForEntry entry ∉ keep ∧ (call = .emit (.event (.clusterGone entry)) ∨
            call.DeletesAt (keyForEntry entry)))
      (fun gc => ∀ slot ∈ keep, Recorded inv slot → Recorded gc.inv slot) := by
  refine (collectGarbage_cleansUp config nn sourceUID keep inv).weaken ?_ fun _ h => h
  intro call hcall
  cases hcall with
  | minor minor => exact .inl minor.passive
  | releases hmem hkeep => exact .inr ⟨_, hmem, hkeep, .inl rfl⟩
  | collects hmem hkeep cleans =>
    rcases cleans.collects with hpassive | hdeletes
    · exact .inl hpassive
    · exact .inr ⟨_, hmem, hkeep, .inr hdeletes⟩

theorem releaseEntries_fits {plan : List InventoryEntry} (entries : List InventoryEntry)
    {inv : List InventoryEntry} (fits : Fits inv plan) :
    (releaseEntries entries inv).Within (fun _ => True) (fun left => Fits left plan) := by
  induction entries generalizing inv with
  | nil => exact fits
  | cons head rest ih => exact ⟨trivial, fun _ => ih (fits.removeEntry _)⟩

theorem collectGarbage_fits (config : EngineConfig) (nn : NamespacedName) (sourceUID : String)
    (keep : List SlotKey) {inv plan : List InventoryEntry} (fits : Fits inv plan) :
    (collectGarbage config nn sourceUID keep inv).Within (fun _ => True)
      (fun gc => Fits gc.inv plan) := by
  refine Program.Within.bind (Program.within_true _) ?_
  intro gcPlan _
  refine Program.Within.bind (releaseEntries_fits gcPlan.release fits) ?_
  intro left hleft
  refine Program.Within.foldlM ?_ hleft
  intro entry _ gc hgc
  exact (collectEntry_cleansUp config nn sourceUID gc entry).weaken (fun _ _ => trivial)
    fun _ hdrops => hdrops.fits hgc

/-! ## All targets -/

/-- What flattening makes of the resolved targets, whatever discovery says. -/
structure Flattened (sourceName : String) (resolved : List ResolvedTarget)
    (targets : List (SlotInfo × PolicyTarget)) : Prop where
  aligned : ∀ target ∈ targets,
    target.2.clusterName = target.1.cluster ∧ target.2.ns = target.1.ns
  named : ∀ target ∈ targets, target.1.name = "" → sourceName = ""
  complete : ∀ tgt ∈ resolved, ∀ ns ∈ tgt.namespaces, ∃ target ∈ targets,
    target.1 = ⟨tgt.clusterName, ns, tgt.slotName sourceName⟩
  sound : ∀ target ∈ targets, ∃ tgt ∈ resolved,
    tgt.clusterName = target.1.cluster ∧ target.1.ns ∈ tgt.namespaces

theorem slotName_eq_empty {tgt : ResolvedTarget} {sourceName : String}
    (hname : tgt.slotName sourceName = "") : sourceName = "" := by
  unfold ResolvedTarget.slotName at hname
  split_ifs at hname with hempty
  · exact hname
  · exact (hempty hname).elim

theorem flattenTargets_within (sourceName : String) (resolved : List ResolvedTarget) :
    (flattenTargets sourceName resolved).Within EngineCall.IsPassive
      (Flattened sourceName resolved) := by
  induction resolved with
  | nil => exact ⟨by simp, by simp, by simp, by simp⟩
  | cons tgt rest ih =>
    refine ⟨trivial, fun found => ih.bind ?_⟩
    intro more hmore
    have hhead : ∀ target ∈ flattenTarget sourceName tgt ((found.map ClusterRecord.labels).getD ∅),
        ∃ ns ∈ tgt.namespaces, target.1 = ⟨tgt.clusterName, ns, tgt.slotName sourceName⟩ ∧
          target.2.clusterName = tgt.clusterName ∧ target.2.ns = ns := by
      intro target hmem
      obtain ⟨ns, hns, rfl⟩ := List.mem_map.mp hmem
      exact ⟨ns, hns, rfl, rfl, rfl⟩
    refine ⟨?_, ?_, ?_, ?_⟩
    · intro target hmem
      rcases List.mem_append.mp hmem with hmem | hmem
      · obtain ⟨ns, _, hslot, hcluster, hns⟩ := hhead target hmem
        rw [hslot]
        exact ⟨hcluster, hns⟩
      · exact hmore.aligned target hmem
    · intro target hmem hname
      rcases List.mem_append.mp hmem with hmem | hmem
      · obtain ⟨ns, _, hslot, _⟩ := hhead target hmem
        rw [hslot] at hname
        exact slotName_eq_empty hname
      · exact hmore.named target hmem hname
    · intro other hother ns hns
      rcases List.mem_cons.mp hother with rfl | hother
      · refine ⟨_, List.mem_append_left _ (List.mem_map.mpr ⟨ns, hns, rfl⟩), rfl⟩
      · obtain ⟨target, hmem, hslot⟩ := hmore.complete other hother ns hns
        exact ⟨target, List.mem_append_right _ hmem, hslot⟩
    · intro target hmem
      rcases List.mem_append.mp hmem with hmem | hmem
      · obtain ⟨ns, hns, hslot, _⟩ := hhead target hmem
        rw [hslot]
        exact ⟨tgt, List.mem_cons_self, rfl, hns⟩
      · obtain ⟨other, hother, hrest⟩ := hmore.sound target hmem
        exact ⟨other, List.mem_cons_of_mem _ hother, hrest⟩

theorem zip_decisions (src : PolicySource) (policies : List ReplicationPolicy)
    (targets : List (SlotInfo × PolicyTarget)) :
    (targets.map Prod.fst).zip (evaluate ⟨src, targets.map Prod.snd⟩ policies).decisions =
      targets.map fun target =>
        (target.1, decideTarget src target.2 policies) := by
  rw [evaluate_decisions, List.map_map, List.zip_map']
  rfl

def EngineCall.Serves (gvk : GroupVersionKind) (policies : List ReplicationPolicy)
    (slot : SlotInfo × Decision) (call : EngineCall) : Prop :=
  call.Converges (slot.1.key gvk) ∨ (resolveOptions (policiesByName policies
      slot.2.matchedPolicies)).allowNamespaceCreation = true ∧
        call.CreatesNamespace slot.1.cluster slot.1.ns

variable {gvk : GroupVersionKind}

theorem EngineCall.Serves.sparesHub {policies : List ReplicationPolicy}
    {slot : SlotInfo × Decision} {call : EngineCall} (serves : call.Serves gvk policies slot) :
    call.SparesHub := by
  rcases serves with (hpassive | happlies | hdeletes) | ⟨_, hcreates⟩
  · exact hpassive.sparesHub
  · exact happlies.sparesHub
  · exact hdeletes.sparesHub
  · exact hcreates.sparesHub

theorem fanOut_within (config : EngineConfig) (nn : NamespacedName) {src : Unstructured}
    (hkind : src.groupVersionKind = gvk) (policies : List ReplicationPolicy)
    (outcome : RevocationOutcome) {slots : List (SlotInfo × Decision)}
    (hname : ∀ slot ∈ slots, slot.1.name = "" → src.name = "") (fan : FanOut) :
    (slots.foldlM (fanOutSlot config nn src gvk policies outcome) fan).Within
      (fun call => call.IsPassive ∨ ∃ slot ∈ slots,
        slot.2.allowed = true ∧ call.Serves gvk policies slot)
      (fun after => ∀ key, (∀ slot ∈ slots, slot.2.allowed = true → slot.1.key gvk ≠ key) →
          (Recorded after.inv key ↔ Recorded fan.inv key)) := by
  refine Program.Within.foldlM ?_ fun _ _ => Iff.rfl
  intro slot hmem state hstate
  unfold fanOutSlot
  split_ifs with hallowed
  · refine Program.Within.bind ((applyTarget_within config hkind (hname slot hmem) nn _
        state.inv).weaken ?_ fun _ h => h) ?_
    · intro call hcall
      exact .inr ⟨slot, hmem, hallowed, hcall⟩
    · intro out hout key hkey
      have hne : key ≠ slot.1.key gvk :=
        fun h => hkey slot hmem hallowed h.symm
      exact (hout.keepsOthers key hne).trans (hstate key hkey)
  · refine Program.Within.bind (emitAll_allCalls ?_) fun _ _ => hstate
    intro signal hsignal
    exact .inl (deniedState_minor _ _ _ _ _ signal hsignal).1

/-- The fanout records no slot that was not planned. -/
theorem fanOut_fits (config : EngineConfig) (nn : NamespacedName) (src : Unstructured)
    (policies : List ReplicationPolicy) (outcome : RevocationOutcome)
    (slots : List (SlotInfo × Decision)) (recorded : List InventoryEntry) :
    (slots.foldlM (fanOutSlot config nn src gvk policies outcome)
      ⟨[], [], planInventory gvk slots recorded⟩).Within (fun _ => True)
      (fun after => Fits after.inv (planInventory gvk slots recorded)) := by
  refine Program.Within.foldlM ?_ (fits_refl _)
  intro slot hmem fan hfan
  unfold fanOutSlot
  split_ifs with hallowed
  · refine Program.Within.bind ((applyTarget_works config nn _ fan.inv).weaken
      (fun _ _ => trivial) fun _ h => h) ?_
    intro out hout
    exact hout.fits ((recorded_planInventory_iff _ _ _ _).mpr
      (.inr ⟨slot, hmem, hallowed, rfl⟩)) hfan
  · exact Program.Within.bind (Program.within_true _) fun _ _ => hfan

/-! ## Writing the status -/

def EngineCall.RecordsInventory (inv : List InventoryEntry) : EngineCall → Prop
  | .hub (.updateReplicationStatus rep) => rep.status.inventory = inv
  | _ => False

theorem persistPlanned_calls (rep : Replication) (inv : List InventoryEntry) :
    (persistPlanned rep inv).AllCalls (EngineCall.RecordsInventory inv) := by
  unfold persistPlanned
  split_ifs
  · trivial
  · exact ⟨rfl, fun _ => trivial⟩

theorem writeStatusIfChanged_calls (rep : Replication) (next : ReplicationStatus) :
    (writeStatusIfChanged rep next).AllCalls (EngineCall.RecordsInventory next.inventory) := by
  unfold writeStatusIfChanged
  split_ifs
  · trivial
  · exact ⟨rfl, fun _ => trivial⟩

theorem finishSimple_calls (rep : Replication) (reason message : String) (requeueAfter : Nat) :
    (finishSimple rep reason message requeueAfter).AllCalls fun call =>
      call.IsPassive ∨ call.RecordsInventory rep.status.inventory := by
  unfold finishSimple
  rw [Program.perform_bind]
  refine ⟨.inl trivial, fun now => ?_⟩
  refine Program.AllCalls.bind ((writeStatusIfChanged_calls rep _).weaken
    (fun _ => .inr) fun _ h => h) ?_
  intro result
  cases result with
  | ok stored => trivial
  | error err => trivial

theorem finishFanOut_calls (config : EngineConfig) (nn : NamespacedName) (rep : Replication)
    (srcHash : String) (states : List TargetState) (delays : List Nat) (inv : List InventoryEntry)
    (revokedRetained : Bool) :
    (finishFanOut config nn rep srcHash states delays inv revokedRetained).AllCalls fun call =>
        call.IsMinor ∨ call.RecordsInventory inv := by
  unfold finishFanOut
  refine Program.AllCalls.bind (emitAll_allCalls ?_) fun _ => ?_
  · simp [EngineCall.IsMinor]
  · rw [Program.perform_bind]
    refine ⟨.inl trivial, fun now => ?_⟩
    refine Program.AllCalls.bind ((writeStatusIfChanged_calls rep _).weaken
      (fun _ => .inr) fun _ h => h) ?_
    intro result
    cases result with
    | error err => trivial
    | ok stored =>
      refine Program.AllCalls.bind (emitAll_allCalls ?_) fun _ => trivial
      intro signal hsignal
      exact .inl (transitionEvents_minor _ _ signal hsignal)

theorem EngineCall.RecordsInventory.calm {call : EngineCall} {inv : List InventoryEntry}
    (records : call.RecordsInventory inv) : call.IsCalm := by
  cases call with
  | hub call =>
    cases call with
    | updateReplicationStatus rep => trivial
    | _ => exact records.elim
  | _ => exact records.elim

theorem finishDeletion_calls (config : EngineConfig) (nn : NamespacedName) (rep : Replication)
    (gc : FanOut) :
    (finishDeletion config nn rep gc).AllCalls fun call =>
      call.IsCalm ∨ call = .hub (.updateReplication (released rep)) := by
  unfold finishDeletion
  split_ifs
  · rw [hub_bind]
    refine ⟨.inr rfl, fun reply => ?_⟩
    cases reply with
    | error err => trivial
    | ok stored =>
      exact ⟨.inl trivial, fun _ => ⟨.inl trivial, fun _ =>
        ⟨.inl trivial, fun _ => ⟨.inl trivial, fun _ => trivial⟩⟩⟩⟩
  · rw [Program.perform_bind]
    refine ⟨.inl trivial, fun now => ?_⟩
    refine Program.AllCalls.bind ((writeStatusIfChanged_calls rep _).weaken
      (fun _ h => .inl h.calm) fun _ h => h) ?_
    intro result
    cases result with
    | error err => trivial
    | ok stored => trivial

theorem reconcileDeletion_calls (config : EngineConfig) (nn : NamespacedName) (rep : Replication) :
    (reconcileDeletion config nn rep).AllCalls fun call =>
      call.SparesSpokes ∨ ∃ entry ∈ rep.status.inventory, call.DeletesAt (keyForEntry entry) := by
  unfold reconcileDeletion
  split_ifs
  · trivial
  · refine Program.Within.bind ((collectGarbage_within config nn _ [] _).weaken ?_ fun _ h => h) ?_
    · rintro call (hpassive | ⟨entry, hmem, _, rfl | hdeletes⟩)
      · exact .inl hpassive.sparesSpokes
      · exact .inl trivial
      · exact .inr ⟨entry, hmem, hdeletes⟩
    · intro gc _
      refine (finishDeletion_calls config nn rep gc).weaken ?_ fun _ h => h
      rintro call (hcalm | rfl)
      · exact .inl hcalm.sparesSpokes
      · exact .inl trivial

/-! ## Carrying the decisions out -/

theorem mem_allowedKeys_iff (gvk : GroupVersionKind) (slots : List (SlotInfo × Decision))
    (key : SlotKey) :
    key ∈ allowedKeys gvk slots ↔ ∃ slot ∈ slots, slot.2.allowed = true ∧ slot.1.key gvk = key := by
  simp [allowedKeys, and_assoc]

/-- The calls of a fanout and the collection after it.  Allowed slots are
served, slots that are neither allowed nor retained are given up, and retained
slots stay recorded. -/
inductive EngineCall.CarriesOut
    (gvk : GroupVersionKind) (policies : List ReplicationPolicy)
    (slots : List (SlotInfo × Decision)) (retained : List SlotKey)
    (recorded : List InventoryEntry) (call : EngineCall) : Prop where
  | passive (passive : call.IsPassive)
  | serves {slot : SlotInfo × Decision} (hmem : slot ∈ slots)
      (allowed : slot.2.allowed = true)
      (serves : call.Serves gvk policies slot)
  | givesUp {entry : InventoryEntry}
      (unretained : keyForEntry entry ∉ retained)
      (denied : keyForEntry entry ∉ allowedKeys gvk slots)
      (givesUp : call = .emit (.event (.clusterGone entry)) ∨
        call.DeletesAt (keyForEntry entry))
  | records {inv : List InventoryEntry} (records : call.RecordsInventory inv)
      (keeps : ∀ key ∈ retained, key ∉ allowedKeys gvk slots →
        Recorded recorded key → Recorded inv key)

section CarriesOut

variable {gvk : GroupVersionKind} {policies : List ReplicationPolicy}
  {slots : List (SlotInfo × Decision)} {retained : List SlotKey}
  {recorded : List InventoryEntry}

theorem EngineCall.CarriesOut.hub_cases {call : HubCall}
    (carries : (EngineCall.hub call).CarriesOut gvk policies slots retained recorded) :
    call.IsRead ∨ ∃ rep, call = .updateReplicationStatus rep ∧
      ∀ key ∈ retained, key ∉ allowedKeys gvk slots →
        Recorded recorded key → Recorded rep.status.inventory key := by
  cases carries with
  | passive hpassive => exact .inl hpassive
  | serves hmem hallowed hserves =>
    rcases hserves with (hpassive | happlies | hdeletes) | ⟨_, hcreates⟩
    · exact .inl hpassive
    · exact happlies.elim
    · exact hdeletes.elim
    · exact hcreates.elim
  | givesUp _ _ hgivesUp =>
    rcases hgivesUp with hcall | hdeletes
    · cases hcall
    · exact hdeletes.elim
  | records hrecords hkeeps =>
    cases call with
    | updateReplicationStatus rep =>
      refine .inr ⟨rep, rfl, ?_⟩
      have hinv : rep.status.inventory = _ := hrecords
      rw [hinv]
      exact hkeeps
    | _ => exact hrecords.elim

variable {call : EngineCall}

theorem EngineCall.DeletesAt.unique {first second : SlotKey} (hfirst : call.DeletesAt first)
    (hsecond : call.DeletesAt second) :
    first = second := by
  cases call with
  | transportDelete cluster gvk key => exact hfirst.symm.trans hsecond
  | _ => exact hfirst.elim

theorem EngineCall.AppliesAt.unique {first second : SlotKey} (hfirst : call.AppliesAt first)
    (hsecond : call.AppliesAt second) :
    first = second := by
  cases call with
  | transportApply cluster obj => exact hfirst.1.symm.trans hsecond.1
  | _ => exact hfirst.elim

theorem EngineCall.CreatesNamespace.not_appliesAt {cluster ns : String} {slot : SlotKey}
    (creates : call.CreatesNamespace cluster ns) : ¬ call.AppliesAt slot := by
  cases call with
  | transportApply other obj =>
    obtain ⟨_, rfl⟩ := creates
    rintro ⟨_, hmarked⟩
    rw [namespacePayload_plain] at hmarked
    cases hmarked
  | _ => exact creates.elim

/-- A replica is written only at a slot that is allowed, and deleted only there
or at a slot that is not retained. -/
theorem EngineCall.CarriesOut.writes_cases {key : SlotKey}
    (carries : call.CarriesOut gvk policies slots retained recorded) :
    (call.AppliesAt key → key ∈ allowedKeys gvk slots) ∧
      (call.DeletesAt key → key ∈ allowedKeys gvk slots ∨ key ∉ retained) := by
  have hquiet : call.IsPassive → ¬ call.AppliesAt key ∧ ¬ call.DeletesAt key := by
    intro hpassive
    cases call with
    | transportApply cluster obj => exact hpassive.elim
    | transportDelete cluster gvk key => exact hpassive.elim
    | _ => exact ⟨fun h => h, fun h => h⟩
  cases carries with
  | passive hpassive =>
    exact ⟨fun h => ((hquiet hpassive).1 h).elim, fun h => ((hquiet hpassive).2 h).elim⟩
  | @serves slot hmem hallowed hserves =>
    have hkey : slot.1.key gvk ∈ allowedKeys gvk slots :=
      (mem_allowedKeys_iff _ _ _).mpr ⟨slot, hmem, hallowed, rfl⟩
    rcases hserves with (hpassive | happlies | hdeletes) | ⟨_, hcreates⟩
    · exact ⟨fun h => ((hquiet hpassive).1 h).elim, fun h => ((hquiet hpassive).2 h).elim⟩
    · refine ⟨fun h => h.unique happlies ▸ hkey, ?_⟩
      intro h
      cases call with
      | transportApply cluster obj => exact h.elim
      | _ => exact happlies.elim
    · refine ⟨?_, fun h => .inl (h.unique hdeletes ▸ hkey)⟩
      intro h
      cases call with
      | transportDelete cluster gvk key => exact h.elim
      | _ => exact hdeletes.elim
    · refine ⟨fun h => (hcreates.not_appliesAt h).elim, ?_⟩
      intro h
      cases call with
      | transportApply cluster obj => exact h.elim
      | _ => exact hcreates.elim
  | @givesUp entry hunretained _ hgivesUp =>
    rcases hgivesUp with rfl | hdeletes
    · exact ⟨fun h => h.elim, fun h => h.elim⟩
    · refine ⟨?_, fun h => .inr (h.unique hdeletes ▸ hunretained)⟩
      intro h
      cases call with
      | transportDelete cluster gvk key => exact h.elim
      | _ => exact hdeletes.elim
  | records hrecords _ =>
    cases call with
    | hub call => exact ⟨fun h => h.elim, fun h => h.elim⟩
    | _ => exact hrecords.elim

end CarriesOut

theorem converge_calls (config : EngineConfig) (nn : NamespacedName) (rep : Replication)
    {src : Unstructured} (hkind : src.groupVersionKind = gvk) (policies : List ReplicationPolicy)
    {slots : List (SlotInfo × Decision)}
    (hname : ∀ slot ∈ slots, slot.1.name = "" → src.name = "") (outcome : RevocationOutcome) :
    (converge config nn rep src gvk policies slots outcome).AllCalls
      (EngineCall.CarriesOut gvk policies slots outcome.retained rep.status.inventory) := by
  have hplanned : ∀ key, Recorded rep.status.inventory key →
      Recorded (planInventory gvk slots rep.status.inventory) key :=
    fun key hrec => (recorded_planInventory_iff _ _ _ _).mpr (.inl hrec)
  unfold converge
  refine Program.AllCalls.bind ((persistPlanned_calls rep _).weaken ?_ fun _ h => h) ?_
  · exact fun call hcall => .records hcall fun key _ _ hrec =>
      hplanned key hrec
  · intro result
    cases result with
    | error err => trivial
    | ok stored =>
      refine Program.Within.bind ((fanOut_within config nn hkind policies
        outcome hname _).weaken ?_ fun _ h => h) ?_
      · rintro call (hpassive | ⟨slot, hmem, hallowed, hserves⟩)
        · exact .passive hpassive
        · exact .serves hmem hallowed hserves
      · intro fan hfan
        refine Program.Within.bind ((collectGarbage_within config nn _ _
          fan.inv).weaken ?_ fun _ h => h) ?_
        · rintro call (hpassive | ⟨entry, _, hkeep, hgivesUp⟩)
          · exact .passive hpassive
          · rw [List.mem_append, not_or] at hkeep
            exact .givesUp hkeep.1 hkeep.2 hgivesUp
        · intro gc hgc
          refine (finishFanOut_calls config nn _ _ _ _ gc.inv _).weaken ?_ fun _ h => h
          rintro call (hpassive | hrecords)
          · exact .passive hpassive.passive
          · refine .records hrecords ?_
            intro key hretained hdenied hrec
            refine hgc key (List.mem_append_left _ hretained) ?_
            refine (hfan key ?_).mpr (hplanned key hrec)
            intro slot hmem hallowed hslot
            exact hdenied ((mem_allowedKeys_iff _ _ _).mpr ⟨slot, hmem, hallowed, hslot⟩)

end K8sR8r
