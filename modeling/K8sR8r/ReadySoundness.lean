import K8sR8r.SoloReconcile
import K8sR8r.StatusStability

/-!
# What Ready stands for

A status is Ready when no outcome of the reconcile was a failure and there was
something to do.  Every way in which a slot or an entry can go wrong leaves a
failed outcome behind, so a Ready status accounts for all slots of the spec and
for nothing else.
-/

namespace K8sR8r

open Interaction

/-! ## Ready means that nothing failed -/

theorem isReady_buildStatus {rep : Replication} {sourceHash : String} {states : List TargetState}
    {inventory : List InventoryEntry} {retained : Bool} {now : Nat}
    (hlive : rep.deletionTimestamp = none)
    (ready : IsReady (buildStatus rep sourceHash states inventory retained now)) :
    (∀ state ∈ states, state.ready = true) ∧ ∃ state ∈ states, state.desired = true := by
  obtain ⟨hfailed, hdesired⟩ := (isReady_buildStatus_iff _ _ _ _ _ _).mp ready
  rw [List.length_eq_zero_iff, nonReadyStates, List.filter_eq_nil_iff] at hfailed
  refine ⟨fun state hmem => by simpa using hfailed state hmem, ?_⟩
  rw [← List.countP_pos_iff]
  exact hdesired.resolve_right (not_not.mpr hlive)

/-! ## Inventories without duplicates -/

def DistinctKeys (inv : List InventoryEntry) : Prop :=
  (inv.map keyForEntry).Nodup

section

variable {gvk : GroupVersionKind} {slots : List (SlotInfo × Decision)} {inv : List InventoryEntry}

theorem distinctKeys_planInventory (distinct : DistinctKeys inv) :
    DistinctKeys (planInventory gvk slots inv) := by
  induction slots generalizing inv with
  | nil => exact distinct
  | cons slot rest ih =>
    rw [planInventory, List.foldl_cons, ← planInventory]
    refine ih ?_
    split_ifs with hplan
    · simp only [Bool.and_eq_true, Bool.not_eq_true',
        ← Bool.not_eq_true (hasEntry _ _), hasEntry_iff,
        recorded_iff_mem_keys] at hplan
      unfold DistinctKeys
      rw [List.map_append, List.nodup_append]
      refine ⟨distinct, by simp, ?_⟩
      intro first hfirst second hsecond heq
      simp only [List.map_cons, List.map_nil, List.mem_singleton] at hsecond
      rw [heq, hsecond] at hfirst
      exact hplan.2 hfirst
    · exact distinct

/-- What the plan adds has no hash yet. -/
theorem mem_planInventory {entry : InventoryEntry} (hmem : entry ∈ planInventory gvk slots inv) :
    entry ∈ inv ∨ entry.lastAppliedHash = "" := by
  induction slots generalizing inv with
  | nil => exact .inl hmem
  | cons slot rest ih =>
    rw [planInventory, List.foldl_cons, ← planInventory] at hmem
    rcases ih hmem with hmem | hhash
    · split_ifs at hmem
      · rcases List.mem_append.mp hmem with hold | hnew
        · exact .inl hold
        · rw [List.mem_singleton.mp hnew]
          exact .inr rfl
      · exact .inl hmem
    · exact .inr hhash

theorem planInventory_of_recorded
    (recorded : ∀ slot ∈ slots, slot.2.allowed = true → Recorded inv (slot.1.key gvk)) :
    planInventory gvk slots inv = inv := by
  induction slots with
  | nil => rfl
  | cons slot rest ih =>
    have hskip : ¬ (slot.2.allowed && !hasEntry inv (slot.1.key gvk)) = true := by
      simp only [Bool.and_eq_true, Bool.not_eq_true', not_and, Bool.not_eq_false, hasEntry_iff]
      exact recorded slot List.mem_cons_self
    rw [planInventory, List.foldl_cons, if_neg hskip, ← planInventory]
    exact ih fun other hother => recorded other (List.mem_cons_of_mem _ hother)

theorem mem_upsertEntry {entry member : InventoryEntry} (distinct : DistinctKeys inv)
    (hmem : member ∈ upsertEntry entry inv) :
    (keyForEntry member = keyForEntry entry ∧ member.lastAppliedHash = entry.lastAppliedHash) ∨
      keyForEntry member ≠ keyForEntry entry ∧ member ∈ inv := by
  induction inv with
  | nil =>
    rw [upsertEntry, List.mem_singleton] at hmem
    rw [hmem]
    exact .inl ⟨rfl, rfl⟩
  | cons head rest ih =>
    unfold DistinctKeys at distinct
    rw [List.map_cons, List.nodup_cons] at distinct
    by_cases hkey : keyForEntry head = keyForEntry entry
    · rw [upsertEntry, if_pos hkey] at hmem
      rcases List.mem_cons.mp hmem with rfl | hrest
      · exact .inl ⟨hkey, rfl⟩
      · refine .inr ⟨?_, List.mem_cons_of_mem _ hrest⟩
        intro hsame
        apply distinct.1
        rw [hkey, ← hsame]
        exact List.mem_map_of_mem hrest
    · rw [upsertEntry, if_neg hkey] at hmem
      rcases List.mem_cons.mp hmem with rfl | hrest
      · exact .inr ⟨hkey, List.mem_cons_self⟩
      · rcases ih distinct.2 hrest with hsame | ⟨hne, hold⟩
        · exact .inl hsame
        · exact .inr ⟨hne, List.mem_cons_of_mem _ hold⟩

def appliedEntry (slot : SlotInfo) (gvk : GroupVersionKind) (hash : String) :
    InventoryEntry :=
  ⟨slot.cluster, slot.ns, slot.name, gvk.group, gvk.kind, hash⟩

def refreshAll (gvk : GroupVersionKind) (hash : String) (slots : List (SlotInfo × Decision))
    (inv : List InventoryEntry) :
    List InventoryEntry :=
  slots.foldl (fun inv slot => upsertEntry (appliedEntry slot.1 gvk hash) inv) inv

theorem refreshAll_keys (hash : String) (recorded : ∀ slot ∈ slots, Recorded inv (slot.1.key gvk)) :
    (refreshAll gvk hash slots inv).map keyForEntry = inv.map keyForEntry := by
  induction slots generalizing inv with
  | nil => rfl
  | cons slot rest ih =>
    have hkeys := keys_upsertEntry (appliedEntry slot.1 gvk hash) (recorded slot List.mem_cons_self)
    refine (ih ?_).trans hkeys
    intro other hother
    rw [recorded_iff_mem_keys, hkeys, ← recorded_iff_mem_keys]
    exact recorded other (List.mem_cons_of_mem _ hother)

theorem refreshAll_hash {hash : String} (distinct : DistinctKeys inv)
    (recorded : ∀ slot ∈ slots, Recorded inv (slot.1.key gvk)) (served : SlotKey → Prop)
    (hserved : ∀ entry ∈ inv, served (keyForEntry entry) → entry.lastAppliedHash = hash) :
    ∀ entry ∈ refreshAll gvk hash slots inv, (served (keyForEntry entry) ∨
        ∃ slot ∈ slots, slot.1.key gvk = keyForEntry entry) → entry.lastAppliedHash = hash := by
  induction slots generalizing inv served with
  | nil =>
    rintro entry hmem (hold | ⟨slot, hslot, _⟩)
    · exact hserved entry hmem hold
    · simp at hslot
  | cons slot rest ih =>
    have hkeys := keys_upsertEntry (appliedEntry slot.1 gvk hash) (recorded slot List.mem_cons_self)
    have hdistinct : DistinctKeys (upsertEntry (appliedEntry slot.1 gvk hash) inv) := by
      unfold DistinctKeys
      rw [hkeys]
      exact distinct
    have hrecorded : ∀ other ∈ rest, Recorded (upsertEntry (appliedEntry slot.1 gvk hash) inv)
        (other.1.key gvk) := by
      intro other hother
      rw [recorded_iff_mem_keys, hkeys, ← recorded_iff_mem_keys]
      exact recorded other (List.mem_cons_of_mem _ hother)
    have hstep : ∀ entry ∈ upsertEntry (appliedEntry slot.1 gvk hash) inv,
        (served (keyForEntry entry) ∨ slot.1.key gvk = keyForEntry entry) →
            entry.lastAppliedHash = hash := by
      intro entry hmem hdone
      rcases mem_upsertEntry distinct hmem with ⟨_, hhash⟩ | ⟨hne, hold⟩
      · exact hhash
      · refine hserved entry hold (hdone.resolve_right ?_)
        exact fun h => hne h.symm
    intro entry hmem hdone
    refine ih hdistinct hrecorded (fun key => served key ∨ slot.1.key gvk = key) hstep entry hmem ?_
    rcases hdone with hold | ⟨other, hother, hsame⟩
    · exact .inl (.inl hold)
    · rcases List.mem_cons.mp hother with rfl | hrest
      · exact .inl (.inr hsame)
      · exact .inr ⟨other, hrest, hsame⟩

/-! ## The slots -/

/-- Within the trace there is a run of `applyTarget` for the slot that ended
ready. -/
def EndedReady (fails : EngineCall → Prop) (config : EngineConfig) (nn : NamespacedName)
    (src : Unstructured) (gvk : GroupVersionKind) (trace : List (Exchange Fleet EngineCall.Reply))
    (slot : SlotInfo) :
    Prop :=
  ∃ earlier segment later, trace = earlier ++ segment ++ later ∧ ∃ before after eff inv outcome,
      Run (Fleet.alone fails) before (applyTarget config nn src gvk slot eff inv) segment after
        (.done outcome) ∧
      outcome.state.ready = true

end

section Slots

variable {fails : EngineCall → Prop} {config : EngineConfig}
  {nn : NamespacedName} {src : Unstructured} {gvk : GroupVersionKind}
  {policies : List ReplicationPolicy} {outcome : RevocationOutcome}

variable {trace : List (Exchange Fleet EngineCall.Reply)}

theorem EndedReady.later {slot : SlotInfo} (ended : EndedReady fails config nn src gvk trace slot)
    (first last : List (Exchange Fleet EngineCall.Reply)) :
    EndedReady fails config nn src gvk (first ++ trace ++ last) slot := by
  obtain ⟨earlier, segment, later, rfl, hrun⟩ := ended
  exact ⟨first ++ earlier, segment, later ++ last, by simp, hrun⟩

theorem sourceHash_ne_empty (renderer : Renderer) (src : Unstructured) :
    renderer.sourceHash src ≠ "" := by
  intro hempty
  have hlength := congrArg String.length hempty
  simp [Renderer.sourceHash] at hlength

def readyState (slot : SlotInfo) : TargetState :=
  slotState slot true "" ""

/-- A slot that ends ready is recorded with the hash of the source. -/
theorem applyTarget_records (slot : SlotInfo) (eff : EffectiveOptions) (inv : List InventoryEntry) :
    (applyTarget config nn src gvk slot eff inv).Within (fun _ => True)
      (fun out => out.state.ready = true → out.state = readyState slot ∧
        out.inv = upsertEntry (appliedEntry slot gvk (config.renderer.sourceHash src)) inv) := by
  have hsettle : ∀ verdict, (settleSlot nn gvk slot
      (config.renderer.sourceHash src) inv verdict).Within (fun _ => True)
      (fun out => out.state.ready = true → out.state = readyState slot ∧
        out.inv = upsertEntry (appliedEntry slot gvk (config.renderer.sourceHash src)) inv) := by
    intro verdict
    cases verdict with
    | ready =>
      exact ⟨trivial, fun _ => ⟨trivial, fun _ _ => ⟨rfl, rfl⟩⟩⟩
    | retry reason message => exact ⟨trivial, fun _ h => nomatch h⟩
    | refused reason message => exact fun h => nomatch h
  unfold applyTarget
  refine Program.Within.bind (Program.within_true _) ?_
  intro result _
  cases result with
  | missing text => exact ⟨trivial, fun _ h => nomatch h⟩
  | failed err => exact hsettle _
  | ensured =>
    exact Program.Within.bind (Program.within_true _) fun verdict _ => hsettle verdict

theorem deniedState_notReady (slot : SlotInfo) (dec : Decision) (inv : List InventoryEntry) :
    (deniedState slot dec outcome inv gvk).1.ready = false := by
  unfold deniedState
  split_ifs
  · rfl
  · rfl
  · rfl

/-- When all states are ready, every slot was allowed and served, and the
inventory is the refreshed one. -/
theorem loop_fanOut {fleet final : Fleet} {fan last : FanOut} {slots : List (SlotInfo × Decision)}
    (loop : Loop (Fleet.alone fails)
      (fanOutSlot config nn src gvk policies outcome) fleet fan slots trace
      final last) :
    ∃ states, last.states = fan.states ++ states ∧
      ((∀ state ∈ states, state.ready = true) →
        states = slots.map (fun slot => readyState slot.1) ∧
        (∀ slot ∈ slots, slot.2.allowed = true ∧
          EndedReady fails config nn src gvk trace slot.1) ∧
        last.inv = refreshAll gvk (config.renderer.sourceHash src) slots fan.inv) := by
  induction loop with
  | nil => exact ⟨[], by simp, fun _ => ⟨rfl, by simp, rfl⟩⟩
  | @cons fleet middle final fan next last slot slots first second head tail
      ih =>
      obtain ⟨states, hstates, hall⟩ := ih
      unfold fanOutSlot at head
      split_ifs at head with hallowed
      · obtain ⟨segment, rest, point, out, rfl, hserved, hdone⟩ := head.split
        obtain ⟨rfl, hnext, _⟩ := hdone.of_done
        obtain rfl := Program.done.inj hnext
        refine ⟨out.state :: states, by rw [hstates]; simp, ?_⟩
        intro hready
        have hout := hready _ List.mem_cons_self
        obtain ⟨hrest, hslots, hinv⟩ := hall fun state hmem =>
          hready state (List.mem_cons_of_mem _ hmem)
        obtain ⟨hstate, hupsert⟩ :=
          (hserved.value_of_within (applyTarget_records slot.1 _ _)).1 hout
        have hended : EndedReady fails config nn src gvk segment slot.1 :=
          ⟨[], segment, [], by simp, fleet, point, _, _, out, hserved, hout⟩
        refine ⟨by rw [hstate, hrest, List.map_cons], ?_, ?_⟩
        · intro other hmem
          rcases List.mem_cons.mp hmem with rfl | hrest
          · refine ⟨hallowed, ?_⟩
            have hlater := hended.later [] second
            rwa [List.nil_append, ← List.append_nil segment] at hlater
          · refine ⟨(hslots other hrest).1, ?_⟩
            have hlater := (hslots other hrest).2.later (segment ++ []) []
            rwa [List.append_nil] at hlater
        · rw [hinv, hupsert]
          rfl
      · obtain ⟨segment, rest, point, _, rfl, _, hdone⟩ := head.split
        obtain ⟨rfl, hnext, _⟩ := hdone.of_done
        obtain rfl := Program.done.inj hnext
        refine ⟨_ :: states, by rw [hstates]; simp; rfl, ?_⟩
        intro hready
        have hdenied := hready _ List.mem_cons_self
        rw [deniedState_notReady] at hdenied
        cases hdenied

end Slots

/-! ## Garbage -/

def SettlesEntry (gc left : FanOut) (entry : InventoryEntry) : Prop :=
  left = dropEntry gc entry ∨ ∃ reason message delays, left =
      ⟨gc.states ++ [entryState entry reason message], delays, gc.inv⟩

theorem collectEntry_settles (config : EngineConfig) (nn : NamespacedName) (sourceUID : String)
    (gc : FanOut) (entry : InventoryEntry) :
    (collectEntry config nn sourceUID gc entry).Within (fun _ => True)
      (fun left => SettlesEntry gc left entry) := by
  have hretry : ∀ step err, (retryEntry nn gc entry step err).Within
      (fun _ => True) (fun left => SettlesEntry gc left entry) :=
    fun _ _ => ⟨trivial, fun _ => .inr ⟨_, _, _, rfl⟩⟩
  have hcleaned : (cleanedEntry nn gc entry).Within (fun _ => True)
      (fun left => SettlesEntry gc left entry) :=
    ⟨trivial, fun _ => ⟨trivial, fun _ => .inl rfl⟩⟩
  have hdelete : ∀ gvk, (deleteEntry nn gc entry gvk).Within
      (fun _ => True) (fun left => SettlesEntry gc left entry) := by
    intro gvk
    unfold deleteEntry
    rw [Program.perform_bind]
    refine ⟨trivial, fun reply => ?_⟩
    cases reply with
    | ok _ => exact hcleaned
    | error err =>
      dsimp only
      split_ifs
      · exact hcleaned
      · exact hretry _ _
  unfold collectEntry
  cases gvkForEntry config entry with
  | none => exact .inr ⟨_, _, _, rfl⟩
  | some gvk =>
    dsimp only
    rw [Program.perform_bind]
    refine ⟨trivial, fun reply => ?_⟩
    cases reply with
    | error err =>
      dsimp only
      split_ifs
      · exact ⟨trivial, fun _ => .inl rfl⟩
      · exact hretry _ _
    | ok existing =>
      dsimp only
      cases classifyReplicaOwnership existing.labels sourceUID with
      | foreign =>
        exact Program.Within.bind (Program.within_true _) fun _ _ => .inl rfl
      | stripped =>
        exact Program.Within.bind (Program.within_true _) fun _ _ => hdelete gvk
      | managed => exact hdelete gvk

/-- The states of a collection say which entries could not be dropped. -/
structure CollectedFrom
    (before after : FanOut) (entries : List InventoryEntry) : Prop where
  states : ∃ more, after.states = before.states ++ more ∧
    ∀ state ∈ more, state.ready = false
  dropped : after.states = before.states → ∀ entry, entry ∈ after.inv ↔
    entry ∈ before.inv ∧
      ∀ other ∈ entries, keyForEntry other ≠ keyForEntry entry

theorem SettlesEntry.collected {before gc left : FanOut} {entries : List InventoryEntry}
    {entry : InventoryEntry} (collected : CollectedFrom before gc entries)
    (settles : SettlesEntry gc left entry) :
    CollectedFrom before left (entries ++ [entry]) := by
  obtain ⟨more, hmore, hfailed⟩ := collected.states
  rcases settles with rfl | ⟨reason, message, delays, rfl⟩
  · refine ⟨⟨more, hmore, hfailed⟩, ?_⟩
    intro hsame member
    have hdropped := collected.dropped hsame member
    simp only [dropEntry, removeEntry, List.mem_filter, decide_eq_true_eq,
      hdropped, List.mem_append, List.mem_singleton]
    constructor
    · rintro ⟨⟨hmem, hothers⟩, hne⟩
      refine ⟨hmem, ?_⟩
      rintro other (hother | rfl)
      · exact hothers other hother
      · exact fun h => hne h.symm
    · rintro ⟨hmem, hothers⟩
      exact ⟨⟨hmem, fun other hother => hothers other (.inl hother)⟩,
        fun h => hothers entry (.inr rfl) h.symm⟩
  · refine ⟨⟨more ++ [entryState entry reason message], ?_, ?_⟩, ?_⟩
    · rw [hmore, List.append_assoc]
    · intro state hstate
      rcases List.mem_append.mp hstate with hold | hnew
      · exact hfailed state hold
      · rw [List.mem_singleton] at hnew
        rw [hnew]
        rfl
    · intro hsame
      have hlength := congrArg List.length hsame
      rw [hmore] at hlength
      simp at hlength

theorem foldlM_collects (config : EngineConfig) (nn : NamespacedName) (sourceUID : String)
    (before : FanOut) (entries : List InventoryEntry) :
    (entries.foldlM (collectEntry config nn sourceUID) before).Within
      (fun _ => True) (fun gc => CollectedFrom before gc entries) := by
  have hfold : ∀ (rest done : List InventoryEntry) (gc : FanOut), CollectedFrom before gc done →
        (rest.foldlM (collectEntry config nn sourceUID) gc).Within (fun _ => True)
          (fun left => CollectedFrom before left (done ++ rest)) := by
    intro rest
    induction rest with
    | nil =>
      intro done gc hgc
      rw [List.append_nil]
      exact hgc
    | cons entry rest ih =>
      intro done gc hgc
      rw [List.foldlM_cons]
      refine Program.Within.bind (collectEntry_settles config nn sourceUID gc entry) ?_
      intro left hleft
      have hnext := ih (done ++ [entry]) left (hleft.collected hgc)
      rwa [List.append_assoc] at hnext
  exact hfold entries [] before ⟨⟨[], by simp, by simp⟩, fun _ _ => by simp⟩

theorem releaseEntries_mem (entries inv : List InventoryEntry) :
    (releaseEntries entries inv).Within (fun _ => True)
      (fun left => ∀ entry, entry ∈ left ↔ entry ∈ inv ∧
        ∀ other ∈ entries, keyForEntry other ≠ keyForEntry entry) := by
  induction entries generalizing inv with
  | nil => simp [releaseEntries, Program.Within]
  | cons head rest ih =>
    refine ⟨trivial, fun _ => ?_⟩
    refine (ih (removeEntry inv (keyForEntry head))).weaken (fun _ h => h) ?_
    intro left hleft entry
    rw [hleft, removeEntry, List.mem_filter, decide_eq_true_eq,
      List.forall_mem_cons, and_assoc, ne_comm]

/-- Every state of a collection is a failure, and without one exactly the kept
entries are left. -/
theorem collectGarbage_accounts (config : EngineConfig) (nn : NamespacedName) (sourceUID : String)
    (keep : List SlotKey) (inv : List InventoryEntry) :
    (collectGarbage config nn sourceUID keep inv).Within (fun _ => True)
      (fun gc => (∀ state ∈ gc.states, state.ready = false) ∧
        (gc.states = [] → ∀ entry, entry ∈ gc.inv ↔ entry ∈ inv ∧ keyForEntry entry ∈ keep)) := by
  unfold collectGarbage
  refine Program.Within.bind ((planGC_within keep inv).weaken (fun _ _ => trivial) fun _ h => h) ?_
  intro plan hplan
  refine Program.Within.bind (releaseEntries_mem plan.release inv) ?_
  intro left hleft
  refine (foldlM_collects config nn sourceUID ⟨[], [], left⟩ plan.delete).weaken (fun _ h => h) ?_
  intro gc hgc
  obtain ⟨more, hmore, hfailed⟩ := hgc.states
  have hstates : gc.states = more := hmore
  rw [hstates]
  refine ⟨hfailed, ?_⟩
  intro hnone entry
  rw [hgc.dropped (hstates.trans hnone) entry, hleft entry, and_assoc]
  refine and_congr_right fun hmem => ?_
  constructor
  · rintro ⟨hreleased, hdeleted⟩
    by_contra hkeep
    rcases (hplan entry).mpr ⟨hmem, hkeep⟩ with hdelete | hrelease
    · exact hdeleted entry hdelete rfl
    · exact hreleased entry hrelease rfl
  · intro hkeep
    -- An entry that is given up has a key that is not kept.
    have hgone : ∀ other, other ∈ plan.delete ∨ other ∈ plan.release →
        keyForEntry other ≠ keyForEntry entry := by
      intro other hother hsame
      apply ((hplan other).mp hother).2
      rw [hsame]
      exact hkeep
    exact ⟨fun other hother => hgone other (.inr hother),
      fun other hother => hgone other (.inl hother)⟩

/-! ## Soundness -/

/-- The slots of the spec were allowed and served, and the inventory records
them and nothing else. -/
structure Accounts
    (fails : EngineCall → Prop) (config : EngineConfig) (fleet : Fleet)
    (nn : NamespacedName) (rep : Replication)
    (trace : List (Exchange Fleet EngineCall.Reply))
    (status : ReplicationStatus) (gvk : GroupVersionKind)
    (src : Unstructured) : Prop where
  nonempty : specSlots rep.spec.sourceRef.name rep.spec.resolvedTargets ≠ []
  allowed : ∀ slot ∈
      specSlots rep.spec.sourceRef.name rep.spec.resolvedTargets,
    ∃ found, fleet.records.Finds slot.cluster found ∧
      ∃ policy ∈ fleet.hub.policies.items, policy.Permits
        ⟨rep.spec.sourceRef.kind, rep.spec.sourceRef.ns,
          (fleet.hub.namespaces rep.spec.sourceRef.ns).getD ∅⟩
        ⟨slot.cluster, (found.map ClusterRecord.labels).getD ∅, slot.ns⟩
  ended : ∀ slot ∈
      specSlots rep.spec.sourceRef.name rep.spec.resolvedTargets,
    EndedReady fails config nn src gvk trace slot
  keys : ∀ key, Recorded status.inventory key ↔ ∃ slot ∈
      specSlots rep.spec.sourceRef.name rep.spec.resolvedTargets,
    slot.key gvk = key
  sourceHash : status.sourceHash = config.renderer.sourceHash src

/-- What a Ready status of a Replication vouches for. -/
structure Vouches
    (fails : EngineCall → Prop) (config : EngineConfig) (fleet : Fleet)
    (nn : NamespacedName) (rep : Replication)
    (trace : List (Exchange Fleet EngineCall.Reply))
    (status : ReplicationStatus) (gvk : GroupVersionKind)
    (src : Unstructured) : Prop
    extends Accounts fails config fleet nn rep trace status gvk src where
  hashes : ∀ entry ∈ status.inventory,
    entry.lastAppliedHash = status.sourceHash

/-- The status is the one that a reconcile with every slot ready arrives at,
the inventory apart. -/
def Replication.ShowsReady (rep : Replication) (hash : String) (slots : List SlotInfo) : Prop :=
  ∃ now, rep.status =
    buildStatus rep hash (slots.map readyState) rep.status.inventory false now

theorem Replication.ShowsReady.rebuilt {rep : Replication} {hash : String}
    {slots : List SlotInfo} (shows : rep.ShowsReady hash slots) (inv : List InventoryEntry)
    (now : Nat) :
    buildStatus rep hash (slots.map readyState) inv false now =
      { rep.status with inventory := inv } := by
  obtain ⟨first, hfirst⟩ := shows
  have hnone : reportedStates (slots.map readyState) = [] := by
    simp [reportedStates, nonReadyStates, readyState, slotState]
  have hagree : ReasonsAgree (slots.map readyState) := by
    unfold ReasonsAgree
    rw [hnone]
    simp
  have hagain := buildStatus_again_of_agree rep hash (slots.map readyState)
    rep.status.inventory false first now hagree
  rw [← hfirst] at hagain
  exact congrArg (fun status : ReplicationStatus => { status with inventory := inv }) hagain

/-- A reconcile with every slot ready has new slots to record and nothing else
to change. -/
structure OnlyPlans (config : EngineConfig) (rep : Replication) (gvk : GroupVersionKind)
    (src : Unstructured) : Prop where
  planned : ∃ slot ∈
      specSlots rep.spec.sourceRef.name rep.spec.resolvedTargets,
    ¬ Recorded rep.status.inventory (slot.key gvk)
  kept : ∀ entry ∈ rep.status.inventory, ∃ slot ∈
      specSlots rep.spec.sourceRef.name rep.spec.resolvedTargets,
    slot.key gvk = keyForEntry entry
  shown : rep.ShowsReady (config.renderer.sourceHash src)
    (specSlots rep.spec.sourceRef.name rep.spec.resolvedTargets)

theorem not_isReady_simple {rep : Replication} {reason message : String} {now : Nat}
    (hlive : rep.deletionTimestamp = none) :
    ¬ IsReady (buildStatus rep rep.status.sourceHash
      [⟨"", "", "", false, false, reason, message⟩] rep.status.inventory
      false now) := by
  intro ready
  have hready := (isReady_buildStatus hlive ready).1 _ List.mem_cons_self
  cases hready

section Soundness

variable {fails : EngineCall → Prop} {config : EngineConfig}
  {fleet final : Fleet} {nn : NamespacedName} {rep stored : Replication}
  {trace : List (Exchange Fleet EngineCall.Reply)} {out : ReconcileOutcome}

/-- A completed reconcile after which the Replication is ready has fanned
out. -/
theorem fannedOut_of_ready (consistent : fleet.hub.Consistent)
    (hrep : fleet.hub.replications nn = some rep) (hlive : rep.deletionTimestamp = none)
    (hauthority : isNotAuthoritative rep = false)
    (run : Run (Fleet.alone fails) fleet (reconcile config nn) trace final (.done (.ok out)))
    (hstored : final.hub.replications nn = some stored) (ready : IsReady stored.status) :
    Nonempty (FannedOut fails config nn rep fleet trace final) := by
  rcases reconcile_cases hrep (consistent.key nn rep hrep) hlive hauthority
      run with ⟨other, reason, message, kept, now, hresumes, hkept, version, hwritten⟩ | hfanned
  · obtain rfl : kept = stored :=
      Option.some.inj (Eq.trans (Eq.symm hkept) hstored)
    rw [hwritten] at ready
    exact (not_isReady_simple (hresumes.deletionTimestamp.trans hlive) ready).elim
  · exact hfanned

namespace FannedOut

variable (fanned : FannedOut fails config nn rep fleet trace final)
include fanned

/-- No entry was left over, every slot was allowed and served, and the
inventory is the refreshed plan. -/
theorem all_ready (hlive : rep.deletionTimestamp = none)
    (ready : IsReady fanned.stages.stored.status) :
    fanned.slots ≠ [] ∧
    fanned.stages.gc.states = [] ∧
    fanned.stages.fan.states = fanned.slots.map (fun slot => readyState slot.1) ∧
    (∀ slot ∈ fanned.slots,
      slot.2.allowed = true ∧
      EndedReady fails config nn fanned.src fanned.gvk fanned.stages.fanTrace slot.1) ∧
    fanned.stages.fan.inv =
      refreshAll fanned.gvk (config.renderer.sourceHash fanned.src) fanned.slots
        (planInventory fanned.gvk fanned.slots rep.status.inventory) := by
  obtain ⟨version, hcopied⟩ := fanned.stages.copied
  obtain ⟨inv, version', hshown⟩ := fanned.stages.shows
  have hcopyLive : fanned.stages.copy.deletionTimestamp = none := by
    rw [hcopied]
    exact fanned.resumes.deletionTimestamp.trans hlive
  rw [hshown] at ready
  obtain ⟨hall, state, hstate, _⟩ := isReady_buildStatus hcopyLive ready
  obtain ⟨states, hstates, hserved⟩ := loop_fanOut fanned.stages.loops
  rw [List.nil_append] at hstates
  have haccounts := (fanned.stages.collects.value_of_within
    (collectGarbage_accounts config nn _ _ _)).1
  -- The states of a collection are failures, so there are none.
  have hnone : fanned.stages.gc.states = [] := by
    rw [List.eq_nil_iff_forall_not_mem]
    intro state hmem
    have htrue := hall state (List.mem_append_right _ hmem)
    rw [haccounts.1 state hmem] at htrue
    cases htrue
  obtain ⟨hready, hslots, hinv⟩ := hserved fun state hmem =>
    hall state (List.mem_append_left _ (hstates ▸ hmem))
  rw [fanned.resumes.status] at hinv
  refine ⟨?_, hnone, hstates.trans hready, hslots, hinv⟩
  intro hempty
  rw [hnone, List.append_nil, hstates, hready, hempty] at hstate
  simp at hstate

theorem mem_specSlots_iff (slot : SlotInfo) :
    slot ∈ specSlots rep.spec.sourceRef.name rep.spec.resolvedTargets ↔
      ∃ pair ∈ fanned.slots, pair.1 = slot := by
  rw [← fanned.decided.slots_fst, List.mem_map]

theorem mem_collected_iff (hlive : rep.deletionTimestamp = none)
    (ready : IsReady fanned.stages.stored.status) (entry : InventoryEntry) :
    entry ∈ fanned.stages.gc.inv ↔ entry ∈ fanned.stages.fan.inv ∧
        ∃ slot ∈ fanned.slots, slot.1.key fanned.gvk = keyForEntry entry := by
  obtain ⟨_, hnone, _, hslots, _⟩ := fanned.all_ready hlive ready
  have haccounts := (fanned.stages.collects.value_of_within
    (collectGarbage_accounts config nn _ _ _)).1
  have hretained := fanned.decided.retained_of_allowed fun slot hmem => (hslots slot hmem).1
  rw [haccounts.2 hnone entry, hretained, List.nil_append, mem_allowedKeys_iff]
  refine and_congr_right fun _ => ?_
  constructor
  · rintro ⟨slot, hmem, _, hkey⟩
    exact ⟨slot, hmem, hkey⟩
  · rintro ⟨slot, hmem, hkey⟩
    exact ⟨slot, hmem, (hslots slot hmem).1, hkey⟩

theorem plans_slots (hlive : rep.deletionTimestamp = none)
    (ready : IsReady fanned.stages.stored.status) (slot : SlotInfo × Decision)
    (hmem : slot ∈ fanned.slots) :
    Recorded (planInventory fanned.gvk fanned.slots rep.status.inventory)
      (slot.1.key fanned.gvk) := by
  obtain ⟨_, _, _, hslots, _⟩ := fanned.all_ready hlive ready
  exact (recorded_planInventory_iff _ _ _ _).mpr (.inr ⟨slot, hmem, (hslots slot hmem).1, rfl⟩)

theorem endedReady (hlive : rep.deletionTimestamp = none)
    (ready : IsReady fanned.stages.stored.status) {pair : SlotInfo × Decision}
    (hpair : pair ∈ fanned.slots) :
    EndedReady fails config nn fanned.src fanned.gvk trace pair.1 := by
  obtain ⟨_, _, _, hslots, _⟩ := fanned.all_ready hlive ready
  have hlater := (hslots pair hpair).2.later (fanned.start ++ fanned.stages.planTrace)
    (fanned.stages.gcTrace ++ fanned.stages.writeTrace)
  have htrace : fanned.start ++ fanned.stages.planTrace ++ fanned.stages.fanTrace ++
        (fanned.stages.gcTrace ++ fanned.stages.writeTrace) = trace := by
    refine Eq.trans ?_ fanned.trace_eq.symm
    refine Eq.trans ?_ (congrArg _ fanned.stages.trace_eq.symm)
    simp only [List.append_assoc]
  rwa [htrace] at hlater

theorem recorded_stored_iff (hlive : rep.deletionTimestamp = none)
    (ready : IsReady fanned.stages.stored.status) (key : SlotKey) :
    Recorded fanned.stages.stored.status.inventory key ↔
      ∃ slot ∈ specSlots rep.spec.sourceRef.name rep.spec.resolvedTargets,
        slot.key fanned.gvk = key := by
  obtain ⟨_, _, _, _, hinv⟩ := fanned.all_ready hlive ready
  rw [fanned.stages.recorded_iff]
  constructor
  · rintro ⟨entry, hentry, rfl⟩
    obtain ⟨pair, hpair, hsame⟩ :=
      ((fanned.mem_collected_iff hlive ready entry).mp hentry).2
    exact ⟨pair.1, (fanned.mem_specSlots_iff _).mpr ⟨pair, hpair, rfl⟩, hsame⟩
  · rintro ⟨slot, hslot, rfl⟩
    obtain ⟨pair, hpair, rfl⟩ := (fanned.mem_specSlots_iff slot).mp hslot
    have hrecorded : Recorded fanned.stages.fan.inv (pair.1.key fanned.gvk) := by
      rw [hinv, recorded_iff_mem_keys, refreshAll_keys _ (fanned.plans_slots hlive ready),
        ← recorded_iff_mem_keys]
      exact fanned.plans_slots hlive ready pair hpair
    obtain ⟨entry, hentry, hsame⟩ := hrecorded
    exact ⟨entry, (fanned.mem_collected_iff hlive ready entry).mpr
      ⟨hentry, pair, hpair, hsame.symm⟩, hsame⟩

theorem accounts (hreads : ∀ ns, ¬ fails (.hub (.getNamespaceLabels ns)))
    (hlive : rep.deletionTimestamp = none) (ready : IsReady fanned.stages.stored.status) :
    Accounts fails config fleet nn rep trace fanned.stages.stored.status fanned.gvk fanned.src := by
  obtain ⟨hsome, _, _, hslots, _⟩ := fanned.all_ready hlive ready
  refine ⟨?_, ?_, ?_, fanned.recorded_stored_iff hlive ready, ?_⟩
  · intro hempty
    rw [← fanned.decided.slots_fst, List.map_eq_nil_iff] at hempty
    exact hsome hempty
  · intro slot hmem
    obtain ⟨pair, hpair, rfl⟩ := (fanned.mem_specSlots_iff slot).mp hmem
    have hpermits := fanned.decided.permits_of_allowed hpair (hslots pair hpair).1
    have hlabels : fanned.labels = (fleet.hub.namespaces rep.spec.sourceRef.ns).getD ∅ :=
      fanned.seen.resolve_right fun h => hreads _ h.1
    rw [hlabels] at hpermits
    exact hpermits
  · intro slot hmem
    obtain ⟨pair, hpair, rfl⟩ := (fanned.mem_specSlots_iff slot).mp hmem
    exact fanned.endedReady hlive ready hpair
  · obtain ⟨inv, version, hshown⟩ := fanned.stages.shows
    rw [hshown]
    rfl

theorem copy_status :
    fanned.stages.copy.status = { rep.status with
      inventory := planInventory fanned.gvk fanned.slots rep.status.inventory } := by
  obtain ⟨version, hcopied⟩ := fanned.stages.copied
  rw [hcopied, ← fanned.resumes.status]

variable (hlive : rep.deletionTimestamp = none) (ready : IsReady fanned.stages.stored.status)
include hlive ready

/-- The status of a reconcile with every slot ready. -/
theorem built (inv : List InventoryEntry) (now : Nat) :
    buildStatus fanned.stages.copy (config.renderer.sourceHash fanned.src)
        (fanned.stages.fan.states ++ fanned.stages.gc.states) inv fanned.outcome.anyRetained now =
      buildStatus rep (config.renderer.sourceHash fanned.src)
        ((specSlots rep.spec.sourceRef.name rep.spec.resolvedTargets).map readyState)
        inv false now := by
  obtain ⟨_, hnone, hstates, hslots, _⟩ := fanned.all_ready hlive ready
  obtain ⟨version, hcopied⟩ := fanned.stages.copied
  rw [hnone, List.append_nil, hstates, ← fanned.decided.slots_fst, List.map_map, hcopied,
    fanned.decided.anyRetained_of_allowed fun slot hmem => (hslots slot hmem).1]
  rcases fanned.resumes with hother | ⟨version', hother⟩
  · rw [hother]
    rfl
  · rw [hother]
    rfl

/-- The final write is spared only when planning was all there was to do. -/
theorem onlyPlans_of_shared
    (planned : planInventory fanned.gvk fanned.slots rep.status.inventory ≠ rep.status.inventory)
    (shared : fanned.stages.seen = buildStatus fanned.stages.copy
      (config.renderer.sourceHash fanned.src)
      (fanned.stages.fan.states ++ fanned.stages.gc.states) fanned.stages.gc.inv
      fanned.outcome.anyRetained fanned.stages.now) :
    OnlyPlans config rep fanned.gvk fanned.src := by
  have hslots := (fanned.all_ready hlive ready).2.2.2.1
  rw [fanned.stages.seen_eq] at shared
  have hfits : Fits fanned.stages.gc.inv fanned.stages.copy.status.inventory := by
    rw [fanned.copy_status]
    have hfits := fanned.stages.fits
    rwa [fanned.resumes.status] at hfits
  refine ⟨?_, ?_, ⟨fanned.stages.now, ?_⟩⟩
  · by_contra hrecorded
    refine planned (planInventory_of_recorded fun slot hmem _ => ?_)
    by_contra hnew
    exact hrecorded ⟨slot.1, (fanned.mem_specSlots_iff _).mpr ⟨slot, hmem, rfl⟩, hnew⟩
  · intro entry hentry
    have hplanned : Recorded fanned.stages.copy.status.inventory (keyForEntry entry) := by
      rw [fanned.copy_status]
      exact (recorded_planInventory_iff _ _ _ _).mpr (.inl ⟨entry, hentry, rfl⟩)
    obtain ⟨kept, hkept, hsame⟩ := (hfits.recorded_of_shared
      (congrArg ReplicationStatus.inventory shared)).mpr hplanned
    obtain ⟨pair, hpair, hkey⟩ := ((fanned.mem_collected_iff hlive ready kept).mp hkept).2
    exact ⟨pair.1, (fanned.mem_specSlots_iff _).mpr ⟨pair, hpair, rfl⟩, hkey.trans hsame⟩
  · have hstatus := eq_buildStatus_of_shared shared
    rw [fanned.built hlive ready, fanned.copy_status] at hstatus
    exact congrArg (fun status : ReplicationStatus =>
      { status with inventory := rep.status.inventory }) hstatus

/-- With nothing to collect every planned entry is still there. -/
theorem length_collected (distinct : DistinctKeys rep.status.inventory)
    (kept : ∀ entry ∈ rep.status.inventory, ∃ slot ∈
      specSlots rep.spec.sourceRef.name rep.spec.resolvedTargets,
        slot.key fanned.gvk = keyForEntry entry) :
    (planInventory fanned.gvk fanned.slots rep.status.inventory).length ≤
      fanned.stages.gc.inv.length := by
  have hinv := (fanned.all_ready hlive ready).2.2.2.2
  have hkeys := refreshAll_keys (config.renderer.sourceHash fanned.src)
    (fanned.plans_slots hlive ready)
  rw [← hinv] at hkeys
  have hnodup : fanned.stages.fan.inv.Nodup := by
    refine List.Nodup.of_map keyForEntry ?_
    rw [hkeys]
    exact distinctKeys_planInventory distinct
  have hsubset : fanned.stages.fan.inv ⊆ fanned.stages.gc.inv := by
    intro entry hentry
    refine (fanned.mem_collected_iff hlive ready entry).mpr ⟨hentry, ?_⟩
    have hrecorded : Recorded (planInventory fanned.gvk fanned.slots rep.status.inventory)
        (keyForEntry entry) := by
      rw [recorded_iff_mem_keys, ← hkeys]
      exact List.mem_map_of_mem hentry
    rcases (recorded_planInventory_iff _ _ _ _).mp hrecorded with
      ⟨old, hold, hsame⟩ | ⟨slot, hmem, _, hkey⟩
    · obtain ⟨slot, hslot, hkey⟩ := kept old hold
      obtain ⟨pair, hpair, rfl⟩ := (fanned.mem_specSlots_iff slot).mp hslot
      exact ⟨pair, hpair, hkey.trans hsame⟩
    · exact ⟨slot, hmem, hkey⟩
  calc
    _ = fanned.stages.fan.inv.length := by simpa using (congrArg List.length hkeys).symm
    _ ≤ _ := (hnodup.subperm hsubset).length_le

/-- Then the final write is spared, and the placeholders stay. -/
theorem inventory_of_onlyPlans (distinct : DistinctKeys rep.status.inventory)
    (plans : OnlyPlans config rep fanned.gvk fanned.src) :
    fanned.stages.stored.status.inventory =
      planInventory fanned.gvk fanned.slots rep.status.inventory := by
  have hslots := (fanned.all_ready hlive ready).2.2.2.1
  have hplanned : planInventory fanned.gvk fanned.slots fanned.other.status.inventory ≠
      fanned.other.status.inventory := by
    rw [fanned.resumes.status]
    intro hsame
    obtain ⟨slot, hslot, hnew⟩ := plans.planned
    obtain ⟨pair, hpair, rfl⟩ := (fanned.mem_specSlots_iff slot).mp hslot
    have hrecorded := fanned.plans_slots hlive ready pair hpair
    rw [hsame] at hrecorded
    exact hnew hrecorded
  have hseen : fanned.stages.seen = { rep.status with inventory := fanned.stages.gc.inv } := by
    rw [fanned.stages.seen_eq, fanned.copy_status]
    unfold shareInventory
    rw [if_pos (by simpa using hplanned)]
    simp only [List.drop_eq_nil_of_le (fanned.length_collected hlive ready distinct plans.kept),
      List.append_nil]
  obtain ⟨version, hwritten⟩ := fanned.stages.written
  unfold keptStatus at hwritten
  rw [fanned.built hlive ready, plans.shown.rebuilt, if_pos hseen, fanned.copy_status] at hwritten
  rw [hwritten]

theorem vouches_iff (hreads : ∀ ns, ¬ fails (.hub (.getNamespaceLabels ns)))
    (distinct : DistinctKeys rep.status.inventory) :
    Vouches fails config fleet nn rep trace fanned.stages.stored.status fanned.gvk fanned.src ↔
      ¬ OnlyPlans config rep fanned.gvk fanned.src := by
  have haccounts := fanned.accounts hreads hlive ready
  constructor
  · -- A placeholder has no hash, and no source has an empty one.
    intro hvouches hplans
    obtain ⟨slot, hslot, hnew⟩ := hplans.planned
    obtain ⟨entry, hentry, hkey⟩ := (hvouches.keys _).mpr ⟨slot, hslot, rfl⟩
    have hhash := hvouches.hashes entry hentry
    rw [fanned.inventory_of_onlyPlans hlive ready distinct hplans] at hentry
    rcases mem_planInventory hentry with hold | hempty
    · exact hnew ⟨entry, hold, hkey⟩
    · rw [hempty, hvouches.sourceHash] at hhash
      exact sourceHash_ne_empty config.renderer fanned.src hhash.symm
  · intro hplans
    have hinventory : fanned.stages.stored.status.inventory = fanned.stages.gc.inv := by
      obtain ⟨version, hwritten⟩ := fanned.stages.written
      rw [hwritten]
      unfold keptStatus
      dsimp only
      split_ifs with hshared
      · have hunplanned : planInventory fanned.gvk fanned.slots rep.status.inventory =
            rep.status.inventory := by
          by_contra hplanned
          exact hplans (fanned.onlyPlans_of_shared hlive ready hplanned hshared)
        rw [fanned.stages.seen_eq, fanned.resumes.status] at hshared
        unfold shareInventory at hshared
        rw [if_neg (by simpa using hunplanned)] at hshared
        exact congrArg ReplicationStatus.inventory hshared
      · rfl
    refine { haccounts with hashes := ?_ }
    intro entry hentry
    rw [hinventory] at hentry
    obtain ⟨hmem, hslot⟩ := (fanned.mem_collected_iff hlive ready entry).mp hentry
    rw [(fanned.all_ready hlive ready).2.2.2.2] at hmem
    rw [haccounts.sourceHash]
    exact refreshAll_hash (distinctKeys_planInventory distinct)
      (fanned.plans_slots hlive ready) (fun _ => False) (fun _ _ h => h.elim)
      entry hmem (.inr hslot)

end FannedOut

/-! ## Objects that are not served -/

/-- Whoever ended ready asked its spoke for the namespace first. -/
theorem EndedReady.reads {src : Unstructured} {gvk : GroupVersionKind} {slot : SlotInfo}
    (ended : EndedReady fails config nn src gvk trace slot) :
    ∃ exchange ∈ trace, ∃ key,
      exchange.request = .transportGet slot.cluster namespaceGVK key := by
  obtain ⟨earlier, segment, later, rfl, before, after, eff, inv, outcome, hrun, _⟩ := ended
  have hcall : Run (Fleet.alone fails) before
    (.call (.transportGet slot.cluster namespaceGVK ⟨"", slot.ns⟩) _) segment after
    (.done outcome) := hrun
  obtain ⟨current, reply, next, rest, _, _, rfl, _⟩ := hcall.of_call
  exact ⟨⟨current, _, reply, next⟩, by simp, ⟨"", slot.ns⟩, rfl⟩

theorem skipped_reads_no_spoke (stores : fleet.Stores nn rep)
    (hlive : rep.deletionTimestamp = none) (hskipped : isNotAuthoritative rep = true) :
    Safe (Fleet.alone fails) (fun _ call => ∀ cluster gvk key, call ≠ .transportGet cluster gvk key)
      (reconcile config nn) (fun _ _ => True) fleet := by
  unfold reconcile
  refine Safe.undisturbed_perform (fun _ _ _ h => nomatch h) ?_
  rintro reply after ⟨hub, ⟨hreads, rfl⟩, rfl⟩
  have hstored : fleet.hub.replications nn = some rep := stores
  cases reply with
  | error err =>
    have hmissing : if err.isNotFound = true then
        fleet.hub.replications nn = none else _ := hreads
    dsimp only
    split_ifs with hfound
    · rw [if_pos hfound, hstored] at hmissing
      cases hmissing
    · exact Safe.undisturbed_done trivial
  | ok read =>
    have hread : fleet.hub.replications nn = some read := hreads
    obtain rfl : rep = read := Option.some.inj (hstored.symm.trans hread)
    simp only [hlive, Option.isSome_none, Bool.false_eq_true, if_false, hskipped, if_true]
    exact Safe.undisturbed_done trivial

/-- A Ready status after a completed reconcile accounts for the whole spec,
unless the engine skips the object or loses the hashes of new entries. -/
theorem ready_status_sound_iff
    (consistent : fleet.hub.Consistent)
    (hreads : ∀ ns, ¬ fails (.hub (.getNamespaceLabels ns)))
    (hrep : fleet.hub.replications nn = some rep)
    (hlive : rep.deletionTimestamp = none)
    (distinct : DistinctKeys rep.status.inventory)
    (run : Run (Fleet.alone fails) fleet (reconcile config nn) trace final (.done (.ok out)))
    (hstored : final.hub.replications nn = some stored)
    (ready : IsReady stored.status) :
    (∃ gvk source,
      config.kindGVKs.lookup rep.spec.sourceRef.kind = some gvk ∧
      fleet.hub.sources gvk ⟨rep.spec.sourceRef.ns, rep.spec.sourceRef.name⟩ = some source ∧
      Vouches fails config fleet nn rep trace stored.status gvk
        (Hub.objectAt gvk ⟨rep.spec.sourceRef.ns, rep.spec.sourceRef.name⟩ source)) ↔
      isNotAuthoritative rep = false ∧
      ∀ gvk source,
        config.kindGVKs.lookup rep.spec.sourceRef.kind = some gvk →
        fleet.hub.sources gvk ⟨rep.spec.sourceRef.ns, rep.spec.sourceRef.name⟩ = some source →
        ¬ OnlyPlans config rep gvk
          (Hub.objectAt gvk ⟨rep.spec.sourceRef.ns, rep.spec.sourceRef.name⟩ source) := by
  cases hauthority : isNotAuthoritative rep with
  | true =>
    refine iff_of_false ?_ (fun h => nomatch h.1)
    rintro ⟨gvk, source, _, _, hvouches⟩
    obtain ⟨slot, hslot⟩ := List.exists_mem_of_ne_nil _ hvouches.nonempty
    obtain ⟨exchange, hmem, key, hrequest⟩ := (hvouches.ended slot hslot).reads
    exact ((skipped_reads_no_spoke hrep hlive hauthority).run run).1 exchange hmem _ _ _ hrequest
  | false =>
    obtain ⟨fanned⟩ := fannedOut_of_ready consistent hrep hlive hauthority run hstored ready
    obtain rfl : fanned.stages.stored = stored :=
      Option.some.inj (Eq.trans (Eq.symm fanned.stages.stores) hstored)
    obtain ⟨source, hsource, hsrc⟩ := fanned.decided.source
    have hvouches := fanned.vouches_iff hlive ready hreads distinct
    constructor
    · rintro ⟨gvk, other, hgvk, hother, hvouched⟩
      obtain rfl := Option.some.inj (fanned.decided.kind.symm.trans hgvk)
      obtain rfl := Option.some.inj (hsource.symm.trans hother)
      rw [← hsrc] at hvouched
      refine ⟨rfl, ?_⟩
      intro gvk' source' hgvk' hsource'
      obtain rfl := Option.some.inj (fanned.decided.kind.symm.trans hgvk')
      obtain rfl := Option.some.inj (hsource.symm.trans hsource')
      rw [← hsrc]
      exact hvouches.mp hvouched
    · rintro ⟨_, hplans⟩
      have hother := hplans _ _ fanned.decided.kind hsource
      rw [← hsrc] at hother
      refine ⟨fanned.gvk, source, fanned.decided.kind, hsource, ?_⟩
      rw [← hsrc]
      exact hvouches.mpr hother

end Soundness

/-! ## Sample runs -/

namespace Sample

def soloReconcile (fleet : Fleet) : Execution Fleet EngineCall.Reply (ApiResult ReconcileOutcome) :=
  execute Fleet.handle (reconcile engine key) fleet

theorem run_soloReconcile (fleet : Fleet) :
    Run (Fleet.alone fun _ => False) fleet (reconcile engine key)
      (soloReconcile fleet).trace (soloReconcile fleet).final
      (.done (soloReconcile fleet).value) :=
  run_execute (execute_answered (Fleet.answers_handle fun _ => False) _ _)

instance (status : ReplicationStatus) : Decidable (IsReady status) :=
  decidable_of_iff ((findStatusCondition status.conditions replicationConditionReady).any
      (fun condition => condition.status = .conditionTrue) = true) (by
    rw [Option.any_eq_true]
    simp [IsReady])

/-- The settled Replication after its inventory was lost. -/
def unrecorded : Replication :=
  let settled := ((soloReconcile fleet).final.hub.replications key).getD replication
  { settled with status := { settled.status with inventory := [] } }

def unrecordedFleet : Fleet :=
  { (soloReconcile fleet).final with
    hub := { (soloReconcile fleet).final.hub with
      replications := fun other => if other = key then some unrecorded else none } }

end Sample

open Sample

theorem ready_status_sound_sample :
    ∃ stored,
      (soloReconcile fleet).final.hub.replications key = some stored ∧
      IsReady stored.status ∧
      ∃ gvk source,
        engine.kindGVKs.lookup replication.spec.sourceRef.kind = some gvk ∧
        fleet.hub.sources gvk ⟨"team", "settings"⟩ = some source ∧
        Vouches (fun _ => False) engine fleet key replication (soloReconcile fleet).trace
          stored.status gvk (Hub.objectAt gvk ⟨"team", "settings"⟩ source) := by
  have hvalue : ∃ out, (soloReconcile fleet).value = .ok out :=
    ⟨⟨600⟩, by decide +kernel⟩
  have hstored : ((soloReconcile fleet).final.hub.replications
      key).any (fun stored => IsReady stored.status) = true := by
    decide +kernel
  obtain ⟨out, hout⟩ := hvalue
  rw [Option.any_eq_true] at hstored
  obtain ⟨stored, hstored, hready⟩ := hstored
  have hrun := run_soloReconcile fleet
  rw [hout] at hrun
  have hready := of_decide_eq_true hready
  have hdistinct : DistinctKeys replication.status.inventory :=
    List.nodup_nil
  refine ⟨stored, hstored, hready, (ready_status_sound_iff hub_consistent
    (fun _ h => h) rfl rfl hdistinct hrun hstored hready).mpr ⟨rfl, ?_⟩⟩
  -- A fresh status has no hash of the source.
  rintro gvk source _ _ ⟨_, _, now, hshown⟩
  exact sourceHash_ne_empty _ _ (congrArg ReplicationStatus.sourceHash hshown).symm

/-- The reconcile records the replica again and loses its hash. -/
theorem planned_hash_lost :
    ∃ trace final out stored,
      unrecordedFleet.hub.replications key = some unrecorded ∧
      unrecorded.deletionTimestamp = none ∧
      isNotAuthoritative unrecorded = false ∧
      DistinctKeys unrecorded.status.inventory ∧
      Run (Fleet.alone fun _ => False) unrecordedFleet (reconcile engine key) trace final
        (.done (.ok out)) ∧
      final.hub.replications key = some stored ∧
      IsReady stored.status ∧
      ∃ entry ∈ stored.status.inventory, entry.lastAppliedHash ≠ stored.status.sourceHash := by
  have hvalue : (soloReconcile unrecordedFleet).value = .ok ⟨600⟩ := by
    decide +kernel
  have hstored : ((soloReconcile unrecordedFleet).final.hub.replications
      key).any (fun stored => IsReady stored.status ∧ ∃ entry ∈ stored.status.inventory,
        entry.lastAppliedHash ≠ stored.status.sourceHash) = true := by
    decide +kernel
  rw [Option.any_eq_true] at hstored
  obtain ⟨stored, hstored, hlost⟩ := hstored
  have hrun := run_soloReconcile unrecordedFleet
  rw [hvalue] at hrun
  exact ⟨_, _, _, stored, rfl, by decide +kernel, by decide +kernel, List.nodup_nil, hrun, hstored,
    of_decide_eq_true hlost⟩

end K8sR8r
