import K8sR8r.FleetSimulation
import K8sR8r.SoloReconcile

/-!
# What becomes of every inventory entry

Garbage collection gives every entry of the inventory one fate: it is kept, or
released with its cluster, or looked for on the spoke and then found missing,
found foreign, deleted, or left with a report.  Which one it is depends on the
replies of discovery and of the transport alone, so nothing is assumed about the
world that gives them.
-/

namespace K8sR8r

open Interaction

/-! ## Transcripts -/

abbrev Told := Σ call : EngineCall, call.Reply

def EngineCall.addressedSlot : EngineCall → Option SlotKey
  | .transportGet cluster gvk key => some (slotOf cluster gvk key)
  | .transportApply cluster obj =>
    some (slotOf cluster obj.groupVersionKind obj.key)
  | .transportDelete cluster gvk key => some (slotOf cluster gvk key)
  | _ => none

section Transcripts

variable {World : Type}

def transcript (trace : List (Exchange World EngineCall.Reply)) : List Told :=
  trace.map fun exchange => ⟨exchange.request, exchange.reply⟩

def transported (trace : List (Exchange World EngineCall.Reply)) : List Told :=
  (transcript trace).filter fun told => told.1.addressedSlot.isSome

@[simp] theorem transported_append (first second : List (Exchange World EngineCall.Reply)) :
    transported (first ++ second) = transported first ++ transported second := by
  simp [transported, transcript]

theorem transported_cons (exchange : Exchange World EngineCall.Reply)
    (trace : List (Exchange World EngineCall.Reply)) :
    transported (exchange :: trace) =
      if exchange.request.addressedSlot.isSome then
        ⟨exchange.request, exchange.reply⟩ :: transported trace
      else transported trace := by
  simp only [transported, transcript, List.map_cons, List.filter_cons]

theorem transported_eq_nil {trace : List (Exchange World EngineCall.Reply)}
    (hcalls : ∀ exchange ∈ trace, exchange.request.addressedSlot = none) :
    transported trace = [] := by
  simp only [transported, transcript, List.filter_eq_nil_iff, List.mem_map]
  intro told htold
  obtain ⟨exchange, hmem, rfl⟩ := htold
  simp [hcalls exchange hmem]

theorem filter_transported (trace : List (Exchange World EngineCall.Reply)) (slot : SlotKey) :
    (transported trace).filter (fun told =>
        told.1.addressedSlot = some slot) =
      (transcript trace).filter fun told =>
        told.1.addressedSlot = some slot := by
  rw [transported, List.filter_filter]
  apply List.filter_congr
  intro told _
  by_cases hslot : told.1.addressedSlot = some slot <;> simp [hslot]

end Transcripts

/-! ## Fates -/

/-- What becomes of an entry, with the replies that decided it. -/
inductive EntryFate where
  | kept
  | released
  | unlisted
  | unchecked (gvk : GroupVersionKind) (err : ApiError)
  | missing (gvk : GroupVersionKind) (err : ApiError)
  | foreign (gvk : GroupVersionKind) (existing : Unstructured)
  | deleted (gvk : GroupVersionKind) (existing : Unstructured)
      (reply : ApiResult Unit)
  | undeleted (gvk : GroupVersionKind) (existing : Unstructured)
      (err : ApiError)

namespace EntryFate

def stuck : EntryFate → Bool
  | .unlisted => true
  | .unchecked _ _ => true
  | .undeleted _ _ _ => true
  | _ => false

def stays : EntryFate → Bool
  | .kept => true
  | fate => fate.stuck

def state (entry : InventoryEntry) : EntryFate → Option TargetState
  | .unlisted =>
    some (entryState entry reasonApplyFailed ("cannot delete replica: kind " ++ quoted entry.kind ++
        " (group " ++ quoted entry.group ++
        ") is not on the engine allowlist"))
  | .unchecked _ err =>
    some (entryState entry (classifyTransportErr err)
      ("checking replica before delete: " ++ err.text))
  | .undeleted _ _ err =>
    some (entryState entry (classifyTransportErr err) ("deleting replica: " ++ err.text))
  | _ => none

def checked (entry : InventoryEntry) (gvk : GroupVersionKind) (reply : ApiResult Unstructured) :
    Told :=
  ⟨.transportGet entry.clusterName gvk ⟨entry.ns, entry.name⟩, reply⟩

def removed (entry : InventoryEntry) (gvk : GroupVersionKind) (reply : ApiResult Unit) : Told :=
  ⟨.transportDelete entry.clusterName gvk ⟨entry.ns, entry.name⟩, reply⟩

def calls (entry : InventoryEntry) : EntryFate → List Told
  | .kept => []
  | .released => []
  | .unlisted => []
  | .unchecked gvk err => [checked entry gvk (.error err)]
  | .missing gvk err => [checked entry gvk (.error err)]
  | .foreign gvk existing => [checked entry gvk (.ok existing)]
  | .deleted gvk existing reply =>
    [checked entry gvk (.ok existing), removed entry gvk reply]
  | .undeleted gvk existing err =>
    [checked entry gvk (.ok existing), removed entry gvk (.error err)]

/-- The replies mean what the fate says, for an entry that is collected. -/
def Collects (config : EngineConfig) (sourceUID : String) (entry : InventoryEntry) :
    EntryFate → Prop
  | .kept => False
  | .released => False
  | .unlisted => gvkForEntry config entry = none
  | .unchecked gvk err =>
    gvkForEntry config entry = some gvk ∧ err.isNotFound = false
  | .missing gvk err =>
    gvkForEntry config entry = some gvk ∧ err.isNotFound = true
  | .foreign gvk existing =>
    gvkForEntry config entry = some gvk ∧
      classifyReplicaOwnership existing.labels sourceUID = .foreign
  | .deleted gvk existing reply =>
    gvkForEntry config entry = some gvk ∧
      classifyReplicaOwnership existing.labels sourceUID ≠ .foreign ∧
      (reply = .ok () ∨ ∃ err, reply = .error err ∧ err.isNotFound = true)
  | .undeleted gvk existing err =>
    gvkForEntry config entry = some gvk ∧
      classifyReplicaOwnership existing.labels sourceUID ≠ .foreign ∧
      err.isNotFound = false

/-- The fate is the one that the keep set and the replies call for. -/
def Explained (config : EngineConfig) (sourceUID : String) (keep : List SlotKey)
    (found : Option ClusterRecord) (entry : InventoryEntry) :
    EntryFate → Prop
  | .kept => keyForEntry entry ∈ keep
  | .released => keyForEntry entry ∉ keep ∧ found = none
  | fate => keyForEntry entry ∉ keep ∧ found.isSome ∧
      fate.Collects config sourceUID entry

theorem state_isSome (entry : InventoryEntry) (fate : EntryFate) :
    (fate.state entry).isSome = fate.stuck := by
  cases fate <;> rfl

theorem state_undesired {entry : InventoryEntry} {fate : EntryFate} {state : TargetState}
    (hstate : fate.state entry = some state) :
    state.cluster = entry.clusterName ∧ state.ns = entry.ns ∧
      state.name = entry.name ∧ state.desired = false ∧
      state.ready = false := by
  cases fate <;> cases hstate <;> exact ⟨rfl, rfl, rfl, rfl, rfl⟩

theorem Collects.addressed {config : EngineConfig} {sourceUID : String} {entry : InventoryEntry}
    {fate : EntryFate} (collects : fate.Collects config sourceUID entry) :
    ∀ told ∈ fate.calls entry, told.1.addressedSlot = some (keyForEntry entry) := by
  cases fate with
  | kept => simp [calls]
  | released => simp [calls]
  | unlisted => simp [calls]
  | unchecked gvk err =>
    simp [calls, checked, EngineCall.addressedSlot, slotOf_gvkForEntry collects.1]
  | missing gvk err =>
    simp [calls, checked, EngineCall.addressedSlot, slotOf_gvkForEntry collects.1]
  | foreign gvk existing =>
    simp [calls, checked, EngineCall.addressedSlot, slotOf_gvkForEntry collects.1]
  | deleted gvk existing reply =>
    simp [calls, checked, removed, EngineCall.addressedSlot, slotOf_gvkForEntry collects.1]
  | undeleted gvk existing err =>
    simp [calls, checked, removed, EngineCall.addressedSlot, slotOf_gvkForEntry collects.1]

end EntryFate

/-! ## One entry -/

/-- What collecting one entry does to the collection so far. -/
structure Collected
    {World : Type} (config : EngineConfig) (sourceUID : String)
    (gc left : FanOut) (entry : InventoryEntry) (fate : EntryFate)
    (trace : List (Exchange World EngineCall.Reply)) : Prop where
  collects : fate.Collects config sourceUID entry
  inv : left.inv =
    if fate.stays then gc.inv else removeEntry gc.inv (keyForEntry entry)
  states : left.states = gc.states ++ (fate.state entry).toList
  calls : transported trace = fate.calls entry

section Entries

variable {World : Type} {semantics : Semantics World EngineCall.Reply}
  {world final : World} {config : EngineConfig} {nn : NamespacedName}
  {sourceUID : String} {gc left : FanOut} {entry : InventoryEntry}
  {trace : List (Exchange World EngineCall.Reply)}

theorem retryEntry_run {step : String} {err : ApiError}
    (run : Run semantics world (retryEntry nn gc entry step err) trace final (.done left)) :
    left.inv = gc.inv ∧
    left.states =
      gc.states ++ [entryState entry (classifyTransportErr err) (step ++ err.text)] ∧
    transported trace = [] := by
  unfold retryEntry at run
  rw [Program.perform_bind] at run
  obtain ⟨_, delay, _, rest, _, _, rfl, hend⟩ := run.of_call
  obtain ⟨rfl, hleft, _⟩ := hend.of_done
  cases hleft
  exact ⟨rfl, rfl, rfl⟩

theorem cleanedEntry_run
    (run : Run semantics world (cleanedEntry nn gc entry) trace final (.done left)) :
    left = dropEntry gc entry ∧ transported trace = [] := by
  unfold cleanedEntry at run
  rw [Program.perform_bind] at run
  obtain ⟨_, _, _, rest, _, _, rfl, hevent⟩ := run.of_call
  rw [Program.perform_bind] at hevent
  obtain ⟨_, _, _, rest, _, _, rfl, hend⟩ := hevent.of_call
  obtain ⟨rfl, hleft, _⟩ := hend.of_done
  cases hleft
  exact ⟨rfl, rfl⟩

theorem emitAll_transported {signals : List EngineSignal} {value : Unit}
    (run : Run semantics world (emitAll signals) trace final (.done value)) :
    transported trace = [] := by
  have hcalls : (emitAll signals).AllCalls fun call =>
      call.addressedSlot = none := emitAll_allCalls fun _ _ => rfl
  exact transported_eq_nil (run.value_of_within hcalls).2

theorem deleteEntry_run {gvk : GroupVersionKind} {existing : Unstructured}
    (hgvk : gvkForEntry config entry = some gvk)
    (howned : classifyReplicaOwnership existing.labels sourceUID ≠ .foreign)
    {earlier : List (Exchange World EngineCall.Reply)}
    (hearlier : transported earlier = [EntryFate.checked entry gvk (.ok existing)])
    (run : Run semantics world (deleteEntry nn gc entry gvk) trace final (.done left)) :
    ∃ fate, Collected config sourceUID gc left entry fate (earlier ++ trace) := by
  unfold deleteEntry at run
  rw [Program.perform_bind] at run
  obtain ⟨before, reply, after, rest, _, _, rfl, hrun⟩ := run.of_call
  have hcalls : transported rest = [] → transported (earlier ++
      ⟨before, .transportDelete entry.clusterName gvk ⟨entry.ns, entry.name⟩,
        reply, after⟩ :: rest) =
      [EntryFate.checked entry gvk (.ok existing), EntryFate.removed entry gvk reply] := by
    intro hrest
    rw [transported_append, hearlier, transported_cons, hrest]
    rfl
  cases reply with
  | ok _ =>
    obtain ⟨rfl, hrest⟩ := cleanedEntry_run hrun
    exact ⟨.deleted gvk existing (.ok ()), ⟨hgvk, howned, .inl rfl⟩, rfl,
      by simp [dropEntry, EntryFate.state], hcalls hrest⟩
  | error err =>
    dsimp only at hrun
    split_ifs at hrun with hmissing
    · obtain ⟨rfl, hrest⟩ := cleanedEntry_run hrun
      exact ⟨.deleted gvk existing (.error err), ⟨hgvk, howned, .inr ⟨err, rfl, hmissing⟩⟩, rfl,
        by simp [dropEntry, EntryFate.state], hcalls hrest⟩
    · obtain ⟨hinv, hstates, hrest⟩ := retryEntry_run hrun
      exact ⟨.undeleted gvk existing err, ⟨hgvk, howned, by simpa using hmissing⟩, hinv, hstates,
        hcalls hrest⟩

theorem collectEntry_run (run : Run semantics world (collectEntry config nn sourceUID gc entry)
      trace final (.done left)) :
    ∃ fate, Collected config sourceUID gc left entry fate trace := by
  unfold collectEntry at run
  cases hgvk : gvkForEntry config entry with
  | none =>
    rw [hgvk] at run
    obtain ⟨rfl, hleft, _⟩ := run.of_done
    cases hleft
    exact ⟨.unlisted, hgvk, rfl, rfl, rfl⟩
  | some gvk =>
    rw [hgvk] at run
    dsimp only at run
    rw [Program.perform_bind] at run
    obtain ⟨before, reply, after, rest, _, _, rfl, hrun⟩ := run.of_call
    have hcalls : ∀ more : List (Exchange World EngineCall.Reply),
        transported more = [] → transported (⟨before, .transportGet
          entry.clusterName gvk ⟨entry.ns, entry.name⟩, reply, after⟩ ::
            more) = [EntryFate.checked entry gvk reply] := by
      intro more hmore
      rw [transported_cons, hmore]
      rfl
    cases reply with
    | error err =>
      dsimp only at hrun
      split_ifs at hrun with hmissing
      · rw [Program.perform_bind] at hrun
        obtain ⟨_, _, _, more, _, _, rfl, hend⟩ := hrun.of_call
        obtain ⟨rfl, hleft, _⟩ := hend.of_done
        cases hleft
        exact ⟨.missing gvk err, ⟨hgvk, hmissing⟩, rfl,
          by simp [dropEntry, EntryFate.state], hcalls _ rfl⟩
      · obtain ⟨hinv, hstates, hrest⟩ := retryEntry_run hrun
        exact ⟨.unchecked gvk err, ⟨hgvk, by simpa using hmissing⟩, hinv,
          hstates, hcalls _ hrest⟩
    | ok existing =>
      dsimp only at hrun
      cases hclass : classifyReplicaOwnership existing.labels sourceUID with
      | foreign =>
        rw [hclass] at hrun
        obtain ⟨first, second, _, _, rfl, hemits, hend⟩ := hrun.split
        obtain ⟨rfl, hleft, _⟩ := hend.of_done
        cases hleft
        refine ⟨.foreign gvk existing, ⟨hgvk, hclass⟩, rfl,
          by simp [dropEntry, EntryFate.state], ?_⟩
        rw [List.append_nil]
        exact hcalls _ (emitAll_transported hemits)
      | stripped =>
        rw [hclass] at hrun
        obtain ⟨first, second, _, _, rfl, hemits, hdelete⟩ := hrun.split
        rw [← List.cons_append]
        exact deleteEntry_run hgvk (by rw [hclass]; exact nofun)
          (hcalls _ (emitAll_transported hemits)) hdelete
      | managed =>
        rw [hclass] at hrun
        rw [← List.singleton_append]
        exact deleteEntry_run hgvk (by rw [hclass]; exact nofun)
          (hcalls [] rfl) hrun

end Entries

/-! ## All planned entries -/

structure CollectedAll
    {World : Type} (config : EngineConfig) (sourceUID : String)
    (gc left : FanOut) (entries : List InventoryEntry)
    (fate : InventoryEntry → EntryFate)
    (trace : List (Exchange World EngineCall.Reply)) : Prop where
  collects : ∀ entry ∈ entries, (fate entry).Collects config sourceUID entry
  inv : left.inv = gc.inv.filter fun entry => entries.all fun other =>
    (fate other).stays || decide (keyForEntry entry ≠ keyForEntry other)
  states : left.states =
    gc.states ++ entries.filterMap fun entry => (fate entry).state entry
  calls : transported trace =
    entries.flatMap fun entry => (fate entry).calls entry

section Loops

variable {World : Type} {semantics : Semantics World EngineCall.Reply}
  {world final : World} {config : EngineConfig} {nn : NamespacedName}
  {sourceUID : String} {gc next left : FanOut} {entry : InventoryEntry}
  {entries : List InventoryEntry} {fate other : InventoryEntry → EntryFate}
  {trace first second : List (Exchange World EngineCall.Reply)}

theorem CollectedAll.congr (all : CollectedAll config sourceUID gc left entries fate trace)
    (same : ∀ entry ∈ entries, other entry = fate entry) :
    CollectedAll config sourceUID gc left entries other trace := by
  constructor
  · intro entry hmem
    rw [same entry hmem]
    exact all.collects entry hmem
  · rw [all.inv]
    congr 1
    funext entry
    rw [Bool.eq_iff_iff, List.all_eq_true, List.all_eq_true]
    apply forall₂_congr
    intro entry hmem
    rw [same entry hmem]
  · rw [all.states]
    congr 1
    apply List.filterMap_congr
    intro entry hmem
    rw [same entry hmem]
  · rw [all.calls]
    apply List.flatMap_congr
    intro entry hmem
    rw [same entry hmem]

theorem CollectedAll.cons (head : Collected config sourceUID gc next entry (fate entry) first)
    (tail : CollectedAll config sourceUID next left entries fate second) :
    CollectedAll config sourceUID gc left (entry :: entries) fate (first ++ second) := by
  constructor
  · simp only [List.forall_mem_cons]
    exact ⟨head.collects, tail.collects⟩
  · rw [tail.inv, head.inv]
    cases hstays : (fate entry).stays with
    | true => simp [hstays]
    | false => simp [hstays, removeEntry, List.filter_filter, Bool.and_comm]
  · rw [tail.states, head.states, List.append_assoc, List.filterMap_cons]
    cases (fate entry).state entry with
    | none => rfl
    | some state => rfl
  · rw [transported_append, head.calls, tail.calls, List.flatMap_cons]

theorem collectEntries_run (distinct : entries.Nodup)
    (loop : Loop semantics (collectEntry config nn sourceUID) world gc entries trace final left) :
    ∃ fate, CollectedAll config sourceUID gc left entries fate trace := by
  induction loop with
  | nil => exact ⟨fun _ => .kept, by simp, by simp, by simp, rfl⟩
  | @cons _ _ _ _ _ _ entry _ _ _ hrun _ ih =>
    obtain ⟨fate, hhead⟩ := collectEntry_run hrun
    obtain ⟨fates, htail⟩ := ih (List.nodup_cons.mp distinct).2
    refine ⟨fun other => if other = entry then fate else fates other, ?_⟩
    apply CollectedAll.cons
    · rw [if_pos rfl]
      exact hhead
    · apply htail.congr
      intro other hmem
      rw [if_neg]
      intro heq
      exact (List.nodup_cons.mp distinct).1 (heq ▸ hmem)

end Loops

/-! ## The plan -/

section Plans

variable {World : Type} {semantics : Semantics World EngineCall.Reply}
  {world final : World} {keep : List SlotKey} {inv left : List InventoryEntry}
  {trace : List (Exchange World EngineCall.Reply)}

def lookups (keep : List SlotKey) (found : InventoryEntry → Option ClusterRecord)
    (inv : List InventoryEntry) : List Told :=
  (inv.filter fun entry => !keep.contains (keyForEntry entry)).map
    fun entry => ⟨.lookupCluster entry.clusterName, found entry⟩

structure Planned
    (keep : List SlotKey) (inv : List InventoryEntry) (plan : GCPlan)
    (found : InventoryEntry → Option ClusterRecord)
    (trace : List (Exchange World EngineCall.Reply)) : Prop where
  calls : transcript trace = lookups keep found inv
  delete : plan.delete = inv.filter fun entry =>
    !keep.contains (keyForEntry entry) && (found entry).isSome
  release : plan.release = inv.filter fun entry =>
    !keep.contains (keyForEntry entry) && (found entry).isNone

variable {plan : GCPlan} {found : InventoryEntry → Option ClusterRecord}

section

variable (planned : Planned keep inv plan found trace)
include planned

theorem Planned.transported : K8sR8r.transported trace = [] := by
  rw [K8sR8r.transported, planned.calls, lookups, List.filter_eq_nil_iff]
  intro told htold
  obtain ⟨entry, _, rfl⟩ := List.mem_map.mp htold
  exact nofun

theorem Planned.congr {other : InventoryEntry → Option ClusterRecord}
    (same : ∀ entry ∈ inv, other entry = found entry) :
    Planned keep inv plan other trace := by
  constructor
  · rw [planned.calls]
    apply List.map_congr_left
    intro entry hmem
    rw [same entry (List.mem_filter.mp hmem).1]
  · rw [planned.delete]
    apply List.filter_congr
    intro entry hmem
    rw [same entry hmem]
  · rw [planned.release]
    apply List.filter_congr
    intro entry hmem
    rw [same entry hmem]

theorem Planned.skip {entry : InventoryEntry} (hkeep : keep.contains (keyForEntry entry) = true) :
    Planned keep (entry :: inv) plan found trace := by
  constructor
  · rw [planned.calls, lookups, lookups, List.filter_cons_of_neg]
    rw [hkeep]
    simp
  · rw [planned.delete, List.filter_cons_of_neg]
    rw [hkeep]
    simp
  · rw [planned.release, List.filter_cons_of_neg]
    rw [hkeep]
    simp

theorem Planned.look {entry : InventoryEntry} {reply : Option ClusterRecord}
    (before after : World) (hkeep : keep.contains (keyForEntry entry) = false)
    (hfound : found entry = reply) :
    Planned keep (entry :: inv) (match reply with
      | none => { plan with release := entry :: plan.release }
      | some _ => { plan with delete := entry :: plan.delete })
      found
      (⟨before, .lookupCluster entry.clusterName, reply, after⟩ :: trace) := by
  have hcalls : transcript ((⟨before, .lookupCluster entry.clusterName,
      reply, after⟩ : Exchange World EngineCall.Reply) :: trace) =
      lookups keep found (entry :: inv) := by
    rw [lookups, List.filter_cons_of_pos, List.map_cons, ← lookups, ← planned.calls, hfound]
    · rfl
    · rw [hkeep]
      rfl
  cases reply with
  | none =>
    refine ⟨hcalls, ?_, ?_⟩
    · rw [List.filter_cons_of_neg, planned.delete]
      simp [hfound]
    · rw [List.filter_cons_of_pos, planned.release]
      rw [hkeep, hfound]
      rfl
  | some record =>
    refine ⟨hcalls, ?_, ?_⟩
    · rw [List.filter_cons_of_pos, planned.delete]
      rw [hkeep, hfound]
      rfl
    · rw [List.filter_cons_of_neg, planned.release]
      simp [hfound]

end

theorem planGC_run (distinct : inv.Nodup)
    (run : Run semantics world (planGC keep inv) trace final (.done plan)) :
    ∃ found, Planned keep inv plan found trace := by
  induction inv generalizing world final trace plan with
  | nil =>
    obtain ⟨rfl, hplan, _⟩ := run.of_done
    cases hplan
    exact ⟨fun _ => none, rfl, rfl, rfl⟩
  | cons entry rest ih =>
    obtain ⟨hfresh, hrest⟩ := List.nodup_cons.mp distinct
    unfold planGC at run
    by_cases hkeep : keep.contains (keyForEntry entry) = true
    · rw [if_pos hkeep] at run
      obtain ⟨found, hplan⟩ := ih hrest run
      exact ⟨found, hplan.skip hkeep⟩
    · rw [if_neg hkeep, Program.perform_bind] at run
      rw [Bool.not_eq_true] at hkeep
      obtain ⟨before, reply, after, tail, _, _, rfl, hrun⟩ := run.of_call
      obtain ⟨first, second, _, others, rfl, hothers, hend⟩ := hrun.split
      obtain ⟨found, hplan⟩ := ih hrest hothers
      have hothers : Planned keep rest others
          (fun other => if other = entry then reply else found other)
          first := by
        apply hplan.congr
        intro other hmem
        rw [if_neg]
        intro heq
        exact hfresh (heq ▸ hmem)
      refine ⟨fun other => if other = entry then reply else found other, ?_⟩
      have hlook := hothers.look before after hkeep (if_pos rfl)
      cases reply with
      | none =>
        obtain ⟨rfl, hdone, _⟩ := hend.of_done
        cases hdone
        rw [List.append_nil]
        exact hlook
      | some record =>
        obtain ⟨rfl, hdone, _⟩ := hend.of_done
        cases hdone
        rw [List.append_nil]
        exact hlook

theorem releaseEntries_leaves (release inv : List InventoryEntry) :
    (releaseEntries release inv).Within (fun call => call.addressedSlot = none)
      (fun left => left = inv.filter fun entry =>
        release.all fun other => keyForEntry entry ≠ keyForEntry other) := by
  induction release generalizing inv with
  | nil => simp [releaseEntries, Program.Within]
  | cons head rest ih =>
    refine ⟨rfl, fun _ => ?_⟩
    apply (ih (removeEntry inv (keyForEntry head))).weaken fun _ h => h
    intro left hleft
    rw [hleft, removeEntry, List.filter_filter]
    apply List.filter_congr
    intro entry _
    rw [List.all_cons, Bool.and_comm]

end Plans

/-! ## The whole inventory -/

/-- The pieces tagged with an item's key are the item's pieces. -/
theorem filter_flatMap_of_tagged {α β κ : Type} [DecidableEq κ] {key : α → κ} {tag : β → Option κ}
    {pieces : α → List β} {items : List α} (distinct : (items.map key).Nodup)
    (tagged : ∀ item ∈ items, ∀ piece ∈ pieces item, tag piece = some (key item)) {item : α}
    (hmem : item ∈ items) :
    (items.flatMap pieces).filter (fun piece => tag piece = some (key item)) = pieces item := by
  induction items with
  | nil => cases hmem
  | cons head rest ih =>
    rw [List.map_cons, List.nodup_cons] at distinct
    rw [List.forall_mem_cons] at tagged
    rw [List.flatMap_cons, List.filter_append]
    rcases List.mem_cons.mp hmem with rfl | hrest
    · have hothers : (rest.flatMap pieces).filter
          (fun piece => tag piece = some (key item)) = [] := by
        rw [List.filter_eq_nil_iff]
        intro piece hpiece
        obtain ⟨other, hother, hpiece⟩ := List.mem_flatMap.mp hpiece
        have hne : key other ≠ key item :=
          fun h => distinct.1 (h ▸ List.mem_map_of_mem hother)
        simp [tagged.2 other hother piece hpiece, hne]
      have hown : (pieces item).filter
          (fun piece => tag piece = some (key item)) = pieces item := by
        rw [List.filter_eq_self]
        intro piece hpiece
        simp [tagged.1 piece hpiece]
      rw [hothers, hown, List.append_nil]
    · have hne : key head ≠ key item :=
        fun h => distinct.1 (h ▸ List.mem_map_of_mem hrest)
      have hhead : (pieces head).filter (fun piece => tag piece = some (key item)) = [] := by
        rw [List.filter_eq_nil_iff]
        intro piece hpiece
        simp [tagged.1 piece hpiece, hne]
      rw [hhead, List.nil_append]
      exact ih distinct.2 tagged.2 hrest

theorem flatMap_filter_eq {α β : Type} {test : α → Bool} {pieces others : α → List β}
    {items : List α} (hin : ∀ item, test item = true → pieces item = others item)
    (hout : ∀ item, test item = false → others item = []) :
    (items.filter test).flatMap pieces = items.flatMap others := by
  induction items with
  | nil => rfl
  | cons item rest ih =>
    cases htest : test item with
    | true => simp [htest, ih, hin item htest]
    | false => simp [htest, ih, hout item htest]

/-- The fate of every entry, from what is kept and what discovery knows. -/
def overallFate (keep : List SlotKey) (found : InventoryEntry → Option ClusterRecord)
    (collected : InventoryEntry → EntryFate) (entry : InventoryEntry) :
    EntryFate :=
  if keep.contains (keyForEntry entry) then .kept
  else if (found entry).isNone then .released
  else collected entry

section Inventory

variable {World : Type} {semantics : Semantics World EngineCall.Reply}
  {world final : World} {config : EngineConfig} {nn : NamespacedName}
  {sourceUID : String} {keep : List SlotKey} {inv : List InventoryEntry}
  {plan : GCPlan} {found : InventoryEntry → Option ClusterRecord}
  {collected : InventoryEntry → EntryFate} {entry : InventoryEntry}
  {first : List (Exchange World EngineCall.Reply)}

theorem Planned.mem_delete_iff (planned : Planned keep inv plan found first) :
    entry ∈ plan.delete ↔ entry ∈ inv ∧ keyForEntry entry ∉ keep ∧ (found entry).isSome := by
  simp [planned.delete]

theorem Planned.mem_release_iff (planned : Planned keep inv plan found first) :
    entry ∈ plan.release ↔ entry ∈ inv ∧ keyForEntry entry ∉ keep ∧ found entry = none := by
  simp [planned.release]

theorem overallFate_of_mem (hkeep : keyForEntry entry ∈ keep) :
    overallFate keep found collected entry = .kept := by
  simp [overallFate, hkeep]

theorem overallFate_of_gone (hkeep : keyForEntry entry ∉ keep) (hfound : found entry = none) :
    overallFate keep found collected entry = .released := by
  simp [overallFate, hkeep, hfound]

theorem overallFate_of_found (hkeep : keyForEntry entry ∉ keep) (hfound : (found entry).isSome) :
    overallFate keep found collected entry = collected entry := by
  have hsome : found entry ≠ none := Option.isSome_iff_ne_none.mp hfound
  simp [overallFate, hkeep, hsome]

theorem Planned.flatMap_delete (planned : Planned keep inv plan found first) {β : Type}
    (pieces : InventoryEntry → EntryFate → List β) (hkept : ∀ entry, pieces entry .kept = [])
    (hreleased : ∀ entry, pieces entry .released = []) :
    (plan.delete.flatMap fun entry => pieces entry (collected entry)) = inv.flatMap fun entry =>
        pieces entry (overallFate keep found collected entry) := by
  rw [planned.delete]
  apply flatMap_filter_eq
  · intro entry htest
    simp only [Bool.and_eq_true, Bool.not_eq_true', ← Bool.not_eq_true,
      List.contains_iff_mem] at htest
    rw [overallFate_of_found htest.1 htest.2]
  · intro entry htest
    by_cases hkeep : keyForEntry entry ∈ keep
    · rw [overallFate_of_mem hkeep, hkept]
    · have hfound : found entry = none := by simpa [hkeep] using htest
      rw [overallFate_of_gone hkeep hfound, hreleased]

variable {reply : Option ClusterRecord}

theorem EntryFate.Collects.explained {fate : EntryFate}
    (collects : fate.Collects config sourceUID entry) (hkeep : keyForEntry entry ∉ keep)
    (hfound : reply.isSome) :
    fate.Explained config sourceUID keep reply entry := by
  cases fate with
  | kept => exact collects.elim
  | released => exact collects.elim
  | _ => exact ⟨hkeep, hfound, collects⟩

theorem EntryFate.Explained.addressed {fate : EntryFate}
    (explained : fate.Explained config sourceUID keep reply entry) :
    ∀ told ∈ fate.calls entry, told.1.addressedSlot = some (keyForEntry entry) := by
  cases fate with
  | kept => simp [calls]
  | released => simp [calls]
  | _ => exact Collects.addressed explained.2.2

theorem Planned.explained (planned : Planned keep inv plan found first)
    (collects : ∀ entry ∈ plan.delete, (collected entry).Collects config sourceUID entry)
    (hmem : entry ∈ inv) :
    (overallFate keep found collected entry).Explained config sourceUID keep
      (found entry) entry := by
  by_cases hkeep : keyForEntry entry ∈ keep
  · rw [overallFate_of_mem hkeep]
    exact hkeep
  · cases hfound : found entry with
    | none =>
      rw [overallFate_of_gone hkeep hfound]
      exact ⟨hkeep, rfl⟩
    | some record =>
      have hsome : (found entry).isSome := by rw [hfound]; rfl
      rw [overallFate_of_found hkeep hsome]
      have hdelete : entry ∈ plan.delete :=
        planned.mem_delete_iff.mpr ⟨hmem, hkeep, hsome⟩
      exact (collects entry hdelete).explained hkeep rfl

/-- Releasing and collecting by key leave the entries that stay. -/
theorem Planned.inventory_left (planned : Planned keep inv plan found first)
    (distinct : (inv.map keyForEntry).Nodup) :
    (inv.filter fun entry => plan.release.all fun other =>
        keyForEntry entry ≠ keyForEntry other).filter
      (fun entry => plan.delete.all fun other => (collected other).stays ||
        decide (keyForEntry entry ≠ keyForEntry other)) =
      inv.filter fun entry =>
        (overallFate keep found collected entry).stays := by
  have hsame : ∀ entry ∈ inv, ∀ other ∈ inv,
      keyForEntry entry = keyForEntry other → entry = other :=
    fun entry hentry other hother heq =>
      List.inj_on_of_nodup_map distinct hentry hother heq
  rw [List.filter_filter]
  apply List.filter_congr
  intro entry hmem
  rw [Bool.eq_iff_iff]
  simp only [Bool.and_eq_true, List.all_eq_true, Bool.or_eq_true, decide_eq_true_eq]
  by_cases hkeep : keyForEntry entry ∈ keep
  · rw [overallFate_of_mem hkeep]
    refine iff_of_true ⟨?_, ?_⟩ rfl
    · intro other hother
      refine .inr fun heq => ?_
      exact (planned.mem_delete_iff.mp hother).2.1 (heq ▸ hkeep)
    · intro other hother heq
      exact (planned.mem_release_iff.mp hother).2.1 (heq ▸ hkeep)
  · cases hfound : found entry with
    | none =>
      rw [overallFate_of_gone hkeep hfound]
      refine iff_of_false ?_ nofun
      intro hleft
      exact hleft.2 entry (planned.mem_release_iff.mpr ⟨hmem, hkeep, hfound⟩) rfl
    | some record =>
      have hsome : (found entry).isSome := by rw [hfound]; rfl
      rw [overallFate_of_found hkeep hsome]
      constructor
      · intro hleft
        have hown := hleft.1 entry (planned.mem_delete_iff.mpr ⟨hmem, hkeep, hsome⟩)
        simpa using hown
      · intro hstays
        constructor
        · intro other hother
          by_cases heq : keyForEntry entry = keyForEntry other
          · have hmember := (planned.mem_delete_iff.mp hother).1
            rw [← hsame entry hmem other hmember heq]
            exact .inl hstays
          · exact .inr heq
        · intro other hother heq
          obtain ⟨hmember, _, hnone⟩ := planned.mem_release_iff.mp hother
          rw [← hsame entry hmem other hmember heq, hfound] at hnone
          cases hnone

end Inventory

/-- Garbage collection accounts for every entry.  Discovery is asked once for
each entry that is not kept; from its answers and those of the transport every
entry has one fate, and the calls, the inventory and the reports are the ones
of these fates, in the order of the inventory. -/
theorem collectGarbage_accounts_for_every_entry {World : Type}
    {semantics : Semantics World EngineCall.Reply} {world final : World} {config : EngineConfig}
    {nn : NamespacedName} {sourceUID : String} {keep : List SlotKey} {inv : List InventoryEntry}
    {trace : List (Exchange World EngineCall.Reply)} {gc : FanOut}
    (distinct : (inv.map keyForEntry).Nodup)
    (run : Run semantics world (collectGarbage config nn sourceUID keep inv) trace final
      (.done gc)) :
    ∃ (found : InventoryEntry → Option ClusterRecord) (fate : InventoryEntry → EntryFate),
      lookups keep found inv <+: transcript trace ∧
      (∀ entry ∈ inv,
        (fate entry).Explained config sourceUID keep (found entry) entry ∧
        (transcript trace).filter
          (fun told => told.1.addressedSlot = some (keyForEntry entry)) =
          (fate entry).calls entry ∧
        ((fate entry).state entry).isSome = (fate entry).stuck ∧
        ∀ state,
          (fate entry).state entry = some state →
          state.cluster = entry.clusterName ∧
            state.ns = entry.ns ∧
            state.name = entry.name ∧
            state.desired = false ∧
            state.ready = false) ∧
      transported trace = inv.flatMap (fun entry => (fate entry).calls entry) ∧
      gc.inv = inv.filter (fun entry => (fate entry).stays) ∧
      gc.states = inv.filterMap fun entry => (fate entry).state entry := by
  unfold collectGarbage at run
  obtain ⟨first, _, _, plan, rfl, hplan, hrest⟩ := run.split
  obtain ⟨second, third, _, left, rfl, hrelease, hcollect⟩ := hrest.split
  obtain ⟨found, planned⟩ := planGC_run (List.Nodup.of_map _ distinct) hplan
  obtain ⟨rfl, hquiet⟩ :=
    hrelease.value_of_within (releaseEntries_leaves plan.release inv)
  have hdelete : plan.delete.Nodup := by
    rw [planned.delete]
    exact (List.Nodup.of_map _ distinct).filter _
  obtain ⟨collected, hall⟩ := collectEntries_run hdelete hcollect.loop
  have hcalls : transported (first ++ (second ++ third)) = inv.flatMap fun entry =>
        (overallFate keep found collected entry).calls entry := by
    rw [transported_append, transported_append, planned.transported,
      transported_eq_nil hquiet, hall.calls]
    exact planned.flatMap_delete EntryFate.calls (fun _ => rfl) fun _ => rfl
  have hexplained : ∀ entry ∈ inv, _ := fun entry hmem =>
    planned.explained hall.collects hmem
  refine ⟨found, overallFate keep found collected, ?_, ?_, hcalls, ?_, ?_⟩
  · rw [← planned.calls]
    exact ⟨transcript (second ++ third), by simp [transcript]⟩
  · intro entry hmem
    refine ⟨hexplained entry hmem, ?_, EntryFate.state_isSome _ _,
      fun _ => EntryFate.state_undesired⟩
    rw [← filter_transported, hcalls]
    apply filter_flatMap_of_tagged distinct _ hmem
    intro other hother
    exact (hexplained other hother).addressed
  · rw [hall.inv]
    exact planned.inventory_left distinct
  · rw [hall.states, List.filterMap_eq_flatMap_toList, List.filterMap_eq_flatMap_toList]
    exact planned.flatMap_delete (fun entry fate =>
      (fate.state entry).toList) (fun _ => rfl) fun _ => rfl

namespace Sample

def entryNamed (cluster name kind : String) : InventoryEntry :=
  ⟨cluster, "app", name, "", kind, ""⟩

/-- One entry of a cluster that is gone, one to keep, one whose replica is
there, one whose kind is not allowlisted and one whose replica is not there. -/
def mixedInventory : List InventoryEntry :=
  [entryNamed "west" "settings" "ConfigMap", entryNamed "east" "kept" "ConfigMap",
    entryNamed "east" "settings" "ConfigMap",
    entryNamed "east" "token" "Secret",
    entryNamed "east" "stale" "ConfigMap"]

def mixedFleet : Fleet :=
  { fleet with
    spokes := Function.update spokes slot (some
      { source with
        ns := "app"
        labels := (∅ : StringMap).insert labelSourceUID sourceUID }) }

def keptSlots : List SlotKey :=
  [⟨"east", "app", "kept", "", "ConfigMap"⟩]

def mixedCollection : Execution Fleet EngineCall.Reply FanOut :=
  execute Fleet.handle (collectGarbage engine key sourceUID keptSlots mixedInventory) mixedFleet

end Sample

open Sample

theorem collectGarbage_accounts_for_every_entry_sample :
    mixedCollection.value.inv =
      [entryNamed "east" "kept" "ConfigMap", entryNamed "east" "token" "Secret"] ∧
    ∃ fate : InventoryEntry → EntryFate,
      mixedCollection.value.inv = mixedInventory.filter (fun entry => (fate entry).stays) ∧
      mixedCollection.value.states =
        mixedInventory.filterMap fun entry => (fate entry).state entry := by
  have hrun : Run (Fleet.alone fun _ => False) mixedFleet
      (collectGarbage engine key sourceUID
        keptSlots mixedInventory)
      mixedCollection.trace mixedCollection.final
      (.done mixedCollection.value) :=
    run_execute (execute_answered (Fleet.answers_handle fun _ => False) _ _)
  obtain ⟨_, fate, _, _, _, hinv, hstates⟩ :=
    collectGarbage_accounts_for_every_entry (by decide) hrun
  exact ⟨by decide +kernel, fate, hinv, hstates⟩

end K8sR8r
