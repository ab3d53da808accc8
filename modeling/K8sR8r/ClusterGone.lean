import K8sR8r.ControlPlane
import K8sR8r.EngineWrites
import K8sR8r.InventoryLedger

/-!
# Releasing replicas of clusters that are gone

Garbage collection asks discovery about the cluster of each entry and releases
the entry when discovery has no record.  Discovery answers from a map that is
empty after a restart and is filled by informer events, so "no record" and "no
Cluster object" are different things.  They agree as long as discovery has
caught up whenever the engine asks.
-/

namespace K8sR8r

open Interaction

namespace Fleet

def NoCluster (fleet : Fleet) (name : String) : Prop :=
  ∀ key cluster, fleet.clusters key = some cluster → cluster.name ≠ name

/-- If a Cluster object has the name, discovery has a record of it. -/
def Discovered (fleet : Fleet) (name : String) : Prop :=
  fleet.NoCluster name ∨ ∃ key record, fleet.records.lookup key = some record ∧ record.name = name

theorem Discovered.noCluster {fleet : Fleet} {name : String} (discovered : fleet.Discovered name)
    (missing : fleet.records.Finds name none) : fleet.NoCluster name := by
  rcases discovered with hgone | ⟨key, record, hlookup, hname⟩
  · exact hgone
  · exact (missing key record hlookup hname).elim

end Fleet

/-- The slot holds a replica, of whichever source. -/
def Spokes.Host (spokes : Spokes) (slot : SlotKey) : Prop :=
  ∃ obj, spokes slot = some obj ∧ StringMap.get obj.labels labelSourceUID ≠ ""

/-- A replica in a slot that the Replication records was made for the source UID
that the Replication has now. -/
def Fleet.KeepsUID (fleet : Fleet) (nn : NamespacedName) (slot : SlotKey) : Prop :=
  ∀ rep ∈ fleet.hub.replications nn, Recorded rep.status.inventory slot →
    ∀ obj ∈ fleet.spokes slot, StringMap.get obj.labels labelSourceUID ≠ "" →
      StringMap.get obj.labels labelSourceUID = rep.spec.sourceRef.uid
deriving Decidable

namespace ClusterGone

/-! ## What others may do -/

/-- Between two calls of the engine the hub moves on, no Cluster object
appears and, when the spokes are left alone, no object becomes a replica. -/
structure Relies (undisturbed : Prop) (before after : Fleet) : Prop where
  hub : before.hub.Consistent →
    before.hub.Newer after.hub ∧ after.hub.Consistent
  clusters : ∀ name, before.NoCluster name → after.NoCluster name
  replicas : undisturbed → ∀ slot, after.spokes.Host slot → before.spokes.Host slot

variable {undisturbed : Prop} {nn : NamespacedName} {before after fleet : Fleet}

theorem Relies.refl (undisturbed : Prop) (fleet : Fleet) : Relies undisturbed fleet fleet :=
  ⟨fun h => ⟨.refl _, h⟩, fun _ h => h, fun _ _ h => h⟩

theorem Relies.trans {first second third : Fleet} (head : Relies undisturbed first second)
    (tail : Relies undisturbed second third) :
    Relies undisturbed first third where
  hub := by
    intro consistent
    have hhead := head.hub consistent
    have htail := tail.hub hhead.2
    exact ⟨hhead.1.trans htail.1, htail.2⟩
  clusters := fun name h => tail.clusters name (head.clusters name h)
  replicas := by
    intro hquiet slot hhost
    exact head.replicas hquiet slot (tail.replicas hquiet slot hhost)

theorem relies_of_hub {role : Controller} {call : role.Call} {reply : role.Reply call}
    (hafter : after = { before with hub := after.hub })
    (answer : before.AnswersRole role call reply after) :
    Relies undisturbed before after := by
  refine ⟨fun consistent => answer.consistent consistent, ?_, ?_⟩
  · rw [hafter]
    exact fun _ h => h
  · rw [hafter]
    exact fun _ _ h => h

/-! ## The engine's guard -/

/-- Discovery has caught up with the cluster that is looked up and, when the
spokes are left alone, the source has kept its UID. -/
def admits (undisturbed : Prop) (nn : NamespacedName) (fleet : Fleet) : EngineCall → Prop
  | .lookupCluster name => fleet.Discovered name
  | .transportGet cluster gvk key => undisturbed → fleet.KeepsUID nn (slotOf cluster gvk key)
  | _ => True

def engineSemantics (undisturbed : Prop) (nn : NamespacedName) :
    Semantics Fleet EngineCall.Reply where
  interfere := Relies undisturbed
  answers := fun before call reply after =>
    before.Answers (fun _ => True) call reply after ∧ admits undisturbed nn before call
  interfere_refl := Relies.refl undisturbed
  interfere_trans := Relies.trans

/-- Every replica recorded for an existing cluster has left its spoke. -/
def Cleared (fleet : Fleet) (rep : Replication) : Prop :=
  ∀ slot, Recorded rep.status.inventory slot → ¬ fleet.NoCluster slot.cluster →
    ¬ fleet.spokes.Host slot

/-- An entry is released only when its cluster is gone, and the finalizer is
given up only when everything else is cleared. -/
def Approved (undisturbed : Prop) (fleet : Fleet) : EngineCall → Prop
  | .emit (.event (.clusterGone entry)) => fleet.NoCluster entry.clusterName
  | .hub (.updateReplication rep) =>
    finalizerName ∈ rep.finalizers ∨ (undisturbed → ∀ cur, fleet.hub.current rep = some cur →
        Cleared fleet cur)
  | _ => True

def guard (undisturbed : Prop) (fleet : Fleet) (call : EngineCall) : Prop :=
  fleet.hub.Consistent ∧ Approved undisturbed fleet call

def KeepsHold : EngineCall → Prop
  | .emit signal => ¬ signal.IsRelease
  | .hub (.updateReplication rep) => finalizerName ∈ rep.finalizers
  | _ => True

variable {call : EngineCall}

theorem approved_of_keepsHold (keeps : KeepsHold call) : Approved undisturbed fleet call := by
  cases call with
  | emit signal =>
    cases signal with
    | metric metric => trivial
    | event event =>
      cases event with
      | clusterGone entry => exact (keeps trivial).elim
      | _ => trivial
  | hub call =>
    cases call with
    | updateReplication rep => exact .inl keeps
    | _ => trivial
  | _ => trivial

theorem keepsHold_of_quiet (quiet : call.IsQuiet) : KeepsHold call := by
  cases call with
  | emit signal => exact quiet
  | hub call =>
    cases call with
    | updateReplication rep => exact quiet.elim
    | _ => trivial
  | _ => trivial

theorem keepsHold_of_converges {slot : SlotKey} (converges : call.Converges slot) :
    KeepsHold call := by
  rcases converges with hquiet | happlies | hdeletes
  · exact keepsHold_of_quiet hquiet.quiet
  · cases call <;> trivial
  · cases call <;> trivial

theorem keepsHold_of_createsNamespace {cluster ns : String}
    (creates : call.CreatesNamespace cluster ns) : KeepsHold call := by
  cases call <;> trivial

theorem harmless_of_not_apply (hcall : ∀ cluster obj, call ≠ .transportApply cluster obj) :
    Harmless (engineSemantics undisturbed nn) call := by
  intro before reply after answer
  have hanswer : before.AnswersRole .engine call reply after := answer.1
  cases Fleet.answers_effect answer.1 with
  | same => exact .refl _ _
  | hub => exact relies_of_hub rfl hanswer
  | apply => exact (hcall _ _ rfl).elim
  | delete =>
    refine ⟨fun h => ⟨.refl _, h⟩, fun _ h => h, ?_⟩
    rintro _ slot ⟨obj, hobj, hlabel⟩
    simp only [Spokes.erase] at hobj
    split_ifs at hobj
    exact ⟨obj, hobj, hlabel⟩
  | store => exact ⟨fun h => ⟨.refl _, h⟩, fun _ h => h, fun _ _ h => h⟩
  | forget => exact ⟨fun h => ⟨.refl _, h⟩, fun _ h => h, fun _ _ h => h⟩

theorem consistent_answers {reply : call.Reply} (consistent : before.hub.Consistent)
    (answer : (engineSemantics undisturbed nn).answers before call reply after) :
    after.hub.Consistent := by
  have hanswer : before.AnswersRole .engine call reply after := answer.1
  exact (hanswer.consistent consistent).2

theorem consistent_stable : Stable (engineSemantics undisturbed nn)
      (fun fleet => fleet.hub.Consistent) :=
  fun consistent change => (change.hub consistent).2

/-- A part of the engine that keeps its hold needs no more than a consistent
hub. -/
theorem safe_of_keepsHold {α : Type} {program : EngineProgram α}
    (keeps : program.AllCalls KeepsHold) (consistent : fleet.hub.Consistent) :
    Safe (engineSemantics undisturbed nn) (guard undisturbed) program
      (fun _ fleet => fleet.hub.Consistent) fleet :=
  (Safe.of_within keeps consistent_stable consistent
    (fun hkeeps h => ⟨h, approved_of_keepsHold hkeeps⟩)
    (fun _ h answer => consistent_answers h answer)).weaken fun _ _ h => h.2

/-! ## Garbage collection -/

/-- A stable assertion that contains the invariant. -/
structure Frame (undisturbed : Prop) (nn : NamespacedName) (frame : Fleet → Prop) : Prop where
  stable : Stable (engineSemantics undisturbed nn) frame
  consistent : ∀ fleet, frame fleet → fleet.hub.Consistent

/-- What the collection finds out about a slot whose entry it gives up: nothing
is there, or nothing of the source with the UID. -/
structure Clears (undisturbed : Prop) (nn : NamespacedName) (uid : String)
    (frame : Fleet → Prop) (vacant : SlotKey → Fleet → Prop) : Prop
    extends Frame undisturbed nn frame where
  vacated : ∀ slot, Stable (engineSemantics undisturbed nn) fun fleet =>
    frame fleet ∧ vacant slot fleet
  empty : ∀ {fleet slot}, fleet.spokes slot = none → vacant slot fleet
  foreign : ∀ {fleet cluster gvk key obj}, frame fleet →
    admits undisturbed nn fleet (.transportGet cluster gvk key) →
    fleet.spokes (slotOf cluster gvk key) = some obj →
    classifyReplicaOwnership obj.labels uid = .foreign →
      vacant (slotOf cluster gvk key) fleet

/-- What has become of each recorded slot: kept, still recorded, released
because its cluster is gone, or vacant. -/
def Settled (vacant : SlotKey → Fleet → Prop) (keep : List SlotKey)
    (inv left : List InventoryEntry) (fleet : Fleet) : Prop :=
  ∀ slot, Recorded inv slot →
    slot ∈ keep ∨ Recorded left slot ∨ fleet.NoCluster slot.cluster ∨ vacant slot fleet

variable {frame : Fleet → Prop} {vacant : SlotKey → Fleet → Prop} {uid : String}
  {keep : List SlotKey} {inv left : List InventoryEntry}

theorem Settled.remove {slot : SlotKey} (settled : Settled vacant keep inv left fleet)
    (hslot : fleet.NoCluster slot.cluster ∨ vacant slot fleet) :
    Settled vacant keep inv (removeEntry left slot) fleet := by
  intro other hrec
  by_cases hother : other = slot
  · subst other
    exact .inr (.inr hslot)
  · rcases settled other hrec with hkeep | hleft | hrest
    · exact .inl hkeep
    · have hkept : Recorded (removeEntry left slot) other :=
        (recorded_removeEntry_iff _ _ _).mpr ⟨hleft, hother⟩
      exact .inr (.inl hkept)
    · exact .inr (.inr hrest)

theorem Clears.settled_stable (clears : Clears undisturbed nn uid frame vacant) :
    Stable (engineSemantics undisturbed nn) fun fleet =>
      frame fleet ∧ Settled vacant keep inv left fleet := by
  rintro before after ⟨hframe, hsettled⟩ change
  refine ⟨clears.stable hframe change, ?_⟩
  intro slot hrec
  rcases hsettled slot hrec with hkeep | hleft | hgone | hvacant
  · exact .inl hkeep
  · exact .inr (.inl hleft)
  · exact .inr (.inr (.inl (change.clusters _ hgone)))
  · exact .inr (.inr (.inr (clears.vacated slot ⟨hframe, hvacant⟩ change).2))

theorem Clears.withSettled (clears : Clears undisturbed nn uid frame vacant) :
    Frame undisturbed nn fun fleet => frame fleet ∧ Settled vacant keep inv left fleet :=
  ⟨clears.settled_stable, fun fleet h => clears.consistent fleet h.1⟩

/-- Every entry is kept, to be deleted, or found without a cluster. -/
def Planned (keep : List SlotKey) (inv : List InventoryEntry) (plan : GCPlan) (fleet : Fleet) :
    Prop :=
  (∀ entry ∈ plan.release, fleet.NoCluster entry.clusterName) ∧
    ∀ entry ∈ inv, keyForEntry entry ∈ keep ∨ entry ∈ plan.release ∨ entry ∈ plan.delete

theorem Frame.planned_stable (hframe : Frame undisturbed nn frame) (plan : GCPlan) :
    Stable (engineSemantics undisturbed nn) fun fleet =>
      frame fleet ∧ Planned keep inv plan fleet :=
  fun h change => ⟨hframe.stable h.1 change,
    fun entry hmem => change.clusters _ (h.2.1 entry hmem), h.2.2⟩

theorem Planned.cons_of_keep {plan : GCPlan} (planned : Planned keep inv plan fleet)
    (hkeep : keyForEntry entry ∈ keep) :
    Planned keep (entry :: inv) plan fleet :=
  ⟨planned.1, List.forall_mem_cons.mpr ⟨.inl hkeep, planned.2⟩⟩

theorem Planned.cons_of_gone {plan : GCPlan} (planned : Planned keep inv plan fleet)
    (hgone : fleet.NoCluster entry.clusterName) :
    Planned keep (entry :: inv) { plan with release := entry :: plan.release } fleet := by
  refine ⟨List.forall_mem_cons.mpr ⟨hgone, planned.1⟩, List.forall_mem_cons.mpr
    ⟨.inr (.inl List.mem_cons_self), ?_⟩⟩
  intro other hmem
  exact (planned.2 other hmem).imp_right (Or.imp_left (List.mem_cons_of_mem _))

theorem Planned.cons_delete {plan : GCPlan} (planned : Planned keep inv plan fleet) :
    Planned keep (entry :: inv) { plan with delete := entry :: plan.delete } fleet := by
  refine ⟨planned.1, List.forall_mem_cons.mpr ⟨.inr (.inr List.mem_cons_self), ?_⟩⟩
  intro other hmem
  exact (planned.2 other hmem).imp_right (Or.imp_right (List.mem_cons_of_mem _))

theorem planGC_safe (hframe : Frame undisturbed nn frame) (keep : List SlotKey)
    (inv : List InventoryEntry) (hfleet : frame fleet) :
    Safe (engineSemantics undisturbed nn) (guard undisturbed) (planGC keep inv)
      (fun plan fleet => frame fleet ∧ Planned keep inv plan fleet) fleet := by
  induction inv generalizing fleet frame with
  | nil =>
    intro current change
    exact ⟨hframe.stable hfleet change, by simp [Planned]⟩
  | cons entry rest ih =>
    unfold planGC
    split_ifs with hkeep
    · refine (ih hframe hfleet).weaken ?_
      rintro plan current ⟨hcurrent, planned⟩
      exact ⟨hcurrent, planned.cons_of_keep (by simpa using hkeep)⟩
    · rw [Program.perform_bind]
      refine Safe.call_of_stable hframe.stable hfleet
        (fun current h => ⟨hframe.consistent current h, trivial⟩) ?_
      intro current found after hcurrent answer
      obtain ⟨⟨hfound, hsame⟩, hdiscovered⟩ := answer
      subst after
      -- The verdict of the lookup holds from here on.
      have hverdict : found = none → current.NoCluster entry.clusterName := by
        rintro rfl
        exact Fleet.Discovered.noCluster hdiscovered hfound
      have hboth : Frame undisturbed nn fun fleet => frame fleet ∧
          (found = none → fleet.NoCluster entry.clusterName) :=
        ⟨fun h change => ⟨hframe.stable h.1 change, fun hnone => change.clusters _ (h.2 hnone)⟩,
          fun fleet h => hframe.consistent fleet h.1⟩
      refine Safe.seq (ih hboth ⟨hcurrent, hverdict⟩) ?_
      rintro plan later ⟨⟨hlater, hgone⟩, planned⟩
      cases found with
      | none =>
        exact Safe.done_of_stable (hframe.planned_stable _)
          ⟨hlater, planned.cons_of_gone (hgone rfl)⟩
      | some record =>
        exact Safe.done_of_stable (hframe.planned_stable _) ⟨hlater, planned.cons_delete⟩

theorem releaseEntries_safe (clears : Clears undisturbed nn uid frame vacant)
    (entries : List InventoryEntry)
    (hgone : ∀ entry ∈ entries, fleet.NoCluster entry.clusterName) (hfleet : frame fleet)
    (settled : Settled vacant keep inv left fleet) :
    Safe (engineSemantics undisturbed nn) (guard undisturbed) (releaseEntries entries left)
      (fun left fleet => frame fleet ∧ Settled vacant keep inv left fleet) fleet := by
  induction entries generalizing fleet left with
  | nil => exact Safe.done_of_stable clears.settled_stable ⟨hfleet, settled⟩
  | cons entry rest ih =>
    intro current change
    obtain ⟨hcurrent, hsettled⟩ := clears.settled_stable ⟨hfleet, settled⟩ change
    have hnow : ∀ other ∈ entry :: rest, current.NoCluster other.clusterName :=
      fun other hmem => change.clusters _ (hgone other hmem)
    have hhead := hnow entry List.mem_cons_self
    refine ⟨⟨clears.consistent current hcurrent, hhead⟩, ?_⟩
    intro reply after answer
    have hsame : after = current := answer.1
    subst after
    refine ih (fun other hmem => hnow other (List.mem_cons_of_mem _ hmem)) hcurrent ?_
    exact hsettled.remove (.inl hhead)

theorem not_apply_of_quiet (quiet : call.IsQuiet) (cluster : String) (obj : Unstructured) :
    call ≠ .transportApply cluster obj := by
  rintro rfl
  exact quiet

theorem Frame.safe_of_quiet {α : Type} {program : EngineProgram α} {post : α → Prop}
    (hframe : Frame undisturbed nn frame) (within : program.Within EngineCall.IsQuiet post)
    (hfleet : frame fleet) :
    Safe (engineSemantics undisturbed nn) (guard undisturbed) program
      (fun value fleet => post value ∧ frame fleet) fleet := by
  refine Safe.of_harmless within hframe.stable hfleet ?_ ?_
  · intro current call hquiet hcurrent
    exact ⟨hframe.consistent current hcurrent, approved_of_keepsHold (keepsHold_of_quiet hquiet)⟩
  · intro call hquiet
    exact harmless_of_not_apply (not_apply_of_quiet hquiet)

theorem safe_of_quiet_ending {program : EngineProgram FanOut}
    (clears : Clears undisturbed nn uid frame vacant)
    (within : program.Within EngineCall.IsQuiet fun gc => gc.inv = left) (hfleet : frame fleet)
    (settled : Settled vacant keep inv left fleet) :
    Safe (engineSemantics undisturbed nn) (guard undisturbed) program
      (fun gc fleet => frame fleet ∧ Settled vacant keep inv gc.inv fleet) fleet := by
  refine (clears.withSettled.safe_of_quiet within ⟨hfleet, settled⟩).weaken ?_
  rintro gc current ⟨rfl, h⟩
  exact h

theorem cleanedEntry_ends (nn : NamespacedName) (gc : FanOut) (entry : InventoryEntry) :
    (cleanedEntry nn gc entry).Within EngineCall.IsQuiet fun left =>
      left.inv = removeEntry gc.inv (keyForEntry entry) :=
  ⟨trivial, fun _ => ⟨fun h => h, fun _ => rfl⟩⟩

theorem retryEntry_ends (nn : NamespacedName) (gc : FanOut) (entry : InventoryEntry)
    (step : String) (err : ApiError) :
    (retryEntry nn gc entry step err).Within EngineCall.IsQuiet fun left =>
      left.inv = gc.inv :=
  ⟨trivial, fun _ => rfl⟩

section Collect

variable {gc : FanOut} {entry : InventoryEntry}

theorem deleteEntry_safe (clears : Clears undisturbed nn uid frame vacant) {gvk : GroupVersionKind}
    (hslot : slotOf entry.clusterName gvk ⟨entry.ns, entry.name⟩ = keyForEntry entry)
    (hfleet : frame fleet) (settled : Settled vacant keep inv gc.inv fleet) :
    Safe (engineSemantics undisturbed nn) (guard undisturbed) (deleteEntry nn gc entry gvk)
      (fun gc fleet => frame fleet ∧ Settled vacant keep inv gc.inv fleet) fleet := by
  unfold deleteEntry
  rw [Program.perform_bind]
  refine Safe.call_of_stable clears.settled_stable ⟨hfleet, settled⟩
    (fun current h => ⟨clears.consistent current h.1, trivial⟩) ?_
  rintro current reply after hcurrent answer
  have hharmless : Harmless (engineSemantics undisturbed nn)
      (.transportDelete entry.clusterName gvk ⟨entry.ns, entry.name⟩) :=
    harmless_of_not_apply (by simp)
  have hnext := clears.settled_stable hcurrent (hharmless answer)
  obtain ⟨spokes, hspokes, rfl⟩ := answer.1
  rw [hslot] at hspokes
  -- However the deletion went, a vacant slot may lose its entry.
  have hcleaned : spokes (keyForEntry entry) = none →
      Safe (engineSemantics undisturbed nn) (guard undisturbed) (cleanedEntry nn gc entry)
        (fun gc fleet => frame fleet ∧ Settled vacant keep inv gc.inv fleet)
        { current with spokes := spokes } := by
    intro hnone
    exact safe_of_quiet_ending clears (cleanedEntry_ends nn gc entry)
      hnext.1 (hnext.2.remove (.inr (clears.empty hnone)))
  cases reply with
  | ok _ =>
    refine hcleaned ?_
    rw [hspokes.2]
    simp [Spokes.erase]
  | error err =>
    dsimp only
    split_ifs with hfound
    · refine hcleaned ?_
      simp only [Spokes.AnswersDelete, if_pos hfound] at hspokes
      rw [hspokes.1]
      exact hspokes.2
    · exact safe_of_quiet_ending clears (retryEntry_ends nn gc entry _ err) hnext.1 hnext.2

theorem collectEntry_safe (clears : Clears undisturbed nn uid frame vacant) (config : EngineConfig)
    (hfleet : frame fleet) (settled : Settled vacant keep inv gc.inv fleet) :
    Safe (engineSemantics undisturbed nn) (guard undisturbed) (collectEntry config nn uid gc entry)
      (fun gc fleet => frame fleet ∧ Settled vacant keep inv gc.inv fleet) fleet := by
  unfold collectEntry
  cases hgvk : gvkForEntry config entry with
  | none =>
    exact Safe.done_of_stable clears.settled_stable ⟨hfleet, settled⟩
  | some gvk =>
    have hslot := slotOf_gvkForEntry hgvk
    dsimp only
    rw [Program.perform_bind]
    refine Safe.call_of_stable clears.settled_stable ⟨hfleet, settled⟩
      (fun current h => ⟨clears.consistent current h.1, trivial⟩) ?_
    rintro current reply after ⟨hcurrent, hsettled⟩ ⟨⟨hread, rfl⟩, hadmits⟩
    rw [hslot] at hread
    cases reply with
    | error err =>
      dsimp only
      split_ifs with hfound
      · simp only [Spokes.AnswersGet, if_pos hfound] at hread
        exact safe_of_quiet_ending clears ⟨trivial, fun _ => rfl⟩
          hcurrent (hsettled.remove (.inr (clears.empty hread.2)))
      · exact safe_of_quiet_ending clears (retryEntry_ends nn gc entry _ err) hcurrent hsettled
    | ok existing =>
      dsimp only
      cases hclass : classifyReplicaOwnership existing.labels uid with
      | managed => exact deleteEntry_safe clears hslot hcurrent hsettled
      | stripped =>
        refine Safe.seq (clears.withSettled.safe_of_quiet
          (emitAll_allCalls ?_) ⟨hcurrent, hsettled⟩) ?_
        · simp [EngineCall.IsQuiet, EngineSignal.IsRelease]
        · rintro _ later ⟨_, hlater, hkept⟩
          exact deleteEntry_safe clears hslot hlater hkept
      | foreign =>
        refine safe_of_quiet_ending clears
          (Program.Within.bind (emitAll_allCalls ?_) fun _ _ => rfl)
          hcurrent (hsettled.remove (.inr ?_))
        · simp [EngineCall.IsQuiet, EngineSignal.IsRelease]
        · rw [← hslot] at hread ⊢
          exact clears.foreign hcurrent hadmits hread.2 hclass

end Collect

theorem collectGarbage_safe (clears : Clears undisturbed nn uid frame vacant)
    (config : EngineConfig) (keep : List SlotKey) (hfleet : frame fleet) :
    Safe (engineSemantics undisturbed nn) (guard undisturbed)
      (collectGarbage config nn uid keep inv)
      (fun gc fleet => frame fleet ∧ Settled vacant keep inv gc.inv fleet) fleet := by
  unfold collectGarbage
  refine Safe.seq (planGC_safe clears.toFrame keep inv hfleet) ?_
  rintro plan current ⟨hcurrent, hplan⟩
  have hstart : Settled vacant keep inv inv current :=
    fun _ hrec => .inr (.inl hrec)
  refine Safe.seq (releaseEntries_safe clears plan.release hplan.1 hcurrent hstart) ?_
  rintro left later ⟨hlater, hsettled⟩
  refine Safe.foldlM (fun _ => clears.settled_stable) ?_ ⟨hlater, hsettled⟩
  rintro entry _ gc world ⟨hworld, hgc⟩
  exact collectEntry_safe clears config hworld hgc

/-! ## The reconcile -/

variable {gvk : GroupVersionKind}

theorem keepsHold_of_records (records : call.RecordsInventory inv) : KeepsHold call := by
  cases call with
  | hub call => cases call <;> trivial
  | _ => trivial

theorem consistentFrame : Frame undisturbed nn fun fleet => fleet.hub.Consistent :=
  ⟨consistent_stable, fun _ h => h⟩

/-- A live Replication needs to know nothing about the slots it gives up. -/
theorem consistent_clears :
    Clears undisturbed nn uid (fun fleet => fleet.hub.Consistent) fun _ _ => True :=
  { consistentFrame with
    vacated := fun _ _ _ h change => ⟨consistent_stable h.1 change, trivial⟩
    empty := fun _ => trivial
    foreign := fun _ _ _ _ => trivial }

/-- Of a deleted one the replicas are gone, as long as the copy in hand is the
stored one. -/
theorem holds_clears {rep : Replication} :
    Clears undisturbed nn rep.spec.sourceRef.uid
      (fun fleet => fleet.hub.Consistent ∧ fleet.hub.Holds rep)
      fun slot fleet => undisturbed → fleet.hub.replications nn = some rep →
        Recorded rep.status.inventory slot → ¬ fleet.spokes.Host slot := by
  have hstable : Stable (engineSemantics undisturbed nn) fun fleet =>
      fleet.hub.Consistent ∧ fleet.hub.Holds rep :=
    fun h change => ⟨(change.hub h.1).2, h.2.newer (change.hub h.1).1⟩
  refine ⟨⟨hstable, fun _ h => h.1⟩, ?_, ?_, ?_⟩
  · rintro slot before after ⟨hframe, hvacant⟩ change
    refine ⟨hstable hframe change, ?_⟩
    intro hquiet hstored hrec hhost
    have hbefore := (change.hub hframe.1).1.unchanged nn rep hstored hframe.2.1
    exact hvacant hquiet hbefore hrec (change.replicas hquiet _ hhost)
  · rintro fleet slot hnone _ _ _ ⟨obj, hobj, _⟩
    rw [hnone] at hobj
    cases hobj
  · rintro fleet cluster gvk key obj _ hadmits hobj hforeign hquiet hstored hrec
      ⟨other, hother, hreplica⟩
    obtain rfl := Option.some.inj (hobj.symm.trans hother)
    have hlabel := hadmits hquiet rep hstored hrec obj hobj hreplica
    have hUID : rep.spec.sourceRef.uid ≠ "" := hlabel ▸ hreplica
    exact (classifyReplicaOwnership_foreign_iff _ hUID).mp hforeign hlabel

theorem finishSimple_safe (rep : Replication) (reason message : String) (requeueAfter : Nat)
    (consistent : fleet.hub.Consistent) :
    Safe (engineSemantics undisturbed nn) (guard undisturbed)
      (finishSimple rep reason message requeueAfter)
      (fun _ fleet => fleet.hub.Consistent) fleet := by
  refine safe_of_keepsHold ((finishSimple_calls rep reason message
    requeueAfter).weaken ?_ fun _ h => h) consistent
  rintro call (hquiet | hrecords)
  · exact keepsHold_of_quiet hquiet.quiet
  · exact keepsHold_of_records hrecords

theorem converge_safe (config : EngineConfig) (rep : Replication) {src : Unstructured}
    (hkind : src.groupVersionKind = gvk) (policies : List ReplicationPolicy)
    {slots : List (SlotInfo × Decision)}
    (hname : ∀ slot ∈ slots, slot.1.name = "" → src.name = "") (outcome : RevocationOutcome)
    (consistent : fleet.hub.Consistent) :
    Safe (engineSemantics undisturbed nn) (guard undisturbed)
      (converge config nn rep src gvk policies slots outcome)
      (fun _ fleet => fleet.hub.Consistent) fleet := by
  unfold converge
  dsimp only
  refine Safe.seq (safe_of_keepsHold ((persistPlanned_calls rep _).weaken
    (fun _ => keepsHold_of_records) fun _ h => h) consistent) ?_
  intro result current hcurrent
  cases result with
  | error err => exact Safe.done_of_stable consistent_stable hcurrent
  | ok stored =>
    refine Safe.seq (safe_of_keepsHold ((fanOut_within config nn hkind
      policies outcome hname _).weaken ?_ fun _ _ => trivial) hcurrent) ?_
    · rintro call (hquiet | ⟨slot, _, _, hconverges | ⟨_, hcreates⟩⟩)
      · exact keepsHold_of_quiet hquiet.quiet
      · exact keepsHold_of_converges hconverges
      · exact keepsHold_of_createsNamespace hcreates
    · intro fan middle hmiddle
      refine Safe.seq (collectGarbage_safe consistent_clears config _ hmiddle) ?_
      rintro gc last ⟨hlast, _⟩
      refine safe_of_keepsHold ((finishFanOut_calls config nn _ _ _ _
        _ _).weaken ?_ fun _ h => h) hlast
      rintro call (hminor | hrecords)
      · exact keepsHold_of_quiet hminor.passive.quiet
      · exact keepsHold_of_records hrecords

theorem reconcileSource_safe (config : EngineConfig) (rep : Replication) {src : Unstructured}
    (hkind : src.groupVersionKind = gvk) (consistent : fleet.hub.Consistent) :
    Safe (engineSemantics undisturbed nn) (guard undisturbed)
      (reconcileSource config nn rep gvk src)
      (fun _ fleet => fleet.hub.Consistent) fleet := by
  have hframe : Frame undisturbed nn fun fleet => fleet.hub.Consistent :=
    consistentFrame
  have hquiet : ∀ (call : EngineCall) {current : Fleet}, call.IsQuiet →
      current.hub.Consistent → Safe (engineSemantics undisturbed nn)
        (guard undisturbed) (Program.perform call)
        (fun _ fleet => fleet.hub.Consistent) current := by
    intro call current hcall hcurrent
    exact safe_of_keepsHold ⟨keepsHold_of_quiet hcall, fun _ => trivial⟩ hcurrent
  unfold reconcileSource
  refine Safe.seq (hquiet (.hub .listPolicies) trivial consistent) ?_
  intro listed current hcurrent
  cases listed with
  | error err => exact Safe.done_of_stable consistent_stable hcurrent
  | ok policies =>
    refine Safe.seq (hframe.safe_of_quiet (namespaceLabels_allCalls trivial) hcurrent) ?_
    rintro labels current ⟨_, hcurrent⟩
    refine Safe.seq (hframe.safe_of_quiet ((flattenTargets_within _ _).weaken
        (fun _ hpassive => hpassive.quiet) fun _ h => h) hcurrent) ?_
    rintro targets current ⟨hflat, hcurrent⟩
    refine Safe.seq (hquiet (.previousResult rep.uid) trivial hcurrent) ?_
    intro prev current hcurrent
    refine Safe.seq (hquiet (.storeResult rep.uid _) trivial hcurrent) ?_
    intro _ current hcurrent
    refine Safe.seq (hframe.safe_of_quiet
      (emitAll_allCalls fun _ hmem => (applyRevocations_minor _ _ _ _ _ hmem).1) hcurrent) ?_
    rintro _ current ⟨_, hcurrent⟩
    refine converge_safe config rep hkind policies.items ?_ _ hcurrent
    rw [zip_decisions]
    intro slot hmem
    obtain ⟨target, htarget, rfl⟩ := List.mem_map.mp hmem
    exact hflat.named target htarget

theorem reconcileLive_safe (config : EngineConfig) (rep : Replication)
    (consistent : fleet.hub.Consistent) :
    Safe (engineSemantics undisturbed nn) (guard undisturbed) (reconcileLive config nn rep)
      (fun _ fleet => fleet.hub.Consistent) fleet := by
  unfold reconcileLive
  dsimp only
  cases config.kindGVKs.lookup rep.spec.sourceRef.kind with
  | none => exact finishSimple_safe rep _ _ _ consistent
  | some gvk =>
    dsimp only
    rw [hub_bind]
    refine Safe.call_of_stable consistent_stable consistent (fun _ h => ⟨h, trivial⟩) ?_
    intro current reply after hcurrent answer
    have hafter := consistent_answers hcurrent answer
    obtain ⟨⟨hub, ⟨hread, _⟩, _⟩, _⟩ := answer
    cases reply with
    | error err =>
      dsimp only
      split_ifs
      · exact finishSimple_safe rep _ _ _ hafter
      · exact Safe.done_of_stable consistent_stable hafter
    | ok src =>
      obtain ⟨stored, _, hsrc⟩ := Option.map_eq_some_iff.mp hread
      dsimp only
      split_ifs
      · exact finishSimple_safe rep _ _ _ hafter
      · exact reconcileSource_safe config rep (by rw [← hsrc]; rfl)
          hafter

theorem ensureFinalizer_keepsHold (rep : Replication) :
    (ensureFinalizer rep).AllCalls KeepsHold := by
  unfold ensureFinalizer
  split_ifs
  · trivial
  · have hadded : finalizerName ∈ addFinalizer rep.finalizers finalizerName := by simp
    exact ⟨hadded, fun _ => trivial⟩

/-- The finalizer goes when nothing is recorded any more, and by then every
recorded slot has been settled. -/
theorem reconcileDeletion_safe (config : EngineConfig) {rep : Replication} (hkey : rep.key = nn)
    (consistent : fleet.hub.Consistent) (holds : fleet.hub.Holds rep) :
    Safe (engineSemantics undisturbed nn) (guard undisturbed) (reconcileDeletion config nn rep)
      (fun _ fleet => fleet.hub.Consistent) fleet := by
  unfold reconcileDeletion
  split_ifs
  · exact Safe.done_of_stable consistent_stable consistent
  · refine Safe.seq (collectGarbage_safe holds_clears config [] ⟨consistent, holds⟩) ?_
    rintro gc current ⟨⟨hcurrent, hholds⟩, hsettled⟩
    unfold finishDeletion
    split_ifs with hempty
    · rw [hub_bind]
      refine Safe.call_of_stable holds_clears.settled_stable
        ⟨⟨hcurrent, hholds⟩, hsettled⟩ ?_ ?_
      · rintro world ⟨⟨hworld, hheld⟩, hdone⟩
        refine ⟨hworld, .inr ?_⟩
        intro hquiet cur hcur slot hrec hexists
        obtain ⟨hstored, hversion⟩ := Hub.current_eq_some hcur
        obtain rfl : cur = rep := hheld.2 cur hstored hversion
        have hnow : world.hub.replications nn = some cur := hkey ▸ hstored
        rcases hdone slot hrec with hkeep | hleft | hgone | hvacant
        · simp at hkeep
        · rw [List.isEmpty_iff.mp hempty] at hleft
          exact (not_recorded_nil _ hleft).elim
        · exact (hexists hgone).elim
        · exact hvacant hquiet hnow hrec
      · rintro world reply after ⟨⟨hworld, _⟩, _⟩ answer
        have hafter := consistent_answers hworld answer
        cases reply with
        | error err => exact Safe.done_of_stable consistent_stable hafter
        | ok stored =>
          refine safe_of_keepsHold ?_ hafter
          exact ⟨trivial, fun _ => ⟨trivial, fun _ => ⟨fun h => h,
            fun _ => ⟨trivial, fun _ => trivial⟩⟩⟩⟩
    · refine safe_of_keepsHold ?_ hcurrent
      rw [Program.perform_bind]
      refine ⟨trivial, fun now => ?_⟩
      refine Program.AllCalls.bind ((writeStatusIfChanged_calls rep _).weaken
        (fun _ => keepsHold_of_records) fun _ h => h) ?_
      intro result
      cases result with
      | ok stored => trivial
      | error err => trivial

theorem reconcile_safe (config : EngineConfig) (nn : NamespacedName)
    (consistent : fleet.hub.Consistent) :
    Safe (engineSemantics undisturbed nn) (guard undisturbed)
      (reconcile config nn) (fun _ fleet => fleet.hub.Consistent) fleet := by
  unfold reconcile
  rw [hub_bind]
  refine Safe.call_of_stable consistent_stable consistent (fun _ h => ⟨h, trivial⟩) ?_
  intro current reply after hcurrent answer
  have hafter := consistent_answers hcurrent answer
  obtain ⟨⟨hub, ⟨hread, rfl⟩, rfl⟩, _⟩ := answer
  cases reply with
  | error err =>
    dsimp only
    split_ifs
    · refine safe_of_keepsHold ?_ hafter
      exact ⟨trivial, fun _ => ⟨fun h => h, fun _ => trivial⟩⟩
    · exact Safe.done_of_stable consistent_stable hafter
  | ok rep =>
    have hholds := hcurrent.holds hread
    dsimp only
    split_ifs
    · exact reconcileDeletion_safe config (hcurrent.key nn rep hread) hafter hholds
    · exact Safe.done_of_stable consistent_stable hafter
    · refine Safe.seq (safe_of_keepsHold (ensureFinalizer_keepsHold rep) hafter) ?_
      intro result later hlater
      cases result with
      | error err => exact Safe.done_of_stable consistent_stable hlater
      | ok stored => exact reconcileLive_safe config stored hlater

/-! ## The system -/

/-- What happens around the operator: API users, Cluster objects that come and
go, informer events one at a time, and edits on the spokes. -/
inductive Happens : Fleet → Fleet → Prop where
  | editHub {fleet : Fleet} {hub : Hub} (newer : fleet.hub.Newer hub)
      (consistent : hub.Consistent) : Happens fleet { fleet with hub := hub }
  | editCluster {fleet : Fleet} {key : String} {next : Option ClusterObject}
      (own : ∀ cluster, next = some cluster → cluster.key = key) :
      Happens fleet { fleet with
        clusters := Function.update fleet.clusters key next }
  | observe {fleet : Fleet} {cluster : ClusterObject}
      (stored : fleet.clusters cluster.key = some cluster) :
      Happens fleet { fleet with
        records := (fleet.records.upsert cluster).1 }
  | forget {fleet : Fleet} {key : String}
      (gone : fleet.clusters key = none) :
      Happens fleet { fleet with records := (fleet.records.remove key).1 }
  | editSpokes {fleet : Fleet} {spokes : Spokes} :
      Happens fleet { fleet with spokes := spokes }

def relies (undisturbed : Prop) : Controller → Fleet → Fleet → Prop
  | .engine => Relies undisturbed
  | _ => fun before after => before.hub.Consistent → after.hub.Consistent

/-- The engine on one Replication, the request controller on one source, and
everything around them, with restarts. -/
def system (undisturbed : Prop) (config : EngineConfig) (request : RequestConfig)
    (nn source : NamespacedName) :
    System Fleet Controller.Reply Controller.Outcome where
  semantics := fun role =>
    { interfere := relies undisturbed role
      answers := fun before => before.AnswersRole role
      interfere_refl := by
        cases role with
        | engine => exact Relies.refl undisturbed
        | request => exact fun _ h => h
        | authority => exact fun _ h => h
      interfere_trans := by
        cases role with
        | engine => exact Relies.trans
        | request => exact fun head tail h => tail (head h)
        | authority => exact fun head tail h => tail (head h) }
  starts
    | .engine, program => program = reconcile config nn
    | .request, program => program = reconcileRequest request source
    | .authority, _ => False
  outside := fun state => Happens state.world
  restart := fun before after => after = before.restarted

def admitsRole (undisturbed : Prop) (nn : NamespacedName) :
    (role : Controller) → Fleet → role.Call → Prop
  | .engine, fleet, call => admits undisturbed nn fleet call
  | _, _, _ => True

/-- While the engine is in the middle of a reconcile no Cluster object appears,
and undisturbed spokes get no replica from third parties. -/
def permits (undisturbed : Prop) (state : PlaneState) (next : Fleet) : Prop :=
  (state.running .engine).isSome = true →
    (∀ name, state.world.NoCluster name → next.NoCluster name) ∧
      (undisturbed → ∀ slot, next.spokes.Host slot → state.world.spokes.Host slot)

def guards (undisturbed : Prop) : (role : Controller) → Fleet → role.Call → Prop
  | .engine, fleet, call => guard undisturbed fleet call
  | .request, fleet, _ => fleet.hub.Consistent
  | .authority, _, _ => False

theorem happens_consistent (consistent : before.hub.Consistent) (happens : Happens before after) :
    after.hub.Consistent := by
  cases happens with
  | editHub newer consistent => exact consistent
  | _ => exact consistent

theorem happens_newer (happens : Happens before after) : before.hub.Newer after.hub := by
  cases happens with
  | editHub newer consistent => exact newer
  | _ => exact .refl _

theorem system_certified (undisturbed : Prop) (config : EngineConfig) (request : RequestConfig)
    (nn source : NamespacedName) :
    ((system undisturbed config request nn source).restrict (admitsRole undisturbed nn)
      (permits undisturbed)).Certified (fun fleet => fleet.hub.Consistent)
        (guards undisturbed) where
  outside_invariant := fun h change => happens_consistent h change.1
  outside_tolerated := by
    rintro role state next hactive hconsistent ⟨hhappens, hpermitted⟩
    cases role with
    | engine =>
      obtain ⟨hclusters, hspokes⟩ := hpermitted hactive
      exact ⟨fun h => ⟨happens_newer hhappens, happens_consistent h hhappens⟩,
        hclusters, hspokes⟩
    | request => exact fun h => happens_consistent h hhappens
    | authority => exact fun h => happens_consistent h hhappens
  restart_invariant := by
    rintro world _ h rfl
    exact h
  guard_invariant := by
    intro role world call h
    cases role with
    | engine => exact h.1
    | request => exact h
    | authority => exact h.elim
  start_safe := by
    intro role program world hstarts h
    cases role with
    | engine =>
      cases hstarts
      exact reconcile_safe config nn h
    | request =>
      have hstable : Stable (((system undisturbed config request nn source).restrict
            (admitsRole undisturbed nn) (permits undisturbed)).semantics .request)
          fun fleet => fleet.hub.Consistent :=
        fun h change => change h
      refine (Safe.of_within (Program.within_true program) hstable h
        (fun _ h => h) ?_).weaken fun _ _ h => h.2
      intro current call reply after _ hcurrent answer
      have hanswer : current.AnswersRole .request call reply after :=
        answer.1
      exact (hanswer.consistent hcurrent).2
    | authority => exact hstarts.elim
  call_tolerated := by
    intro role other world call reply next hne hguard answer
    have hanswer : world.AnswersRole role call reply next := answer.1
    have hnext := fun h : world.hub.Consistent => (hanswer.consistent h).2
    cases other with
    | request => exact hnext
    | authority => exact hnext
    | engine =>
      cases role with
      | engine => exact (hne rfl).elim
      | request =>
        have hhub := (Fleet.AnswersRequest.hub_only hanswer).1
        exact relies_of_hub hhub hanswer
      | authority => exact hguard.elim

open Sample

/-! ## Runs on the sample fleet -/

def sampleReconciled : Fleet :=
  (execute Fleet.handle (reconcile engine key) Sample.fleet).final

def sampleDeleted : Fleet :=
  { sampleReconciled with
    hub := (sampleReconciled.hub.handle (.deleteReplication key)).2 }

theorem sampleReconciled_consistent : sampleReconciled.hub.Consistent :=
  Fleet.execute_consistent _ hub_consistent

def sampleSystem (admits : (role : Controller) → Fleet → role.Call → Prop)
    (permits : PlaneState → Fleet → Prop) :
    System Fleet Controller.Reply Controller.Outcome :=
  (system True engine request key ⟨"team", "settings"⟩).restrict admits permits

def Untouched (state : PlaneState) (next : Fleet) : Prop :=
  next.spokes = state.world.spokes ∧ next.clusters = state.world.clusters

theorem permits_of_untouched {state : PlaneState} {next : Fleet}
    (untouched : Untouched state next) :
    permits True state next := by
  obtain ⟨hspokes, hclusters⟩ := untouched
  refine fun _ => ⟨fun name hgone => ?_, fun _ slot hhost => ?_⟩
  · unfold Fleet.NoCluster
    rw [hclusters]
    exact hgone
  · rwa [hspokes] at hhost

section SampleRuns

variable {admits : (role : Controller) → Fleet → role.Call → Prop}
  {permits : PlaneState → Fleet → Prop}

theorem sampleSystem_answered {fleet : Fleet} {program : EngineProgram (ApiResult ReconcileOutcome)}
    (admitted : ∀ exchange ∈ (execute Fleet.handle program fleet).trace,
      admits .engine exchange.before exchange.request) :
    Answered ((sampleSystem admits permits).semantics .engine)
      (execute Fleet.handle program fleet).trace := by
  refine Answered.restrict (execute_answered ?_ program fleet) admitted
  exact fun world call => Fleet.answersRole_handleRole world .engine call

theorem sampleDeleted_reachable
    (permitted : ∀ {state next}, Untouched state next → permits state next)
    (admitted : ∀ exchange ∈ (execute Fleet.handle
      (reconcile engine key) Sample.fleet).trace,
        admits .engine exchange.before exchange.request) :
    (sampleSystem admits permits).Reachable (System.idle Sample.fleet)
      (System.idle sampleDeleted) := by
  have hreconciled := System.reachable_execute_idle (sampleSystem admits permits) .engine rfl
    (sampleSystem_answered admitted)
  have hconsistent := sampleReconciled_consistent
  have hdelete := Hub.answers_handle True sampleReconciled.hub (.deleteReplication key)
  refine hreconciled.tail (.outside ⟨?_, permitted ⟨rfl, rfl⟩⟩)
  exact .editHub (hconsistent.newer_of_answers hdelete) (hconsistent.answers hdelete)

end SampleRuns

/-- Discovery knows the sample cluster, and no replica was made for another UID. -/
def sampleAdmits (before : Fleet) : EngineCall → Bool
  | .lookupCluster name =>
    (before.records.lookup cluster.key).map (·.name) = some name
  | .transportGet cluster gvk key => before.KeepsUID Sample.key (slotOf cluster gvk key)
  | _ => true

theorem admitsRole_of_sampleAdmits (finds : sampleAdmits fleet call = true) :
    admitsRole True key .engine fleet call := by
  cases call with
  | lookupCluster name =>
    obtain ⟨record, hlookup, hrecord⟩ := Option.map_eq_some_iff.mp (of_decide_eq_true finds)
    exact .inr ⟨_, record, hlookup, hrecord⟩
  | transportGet cluster gvk key => exact fun _ => of_decide_eq_true finds
  | _ => trivial

def FindsSample (fleet : Fleet) : Prop :=
  ∀ exchange ∈ (execute Fleet.handle (reconcile engine key) fleet).trace,
    sampleAdmits exchange.before exchange.request = true
deriving Decidable

def givenUp : EngineCall → Option Replication
  | .hub (.updateReplication rep) =>
    if finalizerName ∈ rep.finalizers then none else some rep
  | _ => none

theorem eq_updateReplication_of_givenUp {rep : Replication} (h : givenUp call = some rep) :
    call = .hub (.updateReplication rep) ∧ finalizerName ∉ rep.finalizers := by
  unfold givenUp at h
  split at h
  · split_ifs at h with hmem
    cases h
    exact ⟨rfl, hmem⟩
  · cases h

/-- While discovery has caught up whenever the engine asks and no Cluster
object appears during a reconcile, the engine releases an entry only when its
cluster is gone, and gives up its finalizer only when every replica recorded
for an existing cluster has left its spoke. -/
theorem released_only_when_gone (undisturbed : Prop) (config : EngineConfig)
    (request : RequestConfig) {nn source : NamespacedName} {start : Fleet}
    (consistent : start.hub.Consistent)
    {state : PlaneState}
    (reach : ((system undisturbed config request nn source).restrict (admitsRole undisturbed nn)
      (permits undisturbed)).Reachable (System.idle start) state) :
    (∀ entry next,
      state.running .engine = some (.call (.emit (.event (.clusterGone entry))) next) →
      state.world.NoCluster entry.clusterName) ∧
    (undisturbed →
      ∀ rep next,
        state.running .engine = some (.call (.hub (.updateReplication rep)) next) →
        finalizerName ∉ rep.finalizers →
        ∀ cur, state.world.hub.current rep = some cur → Cleared state.world cur) := by
  have certified :=
    system_certified undisturbed config request nn source
  constructor
  · intro entry next hwaiting
    have hguard := certified.guard_reachable consistent reach hwaiting
    exact hguard.2
  · intro hquiet rep next hwaiting hfinalizer cur hcur
    have hguard := certified.guard_reachable consistent reach hwaiting
    rcases hguard.2 with hkept | hcleared
    · exact (hfinalizer hkept).elim
    · exact hcleared hquiet cur hcur

/-- Without a restart the sample's finalizer goes after its replica. -/
theorem released_only_when_gone_sample :
    ∃ (state : PlaneState) (rep cur : Replication),
      (∃ next, state.running .engine = some (.call (.hub (.updateReplication rep)) next)) ∧
      finalizerName ∉ rep.finalizers ∧
      state.world.hub.current rep = some cur ∧
      Recorded cur.status.inventory slot ∧
      ¬ state.world.NoCluster slot.cluster ∧
      Cleared state.world cur := by
  have hdeleted : (sampleSystem (admitsRole True key) (permits True)).Reachable
      (System.idle Sample.fleet) (System.idle sampleDeleted) := by
    have hfinds : FindsSample Sample.fleet := by decide +kernel
    exact sampleDeleted_reachable permits_of_untouched
      fun exchange hmem => admitsRole_of_sampleAdmits (hfinds exchange hmem)
  have hfinds : FindsSample sampleDeleted := by
    decide +kernel
  have hgivesUp : ∃ exchange ∈ (execute Fleet.handle
      (reconcile engine key) sampleDeleted).trace,
      ∃ rep ∈ givenUp exchange.request, ∃ cur ∈ exchange.before.hub.current rep,
          Recorded cur.status.inventory slot ∧
          exchange.before.clusters cluster.key = some cluster := by
    decide +kernel
  obtain ⟨exchange, hmem, rep, hrep, cur, hcur, hrecorded, hcluster⟩ :=
    hgivesUp
  have hcall := eq_updateReplication_of_givenUp hrep
  obtain ⟨state, hreach, hworld, next, hwaiting⟩ :=
    System.reachable_idle_exchange (sampleSystem (admitsRole True key) (permits True))
      .engine rfl (sampleSystem_answered fun exchange hmem =>
        admitsRole_of_sampleAdmits (hfinds exchange hmem))
      hmem hcall.1
  rw [← hworld] at hcur hcluster
  have hmain := released_only_when_gone True engine request
    hub_consistent (hdeleted.trans hreach)
  have hcleared := hmain.2 trivial rep next hwaiting hcall.2 cur hcur
  exact ⟨state, rep, cur, ⟨next, hwaiting⟩, hcall.2, hcur, hrecorded,
    fun hgone => hgone _ _ hcluster rfl, hcleared⟩

def releasedEntry : EngineCall → Option InventoryEntry
  | .emit (.event (.clusterGone entry)) => some entry
  | _ => none

theorem eq_clusterGone_of_releasedEntry {entry : InventoryEntry}
    (released : releasedEntry call = some entry) :
    call = .emit (.event (.clusterGone entry)) := by
  unfold releasedEntry at released
  split at released
  · cases released
    rfl
  · cases released

/-- After a restart the entry of an existing cluster is released and the
finalizer goes, while the replica stays behind. -/
theorem released_after_restart :
    (∃ state entry next,
      (sampleSystem (fun _ _ _ => True) Untouched).Reachable (System.idle Sample.fleet) state ∧
      state.running .engine = some (.call (.emit (.event (.clusterGone entry))) next) ∧
      ¬ state.world.NoCluster entry.clusterName) ∧
    ∃ state,
      (sampleSystem (fun _ _ _ => True) Untouched).Reachable (System.idle Sample.fleet) state ∧
      state.world.hub.replications key = none ∧
      ¬ state.world.NoCluster slot.cluster ∧
      state.world.spokes.Carries slot sourceUID := by
  have hdeleted : (sampleSystem (fun _ _ _ => True) Untouched).Reachable
      (System.idle Sample.fleet) (System.idle sampleDeleted) :=
    sampleDeleted_reachable id fun _ _ => trivial
  have hrestarted := hdeleted.tail (.restart rfl)
  have hanswered : Answered ((sampleSystem (fun _ _ _ => True)
      Untouched).semantics .engine) (execute Fleet.handle
        (reconcile engine key) sampleDeleted.restarted).trace :=
    sampleSystem_answered fun _ _ => trivial
  constructor
  · have hreleases : ∃ exchange ∈ (execute Fleet.handle (reconcile engine key)
        sampleDeleted.restarted).trace,
        (releasedEntry exchange.request).map (·.clusterName) = some cluster.name ∧
          exchange.before.clusters cluster.key = some cluster := by
      decide +kernel
    obtain ⟨exchange, hmem, hreleased, hcluster⟩ := hreleases
    obtain ⟨entry, hentry, hname⟩ := Option.map_eq_some_iff.mp hreleased
    obtain ⟨state, hreach, hworld, next, hwaiting⟩ :=
      System.reachable_idle_exchange _ Controller.engine rfl hanswered hmem
        (eq_clusterGone_of_releasedEntry hentry)
    refine ⟨state, entry, next, hrestarted.trans hreach, hwaiting, ?_⟩
    rw [hworld, hname]
    exact fun hgone => hgone _ _ hcluster rfl
  · have hreach := System.reachable_execute_idle
      (sampleSystem (fun _ _ _ => True) Untouched) .engine rfl hanswered
    refine ⟨_, hrestarted.trans hreach, ?_, ?_, ?_⟩
    · decide +kernel
    · have hcluster : (execute Fleet.handle (reconcile engine key)
          sampleDeleted.restarted).final.clusters cluster.key = some cluster := by
        decide +kernel
      exact fun hgone => hgone _ _ hcluster rfl
    · decide +kernel

end ClusterGone

end K8sR8r
