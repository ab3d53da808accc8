import K8sR8r.EngineFrames
import K8sR8r.FleetWorld

/-!
# A ledger of created replicas

The property "no created replica is ever lost" is about history: which spoke
objects the engine created or took over, and which of them it has released
since.  The ledger carries that history beside the fleet.  It is updated by
every call of the engine and read by none.

`Ledger.Good` is the invariant of the whole system and `Ledger.Interferes` is
what everybody but the engine may do to it between two calls.
-/

namespace K8sR8r

open Interaction

/-- A replica slot together with the UID of the source it was written for. -/
abbrev Replica := SlotKey × String

/-- `owned` are the replicas the engine created or took over that still exist;
`released` are those it has given up with a ClusterGone event and not written
or recorded since. -/
structure Ledger where
  fleet : Fleet
  owned : Finset Replica
  released : Finset Replica

namespace Ledger

/-! ## How calls are noted -/

def AppliedFor : (call : EngineCall) → call.Reply → Replica → Prop
  | .transportApply cluster obj, reply, replica =>
    reply = (Except.ok () : ApiResult Unit) ∧
      replica.1 = slotOf cluster obj.groupVersionKind obj.key ∧
      obj.labels.lookup labelSourceUID = some replica.2
  | _, _, _ => False

def ReleasedBy (nn : NamespacedName) (hub : Hub) : EngineCall → Replica → Prop
  | .emit (.event (.clusterGone entry)), replica =>
    replica.1 = keyForEntry entry ∧ ∃ rep, hub.replications nn = some rep ∧
        rep.spec.sourceRef.uid = replica.2
  | _, _ => False

def RecordedBy : (call : EngineCall) → call.Reply → Replica → Prop
  | .hub (.updateReplicationStatus _), reply, replica =>
    ∃ stored, reply = (Except.ok stored : ApiResult Replication) ∧
      stored.spec.sourceRef.uid = replica.2 ∧
      Recorded stored.status.inventory replica.1
  | _, _, _ => False

/-- The answer of the fleet together with the ledger's bookkeeping. -/
structure Answers (nn : NamespacedName) (before : Ledger)
    (call : EngineCall) (reply : call.Reply) (after : Ledger) : Prop where
  fleet : before.fleet.Answers (fun _ => True) call reply after.fleet
  owned : ∀ replica, replica ∈ after.owned ↔
    (replica ∈ before.owned ∨ AppliedFor call reply replica) ∧
      after.fleet.spokes.Carries replica.1 replica.2
  released : ∀ replica, replica ∈ after.released ↔
    (replica ∈ before.released ∨
        ReleasedBy nn before.fleet.hub call replica) ∧
      ¬ AppliedFor call reply replica ∧ ¬ RecordedBy call reply replica

/-! ## The invariant -/

/-- The replica exists, and its entry was not given up. -/
def Live (ledger : Ledger) (replica : Replica) : Prop :=
  replica ∈ ledger.owned ∧ replica ∉ ledger.released

structure Good (nn : NamespacedName) (ledger : Ledger) : Prop where
  placed : ledger.fleet.spokes.WellPlaced
  versions : ∀ rep, ledger.fleet.hub.replications nn = some rep →
    rep.resourceVersion < ledger.fleet.hub.nextVersion
  identity : ∀ rep, ledger.fleet.hub.replications nn = some rep →
    rep.key = nn ∧ rep.spec.sourceRef.uid ≠ ""
  marked : ∀ replica ∈ ledger.owned,
    replica.1.ns ≠ "" ∧ ledger.fleet.spokes.Carries replica.1 replica.2
  recorded : ∀ replica, ledger.Live replica →
    ∃ rep, ledger.fleet.hub.replications nn = some rep ∧
      rep.spec.sourceRef.uid = replica.2 ∧
      finalizerName ∈ rep.finalizers ∧
      Recorded rep.status.inventory replica.1

/-- What others may do between two calls of the engine: nothing that takes the
engine's finalizer or changes the inventory or the source UID of a Replication
that carries it, and nothing that makes an object the engine's. -/
structure Interferes (nn : NamespacedName) (before after : Ledger) : Prop where
  good : before.Good nn → after.Good nn
  owned : after.owned ⊆ before.owned
  released : after.released = before.released
  versions : before.fleet.hub.nextVersion ≤ after.fleet.hub.nextVersion
  fresh : ∀ rep, after.fleet.hub.replications nn = some rep →
    rep.resourceVersion < before.fleet.hub.nextVersion →
      before.fleet.hub.replications nn = some rep
  held : ∀ rep, before.fleet.hub.replications nn = some rep →
    finalizerName ∈ rep.finalizers →
      ∃ cur, after.fleet.hub.replications nn = some cur ∧
        finalizerName ∈ cur.finalizers ∧
        cur.status.inventory = rep.status.inventory ∧
        cur.spec.sourceRef.uid = rep.spec.sourceRef.uid

theorem Interferes.refl (nn : NamespacedName) (ledger : Ledger) : Interferes nn ledger ledger where
  good := id
  owned := le_rfl
  released := rfl
  versions := le_rfl
  fresh := fun _ h _ => h
  held := fun rep hrep hfin => ⟨rep, hrep, hfin, rfl, rfl⟩

theorem Interferes.trans {nn : NamespacedName} {first second third : Ledger}
    (head : Interferes nn first second) (tail : Interferes nn second third) :
    Interferes nn first third where
  good := tail.good ∘ head.good
  owned := tail.owned.trans head.owned
  released := tail.released.trans head.released
  versions := head.versions.trans tail.versions
  fresh := by
    intro rep hrep hversion
    exact head.fresh rep (tail.fresh rep hrep (hversion.trans_le head.versions)) hversion
  held := by
    intro rep hrep hfin
    obtain ⟨mid, hmid, hmidFin, hmidInv, hmidUID⟩ := head.held rep hrep hfin
    obtain ⟨cur, hcur, hcurFin, hcurInv, hcurUID⟩ :=
      tail.held mid hmid hmidFin
    exact ⟨cur, hcur, hcurFin, hcurInv.trans hmidInv, hcurUID.trans hmidUID⟩

def semantics (nn : NamespacedName) : Semantics Ledger EngineCall.Reply where
  interfere := Interferes nn
  answers := Answers nn
  interfere_refl := Interferes.refl nn
  interfere_trans := Interferes.trans

/-! ## Stable assertions -/

def Tracks (uid : String) (inv : List InventoryEntry) (ledger : Ledger) :
    Prop :=
  ∀ slot, ledger.Live (slot, uid) → Recorded inv slot

def Held (nn : NamespacedName) (rep : Replication) (ledger : Ledger) : Prop :=
  rep.resourceVersion < ledger.fleet.hub.nextVersion ∧
    ∀ cur, ledger.fleet.hub.replications nn = some cur →
      cur.resourceVersion = rep.resourceVersion → cur = rep

/-- The stored Replication carries the engine finalizer, this source UID and
this inventory. -/
def Persisted (nn : NamespacedName) (uid : String) (inv : List InventoryEntry) (ledger : Ledger) :
    Prop :=
  ∃ cur, ledger.fleet.hub.replications nn = some cur ∧
    finalizerName ∈ cur.finalizers ∧ cur.status.inventory = inv ∧
    cur.spec.sourceRef.uid = uid

def Vacant (replica : Replica) (ledger : Ledger) : Prop :=
  replica ∉ ledger.owned

variable {nn : NamespacedName} {uid : String} {rep : Replication}
  {inv : List InventoryEntry} {before after : Ledger}

variable {replica : Replica} {call : EngineCall} {reply : call.Reply} {err : ApiError}

section

variable (change : Interferes nn before after)
include change

theorem Live.of_interferes (live : after.Live replica) : before.Live replica :=
  ⟨change.owned live.1, by rw [← change.released]; exact live.2⟩

theorem Tracks.interfered (tracks : Tracks uid inv before) : Tracks uid inv after :=
  fun slot live => tracks slot (live.of_interferes change)

theorem Held.interfered (held : Held nn rep before) : Held nn rep after := by
  refine ⟨held.1.trans_le change.versions, ?_⟩
  intro cur hcur hversion
  have hbefore := change.fresh cur hcur (by rw [hversion]; exact held.1)
  exact held.2 cur hbefore hversion

theorem Persisted.interfered (persisted : Persisted nn uid inv before) :
    Persisted nn uid inv after := by
  obtain ⟨cur, hcur, hfin, hinv, hUID⟩ := persisted
  obtain ⟨next, hnext, hnextFin, hnextInv, hnextUID⟩ :=
    change.held cur hcur hfin
  exact ⟨next, hnext, hnextFin, hnextInv.trans hinv, hnextUID.trans hUID⟩

theorem Vacant.interfered (vacant : Vacant replica before) : Vacant replica after :=
  fun h => vacant (change.owned h)

end

theorem Tracks.of_recorded {other : List InventoryEntry} (tracks : Tracks uid inv before)
    (hsub : ∀ slot, Recorded inv slot → Recorded other slot) :
    Tracks uid other before :=
  fun slot live => hsub slot (tracks slot live)

theorem Tracks.removeEntry {slot : SlotKey} (tracks : Tracks uid inv before)
    (gone : ¬ before.Live (slot, uid)) :
    Tracks uid (removeEntry inv slot) before := by
  intro other live
  rw [recorded_removeEntry_iff]
  refine ⟨tracks other live, ?_⟩
  rintro rfl
  exact gone live

/-! ## Calls that others could have made -/

theorem Answers.released_same (answer : Answers nn before call reply after)
    (hrelease : ∀ replica, ¬ ReleasedBy nn before.fleet.hub call replica)
    (happlied : ∀ replica, ¬ AppliedFor call reply replica)
    (hrecorded : ∀ replica, ¬ RecordedBy call reply replica) :
    after.released = before.released := by
  ext replica
  rw [answer.released]
  simp [hrelease replica, happlied replica, hrecorded replica]

theorem Answers.owned_subset (answer : Answers nn before call reply after)
    (happlied : ∀ replica, ¬ AppliedFor call reply replica) :
    after.owned ⊆ before.owned := by
  intro replica hmem
  rw [answer.owned] at hmem
  rcases hmem.1 with howned | hnew
  · exact howned
  · exact (happlied replica hnew).elim

theorem Answers.carries (answer : Answers nn before call reply after)
    (howned : replica ∈ after.owned) :
    after.fleet.spokes.Carries replica.1 replica.2 := by
  rw [answer.owned] at howned
  exact howned.2

/-- A call that leaves the hub alone, keeps the spokes well placed and notes
nothing new is one that others could have made. -/
theorem interferes_of_spokes (hhub : after.fleet.hub = before.fleet.hub)
    (hplaced : before.fleet.spokes.WellPlaced → after.fleet.spokes.WellPlaced)
    (howned : after.owned ⊆ before.owned)
    (hcarries : ∀ replica ∈ after.owned, after.fleet.spokes.Carries replica.1 replica.2)
    (hreleased : after.released = before.released) :
    Interferes nn before after where
  good := fun good =>
    { placed := hplaced good.placed
      versions := by rw [hhub]; exact good.versions
      identity := by rw [hhub]; exact good.identity
      marked := fun replica hmem =>
        ⟨(good.marked replica (howned hmem)).1, hcarries replica hmem⟩
      recorded := by
        rintro replica ⟨hmem, hkept⟩
        rw [hhub]
        exact good.recorded replica ⟨howned hmem, by rw [← hreleased]; exact hkept⟩ }
  owned := howned
  released := hreleased
  versions := by rw [hhub]
  fresh := by
    intro rep hrep _
    rwa [hhub] at hrep
  held := by
    intro rep hrep hfin
    exact ⟨rep, by rw [hhub]; exact hrep, hfin, rfl, rfl⟩

theorem harmless_of_isQuiet (quiet : call.IsQuiet) : Harmless (semantics nn) call := by
  intro before reply after answer
  obtain ⟨hhub, hspokes, _⟩ := Fleet.answers_quiet quiet answer.fleet
  have happlied : ∀ replica, ¬ AppliedFor call reply replica := by
    intro replica h
    cases call <;> first | exact h.elim | exact quiet.elim
  have hrecorded : ∀ replica, ¬ RecordedBy call reply replica := by
    intro replica h
    cases call with
    | hub call => cases call <;> first | exact h.elim | exact quiet.elim
    | _ => exact h.elim
  have hrelease : ∀ replica, ¬ ReleasedBy nn before.fleet.hub call replica := by
    intro replica h
    cases call with
    | emit signal =>
      cases signal with
      | event event =>
        cases event <;> first | exact h.elim | exact quiet trivial
      | metric metric => exact h.elim
    | _ => exact h.elim
  exact interferes_of_spokes hhub (by rw [hspokes]; exact id)
    (answer.owned_subset happlied) (fun _ h => answer.carries h)
    (answer.released_same hrelease happlied hrecorded)

theorem harmless_transportDelete (cluster : String) (gvk : GroupVersionKind)
    (key : NamespacedName) :
    Harmless (semantics nn) (.transportDelete cluster gvk key) := by
  intro before reply after answer
  obtain ⟨spokes, hspokes, hafter⟩ := answer.fleet
  have hplaced : before.fleet.spokes.WellPlaced → spokes.WellPlaced := by
    intro placed
    cases reply with
    | ok _ =>
      rw [hspokes.2]
      exact placed.erase _
    | error err =>
      rw [hspokes.1]
      exact placed
  refine interferes_of_spokes (by rw [hafter]) (by rw [hafter]; exact hplaced)
    (answer.owned_subset fun _ h => h.elim) (fun _ h => answer.carries h)
    (answer.released_same (fun _ h => h.elim) (fun _ h => h.elim) (fun _ h => h.elim))

/-- An application that is not on behalf of any source creates no replica. -/
theorem harmless_transportApply {cluster : String} {obj : Unstructured}
    (hplain : obj.labels.lookup labelSourceUID = none) :
    Harmless (semantics nn) (.transportApply cluster obj) := by
  intro before reply after answer
  obtain ⟨spokes, hspokes, hafter⟩ := answer.fleet
  have happlied : ∀ replica, ¬ AppliedFor (.transportApply cluster obj) reply replica := by
    rintro replica ⟨_, _, hlabel⟩
    rw [hplain] at hlabel
    cases hlabel
  have hplaced : before.fleet.spokes.WellPlaced → spokes.WellPlaced := by
    intro placed
    cases reply with
    | ok _ =>
      obtain ⟨admits, result, _, rfl⟩ := hspokes
      exact placed.update admits result
    | error err =>
      rw [hspokes.1]
      exact placed
  exact interferes_of_spokes (by rw [hafter]) (by rw [hafter]; exact hplaced)
    (answer.owned_subset happlied) (fun _ h => answer.carries h)
    (answer.released_same (fun _ h => h.elim) happlied (fun _ h => h.elim))

theorem interferes_of_applyError {cluster : String} {obj : Unstructured}
    (answer : Answers nn before (.transportApply cluster obj)
      (Except.error err : ApiResult Unit) after) :
    Interferes nn before after := by
  obtain ⟨spokes, hspokes, hafter⟩ := answer.fleet
  have happlied : ∀ replica, ¬ AppliedFor (.transportApply cluster obj)
      (Except.error err : ApiResult Unit) replica := by
    rintro replica ⟨hreply, _⟩
    cases hreply
  refine interferes_of_spokes (by rw [hafter]) ?_
    (answer.owned_subset happlied) (fun _ h => answer.carries h)
    (answer.released_same (fun _ h => h.elim) happlied (fun _ h => h.elim))
  intro placed
  rw [hafter, hspokes.1]
  exact placed

theorem interferes_of_statusError
    (answer : Answers nn before (.hub (.updateReplicationStatus rep))
      (Except.error err : ApiResult Replication) after) :
    Interferes nn before after := by
  obtain ⟨hub, hhub, hafter⟩ := answer.fleet
  have hrecorded : ∀ replica, ¬ RecordedBy (.hub (.updateReplicationStatus rep))
      (Except.error err : ApiResult Replication) replica := by
    rintro replica ⟨stored, hreply, _⟩
    cases hreply
  exact interferes_of_spokes (by rw [hafter]; exact hhub.1)
    (by rw [hafter]; exact id) (answer.owned_subset fun _ h => h.elim)
    (fun _ h => answer.carries h)
    (answer.released_same (fun _ h => h.elim) (fun _ h => h.elim) hrecorded)

theorem interferes_of_updateError
    (answer : Answers nn before (.hub (.updateReplication rep))
      (Except.error err : ApiResult Replication) after) :
    Interferes nn before after := by
  obtain ⟨hub, hhub, hafter⟩ := answer.fleet
  exact interferes_of_spokes (by rw [hafter]; exact hhub.1)
    (by rw [hafter]; exact id) (answer.owned_subset fun _ h => h.elim)
    (fun _ h => answer.carries h)
    (answer.released_same (fun _ h => h.elim) (fun _ h => h.elim) (fun _ h => h.elim))

end Ledger

end K8sR8r
