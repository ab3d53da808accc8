import K8sR8r.InteractionLog
import K8sR8r.SlotAttendance
import K8sR8r.WriteAuthorisation

/-!
# Objects that belong to somebody else

An object at a replica's name that does not carry this source's UID is written
only with two consents: the source's annotation and the policies that permit the
target.  The engine decides on what it read; the statement is about slots that
still hold what the engine saw when it writes.
-/

namespace K8sR8r

open Interaction

/-! ## Consent -/

def strongestGrant (policies : List ReplicationPolicy) : Nat :=
  ((policies.flatMap fun policy =>
    policy.options.allowedConflictPolicies).map conflictPolicyStrength).foldl max 0

private theorem le_foldl_max_iff (bound start : Nat) (values : List Nat) :
    bound ≤ values.foldl max start ↔ bound ≤ start ∨ ∃ value ∈ values, bound ≤ value := by
  induction values generalizing start with
  | nil => simp
  | cons head rest ih =>
    rw [List.foldl_cons, ih, le_max_iff]
    simp only [List.mem_cons, exists_eq_or_imp, or_assoc]

theorem le_strongestGrant_iff (bound : Nat) (policies : List ReplicationPolicy) :
    bound ≤ strongestGrant policies ↔ bound = 0 ∨ ∃ policy ∈ policies,
        ∃ cp ∈ policy.options.allowedConflictPolicies, bound ≤ conflictPolicyStrength cp := by
  unfold strongestGrant
  rw [le_foldl_max_iff]
  simp only [Nat.le_zero, List.mem_map, List.mem_flatMap]
  constructor
  · rintro (h | ⟨_, ⟨cp, ⟨policy, hpolicy, hcp⟩, rfl⟩, hle⟩)
    · exact .inl h
    · exact .inr ⟨policy, hpolicy, cp, hcp, hle⟩
  · rintro (h | ⟨policy, hpolicy, cp, hcp, hle⟩)
    · exact .inl h
    · exact .inr ⟨_, ⟨cp, ⟨policy, hpolicy, hcp⟩, rfl⟩, hle⟩

theorem strength_resolveOptions (policies : List ReplicationPolicy) :
    conflictPolicyStrength (conflictGrant (resolveOptions policies).allowedConflictPolicies) =
      strongestGrant policies := by
  refine eq_of_forall_le_iff fun bound => ?_
  rw [strength_conflictGrant, le_foldl_max_iff, le_strongestGrant_iff]
  simp only [Nat.le_zero, List.mem_map]
  constructor
  · rintro (h | ⟨_, ⟨cp, hcp, rfl⟩, hle⟩)
    · exact .inl h
    · rcases (mem_allowedConflictPolicies_iff policies cp).mp hcp with
        rfl | ⟨policy, hpolicy, hmem⟩
      · exact .inl (Nat.le_zero.mp hle)
      · exact .inr ⟨policy, hpolicy, cp, hmem, hle⟩
  · rintro (h | ⟨policy, hpolicy, cp, hcp, hle⟩)
    · exact .inl h
    · exact .inr ⟨_, ⟨cp, (mem_allowedConflictPolicies_iff policies cp).mpr
        (.inr ⟨policy, hpolicy, hcp⟩), rfl⟩, hle⟩

theorem strongestGrant_congr {first second : List ReplicationPolicy}
    (hsame : ∀ policy, policy ∈ first ↔ policy ∈ second) :
    strongestGrant first = strongestGrant second := by
  refine eq_of_forall_le_iff fun bound => ?_
  simp only [le_strongestGrant_iff, hsame]

/-- The weaker of the two keys for a slot. -/
def Sight.consent (sight : Sight) (ref : SourceReference) (src : Unstructured) (slot : SlotKey) :
    Nat :=
  min (conflictPolicyStrength (requestedConflictPolicy src.annotations))
    (strongestGrant (sight.policies.items.filter fun policy =>
      policy.Permits (sight.source ref) (sight.target slot.cluster slot.ns)))

theorem strength_effective_eq_consent {sight : Sight} {rep : Replication} {sourceName : String}
    {slot : SlotInfo × Decision} (hmem : slot ∈ sight.slots rep sourceName) (src : Unstructured)
    (gvk : GroupVersionKind) :
    conflictPolicyStrength (effectiveConflictPolicy (requestedConflictPolicy src.annotations)
        (Attends.conflictPolicies sight.policies.items slot)) =
      sight.consent rep.spec.sourceRef src (slot.1.key gvk) := by
  obtain ⟨tgt, _, ns, _, rfl⟩ := (sight.mem_slots_iff rep _ slot).mp hmem
  rw [strength_effectiveConflictPolicy]
  unfold Attends.conflictPolicies Sight.consent
  rw [strength_resolveOptions]
  congr 1
  refine strongestGrant_congr fun policy => ?_
  rw [sight.policies.mem_policiesByName_matched_iff, List.mem_filter, decide_eq_true_iff]
  rfl

/-- Both keys have turned for a foreign object at the slot of an allowed
target. -/
structure Consented (config : EngineConfig) (sight : Sight)
    (rep : Replication) (fleet : Fleet) (slot : SlotKey)
    (object : Unstructured) : Prop where
  unmanaged : StringMap.get object.labels labelManagedBy ≠ managedByValue
  live : rep.deletionTimestamp = none
  keys : ∃ gvk source,
    config.kindGVKs.lookup rep.spec.sourceRef.kind = some gvk ∧
    fleet.hub.sources gvk ⟨rep.spec.sourceRef.ns, rep.spec.sourceRef.name⟩ =
      some source ∧
    slot ∈ allowedKeys gvk (sight.slots rep rep.spec.sourceRef.name) ∧
    (sight.consent rep.spec.sourceRef source.object slot =
        conflictPolicyStrength .overwrite ∨
      sight.consent rep.spec.sourceRef source.object slot =
          conflictPolicyStrength .adopt ∧
        config.renderer.sourceHash object = config.renderer.sourceHash
          (Hub.objectAt gvk ⟨rep.spec.sourceRef.ns,
            rep.spec.sourceRef.name⟩ source))

/-! ## Reads and writes in a run -/

def EngineCall.readSlot : EngineCall → Option SlotKey
  | .transportGet cluster gvk key => some (slotOf cluster gvk key)
  | _ => none

def lastRead (slot : SlotKey) (log : List (Exchange Fleet EngineCall.Reply)) :
    Option (Exchange Fleet EngineCall.Reply) :=
  log.reverse.find? fun exchange => exchange.request.readSlot = some slot

section

variable {exchange : Exchange Fleet EngineCall.Reply}

theorem lastRead_append_self {slot : SlotKey} (log : List (Exchange Fleet EngineCall.Reply))
    (hread : exchange.request.readSlot = some slot) :
    lastRead slot (log ++ [exchange]) = some exchange := by
  simp [lastRead, hread]

theorem lastRead_append_other {slot : SlotKey} (log : List (Exchange Fleet EngineCall.Reply))
    (hother : exchange.request.readSlot ≠ some slot) :
    lastRead slot (log ++ [exchange]) = lastRead slot log := by
  simp [lastRead, hother]

/-- The slot holds what the engine saw when it last looked. -/
def Undisturbed (slot : SlotKey) (log : List (Exchange Fleet EngineCall.Reply)) (now : Fleet) :
    Prop :=
  ∀ read, lastRead slot log = some read → read.before.spokes slot = now.spokes slot

end

section Logged

variable {nn : NamespacedName} {rep : Replication}

def Bound (nn : NamespacedName) (rep : Replication) (fleet : Fleet) : Prop :=
  ∀ now, fleet.hub.replications nn = some now → now.key = nn ∧ now.spec = rep.spec

variable {fleet after : Fleet} {fails : EngineCall → Prop} {call : EngineCall} {slot : SlotKey}
  {seen : Option Unstructured} {state : Logged Fleet EngineCall.Reply}
  {exchange : Exchange Fleet EngineCall.Reply} {consents : SlotKey → Unstructured → Prop}

theorem Bound.hub_eq (bound : Bound nn rep fleet) (hhub : after.hub = fleet.hub) :
    Bound nn rep after := by
  unfold Bound
  rw [hhub]
  exact bound

theorem Bound.setReplication {key : NamespacedName} {next : Option Replication}
    (bound : Bound nn rep fleet)
    (hnext : key = nn → ∀ new, next = some new → new.key = nn ∧ new.spec = rep.spec) :
    Bound nn rep { fleet with hub := fleet.hub.setReplication key next } := by
  intro now hnow
  dsimp only at hnow
  by_cases hkey : nn = key
  · rw [hkey, Hub.setReplication_self] at hnow
    exact hnext hkey.symm now hnow
  · rw [Hub.setReplication_of_ne _ _ hkey] at hnow
    exact bound now hnow

theorem Bound.calm {reply : call.Reply} (bound : Bound nn rep fleet) (calm : call.IsCalm)
    (answer : fleet.Answers fails call reply after) : Bound nn rep after := by
  cases Fleet.answers_effect answer with
  | hub hanswer =>
    cases hanswer.effect with
    | same => exact bound
    | @statusUpdated written cur stored hcur hstored =>
      refine bound.setReplication ?_
      rintro hkey new ⟨⟩
      have hbefore := (Hub.current_eq_some hcur).1
      rw [hkey] at hbefore
      rw [hstored]
      exact bound cur hbefore
    | _ => exact calm.elim
  | _ => exact bound.hub_eq rfl

theorem Bound.update {written : Replication} {reply : ApiResult Replication}
    (bound : Bound nn rep fleet) (hspec : written.key = nn → written.spec = rep.spec)
    (answer : fleet.Answers fails (.hub (.updateReplication written)) reply after) :
    Bound nn rep after := by
  obtain ⟨hub, hanswer, rfl⟩ := answer
  cases hanswer.effect with
  | same => exact bound
  | updated hcur hstored =>
    refine bound.setReplication fun hkey new hnew => ?_
    rw [Hub.keepUnlessReleased_eq_some hnew, hstored]
    exact ⟨hkey, hspec hkey⟩

theorem Bound.stored {written stored : Replication} (bound : Bound nn rep fleet)
    (hkey : written.key = nn)
    (answer : fleet.Answers fails (.hub (.updateReplicationStatus written)) (.ok stored) after) :
    stored.spec = rep.spec := by
  obtain ⟨hub, hanswer, rfl⟩ := answer
  obtain ⟨cur, hcur, heq⟩ := Option.map_eq_some_iff.mp hanswer
  obtain ⟨rfl, _⟩ := Prod.mk.inj heq
  have hbefore := (Hub.current_eq_some hcur).1
  rw [hkey] at hbefore
  exact (bound cur hbefore).2

def Respects (uid : String) (consents : SlotKey → Unstructured → Prop)
    (state : Logged Fleet EngineCall.Reply) (call : EngineCall) : Prop :=
  ∀ slot object, call.WritesAt slot → state.world.spokes slot = some object →
    StringMap.get object.labels labelSourceUID ≠ uid →
    Undisturbed slot state.log state.world → consents slot object

def Remembers (nn : NamespacedName) (rep : Replication) (slot : SlotKey)
    (seen : Option Unstructured) (state : Logged Fleet EngineCall.Reply) :
    Prop :=
  Bound nn rep state.world ∧ ∃ read, lastRead slot state.log = some read ∧
    read.before.spokes slot = seen

theorem Remembers.append {after : Logged Fleet EngineCall.Reply}
    (remembers : Remembers nn rep slot seen state) (bound : Bound nn rep after.world)
    (hlog : after.log = state.log ++ [exchange]) (hother : exchange.request.readSlot ≠ some slot) :
    Remembers nn rep slot seen after := by
  obtain ⟨_, read, hread, hseen⟩ := remembers
  refine ⟨bound, read, ?_, hseen⟩
  rw [hlog, lastRead_append_other _ hother]
  exact hread

theorem remembers_read {after : Logged Fleet EngineCall.Reply}
    {log : List (Exchange Fleet EngineCall.Reply)} (bound : Bound nn rep after.world)
    (hlog : after.log = log ++ [exchange]) (hread : exchange.request.readSlot = some slot)
    (hseen : exchange.before.spokes slot = seen) :
    Remembers nn rep slot seen after := by
  refine ⟨bound, exchange, ?_, hseen⟩
  rw [hlog]
  exact lastRead_append_self _ hread

theorem Remembers.respects {uid : String} (remembers : Remembers nn rep slot seen state)
    (hslot : ∀ other, call.WritesAt other → other = slot)
    (hmay : ∀ object, seen = some object → StringMap.get object.labels labelSourceUID ≠ uid →
        consents slot object) :
    Respects uid consents state call := by
  intro other object hwrites hobject hforeign hundisturbed
  obtain rfl := hslot other hwrites
  obtain ⟨_, read, hread, hseen⟩ := remembers
  refine hmay object ?_ hforeign
  rw [← hseen, hundisturbed read hread, hobject]

theorem respects_of_sparesSpokes {uid : String} (spares : call.SparesSpokes) :
    Respects uid consents state call := by
  intro slot object hwrites
  cases call with
  | transportApply cluster obj => exact spares.elim
  | transportDelete cluster gvk key => exact spares.elim
  | _ => exact hwrites.elim

theorem logged_attends (nn : NamespacedName) (rep : Replication) (uid : String)
    (consents : SlotKey → Unstructured → Prop) :
    Attends soloSemantics.logged (Respects uid consents)
      (fun state => Bound nn rep state.world) (Remembers nn rep)
      (fun slot object => StringMap.get object.labels labelSourceUID ≠ uid →
        consents slot object) uid where
  base_stable := by
    rintro state current bound ⟨change, _⟩
    have hcurrent : current.world =
        { state.world with spokes := current.world.spokes } := change
    exact bound.hub_eq (by rw [hcurrent])
  sees_stable := by
    rintro slot seen state current ⟨bound, hread⟩ ⟨change, hlog⟩
    have hcurrent : current.world =
        { state.world with spokes := current.world.spokes } := change
    refine ⟨bound.hub_eq (by rw [hcurrent]), ?_⟩
    rwa [hlog]
  sees_base := fun remembers => remembers.1
  calm := by
    intro state call bound hcalm
    refine ⟨respects_of_sparesSpokes hcalm.sparesSpokes, ?_⟩
    exact fun reply after answer => bound.calm hcalm answer.1
  emits := by
    rintro slot seen state signal reply after remembers ⟨answer, hlog⟩
    have hworld : after.world = state.world := answer
    exact remembers.append (remembers.1.hub_eq (by rw [hworld])) hlog
      (by simp [EngineCall.readSlot])
  finds := by
    rintro state cluster gvk key object after bound ⟨answer, hlog⟩
    exact remembers_read (bound.hub_eq (by rw [answer.2])) hlog rfl
      answer.1.2
  misses := by
    rintro state cluster gvk key err after bound ⟨answer, hlog⟩ hfound
    have hmissing : if err.isNotFound = true then
        (slotOf cluster gvk key).name ≠ "" ∧
          state.world.spokes (slotOf cluster gvk key) = none else _ :=
      answer.1
    rw [if_pos hfound] at hmissing
    exact remembers_read (bound.hub_eq (by rw [answer.2])) hlog rfl
      hmissing.2
  applies := by
    intro state cluster obj slot seen remembers hslot hmay _
    refine ⟨remembers.respects (fun other h => h.symm.trans hslot) hmay, ?_⟩
    rintro reply after ⟨answer, hlog⟩
    have hbound : Bound nn rep after.world := by
      obtain ⟨spokes, _, hafter⟩ := answer
      exact remembers.1.hub_eq (by rw [hafter])
    cases reply with
    | ok _ => exact hbound
    | error err =>
      exact remembers.append hbound hlog (by simp [EngineCall.readSlot])
  deletes := by
    intro state cluster gvk key slot object remembers hslot hmay
    refine ⟨remembers.respects (fun other h => h.symm.trans hslot) ?_, ?_⟩
    · rintro other ⟨⟩
      exact hmay
    · rintro reply after ⟨answer, hlog⟩
      have hbound : Bound nn rep after.world := by
        obtain ⟨spokes, _, hafter⟩ := answer
        exact remembers.1.hub_eq (by rw [hafter])
      exact remembers.append hbound hlog (by simp [EngineCall.readSlot])

end Logged

section Reconcile

variable {config : EngineConfig} {nn : NamespacedName} {sight : Sight}
  {rep : Replication} {fleet : Fleet}

variable {now : Replication} {semantics : Semantics Fleet EngineCall.Reply} {current : Fleet}
  {fails : EngineCall → Prop}

theorem Sight.Decides.consented {src object : Unstructured} {gvk : GroupVersionKind}
    {policies : List ReplicationPolicy} {slots : List (SlotInfo × Decision)}
    {outcome : RevocationOutcome} {slot : SlotInfo × Decision}
    (decides : sight.Decides config (Standing nn sight rep fleet) now src gvk
      policies slots outcome) (resembles : Resembles nn rep now)
    (live : rep.deletionTimestamp = none) (hmem : slot ∈ slots) (hallowed : slot.2.allowed = true)
    (takes : MayTakeOver config.renderer object src (config.renderer.sourceHash src)
      (Attends.conflictPolicies policies slot)) :
    Consented config sight rep fleet (slot.1.key gvk) object := by
  obtain ⟨seen, source, hseen, hstored, rfl⟩ := decides.source
  rw [resembles.spec] at hstored
  rw [hseen.sources] at hstored
  have hkind := decides.kind
  rw [resembles.spec] at hkind
  have hslots := decides.slots_eq
  rw [resembles.slots_eq] at hslots
  obtain ⟨hunmanaged, htakes⟩ := takes
  refine ⟨hunmanaged, live, gvk, source, hkind, hstored, ?_, ?_⟩
  · rw [← hslots, mem_allowedKeys_iff]
    exact ⟨slot, hmem, hallowed, rfl⟩
  · rw [decides.policies_eq] at htakes
    rw [hslots] at hmem
    have hconsent := strength_effective_eq_consent hmem source.object gvk
    rcases htakes with hoverwrite | ⟨hadopt, hhash⟩
    · left
      rw [← hconsent]
      exact congrArg conflictPolicyStrength hoverwrite
    · right
      refine ⟨?_, ?_⟩
      · rw [← hconsent]
        exact congrArg conflictPolicyStrength hadopt
      · rw [hhash, resembles.spec]

theorem Attends.carryOut_safe {World : Type} {semantics : Semantics World EngineCall.Reply}
    {guard : World → EngineCall → Prop} {base : World → Prop}
    {sees : SlotKey → Option Unstructured → World → Prop} {may : SlotKey → Unstructured → Prop}
    {world : World} {prepared : Prepared} {later : Fleet → Prop}
    (attends : Attends semantics guard base sees may rep.spec.sourceRef.uid)
    (hmeets : prepared.Meets config sight (Standing nn sight rep fleet) later
      nn (Resembles nn rep) current)
    (hstored : ∀ {before : World} {now stored : Replication} {inv after},
      Resembles nn rep now → base before → semantics.answers before (.hub (.updateReplicationStatus
          { now with status := { now.status with inventory := inv } }))
        (.ok stored) after →
      stored.spec.sourceRef.uid = rep.spec.sourceRef.uid)
    (hreleases : ∀ {before : World} {now : Replication}, Resembles nn rep now → base before →
        guard before (.hub (.updateReplication (released now))) ∧
          ∀ reply after, semantics.answers before
            (.hub (.updateReplication (released now))) reply after → base after)
    (hown : ∀ slot object, StringMap.get object.labels labelSourceUID =
      rep.spec.sourceRef.uid → may slot object)
    (hconsented : ∀ slot object, Consented config sight rep fleet slot object → may slot object)
    (holds : base world) :
    Safe semantics guard (carryOut config nn prepared) (fun _ => base)
      world := by
  cases prepared with
  | ended result => exact attends.done _ holds
  | deleting now =>
    obtain ⟨_, hresembles, _⟩ := hmeets
    have huid : now.spec.sourceRef.uid = rep.spec.sourceRef.uid := by
      rw [hresembles.spec]
    refine Attends.reconcileDeletion_safe config nn (huid ▸ attends) ?_ (hreleases hresembles) holds
    rw [huid]
    exact hown
  | simple now reason message =>
    refine (attends.calm_safe ((finishSimple_calls now reason message
      minute).weaken ?_ fun _ h => h) holds).weaken fun _ _ h => h.2
    rintro call (hpassive | hrecords)
    · exact hpassive.calm
    · exact hrecords.calm
  | fanOut now src gvk policies slots outcome =>
    obtain ⟨_, hresembles, hdecides, read, hread, hlive, _⟩ := hmeets
    have hlive : rep.deletionTimestamp = none :=
      hread.deletionTimestamp.symm.trans hlive
    have huid : src.uid = rep.spec.sourceRef.uid := by
      rw [hdecides.uid, hresembles.spec]
    refine Safe.seq (attends.passive_safe hdecides.signals holds) ?_
    rintro _ state ⟨_, hstate⟩
    refine Attends.converge_safe config nn (huid ▸ attends)
      hdecides.groupVersionKind hdecides.uid.symm hdecides.slot_name ?_ ?_ ?_
      outcome hstate
    · intro before inv stored after hbefore answer
      rw [hstored hresembles hbefore answer, huid]
    · intro slot hmem hallowed object htouch
      rcases htouch with hlabel | htakes
      · exact hown _ object (hlabel.trans huid)
      · exact hconsented _ object (hdecides.consented hresembles hlive hmem hallowed htakes)
    · exact fun slot _ object hlabel => hown slot object (hlabel.trans huid)

theorem Standing.bound (standing : Standing nn sight rep fleet current) :
    Bound nn rep current :=
  fun now hnow => ⟨(standing.stored now hnow).key, (standing.stored now hnow).spec⟩

theorem bound_stable (solitary : Solitary semantics fails) :
    Stable semantics (Bound nn rep) := by
  intro before current bound change
  exact bound.hub_eq (by rw [solitary.interferes change])

theorem prepare_spares (solitary : Solitary semantics fails)
    (shows : fleet.Shows sight rep.spec.sourceRef.ns) (key : rep.key = nn)
    (stored : fleet.hub.replications nn = some rep) :
    Safe semantics (fun _ call => call.SparesSpokes) (prepare config nn)
      (Prepared.Meets config sight (Standing nn sight rep fleet)
        (Bound nn rep) nn (Resembles nn rep)) fleet := by
  have hprepares : Prepares semantics (fun _ call => call.SparesSpokes) fails
      sight rep.spec.sourceRef.ns (Standing nn sight rep fleet)
      (Bound nn rep) nn (Resembles nn rep) :=
    Standing.prepares solitary (bound_stable solitary)
      (fun hpassive => hpassive.sparesSpokes) (fun _ _ => trivial)
      fun _ standing _ => ⟨trivial, standing.bound.hub_eq rfl⟩
  exact hprepares.prepare_safe config (Standing.refl shows key stored)

theorem Prepared.Meets.bound {prepared : Prepared}
    (hmeets : prepared.Meets config sight (Standing nn sight rep fleet)
      (Bound nn rep) nn (Resembles nn rep) current) : Bound nn rep current := by
  cases prepared with
  | ended result => exact hmeets.1.bound
  | deleting now => exact hmeets.1.bound
  | simple now reason message => exact hmeets.1.bound
  | fanOut now src gvk policies slots outcome => exact hmeets.1

theorem Resembles.stored_uid {stored : Replication} {inv : List InventoryEntry}
    {before after : Fleet} (resembles : Resembles nn rep now) (bound : Bound nn rep before)
    (answer : before.Answers fails (.hub (.updateReplicationStatus
      { now with status := { now.status with inventory := inv } }))
      (.ok stored) after) :
    stored.spec.sourceRef.uid = rep.spec.sourceRef.uid := by
  have hkey : ({ now with status :=
      { now.status with inventory := inv } } : Replication).key = nn :=
    resembles.key
  rw [bound.stored hkey answer]

theorem Resembles.released_bound {before after : Fleet} {reply : ApiResult Replication}
    (resembles : Resembles nn rep now) (bound : Bound nn rep before)
    (answer : before.Answers fails (.hub (.updateReplication (released now))) reply after) :
    Bound nn rep after := by
  have hspec : (released now).key = nn → (released now).spec = rep.spec :=
    fun _ => resembles.spec
  exact bound.update hspec answer

theorem reconcile_respects (shows : fleet.Shows sight rep.spec.sourceRef.ns) (key : rep.key = nn)
    (stored : fleet.hub.replications nn = some rep) :
    Safe soloSemantics.logged (Respects rep.spec.sourceRef.uid (Consented config sight rep fleet))
      (reconcile config nn) (fun _ _ => True) ⟨fleet, []⟩ := by
  have hprepare : Safe soloSemantics (fun _ call => call.SparesSpokes)
      (prepare config nn) (Prepared.Meets config sight
        (Standing nn sight rep fleet) (Bound nn rep) nn (Resembles nn rep))
      fleet := prepare_spares soloSemantics_solitary shows key stored
  have hattends := logged_attends nn rep rep.spec.sourceRef.uid (Consented config sight rep fleet)
  rw [reconcile_eq]
  refine Safe.seq (Safe.weaken_guard (Safe.logged hprepare) respects_of_sparesSpokes) ?_
  intro prepared state hmeets
  refine (hattends.carryOut_safe hmeets ?_ ?_ ?_ ?_ hmeets.bound).weaken fun _ _ _ => trivial
  · exact fun hresembles hbound answer =>
      hresembles.stored_uid hbound answer.1
  · exact fun hresembles hbound => ⟨respects_of_sparesSpokes trivial,
      fun reply after answer => hresembles.released_bound hbound answer.1⟩
  · exact fun slot object hown hforeign => (hforeign hown).elim
  · exact fun slot object hconsented _ => hconsented

/-- An object that exists at a slot the engine writes to, still is what the
engine read there and does not carry this source's UID is touched only with both
consents; in particular never while a Replication is deleted or its garbage is
collected. -/
theorem foreign_object_consented
    (shows : fleet.Shows sight rep.spec.sourceRef.ns)
    (key : rep.key = nn)
    (stored : fleet.hub.replications nn = some rep)
    (huid : rep.spec.sourceRef.uid ≠ "")
    {trace : List (Exchange Fleet EngineCall.Reply)} {final : Fleet}
    {rest : EngineProgram (ApiResult ReconcileOutcome)}
    (run : Run soloSemantics fleet (reconcile config nn) trace final rest)
    {earlier later : List (Exchange Fleet EngineCall.Reply)}
    {exchange : Exchange Fleet EngineCall.Reply}
    (split : trace = earlier ++ exchange :: later)
    {slot : SlotKey}
    (writes : exchange.request.WritesAt slot)
    (undisturbed : Undisturbed slot earlier exchange.before)
    {object : Unstructured}
    (present : exchange.before.spokes slot = some object)
    (foreign : object.labels.lookup labelSourceUID ≠ some rep.spec.sourceRef.uid) :
    Consented config sight rep fleet slot object := by
  have hforeign : StringMap.get object.labels labelSourceUID ≠
      rep.spec.sourceRef.uid := by
    unfold StringMap.get
    cases hlabel : object.labels.lookup labelSourceUID with
    | none => exact fun h => huid h.symm
    | some value =>
      rintro rfl
      exact foreign hlabel
  exact (reconcile_respects shows key stored).run_logged run earlier exchange
    later split slot object writes present hforeign undisturbed

end Reconcile

/-! ## A taken-over object -/

namespace Sample

def squatter : Unstructured :=
  ⟨configMapGVK, "app", "settings", "c41d", ∅, ∅, ∅, (∅ : FieldMap).insert ["data", "key"] "other"⟩

def overwriteSource : SourceObject :=
  ⟨{ source with
      annotations := source.annotations.insert keyConflictPolicy "Overwrite" }, 2, [], none⟩

def contested : Fleet :=
  { fleet with
    hub :=
      { hub with
        policies := overwritePolicies
        sources := fun gvk other =>
          if gvk = configMapGVK ∧ other = ⟨"team", "settings"⟩ then
            some overwriteSource
          else none }
    spokes := Function.update spokes slot (some squatter) }

def contestedTrace : List (Exchange Fleet EngineCall.Reply) :=
  (execute Fleet.handle (reconcile engine key) contested).trace

end Sample

open Sample

theorem foreign_object_consented_sample :
    Consented engine (stake overwritePolicies).sight replication contested slot squatter := by
  have hrun : Run soloSemantics contested
      (reconcile engine key) contestedTrace
      (execute Fleet.handle (reconcile engine key) contested).final
      (.done (execute Fleet.handle (reconcile engine key) contested).value) :=
    run_execute (execute_answered (fun world call =>
      Fleet.answers_handle _ world call) _ _)
  have hshows : contested.Shows (stake overwritePolicies).sight "team" :=
    ⟨rfl, rfl, (fleet_shows overwritePolicies).inventory⟩
  have hkey : replication.key = key := rfl
  -- The application is preceded by the read of the slot.
  have hwrites : ∃ index, ∃ hindex : index < contestedTrace.length,
      appliedSlot contestedTrace[index].request = some slot ∧
        contestedTrace[index].before.spokes slot = some squatter ∧
        ∀ read ∈ lastRead slot (contestedTrace.take index),
          read.before.spokes slot = contestedTrace[index].before.spokes slot :=
    ⟨12, by decide +kernel⟩
  obtain ⟨index, hindex, happlied, hobject, hread⟩ := hwrites
  obtain ⟨cluster, obj, hcall, hslot⟩ := appliedSlot_eq_some happlied
  have hwrites : contestedTrace[index].request.WritesAt
      slot := by
    rw [hcall]
    exact hslot
  have hsplit : contestedTrace = contestedTrace.take index ++
      contestedTrace[index] :: contestedTrace.drop (index + 1) := by
    rw [List.getElem_cons_drop hindex, List.take_append_drop]
  exact foreign_object_consented hshows hkey rfl (by decide) hrun hsplit
    hwrites hread hobject (by decide +kernel)

end K8sR8r
