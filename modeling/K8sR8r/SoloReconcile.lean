import K8sR8r.InteractionRuns
import K8sR8r.RevocationGrants
import K8sR8r.SnapshotWrites

/-!
# One reconcile by itself

The engine reconciles a Replication while nobody else changes the fleet; calls
may fail.  The reads then describe one fleet, the copy in hand is the stored
one all along, and the run of the whole reconcile is cut into its parts.
-/

namespace K8sR8r

open Interaction

/-- Only the engine's own calls change the fleet. -/
def Fleet.alone (fails : EngineCall → Prop) : Semantics Fleet EngineCall.Reply :=
  .undisturbed fun fleet call => fleet.Answers fails call

/-! ## What a reconcile does not touch -/

/-- Everything but the Replications and the engine's memory is as it was. -/
structure Fleet.Surrounds (before after : Fleet) : Prop where
  sources : after.hub.sources = before.hub.sources
  policies : after.hub.policies = before.hub.policies
  namespaces : after.hub.namespaces = before.hub.namespaces
  spokes : after.spokes = before.spokes
  records : after.records = before.records

namespace Fleet.Surrounds

variable {first second third : Fleet}

theorem refl (fleet : Fleet) : fleet.Surrounds fleet :=
  ⟨rfl, rfl, rfl, rfl, rfl⟩

theorem trans (head : first.Surrounds second) (tail : second.Surrounds third) :
    first.Surrounds third :=
  ⟨tail.sources.trans head.sources, tail.policies.trans head.policies,
    tail.namespaces.trans head.namespaces, tail.spokes.trans head.spokes,
    tail.records.trans head.records⟩

end Fleet.Surrounds

/-- The copy in hand after the finalizer has been looked after. -/
def Resumes (rep other : Replication) : Prop :=
  other = rep ∨ ∃ version, other = { finalized rep with resourceVersion := version }

namespace Resumes

variable {rep other : Replication}

theorem spec (resumes : Resumes rep other) : other.spec = rep.spec := by
  rcases resumes with rfl | ⟨version, rfl⟩
  · rfl
  · rfl

theorem status (resumes : Resumes rep other) : other.status = rep.status := by
  rcases resumes with rfl | ⟨version, rfl⟩
  · rfl
  · rfl

theorem key (resumes : Resumes rep other) : other.key = rep.key := by
  rcases resumes with rfl | ⟨version, rfl⟩
  · rfl
  · rfl

theorem deletionTimestamp (resumes : Resumes rep other) :
    other.deletionTimestamp = rep.deletionTimestamp := by
  rcases resumes with rfl | ⟨version, rfl⟩
  · rfl
  · rfl

end Resumes

section Writes

variable {fails : EngineCall → Prop} {fleet after : Fleet}
  {nn : NamespacedName} {rep stored : Replication}

theorem Fleet.Stores.current (stores : fleet.Stores nn rep) (hkey : rep.key = nn)
    {copy : Replication} (hcopy : copy.key = rep.key)
    (hversion : copy.resourceVersion = rep.resourceVersion) :
    fleet.hub.current copy = some rep := by
  have hstored : fleet.hub.replications nn = some rep := stores
  unfold Hub.current
  rw [hcopy, hkey, hstored]
  simp [hversion]

theorem Fleet.Stores.statusWritten (stores : fleet.Stores nn rep) (hkey : rep.key = nn)
    {status : ReplicationStatus}
    (answer : fleet.Answers fails (.hub (.updateReplicationStatus
      { rep with status := status })) (.ok stored) after) :
    after.Stores nn stored ∧ fleet.Surrounds after ∧ stored = { rep with
        resourceVersion := fleet.hub.nextVersion
        status := status } := by
  obtain ⟨hub, hanswer, rfl⟩ := answer
  have hcurrent : fleet.hub.current { rep with status := status } =
      some rep := stores.current hkey rfl rfl
  have haccepted : (fleet.hub.current { rep with status := status }).map _ =
      some (stored, hub) := hanswer
  rw [hcurrent] at haccepted
  obtain ⟨rfl, rfl⟩ := Prod.mk.inj (Option.some.inj haccepted)
  refine ⟨?_, ⟨rfl, rfl, rfl, rfl, rfl⟩, rfl⟩
  unfold Fleet.Stores
  rw [← hkey]
  exact Hub.setReplication_self _ _ _

theorem Fleet.Stores.finalizerWritten (stores : fleet.Stores nn rep) (hkey : rep.key = nn)
    (hlive : rep.deletionTimestamp = none)
    (answer : fleet.Answers fails (.hub (.updateReplication (finalized rep))) (.ok stored) after) :
    after.Stores nn stored ∧ fleet.Surrounds after ∧ Resumes rep stored := by
  obtain ⟨hub, hanswer, rfl⟩ := answer
  have hcurrent : fleet.hub.current (finalized rep) = some rep :=
    stores.current hkey rfl rfl
  have haccepted : (fleet.hub.current (finalized rep)).map _ = some (stored, hub) := hanswer
  rw [hcurrent] at haccepted
  obtain ⟨rfl, rfl⟩ := Prod.mk.inj (Option.some.inj haccepted)
  have hsame : (finalized rep).spec = rep.spec := rfl
  rw [if_pos hsame]
  refine ⟨?_, ⟨rfl, rfl, rfl, rfl, rfl⟩, .inr ⟨_, rfl⟩⟩
  unfold Fleet.Stores
  rw [← hkey]
  refine (Hub.setReplication_self _ _ _).trans ?_
  simp only [Hub.keepUnlessReleased, hlive]
  rfl

end Writes

/-! ## The slots of a Replication -/

def specSlots (sourceName : String) (resolved : List ResolvedTarget) : List SlotInfo :=
  resolved.flatMap fun tgt =>
    tgt.namespaces.map fun ns =>
      ⟨tgt.clusterName, ns, tgt.slotName sourceName⟩

structure LooksUp
    (records : ClusterRecords) (slots : List SlotInfo)
    (targets : List (SlotInfo × PolicyTarget)) : Prop where
  slots_eq : targets.map Prod.fst = slots
  found : ∀ target ∈ targets, ∃ found,
    records.Finds target.1.cluster found ∧
      target.2 = ⟨target.1.cluster,
        (found.map ClusterRecord.labels).getD ∅, target.1.ns⟩

theorem slot_name_of_specSlots {sourceName : String} {resolved : List ResolvedTarget}
    {slot : SlotInfo} (hmem : slot ∈ specSlots sourceName resolved) (hempty : slot.name = "") :
    sourceName = "" := by
  obtain ⟨tgt, _, hslot⟩ := List.mem_flatMap.mp hmem
  obtain ⟨ns, _, rfl⟩ := List.mem_map.mp hslot
  exact slotName_eq_empty hempty

theorem flattenTargets_looksUp {fails : EngineCall → Prop} (fleet : Fleet) (sourceName : String)
    (resolved : List ResolvedTarget) :
    Safe (Fleet.alone fails) unguarded (flattenTargets sourceName resolved)
      (fun targets current => current = fleet ∧
        LooksUp fleet.records (specSlots sourceName resolved) targets)
      fleet := by
  induction resolved with
  | nil => exact Safe.undisturbed_done ⟨rfl, rfl, by simp⟩
  | cons tgt rest ih =>
    unfold flattenTargets
    refine Safe.undisturbed_perform trivial ?_
    rintro found current ⟨hfound, rfl⟩
    refine Safe.seq ih ?_
    rintro more later ⟨rfl, hmore⟩
    refine Safe.undisturbed_done ⟨rfl, ?_, ?_⟩
    · rw [List.map_append, hmore.slots_eq]
      simp [flattenTarget, specSlots]
    · intro target hmem
      rcases List.mem_append.mp hmem with hmem | hmem
      · obtain ⟨ns, _, rfl⟩ := List.mem_map.mp hmem
        exact ⟨found, hfound, rfl⟩
      · exact hmore.found target hmem

/-! ## Preparing -/

/-- The fanout that the fleet calls for. -/
structure Decided
    (config : EngineConfig) (fleet : Fleet) (rep : Replication)
    (src : Unstructured) (gvk : GroupVersionKind)
    (policies : List ReplicationPolicy) (slots : List (SlotInfo × Decision))
    (outcome : RevocationOutcome) (labels : StringMap)
    (targets : List (SlotInfo × PolicyTarget))
    (prev : Option PolicyResult) : Prop where
  kind : config.kindGVKs.lookup rep.spec.sourceRef.kind = some gvk
  source : ∃ source, fleet.hub.sources gvk
      ⟨rep.spec.sourceRef.ns, rep.spec.sourceRef.name⟩ = some source ∧
    src = Hub.objectAt gvk
      ⟨rep.spec.sourceRef.ns, rep.spec.sourceRef.name⟩ source
  uid : src.uid = rep.spec.sourceRef.uid
  policies_eq : policies = fleet.hub.policies.items
  looksUp : LooksUp fleet.records
    (specSlots rep.spec.sourceRef.name rep.spec.resolvedTargets) targets
  slots_eq : slots = targets.map fun target =>
    (target.1, decideTarget
      ⟨rep.spec.sourceRef.kind, rep.spec.sourceRef.ns, labels⟩ target.2
      policies)
  outcome_eq : outcome = handleRevocations prev
    (evaluate ⟨⟨rep.spec.sourceRef.kind, rep.spec.sourceRef.ns, labels⟩,
      targets.map Prod.snd⟩ policies) policies
    ⟨rep.spec.sourceRef.kind, rep.spec.sourceRef.ns, labels⟩
    rep.status.inventory

namespace Decided

variable {config : EngineConfig} {fleet : Fleet} {rep : Replication}
  {src : Unstructured} {gvk : GroupVersionKind}
  {policies : List ReplicationPolicy} {slots : List (SlotInfo × Decision)}
  {outcome : RevocationOutcome} {labels : StringMap}
  {targets : List (SlotInfo × PolicyTarget)} {prev : Option PolicyResult}

variable (decided : Decided config fleet rep src gvk policies slots outcome labels targets prev)
include decided

theorem groupVersionKind : src.groupVersionKind = gvk := by
  obtain ⟨source, _, rfl⟩ := decided.source
  rfl

theorem name : src.name = rep.spec.sourceRef.name := by
  obtain ⟨source, _, rfl⟩ := decided.source
  rfl

theorem slots_fst :
    slots.map Prod.fst = specSlots rep.spec.sourceRef.name rep.spec.resolvedTargets := by
  rw [decided.slots_eq, ← decided.looksUp.slots_eq, List.map_map]
  rfl

theorem slot_name (slot : SlotInfo × Decision) (hmem : slot ∈ slots) (hempty : slot.1.name = "") :
    src.name = "" := by
  have hslot : slot.1 ∈ specSlots rep.spec.sourceRef.name rep.spec.resolvedTargets := by
    rw [← decided.slots_fst]
    exact List.mem_map_of_mem hmem
  rw [decided.name]
  exact slot_name_of_specSlots hslot hempty

theorem retained_of_allowed (hallowed : ∀ slot ∈ slots, slot.2.allowed = true) :
    outcome.retained = [] := by
  rw [List.eq_nil_iff_forall_not_mem]
  intro key hmem
  rw [decided.outcome_eq] at hmem
  obtain ⟨_, dec, hdec, _, hdenied⟩ := denied_of_mem_retained hmem
  rw [evaluate_decisions] at hdec
  obtain ⟨tgt, htgt, rfl⟩ := List.mem_map.mp hdec
  obtain ⟨target, htarget, rfl⟩ := List.mem_map.mp htgt
  have hslot : (target.1, decideTarget
      ⟨rep.spec.sourceRef.kind, rep.spec.sourceRef.ns, labels⟩ target.2
      policies) ∈ slots := by
    rw [decided.slots_eq]
    exact List.mem_map.mpr ⟨target, htarget, rfl⟩
  have htrue := hallowed _ hslot
  rw [hdenied] at htrue
  cases htrue

theorem anyRetained_of_allowed (hallowed : ∀ slot ∈ slots, slot.2.allowed = true) :
    outcome.anyRetained = false := by
  have hnone := decided.retained_of_allowed hallowed
  rw [decided.outcome_eq] at hnone ⊢
  exact anyRetained_of_retained_nil hnone

theorem permits_of_allowed {slot : SlotInfo × Decision} (hmem : slot ∈ slots)
    (hallowed : slot.2.allowed = true) :
    ∃ found,
      fleet.records.Finds slot.1.cluster found ∧
      ∃ policy ∈ fleet.hub.policies.items,
        policy.Permits ⟨rep.spec.sourceRef.kind, rep.spec.sourceRef.ns, labels⟩
          ⟨slot.1.cluster, (found.map ClusterRecord.labels).getD ∅, slot.1.ns⟩ := by
  rw [decided.slots_eq] at hmem
  obtain ⟨target, htarget, rfl⟩ := List.mem_map.mp hmem
  obtain ⟨found, hfound, htgt⟩ := decided.looksUp.found target htarget
  have hpermits := (decideTarget_allowed_iff _ _ _).mp hallowed
  rw [decided.policies_eq, htgt] at hpermits
  exact ⟨found, hfound, hpermits⟩

end Decided

def Fleet.LabelsSeen (fleet : Fleet) (fails : EngineCall → Prop) (ns : String)
    (labels : StringMap) : Prop :=
  labels = (fleet.hub.namespaces ns).getD ∅ ∨ fails (.hub (.getNamespaceLabels ns)) ∧ labels = ∅

/-- What the reads of a reconcile find, and the copy in hand. -/
def Prepared.Follows (config : EngineConfig) (fails : EngineCall → Prop) (fleet : Fleet)
    (nn : NamespacedName) (rep : Replication) : Prepared → Fleet → Prop
  | .ended result, current => ∀ out, result = .ok out →
      isNotAuthoritative rep = true ∧ current = fleet
  | .deleting other, current => other = rep ∧ current = fleet ∧
      rep.deletionTimestamp.isSome = true
  | .simple other reason _, current => fleet.Surrounds current ∧
      current.Stores nn other ∧ Resumes rep other ∧
      current.lastResults = fleet.lastResults ∧
      rep.deletionTimestamp = none ∧ isNotAuthoritative rep = false ∧
      reason ≠ reasonAllTargetsReady
  | .fanOut other src gvk policies slots outcome, current =>
    fleet.Surrounds current ∧ current.Stores nn other ∧
      Resumes rep other ∧ rep.deletionTimestamp = none ∧
      isNotAuthoritative rep = false ∧
      ∃ labels targets, fleet.LabelsSeen fails rep.spec.sourceRef.ns labels ∧
        Decided config fleet rep src gvk policies slots outcome labels
          targets (fleet.lastResults rep.uid) ∧
        current.lastResults = Function.update fleet.lastResults rep.uid (some (evaluate
            ⟨⟨rep.spec.sourceRef.kind, rep.spec.sourceRef.ns, labels⟩,
              targets.map Prod.snd⟩ policies))

section Preparing

variable {config : EngineConfig} {fails : EngineCall → Prop}
  {fleet current : Fleet} {nn : NamespacedName} {rep other : Replication}

theorem namespaceLabels_seen (ns : String) : Safe (Fleet.alone fails) unguarded (namespaceLabels ns)
      (fun labels current => current = fleet ∧ fleet.LabelsSeen fails ns labels) fleet := by
  unfold namespaceLabels
  refine Safe.undisturbed_perform trivial ?_
  rintro reply after ⟨hub, ⟨hreads, rfl⟩, rfl⟩
  cases reply with
  | ok labels =>
    refine Safe.undisturbed_done ⟨rfl, .inl ?_⟩
    have hstored : fleet.hub.namespaces ns = some labels := hreads
    rw [hstored]
    rfl
  | error err =>
    have hmissing : if err.isNotFound = true then
        fleet.hub.namespaces ns = none
      else fails (.hub (.getNamespaceLabels ns)) := hreads
    refine Safe.undisturbed_done ⟨rfl, ?_⟩
    split_ifs at hmissing
    · left
      rw [hmissing]
      rfl
    · exact .inr ⟨hmissing, rfl⟩

section

variable (surrounds : fleet.Surrounds current) (stores : current.Stores nn other)
  (resumes : Resumes rep other) (hmemory : current.lastResults = fleet.lastResults)
  (hlive : rep.deletionTimestamp = none) (hauthority : isNotAuthoritative rep = false)
include surrounds stores resumes hmemory hlive hauthority

theorem prepareSource_follows {gvk : GroupVersionKind} {src : Unstructured}
    (hkind : config.kindGVKs.lookup rep.spec.sourceRef.kind = some gvk)
    (hsource : ∃ source, fleet.hub.sources gvk
        ⟨rep.spec.sourceRef.ns, rep.spec.sourceRef.name⟩ = some source ∧
      src = Hub.objectAt gvk ⟨rep.spec.sourceRef.ns, rep.spec.sourceRef.name⟩ source)
    (huid : src.uid = rep.spec.sourceRef.uid) :
    Safe (Fleet.alone fails) unguarded (prepareSource other gvk src)
      (Prepared.Follows config fails fleet nn rep) current := by
  have hname : src.name = rep.spec.sourceRef.name := by
    obtain ⟨source, _, rfl⟩ := hsource
    rfl
  have hrepUID : other.uid = rep.uid := by
    rcases resumes with rfl | ⟨version, rfl⟩
    · rfl
    · rfl
  unfold prepareSource
  refine Safe.undisturbed_perform trivial ?_
  rintro reply after ⟨hub, ⟨hreads, rfl⟩, rfl⟩
  cases reply with
  | error err => exact Safe.undisturbed_done fun _ h => nomatch h
  | ok policies =>
    have hpolicies : policies = current.hub.policies :=
      (Option.some.inj hreads).symm
    subst hpolicies
    dsimp only
    rw [resumes.spec, resumes.status, hname, hrepUID]
    refine Safe.seq (namespaceLabels_seen _) ?_
    rintro labels middle ⟨rfl, hlabels⟩
    refine Safe.seq (flattenTargets_looksUp _ _ _) ?_
    rintro targets middle ⟨rfl, hlooksUp⟩
    refine Safe.undisturbed_perform trivial ?_
    rintro prev middle ⟨rfl, rfl⟩
    refine Safe.undisturbed_perform trivial ?_
    rintro _ after rfl
    refine Safe.undisturbed_done ⟨surrounds.trans ⟨rfl, rfl, rfl, rfl, rfl⟩, stores,
      resumes, hlive, hauthority, labels, targets, ?_, ?_, ?_⟩
    · unfold Fleet.LabelsSeen at hlabels ⊢
      rwa [surrounds.namespaces] at hlabels
    · rw [surrounds.records] at hlooksUp
      rw [surrounds.policies, hmemory]
      exact ⟨hkind, hsource, huid, rfl, hlooksUp, zip_decisions _ _ _, rfl⟩
    · rw [hmemory]

theorem prepareLive_follows :
    Safe (Fleet.alone fails) unguarded (prepareLive config other)
      (Prepared.Follows config fails fleet nn rep) current := by
  have hsimple : ∀ reason message, reason ≠ reasonAllTargetsReady →
      Safe (Fleet.alone fails) unguarded (.done (Prepared.simple other reason message))
        (Prepared.Follows config fails fleet nn rep) current :=
    fun reason message hreason => Safe.undisturbed_done ⟨surrounds, stores, resumes,
      hmemory, hlive, hauthority, hreason⟩
  unfold prepareLive
  dsimp only
  rw [resumes.spec]
  cases hkind : config.kindGVKs.lookup rep.spec.sourceRef.kind with
  | none => exact hsimple _ _ (by decide)
  | some gvk =>
    dsimp only
    refine Safe.undisturbed_perform trivial ?_
    rintro reply after ⟨hub, ⟨hreads, rfl⟩, rfl⟩
    cases reply with
    | error err =>
      dsimp only
      split_ifs
      · exact hsimple _ _ (by decide)
      · exact Safe.undisturbed_done fun _ h => nomatch h
    | ok src =>
      obtain ⟨source, hsource, rfl⟩ := Option.map_eq_some_iff.mp hreads
      dsimp only
      split_ifs with huid
      · exact hsimple _ _ (by decide)
      · rw [surrounds.sources] at hsource
        exact prepareSource_follows surrounds stores resumes hmemory
          hlive hauthority hkind ⟨source, hsource, rfl⟩
          (not_not.mp huid)

end

theorem prepare_follows (stores : fleet.Stores nn rep) (hkey : rep.key = nn) :
    Safe (Fleet.alone fails) unguarded (prepare config nn)
      (Prepared.Follows config fails fleet nn rep) fleet := by
  unfold prepare
  refine Safe.undisturbed_perform trivial ?_
  rintro reply after ⟨hub, ⟨hreads, rfl⟩, rfl⟩
  have hstored : fleet.hub.replications nn = some rep := stores
  cases reply with
  | error err =>
    have hmissing : if err.isNotFound = true then
        fleet.hub.replications nn = none else _ := hreads
    dsimp only
    split_ifs with hfound
    · rw [if_pos hfound, hstored] at hmissing
      cases hmissing
    · exact Safe.undisturbed_done fun _ h => nomatch h
  | ok read =>
    have hread : fleet.hub.replications nn = some read := hreads
    obtain rfl : rep = read := Option.some.inj (hstored.symm.trans hread)
    dsimp only
    split_ifs with hdeleted hauthority
    · exact Safe.undisturbed_done ⟨rfl, rfl, hdeleted⟩
    · exact Safe.undisturbed_done fun _ _ => ⟨hauthority, rfl⟩
    · have hlive : rep.deletionTimestamp = none := by simpa using hdeleted
      have hserved : isNotAuthoritative rep = false := by
        simpa using hauthority
      unfold ensureFinalizer
      split_ifs with hfinalizer
      · exact prepareLive_follows (.refl fleet) stores (.inl rfl) rfl hlive hserved
      · refine Safe.undisturbed_perform trivial ?_
        intro reply after answer
        cases reply with
        | error err => exact Safe.undisturbed_done fun _ h => nomatch h
        | ok stored =>
          have hmemory : after.lastResults = fleet.lastResults := by
            obtain ⟨hub, _, rfl⟩ := answer
            rfl
          obtain ⟨hafter, hsame, hresumes⟩ :=
            stores.finalizerWritten hkey hlive answer
          exact prepareLive_follows hsame hafter hresumes hmemory hlive hserved

end Preparing

/-! ## Writing the status -/

def Rewritten (rep : Replication) (status : ReplicationStatus) (stored : Replication) : Prop :=
  ∃ version, stored =
    { rep with resourceVersion := version, status := status }

section Writing

variable {fails : EngineCall → Prop} {fleet : Fleet} {nn : NamespacedName} {rep : Replication}

theorem updateStatus_rewrites (stores : fleet.Stores nn rep) (hkey : rep.key = nn)
    (status : ReplicationStatus) :
    Safe (Fleet.alone fails) unguarded
      (hub (.updateReplicationStatus { rep with status := status }))
      (fun result current => ∀ stored, result = .ok stored →
        current.Stores nn stored ∧ Rewritten rep status stored) fleet := by
  refine Safe.undisturbed_call trivial ?_
  intro reply after answer
  refine Safe.undisturbed_done ?_
  rintro stored rfl
  obtain ⟨hafter, _, hstored⟩ := stores.statusWritten hkey answer
  exact ⟨hafter, _, hstored⟩

theorem rewritten_self (rep : Replication) : Rewritten rep rep.status rep :=
  ⟨rep.resourceVersion, rfl⟩

theorem persistPlanned_rewrites (stores : fleet.Stores nn rep) (hkey : rep.key = nn)
    (inv : List InventoryEntry) :
    Safe (Fleet.alone fails) unguarded (persistPlanned rep inv)
      (fun result current => ∀ stored, result = .ok stored → current.Stores nn stored ∧
          Rewritten rep { rep.status with inventory := inv } stored)
      fleet := by
  unfold persistPlanned
  split_ifs with hsame
  · refine Safe.undisturbed_done ?_
    rintro stored ⟨⟩
    refine ⟨stores, ?_⟩
    rw [hsame]
    exact rewritten_self rep
  · exact updateStatus_rewrites stores hkey _

/-- The final comparison looks at `seen`; what it spares is the status of the hub. -/
def keptStatus (old seen next : ReplicationStatus) : ReplicationStatus :=
  if seen = next then old else next

theorem keptStatus_self (old next : ReplicationStatus) : keptStatus old old next = next := by
  unfold keptStatus
  split_ifs with hsame
  · exact hsame
  · rfl

theorem writeStatusIfChanged_rewrites (stores : fleet.Stores nn rep) (hkey : rep.key = nn)
    (seen next : ReplicationStatus) :
    Safe (Fleet.alone fails) unguarded (writeStatusIfChanged { rep with status := seen } next)
      (fun result current => ∀ out, result = .ok out → ∃ stored,
        current.Stores nn stored ∧ Rewritten rep (keptStatus rep.status seen next) stored)
      fleet := by
  unfold writeStatusIfChanged keptStatus
  split_ifs
  · exact Safe.undisturbed_done fun _ _ => ⟨rep, stores, rewritten_self rep⟩
  · refine (updateStatus_rewrites stores hkey next).weaken ?_
    exact fun _ _ h stored hstored => ⟨stored, h stored hstored⟩

variable {signals : List EngineSignal}

theorem emitAll_same :
    Safe (Fleet.alone fails) unguarded (emitAll signals)
      (fun _ current => current = fleet) fleet := by
  induction signals with
  | nil => exact Safe.undisturbed_done rfl
  | cons signal rest ih =>
    refine Safe.undisturbed_call trivial ?_
    rintro reply after rfl
    exact ih

theorem emitAll_alone {α : Type} {next : Unit → EngineProgram α} {post : α → Fleet → Prop}
    (safe : Safe (Fleet.alone fails) unguarded (next ()) post fleet) :
    Safe (Fleet.alone fails) unguarded (emitAll signals >>= next) post fleet := by
  refine Safe.seq emitAll_same ?_
  rintro _ current rfl
  exact safe

theorem finishFanOut_rewrites (config : EngineConfig) (stores : fleet.Stores nn rep)
    (hkey : rep.key = nn) (seen : ReplicationStatus) (srcHash : String)
    (states : List TargetState) (delays : List Nat) (inv : List InventoryEntry)
    (retained : Bool) :
    Safe (Fleet.alone fails) unguarded
      (finishFanOut config nn { rep with status := seen } srcHash states delays inv retained)
      (fun result current => ∀ out, result = .ok out → ∃ stored now,
        current.Stores nn stored ∧ Rewritten rep (keptStatus rep.status seen
          (buildStatus { rep with status := seen } srcHash states inv retained now)) stored)
      fleet := by
  unfold finishFanOut
  refine emitAll_alone ?_
  refine Safe.undisturbed_perform trivial ?_
  rintro now after rfl
  dsimp only
  refine Safe.seq (writeStatusIfChanged_rewrites stores hkey seen _) ?_
  intro result current hwritten
  cases result with
  | error err => exact Safe.undisturbed_done fun _ h => nomatch h
  | ok out =>
    obtain ⟨stored, hstored, hrewritten⟩ := hwritten out rfl
    exact emitAll_alone (Safe.undisturbed_done fun _ _ => ⟨stored, now, hstored, hrewritten⟩)

theorem finishSimple_rewrites (stores : fleet.Stores nn rep) (hkey : rep.key = nn)
    (reason message : String) (delay : Nat) :
    Safe (Fleet.alone fails) unguarded (finishSimple rep reason message delay)
      (fun result current => ∀ out, result = .ok out → ∃ stored now,
        current.Stores nn stored ∧ Rewritten rep (buildStatus rep rep.status.sourceHash
            [⟨"", "", "", false, false, reason, message⟩]
            rep.status.inventory false now) stored) fleet := by
  unfold finishSimple
  refine Safe.undisturbed_perform trivial ?_
  rintro now after rfl
  dsimp only
  refine Safe.seq (writeStatusIfChanged_rewrites stores hkey rep.status _) ?_
  intro result current hwritten
  cases result with
  | error err => exact Safe.undisturbed_done fun _ h => nomatch h
  | ok out =>
    obtain ⟨stored, hstored, hrewritten⟩ := hwritten out rfl
    rw [keptStatus_self] at hrewritten
    exact Safe.undisturbed_done fun _ _ => ⟨stored, now, hstored, hrewritten⟩

theorem sparesHub_stores {α : Type} {program : EngineProgram α}
    (spares : program.AllCalls EngineCall.SparesHub) (stores : fleet.Stores nn rep) :
    Safe (Fleet.alone fails) unguarded program (fun _ current => current.Stores nn rep) fleet := by
  refine (Safe.undisturbed_within (fun current => current.Stores nn rep) spares ?_
    stores).weaken fun _ _ h => h.2
  intro before call reply after hcall hstores answer
  unfold Fleet.Stores
  rw [Fleet.answers_sparesHub hcall answer]
  exact hstores

end Writing

/-! ## The stages of a fanout -/

/-- A completed fanout, cut at its two status writes and between them. -/
structure ConvergeStages
    (fails : EngineCall → Prop) (config : EngineConfig) (nn : NamespacedName)
    (rep : Replication) (src : Unstructured) (gvk : GroupVersionKind)
    (policies : List ReplicationPolicy) (slots : List (SlotInfo × Decision))
    (outcome : RevocationOutcome) (fleet : Fleet)
    (trace : List (Exchange Fleet EngineCall.Reply)) (final : Fleet) where
  copy : Replication
  stored : Replication
  planned : Fleet
  converged : Fleet
  collected : Fleet
  fan : FanOut
  gc : FanOut
  now : Nat
  planTrace : List (Exchange Fleet EngineCall.Reply)
  fanTrace : List (Exchange Fleet EngineCall.Reply)
  gcTrace : List (Exchange Fleet EngineCall.Reply)
  writeTrace : List (Exchange Fleet EngineCall.Reply)
  trace_eq : trace = planTrace ++ (fanTrace ++ (gcTrace ++ writeTrace))
  persists : Run (Fleet.alone fails) fleet
    (persistPlanned rep (planInventory gvk slots rep.status.inventory))
    planTrace planned (.done (.ok copy))
  copied : Rewritten rep { rep.status with
    inventory := planInventory gvk slots rep.status.inventory } copy
  loops : Loop (Fleet.alone fails)
    (fanOutSlot config nn src gvk policies outcome) planned
    ⟨[], [], planInventory gvk slots rep.status.inventory⟩ slots fanTrace
    converged fan
  collects : Run (Fleet.alone fails) converged
    (collectGarbage config nn copy.spec.sourceRef.uid
      (outcome.retained ++ allowedKeys gvk slots) fan.inv)
    gcTrace collected (.done gc)
  fits : Fits gc.inv (planInventory gvk slots rep.status.inventory)
  seen : ReplicationStatus
  seen_eq : seen = shareInventory
    (planInventory gvk slots rep.status.inventory ≠ rep.status.inventory)
    copy.status gc.inv
  writes : ∃ out, Run (Fleet.alone fails) collected
    (finishFanOut config nn { copy with status := seen } (config.renderer.sourceHash src)
      (fan.states ++ gc.states) (fan.delays ++ gc.delays) gc.inv
      outcome.anyRetained) writeTrace final (.done (.ok out))
  stores : final.Stores nn stored
  written : Rewritten copy (keptStatus copy.status seen
    (buildStatus copy (config.renderer.sourceHash src)
      (fan.states ++ gc.states) gc.inv outcome.anyRetained now)) stored

variable {fails : EngineCall → Prop} {trace : List (Exchange Fleet EngineCall.Reply)}
  {out : ReconcileOutcome}

theorem converge_stages {config : EngineConfig} {nn : NamespacedName} {rep : Replication}
    {src : Unstructured} {gvk : GroupVersionKind} {policies : List ReplicationPolicy}
    {slots : List (SlotInfo × Decision)} {outcome : RevocationOutcome} {fleet final : Fleet}
    (hkind : src.groupVersionKind = gvk)
    (hname : ∀ slot ∈ slots, slot.1.name = "" → src.name = "") (stores : fleet.Stores nn rep)
    (hkey : rep.key = nn)
    (run : Run (Fleet.alone fails) fleet
      (converge config nn rep src gvk policies slots outcome) trace final
      (.done (.ok out))) :
    Nonempty (ConvergeStages fails config nn rep src gvk policies slots
      outcome fleet trace final) := by
  unfold converge at run
  obtain ⟨first, second, planned, result, rfl, hplan, hrest⟩ := run.split
  have hplanned := (persistPlanned_rewrites stores hkey _).run_done hplan
  cases result with
  | error err => exact nomatch (Run.of_done hrest).2.1
  | ok copy =>
    obtain ⟨hcopy, version, hrewritten⟩ := hplanned copy rfl
    have hcopyKey : copy.key = nn := by
      rw [hrewritten]
      exact hkey
    obtain ⟨fanned, rest, middle, fan, rfl, hfan, hrest⟩ := hrest.split
    obtain ⟨collected, written, last, gc, rfl, hgc, hfinish⟩ :=
      hrest.split
    have hmiddle := (sparesHub_stores (fanOut_sparesHub config nn hkind
      policies outcome hname _) hcopy).run_done hfan
    have hlast := (sparesHub_stores (collectGarbage_sparesHub config nn _ _ _) hmiddle).run_done hgc
    obtain ⟨stored, now, hstored, hwritten⟩ :=
      (finishFanOut_rewrites config hlast hcopyKey _ _ _ _ _ _).run_done hfinish out rfl
    rw [buildStatus_shareInventory] at hwritten
    have hfits := (hgc.value_of_within (collectGarbage_fits config nn _ _
      (hfan.value_of_within (fanOut_fits config nn src policies outcome slots _)).1)).1
    exact ⟨copy, stored, planned, middle, last, fan, gc, now, first, fanned,
      collected, written, rfl, hplan, ⟨version, hrewritten⟩, hfan.loop, hgc,
      hfits, _, rfl, ⟨out, hfinish⟩, hstored, hwritten⟩

namespace ConvergeStages

variable {config : EngineConfig} {nn : NamespacedName} {rep : Replication}
  {src : Unstructured} {gvk : GroupVersionKind} {policies : List ReplicationPolicy}
  {slots : List (SlotInfo × Decision)} {outcome : RevocationOutcome} {fleet final : Fleet}

/-- Whether or not the last write was spared, the inventory is all that may
differ from the status of the fanout. -/
theorem shows (stages : ConvergeStages fails config nn rep src gvk policies slots outcome
      fleet trace final) :
    ∃ inv, Rewritten stages.copy (buildStatus stages.copy (config.renderer.sourceHash src)
      (stages.fan.states ++ stages.gc.states) inv outcome.anyRetained stages.now)
      stages.stored := by
  have hwritten := stages.written
  unfold keptStatus at hwritten
  split_ifs at hwritten with hsame
  · refine ⟨stages.copy.status.inventory, ?_⟩
    rw [stages.seen_eq] at hsame
    rw [← eq_buildStatus_of_shared hsame]
    exact hwritten
  · exact ⟨stages.gc.inv, hwritten⟩

theorem recorded_iff (stages : ConvergeStages fails config nn rep src gvk policies slots outcome
      fleet trace final) (key : SlotKey) :
    Recorded stages.stored.status.inventory key ↔ Recorded stages.gc.inv key := by
  obtain ⟨version, hcopied⟩ := stages.copied
  obtain ⟨version', hwritten⟩ := stages.written
  rw [hwritten]
  unfold keptStatus
  dsimp only
  split_ifs with hsame
  · have hshared := congrArg ReplicationStatus.inventory hsame
    rw [stages.seen_eq] at hshared
    refine (Fits.recorded_of_shared ?_ hshared).symm
    rw [hcopied]
    exact stages.fits
  · rfl

end ConvergeStages

/-- A completed reconcile that got as far as the fanout. -/
structure FannedOut
    (fails : EngineCall → Prop) (config : EngineConfig) (nn : NamespacedName)
    (rep : Replication) (fleet : Fleet)
    (trace : List (Exchange Fleet EngineCall.Reply)) (final : Fleet) where
  other : Replication
  src : Unstructured
  gvk : GroupVersionKind
  policies : List ReplicationPolicy
  slots : List (SlotInfo × Decision)
  outcome : RevocationOutcome
  labels : StringMap
  targets : List (SlotInfo × PolicyTarget)
  prepared : Fleet
  start : List (Exchange Fleet EngineCall.Reply)
  rest : List (Exchange Fleet EngineCall.Reply)
  trace_eq : trace = start ++ rest
  surrounds : fleet.Surrounds prepared
  resumes : Resumes rep other
  seen : fleet.LabelsSeen fails rep.spec.sourceRef.ns labels
  decided : Decided config fleet rep src gvk policies slots outcome labels
    targets (fleet.lastResults rep.uid)
  stages : ConvergeStages fails config nn other src gvk policies slots outcome
    prepared rest final

/-- A completed reconcile of a Replication that is to be served. -/
theorem reconcile_cases {config : EngineConfig} {nn : NamespacedName} {rep : Replication}
    {fleet final : Fleet} (stores : fleet.Stores nn rep) (hkey : rep.key = nn)
    (hlive : rep.deletionTimestamp = none) (hauthority : isNotAuthoritative rep = false)
    (run : Run (Fleet.alone fails) fleet (reconcile config nn) trace final (.done (.ok out))) :
    (∃ other reason message stored now, Resumes rep other ∧ final.Stores nn stored ∧ Rewritten other
        (buildStatus other other.status.sourceHash [⟨"", "", "", false, false, reason, message⟩]
          other.status.inventory false now) stored) ∨
      Nonempty (FannedOut fails config nn rep fleet trace final) := by
  rw [reconcile_eq] at run
  obtain ⟨first, second, middle, prepared, rfl, hprepare, hcarry⟩ :=
    run.split
  have hfollows := (prepare_follows stores hkey).run_done hprepare
  cases prepared with
  | ended result =>
    obtain ⟨_, hdone, _⟩ := Run.of_done hcarry
    obtain rfl := Program.done.inj hdone
    rw [(hfollows out rfl).1] at hauthority
    cases hauthority
  | deleting other =>
    obtain ⟨_, _, hdeleting⟩ := hfollows
    rw [hlive] at hdeleting
    cases hdeleting
  | simple other reason message =>
    obtain ⟨_, hother, hresumes, _⟩ := hfollows
    obtain ⟨stored, now, hstored, hwritten⟩ :=
      (finishSimple_rewrites hother (hresumes.key.trans hkey) reason
        message minute).run_done hcarry out rfl
    exact .inl ⟨other, reason, message, stored, now, hresumes, hstored, hwritten⟩
  | fanOut other src gvk policies slots outcome =>
    obtain ⟨hsurrounds, hother, hresumes, _, _, labels, targets, hseen, hdecided, _⟩ := hfollows
    obtain ⟨signals, rest, point, _, rfl, hsignals, hconverge⟩ :=
      hcarry.split
    obtain rfl : point = middle := emitAll_same.run_done hsignals
    obtain ⟨stages⟩ := converge_stages hdecided.groupVersionKind
      hdecided.slot_name hother (hresumes.key.trans hkey) hconverge
    exact .inr ⟨other, src, gvk, policies, slots, outcome, labels, targets,
      point, first ++ signals, rest, by simp, hsurrounds, hresumes, hseen,
      hdecided, stages⟩

end K8sR8r
