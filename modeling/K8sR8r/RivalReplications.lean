import K8sR8r.ControlPlane
import K8sR8r.ForeignObjects

/-!
# Two Replications at one slot

Two sources may resolve to the same slot.  As long as the replica of the first
one carries the managed-by label, the engine refuses to take it over for the
second.  Other tooling rewrites that label, and an object that has lost it is
nobody's: with both keys turned for the second source it is overwritten,
although it still names the first one.
-/

namespace K8sR8r

open Interaction

/-- Any call may fail but the read of the source namespace's labels. -/
def EngineCall.MayFail : EngineCall → Prop
  | .hub (.getNamespaceLabels _) => False
  | _ => True

/-- Nobody else acts while a reconcile is under way. -/
def atomicSemantics : Semantics Fleet EngineCall.Reply where
  interfere := Eq
  answers := fun before => before.Answers EngineCall.MayFail
  interfere_refl := fun _ => rfl
  interfere_trans := Eq.trans

theorem atomicSemantics_solitary : Solitary atomicSemantics EngineCall.MayFail where
  interferes := by
    rintro before after rfl
    rfl
  lawful := fun answer => answer
  labelsRead := fun _ h => h

/-- The object is labelled for the source, whatever its UID. -/
def Labelled (uid : String) (object : Unstructured) : Prop :=
  object.labels.lookup labelSourceUID = some uid

def Steals (uid : String) (fleet : Fleet) (call : EngineCall) : Prop :=
  ∃ slot object, call.WritesAt slot ∧ fleet.spokes slot = some object ∧ Labelled uid object

section Spared

variable {config : EngineConfig} {nn : NamespacedName} {sight : Sight}
  {rep : Replication} {uid : String} {start fleet after : Fleet}

def Spared (config : EngineConfig) (sight : Sight) (rep : Replication) (start : Fleet)
    (uid : String) (spokes : Spokes) : Prop :=
  ∀ slot object, spokes slot = some object → Labelled uid object →
    ¬ Consented config sight rep start slot object

theorem Spared.update {spokes : Spokes} {slot : SlotKey} {result : Unstructured}
    (spared : Spared config sight rep start uid spokes) (hresult : ¬ Labelled uid result) :
    Spared config sight rep start uid (Function.update spokes slot (some result)) := by
  intro other object hobject hcarries
  by_cases hother : other = slot
  · subst hother
    rw [Function.update_self] at hobject
    cases hobject
    exact (hresult hcarries).elim
  · rw [Function.update_of_ne hother] at hobject
    exact spared other object hobject hcarries

theorem Spared.erase {spokes : Spokes} (slot : SlotKey)
    (spared : Spared config sight rep start uid spokes) :
    Spared config sight rep start uid (spokes.erase slot) := by
  intro other object hobject hcarries
  unfold Spokes.erase at hobject
  split_ifs at hobject
  exact spared other object hobject hcarries

theorem not_carries_applied {existing : Option Unstructured} {payload result : Unstructured}
    {own : String} (hdifferent : own ≠ uid)
    (hmarked : payload.labels.lookup labelSourceUID = some own ∨
      existing = none ∧ ∃ ns, payload = namespacePayload ns)
    (applied : ServerSideApply existing payload result) :
    ¬ Labelled uid result := by
  have hlabel := applied.labels labelSourceUID
  intro hcarries
  unfold Labelled at hcarries
  rcases hmarked with hmarked | ⟨rfl, ns, rfl⟩
  · rw [hmarked] at hlabel
    have hvalue : result.labels.lookup labelSourceUID = some own := hlabel
    rw [hcarries] at hvalue
    exact hdifferent (Option.some.inj hvalue).symm
  · rw [namespacePayload_plain, hcarries] at hlabel
    rcases hlabel with hlabel | hlabel
    · cases hlabel
    · simp at hlabel

/-- The slot holds what was read there, or nothing any more. -/
def Beholds (config : EngineConfig) (nn : NamespacedName) (sight : Sight) (rep : Replication)
    (start : Fleet) (uid : String) (slot : SlotKey) (seen : Option Unstructured) (fleet : Fleet) :
    Prop :=
  Bound nn rep fleet ∧ Spared config sight rep start uid fleet.spokes ∧
    (fleet.spokes slot = seen ∨ fleet.spokes slot = none) ∧
    ∀ object, seen = some object → Labelled uid object →
      ¬ Consented config sight rep start slot object

theorem Beholds.not_steals {slot : SlotKey} {seen : Option Unstructured} {call : EngineCall}
    (hdifferent : rep.spec.sourceRef.uid ≠ uid)
    (beholds : Beholds config nn sight rep start uid slot seen fleet)
    (hslot : ∀ other, call.WritesAt other → other = slot)
    (hmay : ∀ object, seen = some object →
      StringMap.get object.labels labelSourceUID = rep.spec.sourceRef.uid ∨
        Consented config sight rep start slot object) :
    ¬ Steals uid fleet call := by
  rintro ⟨other, object, hwrites, hobject, hcarries⟩
  obtain rfl := hslot other hwrites
  obtain ⟨_, _, hholds, hseen⟩ := beholds
  have hsame : seen = some object := by
    rcases hholds with hholds | hholds
    · rw [← hholds, hobject]
    · rw [hholds] at hobject
      cases hobject
  rcases hmay object hsame with hown | hconsented
  · unfold StringMap.get at hown
    rw [hcarries] at hown
    exact hdifferent hown.symm
  · exact hseen object hsame hcarries hconsented

theorem atomic_attends (hdifferent : rep.spec.sourceRef.uid ≠ uid) :
    Attends atomicSemantics (fun fleet call => ¬ Steals uid fleet call)
      (fun fleet => Bound nn rep fleet ∧ Spared config sight rep start uid fleet.spokes)
      (Beholds config nn sight rep start uid)
      (fun slot object =>
        StringMap.get object.labels labelSourceUID = rep.spec.sourceRef.uid ∨
          Consented config sight rep start slot object)
      rep.spec.sourceRef.uid where
  base_stable := by
    rintro fleet current holds rfl
    exact holds
  sees_stable := by
    rintro slot seen fleet current holds rfl
    exact holds
  sees_base := fun beholds => ⟨beholds.1, beholds.2.1⟩
  calm := by
    rintro fleet call ⟨bound, spared⟩ hcalm
    refine ⟨?_, ?_⟩
    · rintro ⟨slot, object, hwrites, _⟩
      cases call with
      | transportApply cluster obj => exact hcalm
      | transportDelete cluster gvk key => exact hcalm
      | _ => exact hwrites
    · intro reply after answer
      refine ⟨bound.calm hcalm answer, ?_⟩
      rw [Fleet.answers_sparesSpokes hcalm.sparesSpokes answer]
      exact spared
  emits := by
    rintro slot seen fleet signal reply after beholds answer
    have hafter : after = fleet := answer
    rw [hafter]
    exact beholds
  finds := by
    rintro fleet cluster gvk key object after ⟨bound, spared⟩ answer
    obtain ⟨⟨_, hobject⟩, rfl⟩ := answer
    refine ⟨bound, spared, .inl hobject, ?_⟩
    rintro other ⟨⟩
    exact spared _ object hobject
  misses := by
    rintro fleet cluster gvk key err after ⟨bound, spared⟩ answer hfound
    obtain ⟨hmissing, rfl⟩ := answer
    have hmissing : if err.isNotFound = true then
        (slotOf cluster gvk key).name ≠ "" ∧
          after.spokes (slotOf cluster gvk key) = none else _ := hmissing
    rw [if_pos hfound] at hmissing
    exact ⟨bound, spared, .inl hmissing.2, fun _ h => nomatch h⟩
  applies := by
    intro fleet cluster obj slot seen beholds hslot hmay hmarked
    refine ⟨beholds.not_steals hdifferent (fun other h => h.symm.trans hslot) hmay, ?_⟩
    obtain ⟨bound, spared, hholds, hseen⟩ := beholds
    intro reply after answer
    obtain ⟨spokes, hanswer, rfl⟩ := answer
    cases reply with
    | ok _ =>
      obtain ⟨_, result, hresult, rfl⟩ := hanswer
      refine ⟨bound.hub_eq rfl, spared.update ?_⟩
      refine not_carries_applied hdifferent (hmarked.imp id ?_) hresult
      rintro ⟨rfl, hnamespace⟩
      rw [hslot]
      exact ⟨hholds.elim id id, hnamespace⟩
    | error err =>
      obtain ⟨rfl, _⟩ := hanswer
      exact ⟨bound, spared, hholds, hseen⟩
  deletes := by
    intro fleet cluster gvk key slot object beholds hslot hmay
    refine ⟨beholds.not_steals hdifferent (fun other h => h.symm.trans hslot)
      (by rintro other ⟨⟩; exact hmay), ?_⟩
    obtain ⟨bound, spared, hholds, hseen⟩ := beholds
    intro reply after answer
    obtain ⟨spokes, hanswer, rfl⟩ := answer
    cases reply with
    | ok _ =>
      obtain ⟨_, rfl⟩ := hanswer
      refine ⟨bound.hub_eq rfl, spared.erase _, .inr ?_, hseen⟩
      simp [Spokes.erase, hslot]
    | error err =>
      obtain ⟨rfl, _⟩ := hanswer
      exact ⟨bound, spared, hholds, hseen⟩

end Spared

section Reconcile

variable {config : EngineConfig} {nn : NamespacedName} {sight : Sight}
  {rep : Replication} {uid : String} {fleet : Fleet}

theorem not_steals_of_sparesSpokes {call : EngineCall} (spares : call.SparesSpokes) :
    ¬ Steals uid fleet call := by
  rintro ⟨slot, object, hwrites, _⟩
  cases call with
  | transportApply cluster obj => exact spares
  | transportDelete cluster gvk key => exact spares
  | _ => exact hwrites

theorem reconcile_absent (absent : fleet.hub.replications nn = none) :
    Safe atomicSemantics (fun fleet call => ¬ Steals uid fleet call)
      (reconcile config nn) (fun _ _ => True) fleet := by
  have hstable : Stable atomicSemantics
      fun current : Fleet => current.hub.replications nn = none := by
    rintro before current holds rfl
    exact holds
  have hfree : Stable atomicSemantics fun _ : Fleet => True :=
    fun _ _ => trivial
  unfold reconcile
  rw [hub_bind]
  refine Safe.call_of_stable hstable absent (fun current _ => not_steals_of_sparesSpokes trivial) ?_
  rintro current reply after hcurrent ⟨hub, ⟨hreads, _⟩, _⟩
  cases reply with
  | ok rep =>
    have hrep : current.hub.replications nn = some rep := hreads
    rw [hcurrent] at hrep
    cases hrep
  | error err =>
    dsimp only
    split_ifs
    · have hcalls : ((do
          Program.perform (EngineCall.backoffForget nn)
          emitAll [.metric (.forgetReplicas nn)]
          pure (.ok ⟨0⟩) : EngineProgram (ApiResult ReconcileOutcome))).AllCalls
              EngineCall.SparesSpokes :=
        ⟨trivial, fun _ => ⟨trivial, fun _ => trivial⟩⟩
      exact (Safe.of_within hcalls hfree trivial
        (fun hspares _ => not_steals_of_sparesSpokes hspares)
        fun _ _ _ => trivial).weaken fun _ _ _ => trivial
    · exact fun _ _ => trivial

/-- One reconcile leaves the replicas of another source alone, if none of them
may be taken over when it starts. -/
theorem reconcile_spares (shows : fleet.Shows sight rep.spec.sourceRef.ns) (key : rep.key = nn)
    (stored : fleet.hub.replications nn = some rep) (hdifferent : rep.spec.sourceRef.uid ≠ uid)
    (spared : Spared config sight rep fleet uid fleet.spokes) :
    Safe atomicSemantics (fun fleet call => ¬ Steals uid fleet call)
      (reconcile config nn) (fun _ _ => True) fleet := by
  have hprepare : Safe atomicSemantics (fun current call => call.SparesSpokes ∧
        current.spokes = fleet.spokes) (prepare config nn)
      (fun prepared current => prepared.Meets config sight
        (Standing nn sight rep fleet) (Bound nn rep) nn (Resembles nn rep)
        current ∧ current.spokes = fleet.spokes) fleet := by
    refine (prepare_spares atomicSemantics_solitary shows key stored).keep ?_ ?_ rfl
    · rintro before current holds rfl
      exact holds
    · intro before call reply after hspares hspokes answer
      rw [Fleet.answers_sparesSpokes hspares answer, hspokes]
  have hattends : Attends atomicSemantics (fun fleet call => ¬ Steals uid fleet call)
      (fun current => Bound nn rep current ∧ Spared config sight rep fleet uid current.spokes)
      (Beholds config nn sight rep fleet uid) _ _ :=
    atomic_attends hdifferent
  rw [reconcile_eq]
  refine Safe.seq (Safe.weaken_guard hprepare
    fun hspares => not_steals_of_sparesSpokes hspares.1) ?_
  rintro prepared current ⟨hmeets, hspokes⟩
  refine (hattends.carryOut_safe hmeets ?_ ?_ (fun _ _ => .inl)
    (fun _ _ => .inr) ⟨hmeets.bound, ?_⟩).weaken fun _ _ _ => trivial
  · exact fun hresembles hbound answer =>
      hresembles.stored_uid hbound.1 answer
  · rintro before now hresembles ⟨hbound, hspared⟩
    refine ⟨not_steals_of_sparesSpokes trivial, ?_⟩
    intro reply after answer
    refine ⟨hresembles.released_bound hbound answer, ?_⟩
    obtain ⟨hub, _, rfl⟩ := answer
    exact hspared
  · rw [hspokes]
    exact spared

end Reconcile

/-! ## Runs of two Replications -/

structure Rivals where
  config : EngineConfig
  first : NamespacedName
  second : NamespacedName
  firstUID : String
  secondUID : String
  different : secondUID ≠ firstUID

namespace Rivals

variable {rivals : Rivals}

/-- Every replica of the first source carries the managed-by label, or the keys
have not turned for the second source at its slot. -/
def Marked (rivals : Rivals) (fleet : Fleet) : Prop :=
  ∀ rep sight, fleet.hub.replications rivals.second = some rep →
    fleet.Shows sight rep.spec.sourceRef.ns →
      Spared rivals.config sight rep fleet rivals.firstUID fleet.spokes

/-- The labels of one object change, but not the source UID. -/
def Relabels (before after : Fleet) : Prop :=
  ∃ slot object labels, before.spokes slot = some object ∧
    labels.lookup labelSourceUID = object.labels.lookup labelSourceUID ∧
    after = { before with
      spokes := Function.update before.spokes slot (some { object with labels := labels }) }

/-- The states of a run in which reconciles of the two Replications and edits of
labels alternate, with the calls of the second one's reconciles. -/
inductive Runs (rivals : Rivals) (start : Fleet) :
    List (Exchange Fleet EngineCall.Reply) → Fleet → Prop
  | start : Runs rivals start [] start
  | first {exchanges trace : List (Exchange Fleet EngineCall.Reply)}
      {state after : Fleet}
      {rest : EngineProgram (ApiResult ReconcileOutcome)} :
      Runs rivals start exchanges state →
      Run atomicSemantics state (reconcile rivals.config rivals.first) trace
        after rest →
      Runs rivals start exchanges after
  | second {exchanges trace : List (Exchange Fleet EngineCall.Reply)}
      {state after : Fleet}
      {rest : EngineProgram (ApiResult ReconcileOutcome)} :
      Runs rivals start exchanges state →
      (∀ rep, state.hub.replications rivals.second = some rep →
        rep.spec.sourceRef.uid = rivals.secondUID) →
      rivals.Marked state →
      Run atomicSemantics state (reconcile rivals.config rivals.second) trace
        after rest →
      Runs rivals start (exchanges ++ trace) after
  | relabel {exchanges : List (Exchange Fleet EngineCall.Reply)}
      {state after : Fleet} :
      Runs rivals start exchanges state → Relabels state after →
      Runs rivals start exchanges after

/-- What every reconcile keeps: stored objects sit under their own names, and
discovery has one answer for each cluster name. -/
structure Sound (fleet : Fleet) : Prop where
  consistent : fleet.hub.Consistent
  lookups : ∀ name first second, fleet.records.Finds name first →
    fleet.records.Finds name second → first = second

theorem Sound.shows {fleet : Fleet} (sound : Sound fleet) (ns : String) :
    fleet.Shows ⟨fleet.hub.policies, (fleet.hub.namespaces ns).getD ∅,
      fleet.records.lookupRecord⟩ ns where
  policies := rfl
  labels := rfl
  inventory := fun name _ hfound => sound.lookups name _ _ hfound
    (ClusterRecords.finds_lookupRecord _ _)

variable {rest : EngineProgram (ApiResult ReconcileOutcome)}
  {trace : List (Exchange Fleet EngineCall.Reply)}

theorem Sound.run {fleet after : Fleet} {program : EngineProgram (ApiResult ReconcileOutcome)}
    (sound : Sound fleet) (run : Run atomicSemantics fleet program trace after rest) :
    Sound after := by
  induction run with
  | refl => exact sound
  | interfere change _ ih =>
    obtain rfl := change
    exact ih sound
  | call answer _ ih =>
    refine ih ⟨?_, ?_⟩
    · rcases Fleet.Answers.hub_change answer with hsame | ⟨_, _, _, hanswer⟩
      · rw [hsame]
        exact sound.consistent
      · exact sound.consistent.answers hanswer
    · rw [Fleet.answers_records answer]
      exact sound.lookups

theorem Sound.second_spares {state after : Fleet} (sound : Sound state)
    (names : ∀ rep, state.hub.replications rivals.second = some rep →
      rep.spec.sourceRef.uid = rivals.secondUID) (marked : rivals.Marked state)
    (run : Run atomicSemantics state (reconcile rivals.config rivals.second) trace after rest) :
    ∀ exchange ∈ trace, ¬ Steals rivals.firstUID exchange.before exchange.request := by
  cases hstored : state.hub.replications rivals.second with
  | none => exact ((reconcile_absent hstored).run run).1
  | some rep =>
    have hshows := sound.shows rep.spec.sourceRef.ns
    have hdifferent : rep.spec.sourceRef.uid ≠ rivals.firstUID := by
      rw [names rep hstored]
      exact rivals.different
    exact ((reconcile_spares hshows (sound.consistent.key _ _ hstored)
      hstored hdifferent (marked rep _ hstored hshows)).run run).1

/-- In every run in which the second Replication is reconciled only while the
first one's replicas are marked or out of its reach, no reconcile of the second
writes to a slot that holds a replica of the first. -/
theorem replicas_not_stolen {start state : Fleet}
    {exchanges : List (Exchange Fleet EngineCall.Reply)}
    (sound : Sound start)
    (runs : rivals.Runs start exchanges state) :
    ∀ exchange ∈ exchanges, ¬ Steals rivals.firstUID exchange.before exchange.request := by
  suffices h : Sound state ∧ ∀ exchange ∈ exchanges,
      ¬ Steals rivals.firstUID exchange.before exchange.request from h.2
  induction runs with
  | start => exact ⟨sound, by simp⟩
  | first _ run ih => exact ⟨ih.1.run run, ih.2⟩
  | second _ names marked run ih =>
    refine ⟨ih.1.run run, ?_⟩
    intro exchange hmem
    rcases List.mem_append.mp hmem with hmem | hmem
    · exact ih.2 exchange hmem
    · exact ih.1.second_spares names marked run exchange hmem
  | relabel _ relabels ih =>
    obtain ⟨slot, object, labels, _, _, rfl⟩ := relabels
    exact ⟨⟨ih.1.consistent, ih.1.lookups⟩, ih.2⟩

end Rivals

/-! ## A stripped replica -/

namespace Sample

def rivals : Rivals where
  config := engine
  first := key
  second := ⟨"team", "configmap-other-77ab"⟩
  firstUID := sourceUID
  secondUID := "9d10"
  different := by decide

/-- Asks for the first one's slot, with consent to overwrite. -/
def rivalReplication : Replication :=
  { replication with
    name := "configmap-other-77ab"
    uid := "62bb"
    spec :=
      { sourceRef := ⟨"ConfigMap", "team", "other", "9d10"⟩
        origin := .annotated
        resolvedTargets := [⟨"east", ["app"], "settings"⟩] } }

def rivalSource : SourceObject :=
  ⟨{ source with
      name := "other"
      uid := "9d10"
      annotations := (∅ : StringMap).insert keyConflictPolicy "Overwrite" },
    2, [], none⟩

def markedReplica (managedBy : String) : Unstructured :=
  { squatter with
    labels := ((∅ : StringMap).insert labelSourceUID sourceUID).insert labelManagedBy managedBy }

def rivalFleet (managedBy : String) : Fleet :=
  { fleet with
    hub :=
      { hub with
        policies := overwritePolicies
        replications := fun other =>
          if other = key then some replication
          else if other = rivals.second then some rivalReplication
          else none
        sources := fun gvk other =>
          if gvk = configMapGVK ∧ other = ⟨"team", "other"⟩ then
            some rivalSource
          else hub.sources gvk other }
    spokes := Function.update spokes slot (some (markedReplica managedBy)) }

theorem rivalFleet_sound (managedBy : String) : Rivals.Sound (rivalFleet managedBy) where
  consistent :=
    { key := by
        intro other rep hrep
        simp only [rivalFleet] at hrep
        split_ifs at hrep with hfirst hsecond
        · cases hrep
          exact hfirst.symm
        · cases hrep
          exact hsecond.symm
      version := by
        intro other rep hrep
        simp only [rivalFleet] at hrep
        split_ifs at hrep
        · cases hrep
          exact (by decide : 3 < 10)
        · cases hrep
          exact (by decide : 3 < 10)
      sourceVersion := by
        intro gvk other found hfound
        simp only [rivalFleet] at hfound
        split_ifs at hfound
        · cases hfound
          exact (by decide : 2 < 10)
        · exact hub_consistent.sourceVersion gvk other found hfound }
  lookups := by
    intro name first second hfirst hsecond
    refine hfirst.unique ?_ hsecond
    intro key key' record record' hrecord hrecord' _
    rw [record_unique hrecord, record_unique hrecord']

theorem rivalFleet_names (managedBy : String) :
    ∀ rep, (rivalFleet managedBy).hub.replications rivals.second = some rep →
      rep.spec.sourceRef.uid = rivals.secondUID := by
  rintro rep ⟨⟩
  rfl

theorem rivalFleet_carries {managedBy : String} {other : SlotKey} {object : Unstructured}
    (hobject : (rivalFleet managedBy).spokes other = some object)
    (hcarries : Labelled sourceUID object) : object = markedReplica managedBy := by
  by_cases hother : other = slot
  · subst hother
    have hsame : some (markedReplica managedBy) = some object := hobject
    exact (Option.some.inj hsame).symm
  · have hplain : spokes other = some object := by
      rw [← hobject]
      exact (Function.update_of_ne hother _ _).symm
    unfold spokes at hplain
    split_ifs at hplain
    cases hplain
    have hnone : namespaceObject.labels.lookup labelSourceUID = none := rfl
    rw [Labelled, hnone] at hcarries
    cases hcarries

theorem rivalFleet_marked : rivals.Marked (rivalFleet managedByValue) := by
  intro rep sight _ _ other object hobject hcarries hconsented
  rw [rivalFleet_carries hobject hcarries] at hconsented
  exact hconsented.unmanaged (by decide +kernel)

end Sample

namespace Rivals

open Sample

theorem replicas_not_stolen_sample :
    (∃ exchange ∈
        (execute Fleet.handle (reconcile engine rivals.second)
          (rivalFleet managedByValue)).trace,
      exchange.request.readSlot = some slot) ∧
    ∀ exchange ∈
        (execute Fleet.handle (reconcile engine rivals.second)
          (rivalFleet managedByValue)).trace,
      ¬ Steals sourceUID exchange.before exchange.request := by
  refine ⟨by decide +kernel, ?_⟩
  have hruns := Runs.second .start (rivalFleet_names managedByValue)
    rivalFleet_marked (run_execute (execute_answered
      (fun world call => Fleet.answers_handle _ world call) _ _))
  exact replicas_not_stolen (rivalFleet_sound managedByValue) hruns

/-- A replica that has lost its managed-by label is overwritten for another
source. -/
theorem stripped_replica_stolen :
    Sound (rivalFleet managedByValue) ∧
    rivals.Runs (rivalFleet managedByValue) [] (rivalFleet "helm") ∧
    (∀ rep,
      (rivalFleet "helm").hub.replications rivals.second = some rep →
      rep.spec.sourceRef.uid = rivals.secondUID) ∧
    ∃ trace after rest,
      Run atomicSemantics (rivalFleet "helm") (reconcile rivals.config rivals.second) trace
        after rest ∧
      ∃ exchange ∈ trace, Steals rivals.firstUID exchange.before exchange.request := by
  refine ⟨rivalFleet_sound _, .relabel .start ?_,
    rivalFleet_names _, _, _, _, run_execute (execute_answered
      (fun world call => Fleet.answers_handle _ world call) _ _), ?_⟩
  · refine ⟨slot, markedReplica managedByValue,
      (markedReplica "helm").labels, rfl, by decide +kernel, ?_⟩
    unfold rivalFleet
    simp only [Function.update_idem]
    rfl
  · have hsteals : ∃ exchange ∈ (execute Fleet.handle (reconcile engine rivals.second)
        (rivalFleet "helm")).trace,
        appliedSlot exchange.request = some slot ∧
          ∃ object ∈ exchange.before.spokes slot, object.labels.lookup labelSourceUID =
              some sourceUID := by
      decide +kernel
    obtain ⟨exchange, hmem, happlied, object, hobject, hcarries⟩ := hsteals
    obtain ⟨cluster, obj, hcall, hslot⟩ :=
      appliedSlot_eq_some happlied
    refine ⟨exchange, hmem, slot, object, ?_, hobject, hcarries⟩
    rw [hcall]
    exact hslot

end Rivals

end K8sR8r
