import K8sR8r.SilentDrops

/-!
# A source that was created again

The Replication belongs to a source by name, its replicas belong to one
incarnation of the source by UID.  After the source was created again the
replicas of the earlier incarnation are foreign to the engine, and an entry
survives only while the engine has a reason to leave it alone or the right to
take its object over.
-/

namespace K8sR8r

open Interaction

theorem Spokes.HoldReplica.carries {spokes : Spokes} {renderer : Renderer} {src : Unstructured}
    {key : SlotKey} (holds : spokes.HoldReplica renderer src key) :
    spokes.Carries key src.uid := by
  obtain ⟨obj, hobj, hmanaged, _⟩ := holds
  simp only [isManagedReplica, Bool.and_eq_true, decide_eq_true_eq] at hmanaged
  exact ⟨obj, hobj, hmanaged.2⟩

/-! ## Reasons to leave an entry alone -/

def Unlisted (config : EngineConfig) (key : SlotKey) : Prop :=
  ∀ gvk ∈ config.kindGVKs.map Prod.snd, ¬ (gvk.kind = key.kind ∧ gvk.group = key.group)

/-- Collection cannot address the slot, and its cluster is not gone. -/
def Unaddressed (config : EngineConfig) (fleet : Fleet) (key : SlotKey) :
    Prop :=
  Unlisted config key ∧ fleet.Discovers key.cluster

def Prepared.Keeps (config : EngineConfig) (fleet : Fleet) (key : SlotKey) : Prepared → Prop
  | .deleting rep => finalizerName ∉ rep.finalizers ∨
      Unaddressed config fleet key
  | .fanOut _ src gvk policies slots outcome =>
    if key ∈ allowedKeys gvk slots then
      ∀ obj, fleet.spokes key = some obj →
        ∃ slot ∈ slots, Accepts config src gvk policies key obj slot
    else key ∈ outcome.retained ∨ Unaddressed config fleet key
  | _ => True

/-- A reconcile that starts here keeps the entry of the slot. -/
def Fleet.Keeps (fleet : Fleet) (config : EngineConfig) (nn : NamespacedName) (key : SlotKey) :
    Prop :=
  ∀ trace middle prepared, Run (Fleet.alone fun _ => False) fleet (prepare config nn) trace middle
      (.done prepared) → prepared.Keeps config fleet key

theorem gvkForEntry_of_unlisted {config : EngineConfig} {entry : InventoryEntry}
    (unlisted : Unlisted config (keyForEntry entry)) :
    gvkForEntry config entry = none := by
  unfold gvkForEntry
  rw [List.find?_eq_none]
  intro gvk hmem
  simpa [keyForEntry] using unlisted gvk hmem

section Keeping

variable {fails : EngineCall → Prop} {config : EngineConfig}
  {nn : NamespacedName} {rep : Replication} {key : SlotKey}
  {fleet final : Fleet} {trace : List (Exchange Fleet EngineCall.Reply)}

theorem collectGarbage_unaddressed {sourceUID : String} {keep : List SlotKey}
    {inv : List InventoryEntry} {gc : FanOut} (namespaced : config.Namespaced)
    (unaddressed : Unaddressed config fleet key) (recorded : Recorded inv key)
    (run : Run (Fleet.alone fails) fleet (collectGarbage config nn sourceUID keep inv) trace final
      (.done gc)) :
    final.spokes key = fleet.spokes key ∧ Recorded gc.inv key := by
  obtain ⟨unlisted, discovers⟩ := unaddressed
  unfold collectGarbage at run
  obtain ⟨first, rest, point, plan, rfl, hplan, hrest⟩ := run.split
  obtain ⟨hpoint, hreleased⟩ := (planGC_releases keep inv).run_done hplan
  obtain ⟨second, third, later, left, rfl, hrelease, hcollect⟩ := hrest.split
  have hlater : later.spokes = fleet.spokes := by
    rw [← hpoint]
    refine run_sparesSpokes ((releaseEntries_within _ _).weaken ?_ fun _ _ => trivial) hrelease
    rintro call ⟨entry, _, rfl⟩
    trivial
  have hleft : Recorded left key := by
    refine ((hrelease.value_of_within
      (releaseEntries_within plan.release inv)).1 key).mpr ⟨recorded, ?_⟩
    rintro entry hmem rfl
    exact hreleased entry hmem discovers
  refine hcollect.loop.invariant (fun gc current =>
    current.spokes key = fleet.spokes key ∧ Recorded gc.inv key)
    (fun _ => @alone_stable _ _) ?_ ⟨by rw [hlater], hleft⟩
  rintro before after gc next entry segment _ run ⟨hspokes, hrecorded⟩
  by_cases hkey : keyForEntry entry = key
  · subst hkey
    unfold collectEntry at run
    rw [gvkForEntry_of_unlisted unlisted] at run
    obtain ⟨_, hnext, hsame⟩ := run.of_done
    obtain rfl := Program.done.inj hnext
    obtain rfl : before = after := hsame
    exact ⟨hspokes, hrecorded⟩
  · obtain ⟨hsame, hiff⟩ :=
      (collectEntry_elsewhere namespaced hkey).run_done run
    exact ⟨hsame.trans hspokes, hiff.mpr hrecorded⟩

theorem reconcileDeletion_keeps {result : ApiResult ReconcileOutcome}
    (namespaced : config.Namespaced) (stores : fleet.Stores nn rep)
    (recorded : Recorded rep.status.inventory key)
    (keeps : finalizerName ∉ rep.finalizers ∨ Unaddressed config fleet key)
    (run : Run (Fleet.alone fails) fleet (reconcileDeletion config nn rep)
      trace final (.done result)) :
    final.spokes key = fleet.spokes key ∧ final.StillRecords nn key := by
  have hrecords := stores.stillRecords recorded
  unfold reconcileDeletion at run
  split_ifs at run with hfinalizer
  · obtain ⟨_, _, hsame⟩ := run.of_done
    obtain rfl : fleet = final := hsame
    exact ⟨rfl, hrecords⟩
  · have hheld : finalizerName ∈ rep.finalizers := by
      simpa using hfinalizer
    obtain ⟨first, second, middle, gc, rfl, hcollect, hfinish⟩ := run.split
    obtain ⟨hspokes, hrecorded⟩ := collectGarbage_unaddressed namespaced
      (keeps.resolve_left (not_not.mpr hheld)) recorded hcollect
    have hmiddle := (sparesHub_stillRecords (collectGarbage_sparesHub config
      nn _ _ _) hrecords).run_done hcollect
    have hcalm : final.spokes = middle.spokes := by
      refine run_sparesSpokes ((finishDeletion_calls config nn rep gc).weaken
        ?_ fun _ h => h) hfinish
      rintro call (hcalm | rfl)
      · exact hcalm.sparesSpokes
      · trivial
    rw [hcalm]
    exact ⟨hspokes, (finishDeletion_stillRecords gc hmiddle).run_done hfinish (.inl hrecorded)⟩

variable {gvk : GroupVersionKind} {policies : List ReplicationPolicy}
  {slots : List (SlotInfo × Decision)} {outcome : RevocationOutcome}

theorem ConvergeStages.spokes_unallowed {src : Unstructured}
    (stages : ConvergeStages fails config nn rep src gvk policies slots outcome fleet trace final)
    (hkind : src.groupVersionKind = gvk) (hcore : ¬ (gvk.group = "" ∧ gvk.kind = "Namespace"))
    (hname : ∀ slot ∈ slots, slot.1.name = "" → src.name = "") (hkey : key.isNamespace = false)
    (hdenied : key ∉ allowedKeys gvk slots) :
    stages.converged.spokes key = fleet.spokes key := by
  rw [← stages.spokes_planned]
  refine stages.loops.invariant (fun _ current => current.spokes key = stages.planned.spokes key)
    (fun _ => @alone_stable _ _) ?_ rfl
  intro before after fan next slot segment hmem run hbefore
  refine ((fanOutSlot_elsewhere hkind (hname slot hmem) ?_ hcore hkey).run_done run).1.trans hbefore
  rintro ⟨hallowed, hslot⟩
  exact hdenied ((mem_allowedKeys_iff _ _ _).mpr ⟨slot, hmem, hallowed, hslot⟩)

theorem ConvergeStages.keeps {src : Unstructured} {obj : Unstructured}
    (stages : ConvergeStages fails config nn rep src gvk policies slots outcome fleet trace final)
    (namespaced : config.Namespaced) (hkind : src.groupVersionKind = gvk)
    (hgvk : gvk ∈ config.kindGVKs.map Prod.snd)
    (hname : ∀ slot ∈ slots, slot.1.name = "" → src.name = "") (placed : fleet.spokes.WellPlaced)
    (reachable : Reachable fails key.cluster) (hnamed : key.name ≠ "")
    (hkey : key.isNamespace = false) (recorded : Recorded rep.status.inventory key)
    (hobj : fleet.spokes key = some obj)
    (keeps : (Prepared.fanOut rep src gvk policies slots outcome).Keeps config fleet key) :
    (final.spokes key = some obj ∨ final.spokes.Carries key src.uid) ∧
      final.StillRecords nn key := by
  unfold Prepared.Keeps at keeps
  dsimp only at keeps
  split_ifs at keeps with hallowed
  · have hfate := stages.present namespaced hkind hgvk hname placed reachable hnamed hallowed hobj
    rw [if_pos (keeps obj hobj)] at hfate
    exact ⟨.inr hfate.1.carries, hfate.2⟩
  · have hfan := stages.recorded_fan hkind hname recorded hallowed
    have hspokes := (stages.spokes_unallowed hkind (namespaced gvk hgvk)
      hname hkey hallowed).trans hobj
    rcases keeps with hretained | ⟨unlisted, discovers⟩
    · obtain ⟨hfinal, hiff⟩ := stages.kept namespaced (List.mem_append_left _ hretained)
      exact ⟨.inl (hfinal.trans hspokes), hiff.mpr hfan⟩
    · have hknown : stages.converged.Discovers key.cluster := by
        unfold Fleet.Discovers
        rwa [stages.records_converged]
      obtain ⟨hcollected, hgc⟩ := collectGarbage_unaddressed namespaced
        ⟨unlisted, hknown⟩ hfan stages.collects
      rw [stages.spokes_final, stages.stillRecords_iff]
      exact ⟨.inl (hcollected.trans hspokes), hgc⟩

theorem prepare_sparesSpokes (config : EngineConfig) (nn : NamespacedName) :
    (prepare config nn).AllCalls EngineCall.SparesSpokes := by
  refine (prepare_calls config nn).weaken ?_ fun _ h => h
  rintro call (hreading | rfl | rfl | ⟨rep, rfl⟩)
  · exact hreading.sparesSpokes
  · trivial
  · trivial
  · trivial

/-- One reconcile that keeps the slot: the entry stays, and the object stays as
it is or is taken over. -/
theorem reconcile_keeps {out : ReconcileOutcome} {obj : Unstructured}
    (namespaced : config.Namespaced) (placed : fleet.spokes.WellPlaced) (hnamed : key.name ≠ "")
    (hkey : key.isNamespace = false) (stores : fleet.Stores nn rep) (hrep : rep.key = nn)
    (recorded : Recorded rep.status.inventory key) (hobj : fleet.spokes key = some obj)
    (keeps : fleet.Keeps config nn key)
    (run : Run (Fleet.alone fun _ => False) fleet (reconcile config nn) trace
      final (.done (.ok out))) :
    (final.spokes key = some obj ∨ final.spokes.Carries key rep.spec.sourceRef.uid) ∧
      final.StillRecords nn key := by
  rw [reconcile_eq] at run
  obtain ⟨first, second, middle, prepared, rfl, hprepare, hcarry⟩ := run.split
  have hkeeps := keeps first middle prepared hprepare
  have hfollows := (prepare_follows stores hrep).run_done hprepare
  have hrecords :=
    (prepare_stillRecords stores hrep recorded).run_done hprepare
  have hspokes : middle.spokes key = some obj := by
    rw [run_sparesSpokes (prepare_sparesSpokes config nn) hprepare, hobj]
  cases prepared with
  | ended ending =>
    obtain ⟨_, _, hsame⟩ := Run.of_done hcarry
    obtain rfl : middle = final := hsame
    exact ⟨.inl hspokes, hrecords⟩
  | deleting other =>
    obtain ⟨rfl, rfl, _⟩ := hfollows
    obtain ⟨hfinal, hkept⟩ := reconcileDeletion_keeps namespaced stores recorded hkeeps hcarry
    exact ⟨.inl (hfinal.trans hspokes), hkept⟩
  | simple other reason message =>
    obtain ⟨_, _, hresumes, _⟩ := hfollows
    have hcalls := finishSimple_calls other reason message minute
    have hother : Recorded other.status.inventory key := by
      rwa [hresumes.status]
    refine ⟨.inl ?_, (recordsInventory_stillRecords hcalls hother hrecords).run_done hcarry⟩
    rw [run_sparesSpokes (hcalls.weaken ?_ fun _ h => h) hcarry, hspokes]
    rintro call (hpassive | hwrites)
    · exact hpassive.sparesSpokes
    · exact hwrites.calm.sparesSpokes
  | fanOut other src gvk policies slots outcome =>
    obtain ⟨hsurrounds, hother, hresumes, _, _, labels, targets, _, hdecided, _⟩ := hfollows
    obtain ⟨signals, rest, point, _, rfl, hsignals, hconverge⟩ :=
      hcarry.split
    obtain rfl : point = middle := emitAll_same.run_done hsignals
    obtain ⟨stages⟩ := converge_stages hdecided.groupVersionKind
      hdecided.slot_name hother (hresumes.key.trans hrep) hconverge
    rw [← hdecided.uid]
    refine stages.keeps namespaced hdecided.groupVersionKind
      (mem_kindGVKs_of_lookup hdecided.kind) hdecided.slot_name
      (by rwa [hsurrounds.spokes]) (fun _ _ h => h) hnamed hkey
      (by rwa [hresumes.status]) hspokes ?_
    unfold Prepared.Keeps Unaddressed Fleet.Discovers at hkeeps ⊢
    rwa [hsurrounds.spokes, hsurrounds.records]

end Keeping

/-! ## The spec -/

theorem alone_operates (fails : EngineCall → Prop) : Operates (Fleet.alone fails) Fleet.hub where
  interferes := by
    rintro before after rfl consistent
    exact ⟨.refl _, consistent⟩
  moves := by
    intro before call reply after answer consistent
    by_cases hspares : call.SparesHub
    · rw [Fleet.answers_sparesHub hspares answer]
      exact ⟨.refl _, consistent⟩
    · cases call with
      | hub call =>
        obtain ⟨hub, hanswer, rfl⟩ := answer
        exact ⟨consistent.newer_of_answers hanswer, consistent.answers hanswer⟩
      | _ => exact (hspares trivial).elim
  answers := by
    rintro before call reply after ⟨hub, hanswer, rfl⟩
    exact ⟨_, hanswer⟩

def Fleet.Refers (fleet : Fleet) (nn : NamespacedName) (uid : String) :
    Prop :=
  ∀ rep, fleet.Stores nn rep → rep.spec.sourceRef.uid = uid

section

variable {fleet : Fleet} {nn : NamespacedName} {uid : String} {fails : EngineCall → Prop}

theorem Fleet.Refers.hub_eq {after : Fleet} (refers : fleet.Refers nn uid)
    (hhub : after.hub = fleet.hub) :
    after.Refers nn uid := by
  unfold Fleet.Refers Fleet.Stores
  rw [hhub]
  exact refers

theorem Fleet.Refers.setReplication {key : NamespacedName} {cur : Replication}
    {next : Option Replication} (refers : fleet.Refers nn uid)
    (hcur : fleet.hub.replications key = some cur)
    (hnext : ∀ stored, next = some stored → stored.spec.sourceRef.uid = cur.spec.sourceRef.uid) :
    Fleet.Refers { fleet with hub := fleet.hub.setReplication key next } nn
      uid := by
  intro rep hrep
  have hstored : (fleet.hub.setReplication key next).replications nn = some rep := hrep
  by_cases hkey : nn = key
  · subst hkey
    rw [Hub.setReplication_self] at hstored
    rw [hnext rep hstored]
    exact refers cur hcur
  · rw [Hub.setReplication_of_ne _ _ hkey] at hstored
    exact refers rep hstored

theorem Fleet.Refers.answers {after : Fleet} {call : EngineCall} {reply : call.Reply}
    (refers : fleet.Refers nn uid) (snapshot : call.FromSnapshot fleet.hub)
    (answer : fleet.Answers fails call reply after) :
    after.Refers nn uid := by
  rcases snapshot.rewrites answer with hsame | ⟨key, cur, next, hcur, hhub, hnext⟩
  · exact refers.hub_eq hsame
  · refine (refers.setReplication hcur fun new hnew => ?_).hub_eq hhub
    exact congrArg (·.sourceRef.uid) (hnext new hnew).2

theorem reconcile_refers {config : EngineConfig} (consistent : fleet.hub.Consistent)
    (refers : fleet.Refers nn uid) :
    Safe (Fleet.alone fails) unguarded (reconcile config nn)
      (fun _ current => current.hub.Consistent ∧ current.Refers nn uid)
      fleet := by
  have hsafe := (alone_operates fails).reconcile_safe config nn consistent
  exact (hsafe.keep (alone_stable fun current => current.Refers nn uid)
    (fun hguard hrefers answer => hrefers.answers hguard answer)
    refers).weaken_guard fun _ => trivial

/-! ## Later reconciles -/

/-- The states a fleet passes through while the object in the slot still
carries the earlier UID.  The engine reconciles without errors wherever that is
admitted; in between everything may change but the entry, the object, unless
it is deleted, and the UID that the Replication refers to. -/
inductive Succession
    (config : EngineConfig) (nn : NamespacedName) (key : SlotKey)
    (earlier later : String) (admits : Fleet → Prop) (start : Fleet) :
    Fleet → Prop where
  | start : Succession config nn key earlier later admits start start
  | reconcile {fleet final : Fleet}
      {trace : List (Exchange Fleet EngineCall.Reply)} {out : ReconcileOutcome}
      (reached : Succession config nn key earlier later admits start fleet)
      (carries : fleet.spokes.Carries key earlier) (admitted : admits fleet)
      (run : Run (Fleet.alone fun _ => False) fleet (reconcile config nn)
        trace final (.done (.ok out))) :
      Succession config nn key earlier later admits start final
  | others {fleet after : Fleet}
      (reached : Succession config nn key earlier later admits start fleet)
      (carries : fleet.spokes.Carries key earlier)
      (consistent : after.hub.Consistent)
      (placed : after.spokes.WellPlaced) (refers : after.Refers nn later)
      (entry : after.StillRecords nn key ↔ fleet.StillRecords nn key)
      (object : after.spokes key = fleet.spokes key ∨
        after.spokes key = none) :
      Succession config nn key earlier later admits start after

/-- The Replication refers to the later incarnation and records the slot, whose
object is the replica of the earlier one unless it was deleted or relabelled. -/
structure Fleet.Inherits
    (fleet : Fleet) (nn : NamespacedName) (key : SlotKey)
    (earlier later : String) : Prop where
  consistent : fleet.hub.Consistent
  placed : fleet.spokes.WellPlaced
  refers : fleet.Refers nn later
  records : fleet.StillRecords nn key
  object : fleet.spokes.Carries key earlier ∨ fleet.spokes key = none ∨
    fleet.spokes.Carries key later

/-- Whatever reconciles follow, if each of them has a reason to keep the slot,
then the entry stays at least until its object is deleted or relabelled. -/
theorem inherited_entry_kept {config : EngineConfig} {nn : NamespacedName} {key : SlotKey}
    {earlier later : String} {start fleet : Fleet}
    (namespaced : config.Namespaced)
    (hnamed : key.name ≠ "")
    (hkey : key.isNamespace = false)
    (inherits : start.Inherits nn key earlier later)
    (reached : Succession config nn key earlier later (fun fleet => fleet.Keeps config nn key)
      start fleet) :
    fleet.Inherits nn key earlier later := by
  induction reached with
  | start => exact inherits
  | @reconcile fleet final trace out _ carries keeps run ih =>
    obtain ⟨consistent, refers⟩ :=
      (reconcile_refers ih.consistent ih.refers).run_done run
    obtain ⟨rep, hstored, hrecorded⟩ := ih.records
    obtain ⟨obj, hobj, huid⟩ := carries
    obtain ⟨hobject, hrecords⟩ := reconcile_keeps namespaced ih.placed
      hnamed hkey hstored (ih.consistent.key nn rep hstored) hrecorded hobj
      keeps run
    refine ⟨consistent, run_wellPlaced run ih.placed, refers, hrecords, ?_⟩
    rcases hobject with hsame | hrelabelled
    · exact .inl ⟨obj, hsame, huid⟩
    · rw [ih.refers rep hstored] at hrelabelled
      exact .inr (.inr hrelabelled)
  | others _ carries consistent placed refers entry object ih =>
    refine ⟨consistent, placed, refers, entry.mpr ih.records, ?_⟩
    rcases object with hsame | hgone
    · unfold Spokes.Carries
      rw [hsame]
      exact .inl carries
    · exact .inr (.inl hgone)

theorem requestRun_keeps {α : Type} {fails : RequestCall → Prop} {final : Fleet}
    {program : RequestProgram α} {value : α} {trace : List (Exchange Fleet RequestCall.Reply)}
    (consistent : fleet.hub.Consistent)
    (run : Run (Fleet.aloneRequest fails) fleet program trace final (.done value)) :
    final.spokes = fleet.spokes ∧ final.hub.Consistent := by
  have hsafe : Safe (Fleet.aloneRequest fails) unguarded program (fun _ current => True ∧
        (current.spokes = fleet.spokes ∧ current.hub.Consistent)) fleet := by
    refine Safe.undisturbed_within (fun current : Fleet =>
      current.spokes = fleet.spokes ∧ current.hub.Consistent)
      (Program.within_true program) ?_ ⟨rfl, consistent⟩
    rintro before call reply after _ ⟨hspokes, hbefore⟩ answer
    obtain ⟨hsame, hhub⟩ := Fleet.AnswersRequest.hub_only answer
    refine ⟨?_, ?_⟩
    · rw [hsame]
      exact hspokes
    · rcases hhub with hhub | ⟨_, _, _, hanswer⟩
      · rwa [hhub]
      · exact hbefore.answers hanswer
  exact (hsafe.run_done run).2

end

namespace Sample

/-- The new incarnation of the source, with the replica of the old one. -/
def recreatedWith (policies : PolicyList) (src obj : Unstructured) : Fleet :=
  { applied obj with
    hub := { hub with
      policies := policies
      replications := fun other =>
        if other = key then some appliedReplication else none
      sources := fun gvk other =>
        if gvk = configMapGVK ∧ other = sourceKey then
          some ⟨{ src with uid := "9d41" }, 2, [], none⟩
        else none } }

variable {policies : PolicyList} {src obj : Unstructured}

theorem recreatedWith_consistent : (recreatedWith policies src obj).hub.Consistent where
  key := by
    intro other rep hrep
    simp only [recreatedWith] at hrep
    split_ifs at hrep with hkey
    cases hrep
    exact hkey.symm
  version := by
    intro other rep hrep
    simp only [recreatedWith] at hrep
    split_ifs at hrep
    cases hrep
    exact (by decide : 3 < 10)
  sourceVersion := by
    intro gvk other source hsource
    simp only [recreatedWith] at hsource
    split_ifs at hsource
    cases hsource
    exact (by decide : 2 < 10)

theorem carries_of_any {spokes : Spokes} {uid : String} (hany : (spokes slot).any (fun obj =>
      StringMap.get obj.labels labelSourceUID = uid) = true) :
    spokes.Carries slot uid := by
  obtain ⟨obj, hobj, huid⟩ := (Option.any_eq_true _ _).mp hany
  exact ⟨obj, hobj, of_decide_eq_true huid⟩

theorem soloRequest_inherits
    (hrefers : ∀ rep ∈ (soloRequest (recreatedWith policies src obj)).final.hub.replications key,
      rep.spec.sourceRef.uid = "9d41")
    (hrecords : ∃ rep ∈ (soloRequest (recreatedWith policies src obj)).final.hub.replications key,
      Recorded rep.status.inventory slot)
    (hcarries : (soloRequest (recreatedWith policies src obj)).final.spokes.Carries slot "7e3c") :
    (soloRequest (recreatedWith policies src obj)).final.Inherits key slot "7e3c" "9d41" := by
  obtain ⟨hspokes, hconsistent⟩ :=
    requestRun_keeps recreatedWith_consistent (run_soloRequest (recreatedWith policies src obj))
  have hplaced : (recreatedWith policies src obj).spokes.WellPlaced := applied_wellPlaced _
  refine ⟨hconsistent, ?_, hrefers, hrecords, .inl hcarries⟩
  rwa [← hspokes] at hplaced

def recreated : Fleet :=
  recreatedWith hub.policies source (replicaOf source)

def inherited : Fleet :=
  (soloRequest recreated).final

theorem inherited_carries : inherited.spokes.Carries slot "7e3c" :=
  carries_of_any (by decide +kernel)

theorem inherited_inherits : inherited.Inherits key slot "7e3c" "9d41" :=
  soloRequest_inherits (by decide +kernel) (by decide +kernel) inherited_carries

def insistent : Unstructured :=
  { source with annotations := source.annotations.insert keyConflictPolicy "Overwrite" }

/-- The replica after somebody took the managed-by label off. -/
def unmarked : Unstructured :=
  { replicaOf source with labels := (replicaOf source).labels.erase labelManagedBy }

def unclaimed : Fleet :=
  (soloRequest (recreatedWith overwritePolicies insistent unmarked)).final

theorem decideTarget_overwritePolicies (labels clusterLabels : StringMap) :
    (decideTarget ⟨"ConfigMap", "team", labels⟩ ⟨"east", clusterLabels, "app"⟩
        overwritePolicies.items).allowed = true ∧
      (decideTarget ⟨"ConfigMap", "team", labels⟩ ⟨"east", clusterLabels, "app"⟩
        overwritePolicies.items).matchedPolicies = ["team-to-app"] :=
  ⟨rfl, rfl⟩

theorem unclaimed_keeps : unclaimed.Keeps engine key slot := by
  intro trace middle prepared run
  have hrep : ∃ rep ∈ unclaimed.hub.replications key, rep.key = key ∧
      rep.deletionTimestamp = none ∧
      rep.spec.sourceRef = ⟨"ConfigMap", "team", "settings", "9d41"⟩ ∧
      rep.spec.resolvedTargets = [⟨"east", ["app"], ""⟩] := by
    decide +kernel
  obtain ⟨rep, hstored, hkey, hlive, hsource, htargets⟩ := hrep
  have hfollows := (prepare_follows hstored hkey).run_done run
  cases prepared with
  | ended result => trivial
  | simple other reason message => trivial
  | deleting other =>
    obtain ⟨_, _, hdeleted⟩ := hfollows
    rw [hlive] at hdeleted
    cases hdeleted
  | fanOut other src gvk policies slots outcome =>
    obtain ⟨_, _, _, _, _, labels, targets, hlabels, hdecided, _⟩ := hfollows
    have hgvk := hdecided.kind
    obtain ⟨object, hobject, rfl⟩ := hdecided.source
    have hlooksUp := hdecided.looksUp
    rw [hsource] at hgvk hobject hlooksUp
    rw [htargets] at hlooksUp
    obtain rfl : configMapGVK = gvk := Option.some.inj hgvk
    obtain ⟨target, rfl, hslot⟩ := List.map_eq_singleton_iff.mp hlooksUp.slots_eq
    obtain ⟨found, _, htarget⟩ := hlooksUp.found target List.mem_cons_self
    obtain ⟨info, asked⟩ := target
    have hpolicies : policies = overwritePolicies.items := by
      rw [hdecided.policies_eq]
      decide +kernel
    have hslots := hdecided.slots_eq
    obtain rfl : info = ⟨"east", "app", "settings"⟩ := hslot
    obtain rfl : asked = ⟨"east", _, "app"⟩ := htarget
    rw [hsource, hpolicies, List.map_singleton] at hslots
    have htaken : ∀ object ∈ unclaimed.hub.sources configMapGVK sourceKey,
        ∀ obj ∈ unclaimed.spokes slot,
          ¬ Refuses engine (Hub.objectAt configMapGVK sourceKey object) obj
            (resolveOptions (policiesByName overwritePolicies.items
              ["team-to-app"])).allowedConflictPolicies := by
      decide +kernel
    obtain ⟨hallowed, hmatched⟩ := decideTarget_overwritePolicies labels
      ((found.map ClusterRecord.labels).getD ∅)
    have hlisted : slot ∈ allowedKeys configMapGVK slots := by
      rw [hslots, mem_allowedKeys_iff]
      exact ⟨_, List.mem_singleton_self _, hallowed, rfl⟩
    simp only [Prepared.Keeps, if_pos hlisted]
    rw [hpolicies, hslots, hsource]
    intro obj hobj
    refine ⟨_, List.mem_singleton_self _, hallowed, rfl, ?_⟩
    unfold slotOptions
    rw [hmatched]
    exact htaken object hobject obj hobj

end Sample

open Sample

/-- An unmarked replica of the old incarnation is taken over, and its entry
stays. -/
theorem inherited_entry_kept_sample :
    (soloReconcile unclaimed).value = .ok ⟨600⟩ ∧
    (soloReconcile unclaimed).final.spokes.Carries slot "9d41" ∧
    (soloReconcile unclaimed).final.Inherits key slot "7e3c" "9d41" := by
  have hvalue : (soloReconcile unclaimed).value = .ok ⟨600⟩ := by decide +kernel
  have hrun := run_soloReconcile unclaimed
  rw [hvalue] at hrun
  have hcarries : unclaimed.spokes.Carries slot "7e3c" :=
    carries_of_any (by decide +kernel)
  have hinherits : unclaimed.Inherits key slot "7e3c" "9d41" :=
    soloRequest_inherits (by decide +kernel) (by decide +kernel) hcarries
  refine ⟨hvalue, carries_of_any (by decide +kernel), ?_⟩
  exact inherited_entry_kept (by decide) (by decide) (by decide) hinherits
    (.reconcile .start hcarries unclaimed_keeps hrun)

/-- The source is created again, the request controller moves the Replication to
it, and the next reconcile forgets the old replica, which is still there. -/
theorem recreation_abandons_replica :
    ∃ requestTrace middle final,
      recreated.Stores key appliedReplication ∧
      appliedReplication.spec.sourceRef.uid = "7e3c" ∧
      Run (Fleet.aloneRequest fun _ => False) recreated (reconcileRequest request sourceKey)
        requestTrace middle (.done (.ok ())) ∧
      middle.Inherits key slot "7e3c" "9d41" ∧
      Succession engine key slot "7e3c" "9d41" (fun _ => True) middle final ∧
      ¬ final.StillRecords key slot ∧
      final.spokes.Carries slot "7e3c" := by
  have hrequested : (soloRequest recreated).value = .ok () := by decide +kernel
  have hrequest := run_soloRequest recreated
  rw [hrequested] at hrequest
  have hvalue : (soloReconcile inherited).value = .ok ⟨600⟩ := by decide +kernel
  have hrun := run_soloReconcile inherited
  rw [hvalue] at hrun
  have hdropped : ((soloReconcile
      inherited).final.hub.replications key).any (fun stored =>
        Recorded stored.status.inventory slot) = false := by
    decide +kernel
  refine ⟨_, _, _, rfl, rfl, hrequest, inherited_inherits,
    .reconcile .start inherited_carries trivial hrun, ?_, ?_⟩
  · rintro ⟨stored, hstored, hrecorded⟩
    rw [hstored] at hdropped
    exact of_decide_eq_false hdropped hrecorded
  · exact carries_of_any (by decide +kernel)

end K8sR8r
