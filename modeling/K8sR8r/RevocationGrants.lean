import K8sR8r.RetentionRuns

/-!
# Whether a grant's Retain is honoured

The options of a grant live in policy objects that may have been edited or
deleted when the permission is withdrawn.  The next reconcile looks the granting
policies up by their remembered names; only when none of them is left does it
ask the policies that match the source.  This file says exactly when a replica
granted with Retain survives that reconcile.
-/

namespace K8sR8r

open Interaction

/-- An inventoried replica whose target was allowed under the policies `before`
and is denied now, with nothing but the policies changed. -/
structure GrantedReplica (config : EngineConfig) (nn : NamespacedName)
    (sight : Sight) (rep : Replication) (gvk : GroupVersionKind)
    (source : SourceObject) (before : PolicyList) (slot : SlotKey)
    (fleet : Fleet) : Prop
    extends Ready config nn sight rep gvk source fleet where
  key : rep.key = nn
  selected : Selects rep.spec.resolvedTargets slot.cluster slot.ns
  recorded : Recorded rep.status.inventory slot
  replica : slot.group = gvk.group ∧ slot.kind = gvk.kind ∧ slot.name ≠ ""
  granted : (resolveOptions (policiesByName before.items
    (decideTarget (sight.source rep.spec.sourceRef)
      (sight.target slot.cluster slot.ns)
      before.items).matchedPolicies)).revocationPolicy = .retain
  remembered : ∃ prev, fleet.lastResults rep.uid = some prev ∧
    (∃ dec ∈ prev.decisions, dec.isFor slot.cluster slot.ns = true) ∧
    ∀ dec ∈ prev.decisions, dec.isFor slot.cluster slot.ns = true →
      dec = decideTarget (sight.source rep.spec.sourceRef)
        (sight.target slot.cluster slot.ns) before.items
  denied : ¬ sight.Permits (sight.source rep.spec.sourceRef) slot.cluster
    slot.ns

/-- One of the granting policies is left and asks to retain, or none of them is
left and a policy that matches the source asks to retain. -/
def GrantHonoured (sight : Sight) (rep : Replication) (before : PolicyList) (slot : SlotKey) :
    Prop :=
  (∃ now ∈ sight.policies.items, now.Retains ∧ ∃ policy ∈ before.items, policy.name = now.name ∧
      policy.Permits (sight.source rep.spec.sourceRef) (sight.target slot.cluster slot.ns)) ∨
  (∀ now ∈ sight.policies.items, ∀ policy ∈ before.items,
    policy.Permits (sight.source rep.spec.sourceRef)
      (sight.target slot.cluster slot.ns) → policy.name ≠ now.name) ∧
    RetainedBySource sight.policies.items (sight.source rep.spec.sourceRef)

theorem grantHonoured_iff (sight : Sight) (rep : Replication) (before : PolicyList)
    (slot : SlotKey) :
    GrantHonoured sight rep before slot ↔
      GrantRetained sight.policies.items (sight.source rep.spec.sourceRef)
        (decideTarget (sight.source rep.spec.sourceRef) (sight.target slot.cluster slot.ns)
          before.items).matchedPolicies := by
  unfold GrantHonoured GrantRetained
  simp only [mem_matchedPolicies_iff, not_exists, not_and]
  constructor
  · rintro (⟨now, hnow, hretains, policy, hmem, hname, hpermits⟩ | ⟨hnone, hsource⟩)
    · exact .inl ⟨now, hnow, ⟨policy, hmem, hpermits, hname⟩, hretains⟩
    · exact .inr ⟨hnone, hsource⟩
  · rintro (⟨now, hnow, ⟨policy, hmem, hpermits, hname⟩, hretains⟩ | ⟨hnone, hsource⟩)
    · exact .inl ⟨now, hnow, hretains, policy, hmem, hname, hpermits⟩
    · exact .inr ⟨hnone, hsource⟩

section Granted

variable {config : EngineConfig} {nn : NamespacedName} {sight : Sight}
  {rep : Replication} {gvk : GroupVersionKind} {source : SourceObject}
  {before : PolicyList} {slot : SlotKey} {fleet : Fleet}

theorem GrantedReplica.mem_retained_iff
    (granted : GrantedReplica config nn sight rep gvk source before slot fleet) :
    slot ∈ (sight.outcome (fleet.lastResults rep.uid) rep rep.spec.sourceRef.name).retained ↔
      GrantHonoured sight rep before slot := by
  obtain ⟨prev, hprev, ⟨dec, hdec, hfor⟩, hmade⟩ := granted.remembered
  have hallowed : (decideTarget (sight.source rep.spec.sourceRef)
      (sight.target slot.cluster slot.ns) before.items).allowed = true := by
    obtain ⟨policy, hpolicy, _⟩ :=
      (resolveOptions_retain_iff _).mp granted.granted
    have hpolicy := (before.mem_policiesByName_matched_iff _ _ _).mp hpolicy
    exact (decideTarget_allowed_iff _ _ _).mpr ⟨policy, hpolicy⟩
  rw [sight.mem_retained_iff rep _ granted.denied granted.selected
    granted.recorded, hprev, grantHonoured_iff]
  constructor
  · rintro (⟨other, hother, hotherFor, _, hgrant⟩ | ⟨hdenies, _⟩)
    · rwa [hmade other hother hotherFor] at hgrant
    · have hdenied := hdenies dec hdec hfor
      rw [hmade dec hdec hfor, hallowed] at hdenied
      cases hdenied
  · intro hgrant
    refine .inl ⟨dec, hdec, hfor, ?_, ?_⟩
    · rw [hmade dec hdec hfor]
      exact hallowed
    · rw [hmade dec hdec hfor]
      exact hgrant

theorem GrantedReplica.not_mem_allowedKeys
    (granted : GrantedReplica config nn sight rep gvk source before slot fleet) :
    slot ∉ allowedKeys gvk (sight.slots rep rep.spec.sourceRef.name) := by
  rw [mem_allowedKeys_iff]
  rintro ⟨other, hmem, hallowed, rfl⟩
  exact granted.denied (sight.permits_of_allowed rep _ hmem hallowed)

/-! ## A retained replica -/

def Fleet.StillRecords (fleet : Fleet) (nn : NamespacedName) (slot : SlotKey) : Prop :=
  ∃ stored, fleet.hub.replications nn = some stored ∧ Recorded stored.status.inventory slot

variable {after : Fleet} {policies : List ReplicationPolicy} {slots : List (SlotInfo × Decision)}
  {call : EngineCall} {stored : Replication} {inv : List InventoryEntry}

theorem Fleet.StillRecords.hub_eq (records : fleet.StillRecords nn slot)
    (hhub : after.hub = fleet.hub) : after.StillRecords nn slot := by
  unfold Fleet.StillRecords
  rw [hhub]
  exact records

theorem Fleet.StillRecords.answers {retained : List SlotKey} {recorded : List InventoryEntry}
    {fails : EngineCall → Prop} {reply : call.Reply} (records : fleet.StillRecords nn slot)
    (hretained : slot ∈ retained) (hdenied : slot ∉ allowedKeys gvk slots)
    (hrecorded : Recorded recorded slot)
    (carries : call.CarriesOut gvk policies slots retained recorded)
    (answer : fleet.Answers fails call reply after) :
    after.StillRecords nn slot := by
  cases Fleet.answers_effect answer with
  | @hub call given _ hanswer =>
    rcases carries.hub_cases with hread | ⟨written, rfl, hkeeps⟩
    · have hspares : (EngineCall.hub call).SparesHub := hread
      exact records.hub_eq (Fleet.answers_sparesHub hspares answer)
    · cases given with
      | error err => exact records.hub_eq hanswer.1
      | ok stored =>
        obtain ⟨cur, hcur, heq⟩ := Option.map_eq_some_iff.mp hanswer
        obtain ⟨_, rfl⟩ := Prod.mk.inj heq
        by_cases hkey : written.key = nn
        · subst hkey
          refine ⟨_, Hub.setReplication_self _ _ _, ?_⟩
          exact hkeeps slot hretained hdenied hrecorded
        · obtain ⟨old, hold, hrec⟩ := records
          refine ⟨old, ?_, hrec⟩
          dsimp only
          rw [Hub.setReplication_of_ne _ _ (Ne.symm hkey)]
          exact hold
  | _ => exact records.hub_eq rfl

theorem not_deletesAt_of_passive (passive : call.IsPassive) (slot : SlotKey) :
    ¬ call.DeletesAt slot := by
  cases call with
  | transportDelete cluster gvk key => exact passive.elim
  | _ => exact fun h => h

theorem GrantedReplica.safe_of_retained
    (granted : GrantedReplica config nn sight rep gvk source before slot fleet)
    (hretained : slot ∈ (sight.outcome (fleet.lastResults rep.uid) rep
      rep.spec.sourceRef.name).retained) :
    Safe soloSemantics (fun current call => current.StillRecords nn slot ∧
        ¬ call.DeletesAt slot) (reconcile config nn)
      (fun _ current => current.StillRecords nn slot) fleet := by
  have hdenied := granted.not_mem_allowedKeys
  have hready : ∀ {current : Fleet}, Ready config nn sight rep gvk source current →
        current.StillRecords nn slot :=
    fun ready => ⟨rep, ready.stored, granted.recorded⟩
  refine Ready.reconcile_safe ⟨Ready.stable, fun h => h.1.shows, fun answer => answer, fun h => h,
      fun h passive => ⟨hready h.1, not_deletesAt_of_passive passive slot⟩⟩
    (fun _ h => h) (fun ready => ⟨hready ready, fun h => h⟩) ?_
    granted.toReady rfl
  intro current ready
  have hstable : Stable soloSemantics fun fleet => fleet.StillRecords nn slot := by
    intro fleet after records change
    have hafter : after = { fleet with spokes := after.spokes } := change
    exact records.hub_eq (by rw [hafter])
  have hcalls := converge_calls config nn rep
    (rfl : (Ready.object gvk rep source).groupVersionKind = gvk)
    sight.policies.items (fun slot hmem => sight.slot_name rep _ hmem)
    (sight.outcome (fleet.lastResults rep.uid) rep rep.spec.sourceRef.name)
  have hsignals := sight.outcome_signals rep rep.spec.sourceRef.name (fleet.lastResults rep.uid)
  have hadmitted : ∀ {call : EngineCall}, call.CarriesOut gvk
      sight.policies.items (sight.slots rep rep.spec.sourceRef.name)
      (sight.outcome (fleet.lastResults rep.uid) rep
        rep.spec.sourceRef.name).retained rep.status.inventory →
      ¬ call.DeletesAt slot := by
    intro call hcall hdeletes
    rcases hcall.writes_cases.2 hdeletes with hallowed | hunretained
    · exact hdenied hallowed
    · exact hunretained hretained
  refine (Safe.of_within ((hsignals.weaken (fun _ h => .passive h)
    fun _ h => h).bind fun _ _ => hcalls) hstable (hready ready)
    (fun hcall records => ⟨records, hadmitted hcall⟩) ?_).weaken fun _ _ h => h.2
  intro current call reply after hcall records answer
  exact records.answers hretained hdenied granted.recorded hcall answer

/-! ## A replica that is not retained

Against spokes that answer every call, the reconcile drops the entry. -/

abbrev scripted : Semantics Fleet EngineCall.Reply :=
  .scripted Fleet.handle

theorem handle_answers {reply : call.Reply} (answer : fleet.handle call = (reply, after)) :
    fleet.Answers (fun _ => False) call reply after := by
  have hanswer := Fleet.answers_handle (fun _ => False) fleet call
  rw [answer] at hanswer
  exact hanswer

def Fleet.Stores (fleet : Fleet) (nn : NamespacedName) (rep : Replication) :
    Prop :=
  fleet.hub.replications nn = some rep

theorem writes_status {status : ReplicationStatus} {reply : ApiResult Replication}
    (stores : fleet.Stores nn stored) (hkey : stored.key = nn)
    (answer : fleet.handle (.hub (.updateReplicationStatus
      { stored with status := status })) = (reply, after)) :
    ∃ next, reply = .ok next ∧ after.Stores nn next ∧ next.key = nn ∧ next.status = status := by
  obtain ⟨hub, hanswer, rfl⟩ := handle_answers answer
  have hcurrent : fleet.hub.current { stored with status := status } =
      some stored := by
    have hstored : fleet.hub.replications nn = some stored := stores
    have hsame : ({ stored with status := status } : Replication).key = nn :=
      hkey
    unfold Hub.current
    rw [hsame, hstored]
    simp
  have haccepted : fleet.hub.acceptStatusUpdate
      { stored with status := status } = some
      ({ stored with
          resourceVersion := fleet.hub.nextVersion
          status := status },
        fleet.hub.setReplication stored.key (some
          { stored with
            resourceVersion := fleet.hub.nextVersion
            status := status })) := by
    unfold Hub.acceptStatusUpdate
    rw [hcurrent]
    rfl
  cases reply with
  | error err =>
    rcases hanswer.2 with hnone | ⟨hfails, _⟩
    · rw [haccepted] at hnone
      cases hnone
    · exact hfails.elim
  | ok next =>
    have hnext : fleet.hub.acceptStatusUpdate
        { stored with status := status } = some (next, hub) := hanswer
    rw [haccepted] at hnext
    obtain ⟨rfl, rfl⟩ := Prod.mk.inj (Option.some.inj hnext)
    refine ⟨_, rfl, ?_, hkey, rfl⟩
    unfold Fleet.Stores
    rw [← hkey]
    exact Hub.setReplication_self _ _ _

theorem stores_safe {α : Type} {program : EngineProgram α} {allowed : EngineCall → Prop}
    {value : α → Prop} (within : program.Within allowed value)
    (spares : ∀ call, allowed call → call.SparesHub) (stores : fleet.Stores nn stored) :
    Safe scripted unguarded program (fun result current =>
      value result ∧ current.Stores nn stored) fleet := by
  refine Safe.of_within within (Safe.undisturbed_stable
    fun current : Fleet => current.Stores nn stored) stores (fun _ _ => trivial) ?_
  intro current call reply after hcall hcurrent answer
  have hhub := Fleet.answers_sparesHub (spares call hcall) (handle_answers answer)
  unfold Fleet.Stores
  rw [hhub]
  exact hcurrent

theorem persistPlanned_stores (stores : fleet.Stores nn rep) (hkey : rep.key = nn)
    (inv : List InventoryEntry) :
    Safe scripted unguarded (persistPlanned rep inv)
      (fun result current => ∃ stored, result = .ok stored ∧
        current.Stores nn stored ∧ stored.key = nn ∧
        stored.status.inventory = inv) fleet := by
  unfold persistPlanned
  split_ifs with hsame
  · exact Safe.undisturbed_done ⟨rep, rfl, stores, hkey, hsame.symm⟩
  · refine Safe.undisturbed_call trivial ?_
    intro reply after answer
    obtain ⟨next, rfl, hstores, hnext, hstatus⟩ :=
      writes_status stores hkey answer
    exact Safe.undisturbed_done ⟨next, rfl, hstores, hnext, by rw [hstatus]⟩

theorem collectEntry_drops {entry : InventoryEntry} {kind : GroupVersionKind}
    (hgvk : gvkForEntry config entry = some kind) (hname : entry.name ≠ "") (uid : String)
    (gc : FanOut) :
    Safe scripted unguarded (collectEntry config nn uid gc entry)
      (fun left _ => left.inv = removeEntry gc.inv (keyForEntry entry))
      fleet := by
  have hcleaned : ∀ {current : Fleet}, Safe scripted unguarded (cleanedEntry nn gc entry)
        (fun left _ => left.inv = removeEntry gc.inv (keyForEntry entry))
        current := by
    intro current
    refine Safe.undisturbed_call trivial fun _ _ _ => ?_
    refine Safe.undisturbed_call trivial fun _ _ _ => ?_
    exact Safe.undisturbed_done rfl
  have hdelete : ∀ {current : Fleet}, Safe scripted unguarded (deleteEntry nn gc entry kind)
        (fun left _ => left.inv = removeEntry gc.inv (keyForEntry entry))
        current := by
    intro current
    unfold deleteEntry
    refine Safe.undisturbed_perform trivial ?_
    intro reply after answer
    obtain ⟨spokes, hanswer, _⟩ := handle_answers answer
    cases reply with
    | ok _ => exact hcleaned
    | error err =>
      dsimp only
      split_ifs with hfound
      · exact hcleaned
      · have hfails := hanswer.2
        rw [if_neg hfound] at hfails
        rcases hfails with hfails | hempty
        · exact hfails.elim
        · exact (hname hempty).elim
  have hreported : ∀ {current : Fleet} (signals : List EngineSignal) (rest : EngineProgram FanOut),
      (∀ {later : Fleet}, Safe scripted unguarded rest
        (fun left _ => left.inv = removeEntry gc.inv (keyForEntry entry))
        later) →
      Safe scripted unguarded (do emitAll signals; rest)
        (fun left _ => left.inv = removeEntry gc.inv (keyForEntry entry))
        current := by
    intro current signals rest hrest
    refine Safe.seq (Safe.of_within (Program.within_true _)
      (Safe.undisturbed_stable fun _ => True) trivial (fun _ _ => trivial)
      fun _ _ _ => trivial) ?_
    exact fun _ later _ => hrest
  have hdropped : ∀ {current : Fleet},
      Safe scripted unguarded (pure (dropEntry gc entry) : EngineProgram FanOut)
        (fun left _ => left.inv = removeEntry gc.inv (keyForEntry entry))
        current :=
    fun _ _ => rfl
  unfold collectEntry
  simp only [hgvk]
  refine Safe.undisturbed_perform trivial ?_
  intro reply after answer
  have hanswer := (handle_answers answer).1
  cases reply with
  | error err =>
    have hfails : if err.isNotFound = true then
        (slotOf entry.clusterName kind ⟨entry.ns, entry.name⟩).name ≠ "" ∧
          fleet.spokes (slotOf entry.clusterName kind ⟨entry.ns, entry.name⟩) = none
      else False ∨ (slotOf entry.clusterName kind ⟨entry.ns, entry.name⟩).name = "" := hanswer
    dsimp only
    split_ifs with hfound
    · exact Safe.undisturbed_perform trivial fun _ _ _ => hdropped
    · rw [if_neg hfound] at hfails
      rcases hfails with hfails | hempty
      · exact hfails.elim
      · exact (hname hempty).elim
  | ok existing =>
    dsimp only
    cases classifyReplicaOwnership existing.labels uid with
    | foreign => exact hreported _ _ hdropped
    | stripped => exact hreported _ _ hdelete
    | managed => exact hdelete

theorem mem_kindGVKs_of_lookup {kind : String} (hlookup : config.kindGVKs.lookup kind = some gvk) :
    gvk ∈ config.kindGVKs.map Prod.snd := by
  obtain ⟨front, back, hlist, _⟩ := List.lookup_eq_some_iff.mp hlookup
  simp [hlist]

theorem gvkForEntry_of_lookup {entry : InventoryEntry} {kind : String}
    (hlookup : config.kindGVKs.lookup kind = some gvk) (hgroup : entry.group = gvk.group)
    (hkind : entry.kind = gvk.kind) :
    ∃ found, gvkForEntry config entry = some found := by
  have hmem := mem_kindGVKs_of_lookup hlookup
  rw [← Option.isSome_iff_exists, gvkForEntry, List.find?_isSome]
  exact ⟨gvk, hmem, by simp [hgroup, hkind]⟩

theorem collectEntries_drops {entries : List InventoryEntry} {uid : String} {gc : FanOut}
    (haddressed : ∀ entry ∈ entries, keyForEntry entry = slot →
      entry.name ≠ "" ∧ ∃ kind, gvkForEntry config entry = some kind)
    (hstart : (∃ entry ∈ entries, keyForEntry entry = slot) ∨ ¬ Recorded gc.inv slot) :
    Safe scripted unguarded (entries.foldlM (collectEntry config nn uid) gc)
      (fun left _ => ¬ Recorded left.inv slot) fleet := by
  induction entries generalizing gc fleet with
  | nil =>
    refine Safe.undisturbed_done ?_
    rcases hstart with ⟨entry, hmem, _⟩ | hgone
    · simp at hmem
    · exact hgone
  | cons head rest ih =>
    have hrest : ∀ entry ∈ rest, keyForEntry entry = slot →
        entry.name ≠ "" ∧ ∃ kind, gvkForEntry config entry = some kind :=
      fun entry hmem => haddressed entry (List.mem_cons_of_mem _ hmem)
    rw [List.foldlM_cons]
    by_cases hhead : keyForEntry head = slot
    · obtain ⟨hname, kind, hkind⟩ :=
        haddressed head List.mem_cons_self hhead
      refine Safe.seq (collectEntry_drops hkind hname uid gc) ?_
      intro left current hleft
      refine ih hrest (.inr ?_)
      rw [hleft, hhead, recorded_removeEntry_iff]
      exact fun h => h.2 rfl
    · refine Safe.seq (Safe.of_within (collectEntry_within config nn uid gc
        head) (Safe.undisturbed_stable fun _ => True) trivial
        (fun _ _ => trivial) fun _ _ _ => trivial) ?_
      rintro left current ⟨hdrops, _⟩
      refine ih hrest ?_
      rcases hstart with ⟨entry, hmem, hentry⟩ | hgone
      · rcases List.mem_cons.mp hmem with rfl | hmem
        · exact (hhead hentry).elim
        · exact .inl ⟨entry, hmem, hentry⟩
      · refine .inr fun hrec => hgone ?_
        exact (hdrops.keepsOthers slot (Ne.symm hhead)).mp hrec

theorem collectGarbage_drops {keep : List SlotKey} (uid : String)
    (haddressed : ∀ entry ∈ inv, keyForEntry entry = slot →
      entry.name ≠ "" ∧ ∃ kind, gvkForEntry config entry = some kind) (hkeep : slot ∉ keep) :
    Safe scripted unguarded (collectGarbage config nn uid keep inv)
      (fun left _ => ¬ Recorded left.inv slot) fleet := by
  unfold collectGarbage
  refine Safe.seq (Safe.of_within (planGC_within keep inv)
    (Safe.undisturbed_stable fun _ => True) trivial (fun _ _ => trivial)
    fun _ _ _ => trivial) ?_
  rintro plan current ⟨hplan, _⟩
  refine Safe.seq (Safe.of_within (releaseEntries_within plan.release inv)
    (Safe.undisturbed_stable fun _ => True) trivial (fun _ _ => trivial)
    fun _ _ _ => trivial) ?_
  rintro left current ⟨hleft, _⟩
  refine collectEntries_drops ?_ ?_
  · exact fun entry hmem => haddressed entry ((hplan entry).mp (.inl hmem)).1
  · -- What is still recorded was not released, so it is to be deleted.
    by_cases hrec : Recorded left slot
    · obtain ⟨⟨entry, hmem, hentry⟩, hreleased⟩ := (hleft slot).mp hrec
      have hsplit := (hplan entry).mpr ⟨hmem, by rwa [hentry]⟩
      rcases hsplit with hdelete | hrelease
      · exact .inl ⟨entry, hdelete, hentry⟩
      · exact (hreleased entry hrelease hentry).elim
    · exact .inr hrec

theorem finishFanOut_drops (stores : fleet.Stores nn stored) (hkey : stored.key = nn)
    {seen : ReplicationStatus} (hseen : seen.inventory ≠ inv) (hdropped : ¬ Recorded inv slot)
    (hash : String) (states : List TargetState) (delays : List Nat) (retained : Bool) :
    Safe scripted unguarded
      (finishFanOut config nn { stored with status := seen } hash states delays inv retained)
      (fun _ current => ¬ current.StillRecords nn slot) fleet := by
  have hgone : ∀ {current : Fleet} {next : Replication},
      current.Stores nn next → next.status.inventory = inv → ¬ current.StillRecords nn slot := by
    rintro current next hstores hinv ⟨other, hother, hrec⟩
    have hnext : current.hub.replications nn = some next := hstores
    rw [hnext] at hother
    cases hother
    rw [hinv] at hrec
    exact hdropped hrec
  unfold finishFanOut
  refine Safe.seq (stores_safe (emitAll_allCalls (fun _ _ => trivial) :
    (emitAll _).AllCalls EngineCall.SparesHub) (fun _ h => h) stores) ?_
  rintro _ current ⟨_, stores⟩
  refine Safe.undisturbed_perform trivial ?_
  intro now after answer
  have hspares : EngineCall.SparesHub .now := trivial
  have hafter := Fleet.answers_sparesHub hspares (handle_answers answer)
  have hstores : after.Stores nn stored := by
    unfold Fleet.Stores
    rw [hafter]
    exact stores
  dsimp only
  unfold writeStatusIfChanged
  have hchanged : seen ≠ buildStatus { stored with status := seen } hash states inv
      retained now := by
    intro heq
    exact hseen (congrArg ReplicationStatus.inventory heq)
  rw [if_neg hchanged]
  refine Safe.undisturbed_perform trivial ?_
  intro reply after answer
  obtain ⟨next, rfl, hnext, _, hstatus⟩ := writes_status hstores hkey answer
  have hinv : next.status.inventory = inv := by
    rw [hstatus]
    rfl
  dsimp only
  refine Safe.seq (stores_safe (emitAll_allCalls (fun _ _ => trivial) :
    (emitAll _).AllCalls EngineCall.SparesHub) (fun _ h => h) hnext) ?_
  rintro _ current ⟨_, hcurrent⟩
  exact Safe.undisturbed_done (hgone hcurrent hinv)

/-- A recorded slot that is neither allowed nor retained is given up. -/
theorem converge_drops {src : Unstructured} {outcome : RevocationOutcome}
    (hkind : src.groupVersionKind = gvk)
    (hnames : ∀ slot ∈ slots, slot.1.name = "" → src.name = "") (stores : fleet.Stores nn rep)
    (hkey : rep.key = nn) (hrecorded : Recorded rep.status.inventory slot)
    (haddressed : ∀ entry, keyForEntry entry = slot →
      entry.name ≠ "" ∧ ∃ kind, gvkForEntry config entry = some kind)
    (hretained : slot ∉ outcome.retained) (hallowed : slot ∉ allowedKeys gvk slots) :
    Safe scripted unguarded (converge config nn rep src gvk policies slots outcome)
      (fun _ current => ¬ current.StillRecords nn slot) fleet := by
  have hplanned : Recorded (planInventory gvk slots rep.status.inventory)
      slot :=
    (recorded_planInventory_iff _ _ _ _).mpr (.inl hrecorded)
  have hkeep : slot ∉ outcome.retained ++ allowedKeys gvk slots := by
    simp [hretained, hallowed]
  unfold converge
  refine Safe.seq (persistPlanned_stores stores hkey _) ?_
  rintro result current ⟨stored, rfl, hstores, hstoredKey, hinv⟩
  dsimp only
  refine Safe.seq (stores_safe ((fanOut_within config nn hkind policies outcome
    hnames _).and (fanOut_fits config nn src policies outcome slots _)) ?_ hstores) ?_
  · rintro call ⟨hpassive | ⟨slot, _, _, hserves⟩, _⟩
    · exact hpassive.sparesHub
    · exact hserves.sparesHub
  rintro fan current ⟨⟨_, hfits⟩, hstores⟩
  have hcollects : Safe scripted unguarded (collectGarbage config nn
      stored.spec.sourceRef.uid (outcome.retained ++ allowedKeys gvk slots)
      fan.inv) (fun left _ => ¬ Recorded left.inv slot) current :=
    collectGarbage_drops _ (fun entry _ => haddressed entry) hkeep
  refine Safe.seq (hcollects.and (stores_safe ((collectGarbage_within config nn
    _ _ fan.inv).and (collectGarbage_fits config nn _ _ hfits)) ?_ hstores)) ?_
  · rintro call ⟨hpassive | ⟨entry, _, _, rfl | hdeletes⟩, _⟩
    · exact hpassive.sparesHub
    · trivial
    · exact hdeletes.sparesHub
  · rintro gc current ⟨hdropped, ⟨_, hgc⟩, hstores⟩
    rw [← hinv] at hplanned hgc
    exact finishFanOut_drops hstores hstoredKey
      (fun hshared => hdropped ((hgc.recorded_of_shared hshared).mpr hplanned)) hdropped _ _ _ _

/-- Without a policy that asks to retain, an undisturbed reconcile drops the
entry. -/
theorem GrantedReplica.execute_drops
    (granted : GrantedReplica config nn sight rep gvk source before slot fleet)
    (hdropped : ¬ GrantHonoured sight rep before slot) :
    ¬ (execute Fleet.handle (reconcile config nn) fleet).final.StillRecords nn
      slot := by
  have hretained := mt granted.mem_retained_iff.mp hdropped
  have hallowed := granted.not_mem_allowedKeys
  obtain ⟨hgroup, hkind, hname⟩ := granted.replica
  have hobserves : Observes scripted unguarded (fun _ => False) sight
      rep.spec.sourceRef.ns fun current =>
        Ready config nn sight rep gvk source current ∧
          current.lastResults rep.uid = fleet.lastResults rep.uid :=
    ⟨fun holds change => change ▸ holds, fun h => h.1.shows, handle_answers,
      fun h => h, fun _ _ => trivial⟩
  have hsafe : Safe scripted unguarded (reconcile config nn)
      (fun _ current => ¬ current.StillRecords nn slot) fleet := by
    refine Ready.reconcile_safe hobserves (fun _ h => h) (fun _ => trivial) ?_ granted.toReady rfl
    intro current ready
    refine Safe.seq (stores_safe (sight.outcome_signals rep
      rep.spec.sourceRef.name _) (fun _ h => h.sparesHub) ready.stored) ?_
    rintro _ current ⟨_, hstores⟩
    refine converge_drops rfl (fun slot hmem => sight.slot_name rep _ hmem)
      hstores granted.key granted.recorded ?_ hretained hallowed
    rintro entry rfl
    exact ⟨hname, gvkForEntry_of_lookup granted.kind hgroup hkind⟩
  exact hsafe.execute

/-! ## Exactly when -/

/-- The next reconcile spares the replica and keeps its entry, whatever the
spokes do, exactly when the grant is honoured. -/
theorem grant_honoured_iff
    (granted : GrantedReplica config nn sight rep gvk source before slot fleet) :
    (∀ trace final rest,
      Run soloSemantics fleet (reconcile config nn) trace final rest →
      (∀ exchange ∈ trace, ¬ exchange.request.DeletesAt slot) ∧ final.StillRecords nn slot) ↔
      GrantHonoured sight rep before slot := by
  constructor
  · intro hkept
    by_contra hdropped
    refine granted.execute_drops hdropped ?_
    exact (hkept _ _ _ (run_execute (execute_answered (fun world call =>
      Fleet.answers_handle _ world call) _ _))).2
  · intro honoured trace final rest hrun
    have hsafe := granted.safe_of_retained (granted.mem_retained_iff.mpr honoured)
    obtain ⟨htrace, hrest⟩ := hsafe.run hrun
    exact ⟨fun exchange hmem => (htrace exchange hmem).2,
      hrest.holds (fun _ _ h => h.1) fun _ _ h => h⟩

end Granted

open Sample

def Sample.withdrawn : PolicyList := ⟨[], by decide⟩

theorem Sample.deletesAt_of_deletedSlot {call : EngineCall} {slot : SlotKey}
    (hslot : deletedSlot call = some slot) : call.DeletesAt slot := by
  cases call with
  | transportDelete cluster gvk key => exact Option.some.inj hslot
  | _ => cases hslot

theorem sample_granted (policies : PolicyList) (denied : ¬ (stake policies).sight.Permits
      ((stake policies).sight.source Stake.sampleRead.spec.sourceRef)
      "east" "app") :
    GrantedReplica engine key (stake policies).sight
      Stake.sampleRead configMapGVK
      ⟨source, 2, [], none⟩ granting slot
      (changed policies) where
  stored := by
    have hstored : (reconciled (fleet.withPolicies granting)).hub.replications
          key = some Stake.sampleRead := by
      decide +kernel
    exact hstored
  live := by decide +kernel
  authoritative := by decide +kernel
  finalizer := by decide +kernel
  kind := by decide +kernel
  sourceStored := by
    have hstored : (reconciled (fleet.withPolicies granting)).hub.sources
          configMapGVK ⟨"team", "settings"⟩ = some ⟨source, 2, [], none⟩ := by
      decide +kernel
    exact hstored
  uid := by decide +kernel
  shows := (changed_starts policies).shows
  key := by decide +kernel
  selected := by decide +kernel
  recorded := by decide +kernel
  replica := by decide +kernel
  granted := by
    have hgranted : (resolveOptions (policiesByName granting.items
        (decideTarget ((stake granting).sight.source Stake.sampleRead.spec.sourceRef)
          ((stake granting).sight.target "east" "app")
          granting.items).matchedPolicies)).revocationPolicy =
            .retain := by
      decide +kernel
    exact hgranted
  remembered := by
    have hresult : ∃ prev ∈ (reconciled (fleet.withPolicies
        granting)).lastResults Stake.sampleRead.uid,
          (∃ dec ∈ prev.decisions, dec.isFor "east" "app" = true) ∧
          ∀ dec ∈ prev.decisions, dec.isFor "east" "app" = true →
            dec = decideTarget ((stake granting).sight.source
              Stake.sampleRead.spec.sourceRef)
              ((stake granting).sight.target "east" "app")
              granting.items := by
      decide +kernel
    exact hresult
  denied := denied

theorem grant_honoured_iff_sample :
    GrantedReplica engine key (stake moved).sight Stake.sampleRead configMapGVK
      ⟨source, 2, [], none⟩ granting slot (changed moved) ∧
    ∀ trace final rest,
      Run soloSemantics (changed moved) (reconcile engine key) trace final rest →
      (∀ exchange ∈ trace, ¬ exchange.request.DeletesAt slot) ∧ final.StillRecords key slot := by
  have hgranted := sample_granted moved (by decide +kernel)
  refine ⟨hgranted, (grant_honoured_iff hgranted).mpr (.inl ?_)⟩
  have hretained : ∃ now ∈ moved.items, now.Retains ∧
      ∃ policy ∈ granting.items, policy.name = now.name ∧
        policy.Permits ((stake moved).sight.source Stake.sampleRead.spec.sourceRef)
          ((stake moved).sight.target "east" "app") := by
    decide +kernel
  exact hretained

/-- A deleted policy is forgotten together with its Retain. -/
theorem deleted_grant_forgotten :
    GrantedReplica engine key (stake withdrawn).sight Stake.sampleRead configMapGVK
      ⟨source, 2, [], none⟩ granting slot (changed withdrawn) ∧
    ∃ trace final rest,
      Run soloSemantics (changed withdrawn) (reconcile engine key) trace final rest ∧
      (∃ exchange ∈ trace, exchange.request.DeletesAt slot) ∧
      ¬ final.StillRecords key slot := by
  have hgranted := sample_granted withdrawn (by decide +kernel)
  refine ⟨hgranted, _, _, _, run_execute (execute_answered (fun world call =>
    Fleet.answers_handle _ world call) _ _), ?_, ?_⟩
  · have hdeletes : ∃ exchange ∈ (execute Fleet.handle (reconcile engine key)
        (changed withdrawn)).trace,
          deletedSlot exchange.request = some slot := by
      decide +kernel
    obtain ⟨exchange, hmem, hslot⟩ := hdeletes
    exact ⟨exchange, hmem, deletesAt_of_deletedSlot hslot⟩
  · refine hgranted.execute_drops ?_
    rintro (⟨now, hnow, _⟩ | ⟨_, hsource⟩)
    · exact absurd hnow List.not_mem_nil
    · revert hsource
      decide +kernel

end K8sR8r
