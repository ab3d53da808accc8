import K8sR8r.SlotFates

/-!
# Entries that leave the inventory

An entry of an applied replica may leave the inventory while its object stays
on the spoke.  Collection reports every such object as orphaned.  Converging an
allowed slot does not: an object that is refused there costs the entry without
a signal.  A reconcile drops no replica silently exactly when no allowed slot
meets an object it has to refuse.
-/

namespace K8sR8r

open Interaction

/-! ## Reads -/

/-- The calls before anything is carried out, the finalizer apart. -/
def EngineCall.IsReading : EngineCall → Prop
  | .hub call => call.IsRead
  | .lookupCluster _ => True
  | .previousResult _ => True
  | .storeResult _ _ => True
  | _ => False

theorem EngineCall.IsReading.sparesHub {call : EngineCall} (reading : call.IsReading) :
    call.SparesHub := by
  cases call with
  | hub call => exact reading
  | _ => trivial

theorem EngineCall.IsReading.sparesSpokes {call : EngineCall} (reading : call.IsReading) :
    call.SparesSpokes := by
  cases call with
  | transportApply cluster obj => exact reading.elim
  | transportDelete cluster gvk key => exact reading.elim
  | _ => trivial

theorem prepareLive_reading (config : EngineConfig) (rep : Replication) :
    (prepareLive config rep).AllCalls EngineCall.IsReading := by
  unfold prepareLive
  dsimp only
  cases config.kindGVKs.lookup rep.spec.sourceRef.kind with
  | none => trivial
  | some gvk =>
    dsimp only
    rw [hub_bind]
    refine ⟨trivial, fun reply => ?_⟩
    cases reply with
    | error err =>
      dsimp only
      split_ifs
      · trivial
      · trivial
    | ok src =>
      dsimp only
      split_ifs
      · trivial
      · unfold prepareSource
        rw [hub_bind]
        refine ⟨trivial, fun reply => ?_⟩
        cases reply with
        | error err => trivial
        | ok policies =>
          refine (namespaceLabels_allCalls trivial).bind fun _ => ?_
          refine (flattenTargets_allCalls _ _ fun _ => trivial).bind fun _ => ?_
          exact ⟨trivial, fun _ => ⟨trivial, fun _ => trivial⟩⟩

/-- The reads, the finalizer, and what is forgotten of a Replication that is
gone. -/
theorem prepare_calls (config : EngineConfig) (nn : NamespacedName) :
    (prepare config nn).AllCalls fun call =>
      call.IsReading ∨ call = .backoffForget nn ∨ call = .emit (.metric (.forgetReplicas nn)) ∨
        ∃ rep, call = .hub (.updateReplication rep) := by
  unfold prepare
  rw [hub_bind]
  refine ⟨.inl trivial, fun reply => ?_⟩
  cases reply with
  | error err =>
    dsimp only
    split_ifs
    · exact ⟨.inr (.inl rfl), fun _ => ⟨.inr (.inr (.inl rfl)), fun _ => trivial⟩⟩
    · trivial
  | ok rep =>
    dsimp only
    split_ifs
    · trivial
    · trivial
    · unfold ensureFinalizer
      split_ifs
      · exact (prepareLive_reading config rep).weaken (fun _ => .inl) fun _ h => h
      · rw [hub_bind]
        refine ⟨.inr (.inr (.inr ⟨_, rfl⟩)), fun reply => ?_⟩
        cases reply with
        | error err => trivial
        | ok stored =>
          exact (prepareLive_reading config stored).weaken (fun _ => .inl) fun _ h => h

/-! ## Reconciles that fail -/

section Failing

variable {fails : EngineCall → Prop} {config : EngineConfig}
  {fleet : Fleet} {nn : NamespacedName} {rep : Replication} {key : SlotKey}

theorem Fleet.Stores.stillRecords (stores : fleet.Stores nn rep)
    (recorded : Recorded rep.status.inventory key) :
    fleet.StillRecords nn key :=
  ⟨rep, stores, recorded⟩

theorem sparesHub_stillRecords {α : Type} {program : EngineProgram α}
    (spares : program.AllCalls EngineCall.SparesHub) (records : fleet.StillRecords nn key) :
    Safe (Fleet.alone fails) unguarded program
      (fun _ current => current.StillRecords nn key) fleet := by
  refine (Safe.undisturbed_within (fun current : Fleet => current.StillRecords nn key) spares ?_
    records).weaken fun _ _ h => h.2
  exact fun hcall hbefore answer =>
    hbefore.hub_eq (Fleet.answers_sparesHub hcall answer)

theorem recordsInventory_stillRecords {α : Type} {program : EngineProgram α}
    {inv : List InventoryEntry}
    (calls : program.AllCalls fun call =>
      call.IsPassive ∨ call.RecordsInventory inv) (recorded : Recorded inv key)
    (records : fleet.StillRecords nn key) :
    Safe (Fleet.alone fails) unguarded program
      (fun _ current => current.StillRecords nn key) fleet := by
  refine (Safe.undisturbed_within (fun current : Fleet => current.StillRecords nn key) calls ?_
    records).weaken fun _ _ h => h.2
  intro before call reply after hcall hbefore answer
  have hcarries : call.CarriesOut namespaceGVK [] [] [key] inv := by
    rcases hcall with hpassive | hrecords
    · exact .passive hpassive
    · exact .records hrecords fun _ _ _ h => h
  exact hbefore.answers List.mem_cons_self (by simp [allowedKeys]) recorded
    hcarries answer

theorem prepare_stillRecords (stores : fleet.Stores nn rep) (hkey : rep.key = nn)
    (recorded : Recorded rep.status.inventory key) :
    Safe (Fleet.alone fails) unguarded (prepare config nn)
      (fun _ current => current.StillRecords nn key) fleet := by
  have hrecords := stores.stillRecords recorded
  unfold prepare
  refine Safe.undisturbed_perform trivial ?_
  rintro reply after ⟨hub, ⟨hreads, rfl⟩, rfl⟩
  cases reply with
  | error err =>
    dsimp only
    split_ifs
    · exact sparesHub_stillRecords ⟨trivial, fun _ => ⟨trivial, fun _ =>
        trivial⟩⟩ hrecords
    · exact Safe.undisturbed_done hrecords
  | ok read =>
    obtain rfl : rep = read :=
      Option.some.inj (Eq.trans (Eq.symm stores) hreads)
    dsimp only
    split_ifs with hdeleted
    · exact Safe.undisturbed_done hrecords
    · exact Safe.undisturbed_done hrecords
    · have hlive : rep.deletionTimestamp = none := by simpa using hdeleted
      have hspares : ∀ other, (prepareLive config other).AllCalls
          EngineCall.SparesHub := fun other =>
        (prepareLive_reading config other).weaken (fun _ h => h.sparesHub) fun _ h => h
      unfold ensureFinalizer
      split_ifs
      · exact sparesHub_stillRecords (hspares rep) hrecords
      · refine Safe.undisturbed_perform trivial ?_
        intro reply after answer
        cases reply with
        | error err =>
          obtain ⟨hub, hanswer, rfl⟩ := answer
          exact Safe.undisturbed_done (hrecords.hub_eq hanswer.1)
        | ok stored =>
          obtain ⟨hafter, _, hresumes⟩ :=
            stores.finalizerWritten hkey hlive answer
          refine sparesHub_stillRecords (hspares stored) (hafter.stillRecords ?_)
          rwa [hresumes.status]

theorem writeStatusIfChanged_fails (next : ReplicationStatus)
    (records : fleet.StillRecords nn key) :
    Safe (Fleet.alone fails) unguarded (writeStatusIfChanged rep next)
      (fun result current => ∀ err, result = .error err → current.StillRecords nn key) fleet := by
  unfold writeStatusIfChanged
  split_ifs
  · exact Safe.undisturbed_done fun _ h => nomatch h
  · refine Safe.undisturbed_call trivial ?_
    rintro reply after ⟨hub, hanswer, rfl⟩
    refine Safe.undisturbed_done ?_
    rintro err rfl
    exact records.hub_eq hanswer.1

theorem finishFanOut_fails (srcHash : String) (states : List TargetState) (delays : List Nat)
    (inv : List InventoryEntry) (retained : Bool) (records : fleet.StillRecords nn key) :
    Safe (Fleet.alone fails) unguarded
      (finishFanOut config nn rep srcHash states delays inv retained)
      (fun result current => ∀ err, result = .error err → current.StillRecords nn key) fleet := by
  unfold finishFanOut
  refine emitAll_alone ?_
  refine Safe.undisturbed_perform trivial ?_
  rintro now after rfl
  dsimp only
  refine Safe.seq (writeStatusIfChanged_fails _ records) ?_
  intro result current hwritten
  cases result with
  | error err => exact Safe.undisturbed_done fun _ _ => hwritten err rfl
  | ok stored =>
    exact emitAll_alone (Safe.undisturbed_done fun _ h => nomatch h)

theorem converge_fails {src : Unstructured} {gvk : GroupVersionKind}
    {policies : List ReplicationPolicy} {slots : List (SlotInfo × Decision)}
    {outcome : RevocationOutcome} (hkind : src.groupVersionKind = gvk)
    (hname : ∀ slot ∈ slots, slot.1.name = "" → src.name = "") (stores : fleet.Stores nn rep)
    (recorded : Recorded rep.status.inventory key) :
    Safe (Fleet.alone fails) unguarded (converge config nn rep src gvk policies slots outcome)
      (fun result current => ∀ err, result = .error err → current.StillRecords nn key) fleet := by
  have hplanned : Recorded (planInventory gvk slots rep.status.inventory) key :=
    (recorded_planInventory_iff _ _ _ _).mpr (.inl recorded)
  have hpersist : Safe (Fleet.alone fails) unguarded
      (persistPlanned rep (planInventory gvk slots rep.status.inventory))
      (fun _ current => current.StillRecords nn key) fleet :=
    recordsInventory_stillRecords ((persistPlanned_calls _ _).weaken
      (fun _ => .inr) fun _ h => h) hplanned (stores.stillRecords recorded)
  unfold converge
  refine Safe.seq hpersist ?_
  intro result current hcurrent
  cases result with
  | error err => exact Safe.undisturbed_done fun _ _ => hcurrent
  | ok copy =>
    dsimp only
    refine Safe.seq (sparesHub_stillRecords (fanOut_sparesHub config nn
      hkind policies outcome hname _) hcurrent) ?_
    intro fan current hcurrent
    refine Safe.seq (sparesHub_stillRecords (collectGarbage_sparesHub config nn _ _ _) hcurrent) ?_
    intro gc current hcurrent
    exact finishFanOut_fails _ _ _ _ _ hcurrent

theorem finishDeletion_stillRecords (gc : FanOut) (records : fleet.StillRecords nn key) :
    Safe (Fleet.alone fails) unguarded (finishDeletion config nn rep gc)
      (fun result current => Recorded gc.inv key ∨
        (∃ err, result = .error err) → current.StillRecords nn key)
      fleet := by
  unfold finishDeletion
  split_ifs with hempty
  · have hgone : ¬ Recorded gc.inv key := by
      rw [List.isEmpty_iff.mp hempty]
      exact not_recorded_nil key
    refine Safe.undisturbed_perform trivial ?_
    rintro reply after ⟨hub, hanswer, rfl⟩
    cases reply with
    | error err =>
      exact Safe.undisturbed_done fun _ => records.hub_eq hanswer.1
    | ok stored =>
      refine Safe.undisturbed_call trivial fun _ _ _ => ?_
      refine Safe.undisturbed_call trivial fun _ _ _ => ?_
      refine Safe.undisturbed_call trivial fun _ _ _ => ?_
      refine Safe.undisturbed_call trivial fun _ _ _ => ?_
      refine Safe.undisturbed_done ?_
      rintro (hrecorded | ⟨err, herr⟩)
      · exact (hgone hrecorded).elim
      · cases herr
  · refine Safe.undisturbed_perform trivial ?_
    rintro now after hafter
    cases hafter
    dsimp only
    by_cases hrecorded : Recorded gc.inv key
    · refine Safe.seq (recordsInventory_stillRecords
        ((writeStatusIfChanged_calls rep _).weaken (fun _ => .inr)
          fun _ h => h) hrecorded records) ?_
      intro result current hcurrent
      cases result with
      | error err => exact Safe.undisturbed_done fun _ => hcurrent
      | ok stored => exact Safe.undisturbed_done fun _ => hcurrent
    · refine Safe.seq (writeStatusIfChanged_fails _ records) ?_
      intro result current hwritten
      cases result with
      | error err => exact Safe.undisturbed_done fun _ => hwritten err rfl
      | ok stored =>
        refine Safe.undisturbed_done ?_
        rintro (h | ⟨err, herr⟩)
        · exact (hrecorded h).elim
        · cases herr

end Failing

/-! ## Who reports orphans -/

def EngineCall.Orphans (key : SlotKey) : EngineCall → Prop
  | .emit (.event (.replicaOrphaned entry)) => keyForEntry entry = key
  | _ => False

section Reports

variable {key : SlotKey}

theorem EngineCall.IsReading.not_orphans {call : EngineCall} (reading : call.IsReading) :
    ¬ call.Orphans key := by
  cases call with
  | emit signal => exact reading.elim
  | _ => exact fun h => h

theorem not_orphans_emit {signal : EngineSignal} (hsignal : ¬ signal.IsOrphaning) :
    ¬ (EngineCall.emit signal).Orphans key := by
  cases signal with
  | metric metric => exact fun h => h
  | event event =>
    cases event with
    | replicaOrphaned entry => exact (hsignal trivial).elim
    | _ => exact fun h => h

variable {signals : List EngineSignal}

theorem emitAll_not_orphans (hsignals : ∀ signal ∈ signals, ¬ signal.IsOrphaning) :
    (emitAll signals).AllCalls fun call => ¬ call.Orphans key :=
  emitAll_allCalls fun signal hmem => not_orphans_emit (hsignals signal hmem)

theorem EngineCall.IsMinor.not_orphans {call : EngineCall} (minor : call.IsMinor) :
    ¬ call.Orphans key := by
  cases call with
  | emit signal => exact not_orphans_emit minor.2
  | _ => exact fun h => h

theorem fanOutSlot_not_orphans (config : EngineConfig) (nn : NamespacedName) (src : Unstructured)
    (gvk : GroupVersionKind) (policies : List ReplicationPolicy) (outcome : RevocationOutcome)
    (fan : FanOut) (slot : SlotInfo × Decision) :
    (fanOutSlot config nn src gvk policies outcome fan slot).AllCalls
      fun call => ¬ call.Orphans key := by
  refine (fanOutSlot_works config nn policies outcome fan slot).weaken ?_ fun _ h => h
  intro call works
  cases works with
  | minor minor => exact minor.not_orphans
  | _ => exact fun h => h

theorem EngineCall.RecordsInventory.not_orphans {call : EngineCall} {inv : List InventoryEntry}
    (records : call.RecordsInventory inv) : ¬ call.Orphans key := by
  cases call with
  | emit signal => exact records.elim
  | _ => exact fun h => h

theorem finishFanOut_not_orphans (config : EngineConfig) (nn : NamespacedName) (rep : Replication)
    (srcHash : String) (states : List TargetState) (delays : List Nat) (inv : List InventoryEntry)
    (revokedRetained : Bool) :
    (finishFanOut config nn rep srcHash states delays inv
      revokedRetained).AllCalls fun call => ¬ call.Orphans key := by
  refine (finishFanOut_calls config nn rep srcHash states delays inv revokedRetained).weaken
    ?_ fun _ h => h
  rintro call (hminor | hrecords)
  · exact hminor.not_orphans
  · exact hrecords.not_orphans

theorem collectGarbage_orphans (config : EngineConfig) (nn : NamespacedName) (sourceUID : String)
    {keep : List SlotKey} (inv : List InventoryEntry) (hkeep : key ∈ keep) :
    (collectGarbage config nn sourceUID keep inv).AllCalls fun call => ¬ call.Orphans key := by
  refine (collectGarbage_cleansUp config nn sourceUID keep inv).weaken ?_ fun _ _ => trivial
  intro call sweeps
  cases sweeps with
  | minor minor => exact minor.not_orphans
  | releases => exact fun h => h
  | collects hmem hother cleans =>
    cases cleans with
    | minor minor => exact minor.not_orphans
    | deletes => exact fun h => h
    | orphans =>
      rintro rfl
      exact hother hkeep

theorem prepare_not_orphans (config : EngineConfig) (nn : NamespacedName) :
    (prepare config nn).AllCalls fun call => ¬ call.Orphans key := by
  refine (prepare_calls config nn).weaken ?_ fun _ h => h
  rintro call (hreading | rfl | rfl | ⟨rep, rfl⟩)
  · exact hreading.not_orphans
  · exact fun h => h
  · exact fun h => h
  · exact fun h => h

theorem ConvergeStages.not_orphans {fails : EngineCall → Prop} {config : EngineConfig}
    {nn : NamespacedName} {rep : Replication} {src : Unstructured} {gvk : GroupVersionKind}
    {policies : List ReplicationPolicy} {slots : List (SlotInfo × Decision)}
    {outcome : RevocationOutcome} {fleet final : Fleet}
    {trace : List (Exchange Fleet EngineCall.Reply)}
    (stages : ConvergeStages fails config nn rep src gvk policies slots outcome fleet trace final)
    (hallowed : key ∈ allowedKeys gvk slots) :
    ∀ exchange ∈ trace, ¬ exchange.request.Orphans key := by
  have hplan := (stages.persists.value_of_within (persistPlanned_calls _ _)).2
  obtain ⟨out, hwrites⟩ := stages.writes
  intro exchange hmem
  have hsegments : exchange ∈ stages.planTrace ++
      (stages.fanTrace ++ (stages.gcTrace ++ stages.writeTrace)) := by
    rwa [← stages.trace_eq]
  simp only [List.mem_append] at hsegments
  rcases hsegments with hmem | hmem | hmem | hmem
  · exact (hplan exchange hmem).not_orphans
  · exact stages.loops.requests (fun fan slot => fanOutSlot_not_orphans
      config nn src gvk policies outcome fan slot) exchange hmem
  · exact (stages.collects.value_of_within (collectGarbage_orphans config nn
      _ _ (List.mem_append_right _ hallowed))).2 exchange hmem
  · exact (hwrites.value_of_within (finishFanOut_not_orphans config nn _ _ _ _ _ _)).2 exchange hmem

end Reports

/-! ## The drops of one reconcile -/

/-- The entry of an applied replica on a cluster that is known and answers. -/
structure InReach
    (fails : EngineCall → Prop) (fleet : Fleet) (entry : InventoryEntry) :
    Prop where
  applied : entry.lastAppliedHash ≠ ""
  named : entry.name ≠ ""
  discovered : fleet.Discovers entry.clusterName
  reachable : Reachable fails entry.clusterName

/-- An applied entry that is gone although an object is left in its slot has
been reported. -/
def DropsLoudly (fails : EngineCall → Prop) (nn : NamespacedName) (rep : Replication)
    (fleet : Fleet) (trace : List (Exchange Fleet EngineCall.Reply)) (final : Fleet) : Prop :=
  ∀ entry ∈ rep.status.inventory, InReach fails fleet entry →
    ¬ final.StillRecords nn (keyForEntry entry) → (final.spokes (keyForEntry entry)).isSome = true →
        Orphaned (keyForEntry entry) trace

/-- Where the reconcile fans out, every object that it finds in an allowed slot
of an applied entry is taken over by some slot. -/
def Prepared.TakesOver (config : EngineConfig) (fails : EngineCall → Prop) (fleet : Fleet)
    (rep : Replication) : Prepared → Prop
  | .fanOut _ src gvk policies slots _ =>
    ∀ entry ∈ rep.status.inventory, InReach fails fleet entry →
      keyForEntry entry ∈ allowedKeys gvk slots →
        ∀ obj, fleet.spokes (keyForEntry entry) = some obj →
          ∃ slot ∈ slots, Accepts config src gvk policies (keyForEntry entry) obj slot
  | _ => True

section Drops

variable {fails : EngineCall → Prop} {config : EngineConfig}
  {fleet final : Fleet} {nn : NamespacedName} {rep : Replication}
  {trace : List (Exchange Fleet EngineCall.Reply)}

theorem dropsLoudly_of_stillRecords
    (records : ∀ entry ∈ rep.status.inventory, final.StillRecords nn (keyForEntry entry)) :
    DropsLoudly fails nn rep fleet trace final :=
  fun entry hmem _ hdropped _ => (hdropped (records entry hmem)).elim

/-- A deletion reports every object it leaves behind. -/
theorem reconcileDeletion_dropsLoudly {result : ApiResult ReconcileOutcome}
    (namespaced : config.Namespaced) (stores : fleet.Stores nn rep)
    (run : Run (Fleet.alone fails) fleet (reconcileDeletion config nn rep)
      trace final (.done result)) :
    DropsLoudly fails nn rep fleet trace final := by
  have hrecords : ∀ entry ∈ rep.status.inventory, fleet.StillRecords nn (keyForEntry entry) :=
    fun entry hmem => stores.stillRecords ⟨entry, hmem, rfl⟩
  unfold reconcileDeletion at run
  split_ifs at run
  · obtain ⟨_, _, hsame⟩ := run.of_done
    obtain rfl : fleet = final := hsame
    exact dropsLoudly_of_stillRecords hrecords
  · obtain ⟨first, second, middle, gc, rfl, hcollect, hfinish⟩ := run.split
    intro entry hmem reach hdropped hleft
    have hmiddle := (sparesHub_stillRecords (collectGarbage_sparesHub config
      nn _ _ _) (hrecords entry hmem)).run_done hcollect
    have hfinal := (finishDeletion_stillRecords gc hmiddle).run_done hfinish
    have hspokes : final.spokes = middle.spokes := by
      refine run_sparesSpokes ((finishDeletion_calls config nn rep gc).weaken
        ?_ fun _ h => h) hfinish
      rintro call (hcalm | rfl)
      · exact hcalm.sparesSpokes
      · trivial
    rcases collectGarbage_fate namespaced reach.discovered
      ⟨entry, hmem, rfl⟩ hcollect with hrecorded | hnone | horphaned
    · exact (hdropped (hfinal (.inl hrecorded))).elim
    · rw [hspokes, hnone] at hleft
      cases hleft
    · exact horphaned.mono (by simp +contextual)

/-- A completed fanout drops no entry silently exactly when every present
object is taken over. -/
theorem ConvergeStages.dropsLoudly_iff {other : Replication} {src : Unstructured}
    {gvk : GroupVersionKind} {policies : List ReplicationPolicy}
    {slots : List (SlotInfo × Decision)} {outcome : RevocationOutcome} {middle : Fleet}
    {earlier rest : List (Exchange Fleet EngineCall.Reply)}
    (stages : ConvergeStages fails config nn other src gvk policies slots
      outcome middle rest final) (namespaced : config.Namespaced)
    (hkind : src.groupVersionKind = gvk) (hgvk : gvk ∈ config.kindGVKs.map Prod.snd)
    (hname : ∀ slot ∈ slots, slot.1.name = "" → src.name = "") (placed : fleet.spokes.WellPlaced)
    (surrounds : fleet.Surrounds middle) (hstatus : other.status = rep.status)
    (hearlier : ∀ key, ∀ exchange ∈ earlier, ¬ exchange.request.Orphans key) :
    DropsLoudly fails nn rep fleet (earlier ++ rest) final ↔
      ∀ entry ∈ rep.status.inventory, InReach fails fleet entry →
        keyForEntry entry ∈ allowedKeys gvk slots →
          ∀ obj, fleet.spokes (keyForEntry entry) = some obj →
            ∃ slot ∈ slots, Accepts config src gvk policies (keyForEntry entry) obj slot := by
  have hplaced : middle.spokes.WellPlaced := by rwa [surrounds.spokes]
  constructor
  · intro loud entry hmem reach hallowed obj hobj
    by_contra hrefused
    have hfate := stages.present namespaced hkind hgvk hname hplaced
      reach.reachable reach.named hallowed (by rw [surrounds.spokes, hobj])
    rw [if_neg hrefused] at hfate
    obtain ⟨hleft, hdropped⟩ := hfate
    obtain ⟨exchange, hexchange, reported, hsame, hrequest⟩ :=
      (loud entry hmem reach hdropped (by rw [hleft]; rfl)).reported
    have horphans : exchange.request.Orphans (keyForEntry entry) := by
      rw [hrequest]
      exact hsame
    rcases List.mem_append.mp hexchange with hexchange | hexchange
    · exact hearlier _ exchange hexchange horphans
    · exact stages.not_orphans hallowed exchange hexchange horphans
  · intro takes entry hmem reach hdropped hleft
    by_cases hallowed : keyForEntry entry ∈ allowedKeys gvk slots
    · cases hobj : fleet.spokes (keyForEntry entry) with
      | some obj =>
        have hfate := stages.present namespaced hkind hgvk hname hplaced
          reach.reachable reach.named hallowed
          (by rw [surrounds.spokes, hobj])
        rw [if_pos (takes entry hmem reach hallowed obj hobj)] at hfate
        exact (hdropped hfate.2).elim
      | none =>
        rcases stages.absent namespaced hkind hgvk hname hplaced
          reach.reachable reach.named hallowed
          (by rw [surrounds.spokes, hobj]) with hnone | hheld
        · rw [hnone] at hleft
          cases hleft
        · exact (hdropped hheld.2).elim
    · have hrecorded : Recorded other.status.inventory (keyForEntry entry) := by
        rw [hstatus]
        exact ⟨entry, hmem, rfl⟩
      have hknown : middle.Discovers entry.clusterName := by
        unfold Fleet.Discovers
        rw [surrounds.records]
        exact reach.discovered
      rcases stages.unallowed namespaced hkind hname hknown hrecorded
        hallowed with hkept | hnone | horphaned
      · exact (hdropped hkept).elim
      · rw [hnone] at hleft
        cases hleft
      · exact horphaned.mono (by simp +contextual)

/-- A reconcile drops no applied replica silently exactly when it fails, or does
not get as far as the fanout, or every object it finds in an allowed slot of an
applied entry can be taken over. -/
theorem applied_drops_reported_iff {result : ApiResult ReconcileOutcome}
    (namespaced : config.Namespaced)
    (placed : fleet.spokes.WellPlaced)
    (stores : fleet.Stores nn rep)
    (hkey : rep.key = nn)
    (run : Run (Fleet.alone fails) fleet (reconcile config nn) trace final (.done result)) :
    ∃ first second middle prepared,
      trace = first ++ second ∧
      Run (Fleet.alone fails) fleet (prepare config nn) first middle (.done prepared) ∧
      Run (Fleet.alone fails) middle (carryOut config nn prepared) second final (.done result) ∧
      (DropsLoudly fails nn rep fleet trace final ↔
        ∀ out, result = .ok out → prepared.TakesOver config fails fleet rep) := by
  rw [reconcile_eq] at run
  obtain ⟨first, second, middle, prepared, rfl, hprepare, hcarry⟩ := run.split
  refine ⟨first, second, middle, prepared, rfl, hprepare, hcarry, ?_⟩
  have hfollows := (prepare_follows stores hkey).run_done hprepare
  have hrecords : ∀ entry ∈ rep.status.inventory,
      middle.StillRecords nn (keyForEntry entry) := fun entry hmem =>
    (prepare_stillRecords stores hkey ⟨entry, hmem, rfl⟩).run_done hprepare
  cases prepared with
  | ended ending =>
    obtain ⟨_, _, hsame⟩ := Run.of_done hcarry
    obtain rfl : middle = final := hsame
    exact iff_of_true (dropsLoudly_of_stillRecords hrecords) fun _ _ => trivial
  | deleting other =>
    obtain ⟨rfl, rfl, _⟩ := hfollows
    refine iff_of_true ?_ fun _ _ => trivial
    have hloud := reconcileDeletion_dropsLoudly namespaced stores hcarry
    intro entry hmem reach hdropped hleft
    exact (hloud entry hmem reach hdropped hleft).mono (by simp +contextual)
  | simple other reason message =>
    obtain ⟨_, _, hresumes, _⟩ := hfollows
    refine iff_of_true (dropsLoudly_of_stillRecords ?_) fun _ _ => trivial
    intro entry hmem
    have hrecorded : Recorded other.status.inventory (keyForEntry entry) := by
      rw [hresumes.status]
      exact ⟨entry, hmem, rfl⟩
    exact (recordsInventory_stillRecords (finishSimple_calls other reason
      message minute) hrecorded (hrecords entry hmem)).run_done hcarry
  | fanOut other src gvk policies slots outcome =>
    obtain ⟨hsurrounds, hother, hresumes, _, _, labels, targets, _, hdecided, _⟩ := hfollows
    obtain ⟨signals, rest, point, _, rfl, hsignals, hconverge⟩ :=
      hcarry.split
    obtain rfl : point = middle := emitAll_same.run_done hsignals
    cases result with
    | error err =>
      refine iff_of_true (dropsLoudly_of_stillRecords ?_) fun _ h => nomatch h
      intro entry hmem
      refine (converge_fails hdecided.groupVersionKind
        hdecided.slot_name hother ?_).run_done hconverge err rfl
      rw [hresumes.status]
      exact ⟨entry, hmem, rfl⟩
    | ok out =>
      obtain ⟨stages⟩ := converge_stages hdecided.groupVersionKind
        hdecided.slot_name hother (hresumes.key.trans hkey) hconverge
      have hearlier : ∀ key, ∀ exchange ∈ first ++ signals, ¬ exchange.request.Orphans key := by
        intro key exchange hmem
        rcases List.mem_append.mp hmem with hmem | hmem
        · exact (hprepare.value_of_within (prepare_not_orphans config nn)).2 exchange hmem
        · refine (hsignals.value_of_within (emitAll_not_orphans ?_)).2 exchange hmem
          rw [hdecided.outcome_eq]
          exact fun _ hmem => (applyRevocations_minor _ _ _ _ _ hmem).2
      rw [← List.append_assoc, stages.dropsLoudly_iff namespaced
        hdecided.groupVersionKind (mem_kindGVKs_of_lookup hdecided.kind)
        hdecided.slot_name placed hsurrounds hresumes.status hearlier]
      exact ⟨fun h _ _ => h, fun h => h out rfl⟩

end Drops

namespace Sample

def appliedReplication : Replication :=
  { replication with
    finalizers := [finalizerName]
    status := { ReplicationStatus.empty with
      inventory := [replicaEntry source] } }

def applied (obj : Unstructured) : Fleet :=
  { withReplica obj with
    hub := { hub with
      replications := fun other =>
        if other = key then some appliedReplication else none } }

theorem applied_wellPlaced (obj : Unstructured) : (applied obj).spokes.WellPlaced :=
  spokes_wellPlaced.update ⟨by decide, by decide⟩ obj

def reportsOrphan : EngineCall → Bool
  | .emit (.event (.replicaOrphaned _)) => true
  | _ => false

def disowned : Unstructured :=
  { replicaOf source with labels := ∅ }

end Sample

open Sample

theorem applied_drops_reported_iff_sample :
    (soloReconcile (applied (replicaOf source))).value = .ok ⟨600⟩ ∧
    ∃ first second middle prepared,
      (soloReconcile (applied (replicaOf source))).trace = first ++ second ∧
      Run (Fleet.alone fun _ => False) (applied (replicaOf source)) (prepare engine key) first
        middle (.done prepared) ∧
      Run (Fleet.alone fun _ => False) middle (carryOut engine key prepared) second
        (soloReconcile (applied (replicaOf source))).final
        (.done (soloReconcile (applied (replicaOf source))).value) ∧
      (DropsLoudly (fun _ => False) key appliedReplication (applied (replicaOf source))
          (soloReconcile (applied (replicaOf source))).trace
          (soloReconcile (applied (replicaOf source))).final ↔
        ∀ out,
          (soloReconcile (applied (replicaOf source))).value = .ok out →
          prepared.TakesOver engine (fun _ => False) (applied (replicaOf source))
            appliedReplication) :=
  ⟨by decide +kernel, applied_drops_reported_iff (by decide)
    (applied_wellPlaced _) rfl rfl (run_soloReconcile _)⟩

/-- The replica was disowned on the spoke.  The reconcile refuses it, forgets
its entry and reports no orphan. -/
theorem refused_replica_dropped_silently :
    ∃ trace final out,
      Run (Fleet.alone fun _ => False) (applied disowned) (reconcile engine key) trace final
        (.done (.ok out)) ∧
      (applied disowned).Stores key appliedReplication ∧
      ¬ DropsLoudly (fun _ => False) key appliedReplication (applied disowned) trace final := by
  have hvalue : (soloReconcile (applied disowned)).value = .ok ⟨600⟩ := by
    decide +kernel
  have hrun := run_soloReconcile (applied disowned)
  rw [hvalue] at hrun
  refine ⟨_, _, _, hrun, rfl, ?_⟩
  intro loud
  have hdropped : ((soloReconcile (applied disowned)).final.hub.replications
        key).any (fun stored =>
          Recorded stored.status.inventory slot) = false := by
    decide +kernel
  have hsilent : (soloReconcile (applied disowned)).trace.all (fun exchange =>
        !reportsOrphan exchange.request) = true := by
    decide +kernel
  have hleft : ((soloReconcile (applied disowned)).final.spokes
        slot).isSome = true := by
    decide +kernel
  have hreach : InReach (fun _ => False) (applied disowned)
      (replicaEntry source) := by
    refine ⟨by decide +kernel, by decide, ?_, fun _ _ h => h⟩
    intro hmissing
    exact hmissing cluster.key _ rfl rfl
  have horphaned := loud _ List.mem_cons_self hreach (by
    rintro ⟨stored, hstored, hrecorded⟩
    rw [hstored] at hdropped
    exact of_decide_eq_false hdropped hrecorded) hleft
  obtain ⟨exchange, hmem, entry, _, hrequest⟩ := horphaned.reported
  have hquiet := List.all_eq_true.mp hsilent exchange hmem
  rw [hrequest] at hquiet
  cases hquiet

end K8sR8r
