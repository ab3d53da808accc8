import K8sR8r.DriftAccounting

/-!
# What becomes of one slot

One recorded slot followed through a reconcile.  On a cluster that answers,
converging an allowed slot has one outcome for each object it can find there:
the object is refused and its entry goes, or the slot ends up holding a marked
replica and its entry stays.  Collection drops the entry of an object it finds
only after it deleted the object or reported it as orphaned.
-/

namespace K8sR8r

open Interaction

def EngineCall.Reaches (cluster : String) : EngineCall → Prop
  | .transportGet target _ _ => target = cluster
  | .transportApply target _ => target = cluster
  | .transportDelete target _ _ => target = cluster
  | _ => False

def Reachable (fails : EngineCall → Prop) (cluster : String) : Prop :=
  ∀ call : EngineCall, call.Reaches cluster → ¬ fails call

/-- The engine finds the object at an allowed slot and will not touch it. -/
def Refuses (config : EngineConfig) (src obj : Unstructured) (allowed : List ConflictPolicy) :
    Prop :=
  classifyReplicaOwnership obj.labels src.uid ≠ .stripped ∧
    (decideConflict config.renderer obj src (config.renderer.sourceHash src) allowed).action = .fail
deriving Decidable

theorem not_refuses_of_managed {config : EngineConfig} {src obj : Unstructured}
    {allowed : List ConflictPolicy} (hmanaged : isManagedReplica obj.labels src.uid = true) :
    ¬ Refuses config src obj allowed := by
  rintro ⟨_, hfail⟩
  rw [not_managed_of_decideConflict_fail hfail] at hmanaged
  cases hmanaged

theorem Fleet.answers_wellPlaced {fails : EngineCall → Prop} {fleet after : Fleet}
    {call : EngineCall} {reply : call.Reply} (answer : fleet.Answers fails call reply after)
    (placed : fleet.spokes.WellPlaced) : after.spokes.WellPlaced := by
  cases Fleet.answers_effect answer with
  | apply admits => exact placed.update admits _
  | delete => exact placed.erase _
  | _ => exact placed

/-! ## Converging on a cluster that answers -/

section Converging

variable {fails : EngineCall → Prop} {config : EngineConfig}
  {nn : NamespacedName} {src obj : Unstructured} {gvk : GroupVersionKind}
  {slot : SlotInfo} {fleet : Fleet}

theorem admits_of_placed (placed : fleet.spokes.WellPlaced) (hnamed : slot.name ≠ "")
    (hobj : fleet.spokes (slot.key gvk) = some obj) :
    fleet.spokes.Admits (slot.key gvk) :=
  ⟨hnamed, placed _ (by rw [hobj]; rfl)⟩

theorem apply_reachable {cluster : String} {payload : Unstructured} {reply : ApiResult Unit}
    {after : Fleet} (reachable : Reachable fails cluster)
    (admits : fleet.spokes.Admits (slotOf cluster payload.groupVersionKind payload.key))
    (answer : fleet.Answers fails (.transportApply cluster payload) reply after) :
    reply = .ok () := by
  obtain ⟨spokes, hanswer, _⟩ := answer
  cases reply with
  | ok _ => rfl
  | error err =>
    rcases hanswer.2 with hfails | hrejects
    · exact (reachable (.transportApply cluster payload) rfl hfails).elim
    · exact (hrejects admits).elim

theorem applyWithRecreate_reachable {payload : Unstructured}
    (reachable : Reachable fails slot.cluster)
    (admits : fleet.spokes.Admits (slotOf slot.cluster payload.groupVersionKind payload.key)) :
    Safe (Fleet.alone fails) unguarded (applyWithRecreate slot.cluster payload)
      (fun result _ => result = .ok ()) fleet := by
  unfold applyWithRecreate
  refine Safe.undisturbed_perform trivial ?_
  intro reply after answer
  obtain rfl := apply_reachable reachable admits answer
  exact Safe.undisturbed_done rfl

theorem reported_ready {program : EngineProgram (ApiResult Unit)} {signals : List EngineSignal}
    (writes : Safe (Fleet.alone fails) unguarded program (fun result _ => result = .ok ()) fleet) :
    Safe (Fleet.alone fails) unguarded
      (do
        match ← program with
        | .error err => pure (SlotVerdict.ofErr err)
        | .ok () => do
          emitAll signals
          pure SlotVerdict.ready)
      (fun verdict _ => verdict = .ready) fleet := by
  refine Safe.seq writes ?_
  rintro result current rfl
  exact emitAll_alone (Safe.undisturbed_done rfl)

theorem ensureNamespace_reachable (reachable : Reachable fails slot.cluster)
    (placed : fleet.spokes.WellPlaced) (hcore : ¬ (gvk.group = "" ∧ gvk.kind = "Namespace"))
    (hobj : fleet.spokes (slot.key gvk) = some obj) (allowCreate : Bool) :
    Safe (Fleet.alone fails) unguarded (ensureNamespace slot.cluster slot.ns allowCreate)
      (fun result current => result = .ensured ∧ current = fleet) fleet := by
  have hplaced : slot.ns ≠ "" ∧
      (fleet.spokes (namespaceSlot slot.cluster slot.ns)).isSome = true := by
    have hslot : (slot.key gvk).isNamespace = false :=
      isNamespace_slotOf hcore slot.cluster ⟨slot.ns, slot.name⟩
    rcases placed _ (by rw [hobj]; rfl) with hnamespace | h
    · rw [hslot] at hnamespace
      cases hnamespace
    · exact h
  unfold ensureNamespace
  refine Safe.undisturbed_perform trivial ?_
  rintro reply after ⟨hget, hafter⟩
  cases hafter
  cases reply with
  | ok _ => exact Safe.undisturbed_done ⟨rfl, rfl⟩
  | error err =>
    have hmissing : if err.isNotFound = true then
        slot.ns ≠ "" ∧ fleet.spokes (namespaceSlot slot.cluster slot.ns) = none
      else fails (.transportGet slot.cluster namespaceGVK ⟨"", slot.ns⟩) ∨ slot.ns = "" := hget
    split_ifs at hmissing
    · rw [hmissing.2] at hplaced
      cases hplaced.2
    · rcases hmissing with hfails | hempty
      · exact (reachable (.transportGet _ _ _) rfl hfails).elim
      · exact (hplaced.1 hempty).elim

/-- What converging makes of an object on a cluster that answers. -/
theorem convergeSlot_reachable (reachable : Reachable fails slot.cluster)
    (placed : fleet.spokes.WellPlaced) (hnamed : slot.name ≠ "")
    (hkind : src.groupVersionKind = gvk) (hobj : fleet.spokes (slot.key gvk) = some obj)
    (allowed : List ConflictPolicy) :
    Safe (Fleet.alone fails) unguarded (convergeSlot config src gvk slot allowed)
      (fun verdict current => if Refuses config src obj allowed then
          (∃ reason message, verdict = .refused reason message) ∧ current = fleet
        else verdict = .ready) fleet := by
  have hadmits := admits_of_placed placed hnamed hobj
  have hrender : slotOf slot.cluster
      (config.renderer.render src slot.ns slot.name).1.groupVersionKind
      (config.renderer.render src slot.ns slot.name).1.key = slot.key gvk := by
    rw [← hkind]
    exact slotOf_render config.renderer fun h => (hnamed h).elim
  have hwrites : Safe (Fleet.alone fails) unguarded (applyWithRecreate slot.cluster
        (config.renderer.render src slot.ns slot.name).1)
      (fun result _ => result = .ok ()) fleet :=
    applyWithRecreate_reachable reachable (by rwa [hrender])
  unfold convergeSlot
  dsimp only
  refine Safe.undisturbed_perform trivial ?_
  rintro reply after ⟨hget, hafter⟩
  cases hafter
  cases reply with
  | error err =>
    have hmissing : if err.isNotFound = true then
        slot.name ≠ "" ∧ fleet.spokes (slot.key gvk) = none
      else fails (.transportGet slot.cluster gvk ⟨slot.ns, slot.name⟩) ∨ slot.name = "" := hget
    split_ifs at hmissing
    · rw [hobj] at hmissing
      cases hmissing.2
    · rcases hmissing with hfails | hempty
      · exact (reachable (.transportGet _ _ _) rfl hfails).elim
      · exact (hnamed hempty).elim
  | ok existing =>
    have hfound : fleet.spokes (slot.key gvk) = some existing := hget.2
    obtain rfl : obj = existing := Option.some.inj (hobj.symm.trans hfound)
    dsimp only
    by_cases hstripped : classifyReplicaOwnership obj.labels src.uid = .stripped
    · rw [if_pos hstripped]
      have haccepts : ¬ Refuses config src obj allowed :=
        fun refuses => refuses.1 hstripped
      simp only [if_neg haccepts]
      exact reported_ready hwrites
    · rw [if_neg hstripped]
      have haccepts : (decideConflict config.renderer obj src
          (config.renderer.render src slot.ns slot.name).2
          allowed).action ≠ .fail → ¬ Refuses config src obj allowed :=
        fun hne refuses => hne refuses.2
      unfold convergeExisting
      dsimp only
      cases haction : (decideConflict config.renderer obj src
          (config.renderer.render src slot.ns slot.name).2
          allowed).action with
      | fail =>
        have hrefuses : Refuses config src obj allowed :=
          ⟨hstripped, haction⟩
        simp only [if_pos hrefuses]
        exact emitAll_alone (Safe.undisturbed_done ⟨⟨_, _, rfl⟩, rfl⟩)
      | adopt =>
        simp only [if_neg (haccepts (by rw [haction]; decide))]
        refine emitAll_alone ?_
        refine Safe.undisturbed_perform trivial ?_
        intro reply later answer
        obtain rfl := apply_reachable reachable hadmits answer
        exact emitAll_alone (Safe.undisturbed_done rfl)
      | overwrite =>
        simp only [if_neg (haccepts (by rw [haction]; decide))]
        exact emitAll_alone (reported_ready hwrites)
      | apply =>
        simp only [if_neg (haccepts (by rw [haction]; decide))]
        by_cases hwrite : StringMap.get obj.annotations annotationSourceHash ≠
                (config.renderer.render src slot.ns slot.name).2 ∨
              config.renderer.sourceHash obj ≠ (config.renderer.render src slot.ns slot.name).2
        · rw [if_pos hwrite]
          exact reported_ready hwrites
        · rw [if_neg hwrite]
          exact Safe.undisturbed_done rfl

def SlotVerdict.settled (gvk : GroupVersionKind) (slot : SlotInfo) (hash : String)
    (inv : List InventoryEntry) : SlotVerdict → List InventoryEntry
  | .retry _ _ => inv
  | .refused _ _ => removeEntry inv (slot.key gvk)
  | .ready => upsertEntry (appliedEntry slot gvk hash) inv

variable {inv : List InventoryEntry} {eff : EffectiveOptions}

theorem settleSlot_settles {hash : String} (verdict : SlotVerdict) :
    Safe (Fleet.alone fails) unguarded (settleSlot nn gvk slot hash inv verdict)
      (fun out current => current = fleet ∧ out.inv = verdict.settled gvk slot hash inv) fleet := by
  cases verdict with
  | retry reason message =>
    refine Safe.undisturbed_call trivial ?_
    rintro delay after rfl
    exact Safe.undisturbed_done ⟨rfl, rfl⟩
  | refused reason message => exact Safe.undisturbed_done ⟨rfl, rfl⟩
  | ready =>
    refine Safe.undisturbed_call trivial ?_
    rintro _ after rfl
    refine Safe.undisturbed_call trivial ?_
    rintro _ later rfl
    exact Safe.undisturbed_done ⟨rfl, rfl⟩

theorem recorded_settled_ready (gvk : GroupVersionKind) (slot : SlotInfo) (hash : String)
    (inv : List InventoryEntry) :
    Recorded (SlotVerdict.ready.settled gvk slot hash inv) (slot.key gvk) :=
  (recorded_upsertEntry_iff _ _ _).mpr (.inl rfl)

/-- A present object is refused and its entry goes, or a marked replica is
left and recorded. -/
theorem applyTarget_present (reachable : Reachable fails slot.cluster)
    (placed : fleet.spokes.WellPlaced) (hnamed : slot.name ≠ "")
    (hkind : src.groupVersionKind = gvk) (hcore : ¬ (gvk.group = "" ∧ gvk.kind = "Namespace"))
    (hobj : fleet.spokes (slot.key gvk) = some obj) :
    Safe (Fleet.alone fails) unguarded (applyTarget config nn src gvk slot eff inv)
      (fun out current =>
        if Refuses config src obj eff.allowedConflictPolicies then
          current = fleet ∧ out.inv = removeEntry inv (slot.key gvk)
        else current.spokes.HoldReplica config.renderer src (slot.key gvk) ∧
          Recorded out.inv (slot.key gvk)) fleet := by
  unfold applyTarget
  refine Safe.seq (ensureNamespace_reachable reachable placed hcore hobj _) ?_
  rintro _ current ⟨rfl, hcurrent⟩
  cases hcurrent
  refine Safe.seq (Safe.and (convergeSlot_reachable reachable placed hnamed
    hkind hobj _) (convergeSlot_marks hkind (fun hempty => (hnamed hempty).elim) _)) ?_
  rintro verdict later ⟨hverdict, hmarks⟩
  by_cases hrefuses : Refuses config src obj eff.allowedConflictPolicies
  · simp only [if_pos hrefuses] at hverdict ⊢
    obtain ⟨⟨reason, message, rfl⟩, rfl⟩ := hverdict
    exact Safe.undisturbed_done ⟨rfl, rfl⟩
  · simp only [if_neg hrefuses] at hverdict ⊢
    subst hverdict
    refine (settleSlot_settles _).weaken ?_
    rintro out current ⟨rfl, hinv⟩
    rw [hinv]
    exact ⟨hmarks rfl, recorded_settled_ready _ _ _ _⟩

theorem convergeSlot_absent (hnone : fleet.spokes (slot.key gvk) = none)
    (allowed : List ConflictPolicy) :
    Safe (Fleet.alone fails) unguarded (convergeSlot config src gvk slot allowed)
      (fun verdict current => verdict ≠ .ready → current.spokes (slot.key gvk) = none) fleet := by
  unfold convergeSlot
  dsimp only
  refine Safe.undisturbed_perform trivial ?_
  rintro reply after ⟨hget, hafter⟩
  cases hafter
  cases reply with
  | ok existing =>
    have hfound : fleet.spokes (slot.key gvk) = some existing := hget.2
    rw [hnone] at hfound
    cases hfound
  | error err =>
    dsimp only
    split_ifs
    · refine Safe.undisturbed_call trivial ?_
      rintro reply after ⟨spokes, hanswer, rfl⟩
      cases reply with
      | ok _ => exact Safe.undisturbed_done fun hne => (hne rfl).elim
      | error err =>
        have hsame : spokes = fleet.spokes := hanswer.1
        rw [hsame]
        exact Safe.undisturbed_done fun _ => hnone
    · exact Safe.undisturbed_done fun _ => hnone

theorem applyTarget_absent (hnamed : slot.name ≠ "") (hkind : src.groupVersionKind = gvk)
    (hnone : fleet.spokes (slot.key gvk) = none) :
    Safe (Fleet.alone fails) unguarded (applyTarget config nn src gvk slot eff inv)
      (fun out current => current.spokes (slot.key gvk) = none ∨
        current.spokes.HoldReplica config.renderer src (slot.key gvk) ∧
          Recorded out.inv (slot.key gvk)) fleet := by
  unfold applyTarget
  refine Safe.seq (ensureNamespace_spares (slot.key gvk)
    (fun hns heq => hns (congrArg SlotKey.ns heq)) _) ?_
  rintro result current hkept
  have hcurrent := hkept.trans hnone
  cases result with
  | missing text =>
    refine Safe.undisturbed_call trivial ?_
    rintro delay after rfl
    exact Safe.undisturbed_done (.inl hcurrent)
  | failed err =>
    refine (settleSlot_settles _).weaken ?_
    rintro out later ⟨rfl, _⟩
    exact .inl hcurrent
  | ensured =>
    refine Safe.seq (Safe.and (convergeSlot_absent hcurrent _) (convergeSlot_marks hkind
        (fun hempty => (hnamed hempty).elim) _)) ?_
    rintro verdict later ⟨habsent, hmarks⟩
    refine (settleSlot_settles _).weaken ?_
    rintro out current ⟨rfl, hinv⟩
    by_cases hready : verdict = .ready
    · rw [hinv, hready]
      exact .inr ⟨hmarks hready, recorded_settled_ready _ _ _ _⟩
    · exact .inl (habsent hready)

end Converging


/-! ## The loop over the slots -/

variable {fails : EngineCall → Prop} {trace : List (Exchange Fleet EngineCall.Reply)}

theorem alone_stable (assertion : Fleet → Prop) : Stable (Fleet.alone fails) assertion :=
  Safe.undisturbed_stable assertion

theorem run_wellPlaced {α : Type} {program : EngineProgram α} {value : α} {fleet final : Fleet}
    (run : Run (Fleet.alone fails) fleet program trace final (.done value))
    (placed : fleet.spokes.WellPlaced) : final.spokes.WellPlaced := by
  have hsafe : Safe (Fleet.alone fails) unguarded program
      (fun _ current => True ∧ current.spokes.WellPlaced) fleet :=
    Safe.undisturbed_within (fun current : Fleet => current.spokes.WellPlaced)
      (Program.within_true program)
      (fun _ hplaced answer => Fleet.answers_wellPlaced answer hplaced) placed
  exact (hsafe.run_done run).2

theorem run_records {α : Type} {program : EngineProgram α} {value : α} {fleet final : Fleet}
    (run : Run (Fleet.alone fails) fleet program trace final (.done value)) :
    final.records = fleet.records := by
  have hsafe : Safe (Fleet.alone fails) unguarded program
      (fun _ current => True ∧ current.records = fleet.records) fleet :=
    Safe.undisturbed_within (fun current : Fleet => current.records = fleet.records)
      (Program.within_true program)
      (fun _ hbefore answer =>
        (Fleet.answers_records answer).trans hbefore) rfl
  exact (hsafe.run_done run).2

def slotOptions (policies : List ReplicationPolicy) (dec : Decision) : EffectiveOptions :=
  resolveOptions (policiesByName policies dec.matchedPolicies)

def Accepts (config : EngineConfig) (src : Unstructured) (gvk : GroupVersionKind)
    (policies : List ReplicationPolicy) (key : SlotKey) (obj : Unstructured)
    (slot : SlotInfo × Decision) : Prop :=
  slot.2.allowed = true ∧ slot.1.key gvk = key ∧ ¬ Refuses config src obj
      (slotOptions policies slot.2).allowedConflictPolicies
deriving Decidable

def Held (renderer : Renderer) (src : Unstructured) (key : SlotKey) (inv : List InventoryEntry)
    (fleet : Fleet) : Prop :=
  fleet.spokes.HoldReplica renderer src key ∧ Recorded inv key

section Loops

variable {fails : EngineCall → Prop} {config : EngineConfig}
  {nn : NamespacedName} {src : Unstructured} {gvk : GroupVersionKind}
  {policies : List ReplicationPolicy} {outcome : RevocationOutcome}
  {key : SlotKey}

variable {fan last : FanOut} {slot : SlotInfo × Decision} {fleet final : Fleet}
  {slots : List (SlotInfo × Decision)}

section

variable (hkind : src.groupVersionKind = gvk) (hname : slot.1.name = "" → src.name = "")
  (helsewhere : ¬ (slot.2.allowed = true ∧ slot.1.key gvk = key))
include hkind hname helsewhere

theorem fanOutSlot_recorded :
    (fanOutSlot config nn src gvk policies outcome fan slot).Within (fun _ => True)
      (fun next => Recorded next.inv key ↔ Recorded fan.inv key) := by
  unfold fanOutSlot
  split_ifs with hallowed
  · have hne : key ≠ slot.1.key gvk :=
      fun h => helsewhere ⟨hallowed, h.symm⟩
    refine Program.Within.bind ((applyTarget_within config hkind hname nn
      (slotOptions policies slot.2) fan.inv).weaken (fun _ _ => trivial) fun _ h => h) ?_
    exact fun out htouches => htouches.keepsOthers key hne
  · exact Program.Within.bind (Program.within_true _) fun _ _ => Iff.rfl

theorem fanOutSlot_sparesSlot (hcore : ¬ (gvk.group = "" ∧ gvk.kind = "Namespace"))
    (hkey : key.isNamespace = false) :
    (fanOutSlot config nn src gvk policies outcome fan slot).AllCalls
      (EngineCall.SparesSlot key) := by
  unfold fanOutSlot
  split_ifs with hallowed
  · have hne : slot.1.key gvk ≠ key := fun h => helsewhere ⟨hallowed, h⟩
    exact Program.AllCalls.bind (applyTarget_sparesSlot hkind hname hcore hkey hne) fun _ => trivial
  · exact Program.AllCalls.bind (emitAll_allCalls fun _ _ => trivial) fun _ => trivial

theorem fanOutSlot_elsewhere (hcore : ¬ (gvk.group = "" ∧ gvk.kind = "Namespace"))
    (hkey : key.isNamespace = false) :
    Safe (Fleet.alone fails) unguarded (fanOutSlot config nn src gvk policies outcome fan slot)
      (fun next current => current.spokes key = fleet.spokes key ∧
        (Recorded next.inv key ↔ Recorded fan.inv key)) fleet := by
  refine (Safe.undisturbed_within (fun current : Fleet => current.spokes key = fleet.spokes key)
    ((fanOutSlot_recorded hkind hname helsewhere).and
      (fanOutSlot_sparesSlot hkind hname helsewhere hcore hkey))
    ?_ rfl).weaken fun _ _ h => ⟨h.2, h.1.1⟩
  exact fun hcall hbefore answer =>
    (Fleet.answers_sparesSlot hcall.2 answer).trans hbefore

end

theorem fanOutSlot_present {obj : Unstructured} (reachable : Reachable fails key.cluster)
    (placed : fleet.spokes.WellPlaced) (hnamed : key.name ≠ "")
    (hkind : src.groupVersionKind = gvk) (hcore : ¬ (gvk.group = "" ∧ gvk.kind = "Namespace"))
    (hallowed : slot.2.allowed = true) (hslot : slot.1.key gvk = key)
    (hobj : fleet.spokes key = some obj) :
    Safe (Fleet.alone fails) unguarded (fanOutSlot config nn src gvk policies outcome fan slot)
      (fun next current => if Refuses config src obj
          (slotOptions policies slot.2).allowedConflictPolicies then
          current = fleet ∧ next.inv = removeEntry fan.inv key
        else Held config.renderer src key next.inv current) fleet := by
  subst hslot
  unfold fanOutSlot
  rw [if_pos hallowed]
  refine Safe.seq (applyTarget_present reachable placed hnamed hkind hcore hobj) ?_
  exact fun out current hout => Safe.undisturbed_done hout

section

variable (reachable : Reachable fails key.cluster) (hnamed : key.name ≠ "")
  (hkey : key.isNamespace = false) (hkind : src.groupVersionKind = gvk)
  (hcore : ¬ (gvk.group = "" ∧ gvk.kind = "Namespace"))
  (hname : ∀ slot ∈ slots, slot.1.name = "" → src.name = "")
  (loop : Loop (Fleet.alone fails) (fanOutSlot config nn src gvk policies outcome) fleet fan
    slots trace final last)
  (placed : fleet.spokes.WellPlaced)
include reachable hnamed hkey hkind hcore hname loop placed

theorem loop_held (held : Held config.renderer src key fan.inv fleet) :
    Held config.renderer src key last.inv final := by
  refine (loop.invariant (fun fan fleet => fleet.spokes.WellPlaced ∧
      Held config.renderer src key fan.inv fleet)
    (fun _ => @alone_stable _ _) ?_ ⟨placed, held⟩).2
  rintro fleet middle fan next slot segment hmem run ⟨placed, held⟩
  refine ⟨run_wellPlaced run placed, ?_⟩
  obtain ⟨obj, hobj, hmanaged, hhash⟩ := held.1
  by_cases hhere : slot.2.allowed = true ∧ slot.1.key gvk = key
  · have hout := (fanOutSlot_present reachable placed hnamed hkind hcore
      hhere.1 hhere.2 hobj).run_done run
    rwa [if_neg (not_refuses_of_managed hmanaged)] at hout
  · obtain ⟨hsame, hrecorded⟩ := (fanOutSlot_elsewhere hkind
      (hname slot hmem) hhere hcore hkey).run_done run
    exact ⟨⟨obj, hsame.trans hobj, hmanaged, hhash⟩, hrecorded.mpr held.2⟩

/-- A present object is taken over by the first slot that accepts it; without
one it stays and any slot at its key costs it the entry. -/
theorem loop_present {obj : Unstructured} (hobj : fleet.spokes key = some obj) :
    if ∃ slot ∈ slots, Accepts config src gvk policies key obj slot then
      Held config.renderer src key last.inv final
    else final.spokes key = some obj ∧ (Recorded last.inv key ↔
        Recorded fan.inv key ∧ key ∉ allowedKeys gvk slots) := by
  induction loop with
  | nil change =>
    obtain rfl := change
    simp [hobj, allowedKeys]
  | @cons fleet middle final fan next last slot slots first second head tail
      ih =>
      have hplaced := run_wellPlaced head placed
      have hrest : ∀ other ∈ slots, other.1.name = "" → src.name = "" :=
        fun other hmem => hname other (List.mem_cons_of_mem _ hmem)
      simp only [List.mem_cons, exists_eq_or_imp]
      by_cases hhere : slot.2.allowed = true ∧ slot.1.key gvk = key
      · have hout := (fanOutSlot_present reachable placed hnamed hkind hcore
          hhere.1 hhere.2 hobj).run_done head
        have hallowed : key ∈ allowedKeys gvk (slot :: slots) :=
          (mem_allowedKeys_iff _ _ _).mpr ⟨slot, List.mem_cons_self, hhere⟩
        by_cases hrefuses : Refuses config src obj
            (slotOptions policies slot.2).allowedConflictPolicies
        · rw [if_pos hrefuses] at hout
          obtain ⟨rfl, hinv⟩ := hout
          have haccepts : ¬ Accepts config src gvk policies key obj slot :=
            fun accepts => accepts.2.2 hrefuses
          have hgone : ¬ Recorded next.inv key := by
            rw [hinv, recorded_removeEntry_iff]
            exact fun h => h.2 rfl
          have hlater := ih hrest hplaced hobj
          simp only [haccepts, false_or, hgone, hallowed, not_true,
            and_false, false_and] at hlater ⊢
          exact hlater
        · rw [if_neg hrefuses] at hout
          rw [if_pos (.inl ⟨hhere.1, hhere.2, hrefuses⟩)]
          exact loop_held reachable hnamed hkey hkind hcore hrest tail hplaced hout
      · obtain ⟨hsame, hrecorded⟩ := (fanOutSlot_elsewhere hkind
          (hname slot List.mem_cons_self) hhere hcore hkey).run_done head
        have haccepts : ¬ Accepts config src gvk policies key obj slot :=
          fun accepts => hhere ⟨accepts.1, accepts.2.1⟩
        have hkeys : key ∈ allowedKeys gvk (slot :: slots) ↔ key ∈ allowedKeys gvk slots := by
          simp [mem_allowedKeys_iff, hhere]
        have hlater := ih hrest hplaced (hsame.trans hobj)
        simpa only [haccepts, false_or, hrecorded, hkeys] using hlater

theorem loop_absent (hnone : fleet.spokes key = none) :
    final.spokes key = none ∨ Held config.renderer src key last.inv final := by
  induction loop with
  | nil change =>
    obtain rfl := change
    exact .inl hnone
  | @cons fleet middle final fan next last slot slots first second head tail
      ih =>
      have hplaced := run_wellPlaced head placed
      have hrest : ∀ other ∈ slots, other.1.name = "" → src.name = "" :=
        fun other hmem => hname other (List.mem_cons_of_mem _ hmem)
      by_cases hhere : slot.2.allowed = true ∧ slot.1.key gvk = key
      · obtain ⟨hallowed, rfl⟩ := hhere
        unfold fanOutSlot at head
        rw [if_pos hallowed] at head
        obtain ⟨segment, rest, point, out, rfl, hserved, hdone⟩ := head.split
        obtain ⟨rfl, hnext, hsame⟩ := hdone.of_done
        obtain rfl := Program.done.inj hnext
        obtain rfl : point = middle := hsame
        rcases (applyTarget_absent hnamed hkind hnone).run_done hserved
          with hstill | hheld
        · exact ih hrest hplaced hstill
        · exact .inr (loop_held reachable hnamed hkey hkind hcore hrest tail hplaced hheld)
      · obtain ⟨hsame, _⟩ := (fanOutSlot_elsewhere hkind
          (hname slot List.mem_cons_self) hhere hcore hkey).run_done head
        exact ih hrest hplaced (hsame.trans hnone)

end

end Loops

/-! ## Collecting -/

/-- The replica was counted and reported as orphaned. -/
structure Orphaned
    {World : Type} (key : SlotKey)
    (trace : List (Exchange World EngineCall.Reply)) : Prop where
  counted : ∃ exchange ∈ trace, exchange.request =
    .emit (.metric (.ownershipLost key.cluster .orphaned))
  reported : ∃ exchange ∈ trace, ∃ entry, keyForEntry entry = key ∧
    exchange.request = .emit (.event (.replicaOrphaned entry))

variable {key : SlotKey}

theorem Orphaned.mono {World : Type} {trace longer : List (Exchange World EngineCall.Reply)}
    (orphaned : Orphaned key trace) (hsub : ∀ exchange ∈ trace, exchange ∈ longer) :
    Orphaned key longer := by
  obtain ⟨⟨first, hfirst, hcounted⟩, second, hsecond, hreported⟩ := orphaned
  exact ⟨⟨first, hsub _ hfirst, hcounted⟩, second, hsub _ hsecond, hreported⟩

def Fleet.Discovers (fleet : Fleet) (cluster : String) : Prop :=
  ¬ fleet.records.Finds cluster none

/-- Everything but an application can only take objects away. -/
def EngineCall.IsApply : EngineCall → Prop
  | .transportApply _ _ => True
  | _ => False

theorem Fleet.answers_absent {fleet after : Fleet} {call : EngineCall} {reply : call.Reply}
    (hcall : ¬ call.IsApply) (answer : fleet.Answers fails call reply after)
    (hnone : fleet.spokes key = none) : after.spokes key = none := by
  cases Fleet.answers_effect answer with
  | apply => exact (hcall trivial).elim
  | delete => simp [Spokes.erase, hnone]
  | _ => exact hnone

theorem EngineCall.Collects.not_isApply {call : EngineCall} (collects : call.Collects key) :
    ¬ call.IsApply := by
  cases call with
  | transportApply cluster obj =>
    rcases collects with hpassive | hdeletes
    · exact hpassive.elim
    · exact hdeletes.elim
  | _ => exact fun h => h

section Collecting

variable {fails : EngineCall → Prop} {config : EngineConfig}
  {nn : NamespacedName} {sourceUID : String} {key : SlotKey}
  {fleet : Fleet}

theorem absent_within {α : Type} {program : EngineProgram α}
    (calls : program.AllCalls fun call => ¬ call.IsApply) (hnone : fleet.spokes key = none) :
    Safe (Fleet.alone fails) unguarded program
      (fun _ current => current.spokes key = none) fleet := by
  refine (Safe.undisturbed_within (fun current : Fleet => current.spokes key = none) calls ?_
    hnone).weaken fun _ _ h => h.2
  exact fun hcall hbefore answer => Fleet.answers_absent hcall answer hbefore

variable {gc : FanOut} {entry : InventoryEntry} {inv : List InventoryEntry}

theorem collectEntry_absent (hnone : fleet.spokes key = none) :
    Safe (Fleet.alone fails) unguarded (collectEntry config nn sourceUID gc entry)
      (fun _ current => current.spokes key = none) fleet :=
  absent_within ((collectEntry_within config nn sourceUID gc entry).weaken
    (fun _ h => h.not_isApply) fun _ _ => trivial) hnone

theorem planGC_releases (keep : List SlotKey) (inv : List InventoryEntry) :
    Safe (Fleet.alone fails) unguarded (planGC keep inv)
      (fun plan current => current = fleet ∧ ∀ entry ∈ plan.release,
        ¬ fleet.Discovers entry.clusterName) fleet := by
  induction inv with
  | nil => exact Safe.undisturbed_done ⟨rfl, by simp⟩
  | cons head rest ih =>
    unfold planGC
    split_ifs
    · exact ih
    · refine Safe.undisturbed_perform trivial ?_
      rintro found after ⟨hfound, rfl⟩
      refine Safe.seq ih ?_
      rintro plan current ⟨rfl, hplan⟩
      cases found with
      | some record => exact Safe.undisturbed_done ⟨rfl, hplan⟩
      | none =>
        refine Safe.undisturbed_done ⟨rfl, ?_⟩
        rintro entry (_ | hmem)
        · exact fun hdiscovers => hdiscovers hfound
        · exact hplan entry (by assumption)

theorem deleteEntry_fate {gvk : GroupVersionKind} (hgvk : gvkForEntry config entry = some gvk)
    (hrecorded : Recorded gc.inv (keyForEntry entry)) :
    Safe (Fleet.alone fails) unguarded (deleteEntry nn gc entry gvk)
      (fun left current => Recorded left.inv (keyForEntry entry) ∨
        current.spokes (keyForEntry entry) = none) fleet := by
  have hslot := slotOf_gvkForEntry hgvk
  have hcleaned : ∀ current : Fleet, current.spokes (keyForEntry entry) = none →
      Safe (Fleet.alone fails) unguarded (cleanedEntry nn gc entry)
        (fun left current => Recorded left.inv (keyForEntry entry) ∨
          current.spokes (keyForEntry entry) = none) current := by
    intro current hnone
    refine Safe.undisturbed_call trivial ?_
    rintro _ after rfl
    refine Safe.undisturbed_call trivial ?_
    rintro _ after rfl
    exact Safe.undisturbed_done (.inr hnone)
  unfold deleteEntry
  refine Safe.undisturbed_perform trivial ?_
  rintro reply after ⟨spokes, hanswer, rfl⟩
  rw [hslot] at hanswer
  cases reply with
  | ok _ =>
    obtain ⟨_, rfl⟩ := hanswer
    refine hcleaned _ ?_
    simp [Spokes.erase]
  | error err =>
    have hsame : spokes = fleet.spokes := hanswer.1
    subst hsame
    dsimp only
    split_ifs with hfound
    · refine hcleaned _ ?_
      have hmissing := hanswer.2
      rwa [if_pos hfound] at hmissing
    · refine Safe.undisturbed_call trivial ?_
      rintro delay after rfl
      exact Safe.undisturbed_done (.inl hrecorded)

/-- Collecting an entry drops it only when nothing is left of its object or
after reporting it. -/
theorem collectEntry_fate {final : Fleet} {left : FanOut}
    (hrecorded : Recorded gc.inv (keyForEntry entry))
    (run : Run (Fleet.alone fails) fleet (collectEntry config nn sourceUID gc entry) trace final
      (.done left)) :
    Recorded left.inv (keyForEntry entry) ∨ final.spokes (keyForEntry entry) = none ∨
      Orphaned (keyForEntry entry) trace := by
  unfold collectEntry at run
  cases hgvk : gvkForEntry config entry with
  | none =>
    rw [hgvk] at run
    obtain ⟨_, hleft, _⟩ := run.of_done
    obtain rfl := Program.done.inj hleft
    exact .inl hrecorded
  | some gvk =>
    have hslot := slotOf_gvkForEntry hgvk
    rw [hgvk] at run
    dsimp only at run
    rw [Program.perform_bind] at run
    obtain ⟨current, reply, after, rest, hcurrent, ⟨hget, hafter⟩, rfl, hrest⟩ := run.of_call
    obtain rfl : fleet = current := hcurrent
    obtain rfl : after = fleet := hafter
    cases reply with
    | error err =>
      dsimp only at hrest
      split_ifs at hrest with hfound
      · rw [Program.perform_bind] at hrest
        obtain ⟨current, _, later, tail, hcurrent, hanswer, rfl, hdone⟩ :=
          hrest.of_call
        obtain rfl : after = current := hcurrent
        obtain rfl : later = after := hanswer
        obtain ⟨_, _, hsame⟩ := hdone.of_done
        obtain rfl : later = final := hsame
        have hmissing : if err.isNotFound = true then
            entry.name ≠ "" ∧ later.spokes (slotOf entry.clusterName gvk ⟨entry.ns, entry.name⟩) =
                none
          else _ := hget
        rw [if_pos hfound, hslot] at hmissing
        exact .inr (.inl hmissing.2)
      · obtain ⟨_, _, _, _, _, _, rfl, hdone⟩ := hrest.of_call
        obtain ⟨_, hleft, _⟩ := hdone.of_done
        obtain rfl := Program.done.inj hleft
        exact .inl hrecorded
    | ok existing =>
      dsimp only at hrest
      cases hclass : classifyReplicaOwnership existing.labels sourceUID with
      | managed =>
        rw [hclass] at hrest
        rcases (deleteEntry_fate hgvk hrecorded).run_done hrest with
          h | h
        · exact .inl h
        · exact .inr (.inl h)
      | stripped =>
        rw [hclass] at hrest
        obtain ⟨_, _, point, _, rfl, _, hdelete⟩ := hrest.split
        rcases (deleteEntry_fate hgvk hrecorded).run_done hdelete with
          h | h
        · exact .inl h
        · exact .inr (.inl h)
      | foreign =>
        rw [hclass] at hrest
        obtain ⟨first, second, point, _, rfl, hemit, _⟩ := hrest.split
        obtain ⟨counted, hcounted, hmetric⟩ := (emitAll_emits hemit
          (.metric (.ownershipLost entry.clusterName .orphaned))).mpr (by simp)
        obtain ⟨reported, hreported, hevent⟩ := (emitAll_emits hemit
          (.event (.replicaOrphaned entry))).mpr (by simp)
        exact .inr (.inr ⟨⟨counted, by simp [hcounted], hmetric⟩,
          reported, by simp [hreported], entry, rfl, hevent⟩)

theorem collectEntry_elsewhere (namespaced : config.Namespaced) (hne : keyForEntry entry ≠ key) :
    Safe (Fleet.alone fails) unguarded (collectEntry config nn sourceUID gc entry)
      (fun left current => current.spokes key = fleet.spokes key ∧
        (Recorded left.inv key ↔ Recorded gc.inv key)) fleet := by
  refine (Safe.undisturbed_within (fun current : Fleet => current.spokes key = fleet.spokes key)
    (collectEntry_cleansUp config nn sourceUID gc entry) ?_ rfl).weaken ?_
  · rintro before call reply after hcleans hbefore answer
    rw [Fleet.answers_sparesSlot (hcleans.sparesSlot namespaced hne) answer, hbefore]
  · rintro left current ⟨hdrops, hcurrent⟩
    exact ⟨hcurrent, hdrops.keepsOthers key (Ne.symm hne)⟩

/-- A recorded slot on a known cluster stays recorded, ends up empty or is
reported. -/
theorem collectGarbage_fate {final : Fleet} {keep : List SlotKey} (namespaced : config.Namespaced)
    (discovers : fleet.Discovers key.cluster) (hrecorded : Recorded inv key)
    (run : Run (Fleet.alone fails) fleet (collectGarbage config nn sourceUID keep inv) trace final
      (.done gc)) :
    Recorded gc.inv key ∨ final.spokes key = none ∨ Orphaned key trace := by
  unfold collectGarbage at run
  obtain ⟨first, rest, point, plan, rfl, hplan, hrest⟩ := run.split
  obtain ⟨hpoint, hreleased⟩ := (planGC_releases keep inv).run_done hplan
  obtain ⟨second, third, later, left, rfl, hrelease, hcollect⟩ := hrest.split
  have hleft : Recorded left key := by
    refine ((hrelease.value_of_within
      (releaseEntries_within plan.release inv)).1 key).mpr ⟨hrecorded, ?_⟩
    rintro entry hmem rfl
    exact hreleased entry hmem discovers
  -- The state of the slot is carried through the loop with the trace so far.
  rw [← List.append_assoc]
  refine hcollect.loop.trace_invariant (fun gc fleet trace =>
    Recorded gc.inv key ∨ fleet.spokes key = none ∨ Orphaned key trace)
    (fun _ _ => @alone_stable _ _) ?_ (.inl hleft)
  intro fleet middle gc next entry past segment hmem run hbefore
  rcases hbefore with hrecorded | hnone | horphaned
  · by_cases hkey : keyForEntry entry = key
    · subst hkey
      rcases collectEntry_fate hrecorded run with h | h | h
      · exact .inl h
      · exact .inr (.inl h)
      · exact .inr (.inr (h.mono (by simp +contextual)))
    · have hkept := (collectEntry_elsewhere namespaced hkey).run_done run
      exact .inl (hkept.2.mpr hrecorded)
  · exact .inr (.inl ((collectEntry_absent hnone).run_done run))
  · exact .inr (.inr (horphaned.mono (by simp +contextual)))

end Collecting

theorem collectGarbage_shrinks (config : EngineConfig) (nn : NamespacedName) (sourceUID : String)
    (keep : List SlotKey) (inv : List InventoryEntry) :
    (collectGarbage config nn sourceUID keep inv).Within (fun _ => True)
      (fun gc => ∀ key, Recorded gc.inv key → Recorded inv key) := by
  unfold collectGarbage
  refine Program.Within.bind (Program.within_true _) fun plan _ => ?_
  refine Program.Within.bind ((releaseEntries_within plan.release inv).weaken
    (fun _ _ => trivial) fun _ h => h) ?_
  intro left hleft
  refine Program.Within.foldlM ?_ fun key hrecorded =>
    ((hleft key).mp hrecorded).1
  intro entry _ gc hgc
  refine (collectEntry_within config nn sourceUID gc entry).weaken (fun _ _ => trivial) ?_
  rintro next (hsame | hdropped) key hrecorded
  · exact hgc key (hsame ▸ hrecorded)
  · rw [hdropped, recorded_removeEntry_iff] at hrecorded
    exact hgc key hrecorded.1

/-! ## A slot through a whole fanout -/

theorem run_sparesSpokes {α : Type} {program : EngineProgram α} {value : α} {fleet final : Fleet}
    (calls : program.AllCalls EngineCall.SparesSpokes)
    (run : Run (Fleet.alone fails) fleet program trace final (.done value)) :
    final.spokes = fleet.spokes := by
  have hsafe : Safe (Fleet.alone fails) unguarded program
      (fun _ current => True ∧ current.spokes = fleet.spokes) fleet := by
    refine Safe.undisturbed_within
      (fun current : Fleet => current.spokes = fleet.spokes) calls ?_ rfl
    exact fun hcall hbefore answer =>
      (Fleet.answers_sparesSpokes hcall answer).trans hbefore
  exact (hsafe.run_done run).2

namespace ConvergeStages

variable {fails : EngineCall → Prop} {config : EngineConfig}
  {nn : NamespacedName} {rep : Replication} {src : Unstructured}
  {gvk : GroupVersionKind} {policies : List ReplicationPolicy}
  {slots : List (SlotInfo × Decision)} {outcome : RevocationOutcome}
  {fleet final : Fleet} {trace : List (Exchange Fleet EngineCall.Reply)}
  {key : SlotKey}

variable
  (stages : ConvergeStages fails config nn rep src gvk policies slots outcome fleet trace final)
include stages

theorem spokes_planned : stages.planned.spokes = fleet.spokes :=
  run_sparesSpokes ((persistPlanned_calls _ _).weaken
    (fun _ h => h.calm.sparesSpokes) fun _ h => h) stages.persists

theorem spokes_final : final.spokes = stages.collected.spokes := by
  obtain ⟨out, hwrites⟩ := stages.writes
  refine run_sparesSpokes ((finishFanOut_calls config nn _ _ _ _ _ _).weaken
    ?_ fun _ h => h) hwrites
  rintro call (hminor | hrecords)
  · exact hminor.passive.sparesSpokes
  · exact hrecords.calm.sparesSpokes

theorem stillRecords_iff : final.StillRecords nn key ↔ Recorded stages.gc.inv key := by
  have hstored : final.hub.replications nn = some stages.stored :=
    stages.stores
  unfold Fleet.StillRecords
  rw [hstored, ← stages.recorded_iff]
  simp

theorem records_converged : stages.converged.records = fleet.records := by
  refine Eq.trans ?_ (run_records stages.persists)
  exact stages.loops.invariant (fun _ current => current.records = stages.planned.records)
    (fun _ => @alone_stable _ _)
    (fun _ run hbefore => (run_records run).trans hbefore) rfl

theorem kept (namespaced : config.Namespaced)
    (hkeep : key ∈ outcome.retained ++ allowedKeys gvk slots) :
    final.spokes key = stages.converged.spokes key ∧
      (final.StillRecords nn key ↔ Recorded stages.fan.inv key) := by
  have hsafe : Safe (Fleet.alone fails) unguarded
      (collectGarbage config nn stages.copy.spec.sourceRef.uid
        (outcome.retained ++ allowedKeys gvk slots) stages.fan.inv)
      (fun _ current => True ∧ current.spokes key = stages.converged.spokes key)
      stages.converged := by
    refine Safe.undisturbed_within (fun current : Fleet =>
      current.spokes key = stages.converged.spokes key)
      (collectGarbage_sparesSlot namespaced nn _ _ hkeep) ?_ rfl
    exact fun hcall hbefore answer =>
      (Fleet.answers_sparesSlot hcall answer).trans hbefore
  have hrecorded := (stages.collects.value_of_within
    (collectGarbage_within config nn _ _ _)).1 key hkeep
  have hshrinks := (stages.collects.value_of_within (collectGarbage_shrinks config nn _ _ _)).1 key
  rw [stages.spokes_final, stages.stillRecords_iff]
  exact ⟨(hsafe.run_done stages.collects).2, hshrinks, hrecorded⟩

section Allowed

variable (namespaced : config.Namespaced) (hkind : src.groupVersionKind = gvk)
  (hgvk : gvk ∈ config.kindGVKs.map Prod.snd)
  (hname : ∀ slot ∈ slots, slot.1.name = "" → src.name = "") (placed : fleet.spokes.WellPlaced)
  (reachable : Reachable fails key.cluster) (hnamed : key.name ≠ "")
  (hallowed : key ∈ allowedKeys gvk slots)
include namespaced hgvk hallowed

omit stages in
theorem isNamespace_of_allowed : key.isNamespace = false := by
  obtain ⟨slot, _, _, rfl⟩ := (mem_allowedKeys_iff _ _ _).mp hallowed
  exact isNamespace_slotOf (namespaced gvk hgvk) slot.1.cluster ⟨slot.1.ns, slot.1.name⟩

include hkind hname placed reachable hnamed

theorem present {obj : Unstructured} (hobj : fleet.spokes key = some obj) :
    if ∃ slot ∈ slots, Accepts config src gvk policies key obj slot then
      final.spokes.HoldReplica config.renderer src key ∧ final.StillRecords nn key
    else final.spokes key = some obj ∧ ¬ final.StillRecords nn key := by
  have hfate := loop_present reachable hnamed (isNamespace_of_allowed namespaced hgvk hallowed)
    hkind (namespaced gvk hgvk) hname stages.loops
    (by rwa [stages.spokes_planned]) (by rw [stages.spokes_planned, hobj])
  obtain ⟨hspokes, hrecords⟩ := stages.kept namespaced (List.mem_append_right _ hallowed)
  unfold Spokes.HoldReplica
  rw [hspokes, hrecords]
  split_ifs at hfate ⊢
  · exact hfate
  · exact ⟨hfate.1, fun h => (hfate.2.mp h).2 hallowed⟩

theorem absent (hnone : fleet.spokes key = none) :
    final.spokes key = none ∨ final.spokes.HoldReplica config.renderer src key ∧
        final.StillRecords nn key := by
  have hfate := loop_absent reachable hnamed (isNamespace_of_allowed namespaced hgvk hallowed)
    hkind (namespaced gvk hgvk) hname stages.loops
    (by rwa [stages.spokes_planned]) (by rw [stages.spokes_planned, hnone])
  obtain ⟨hspokes, hrecords⟩ := stages.kept namespaced (List.mem_append_right _ hallowed)
  unfold Spokes.HoldReplica
  rw [hspokes, hrecords]
  exact hfate

end Allowed

theorem recorded_fan (hkind : src.groupVersionKind = gvk)
    (hname : ∀ slot ∈ slots, slot.1.name = "" → src.name = "")
    (recorded : Recorded rep.status.inventory key) (hdenied : key ∉ allowedKeys gvk slots) :
    Recorded stages.fan.inv key := by
  have hplanned : Recorded (planInventory gvk slots rep.status.inventory) key :=
    (recorded_planInventory_iff _ _ _ _).mpr (.inl recorded)
  refine stages.loops.invariant (fun fan _ => Recorded fan.inv key)
    (fun _ => @alone_stable _ _) ?_ hplanned
  intro before after fan next slot segment hmem run hrecorded
  refine (run.value_of_within (fanOutSlot_recorded hkind (hname slot hmem) ?_)).1.mpr hrecorded
  rintro ⟨hallowed, hslot⟩
  exact hdenied ((mem_allowedKeys_iff _ _ _).mpr ⟨slot, hmem, hallowed, hslot⟩)

theorem unallowed (namespaced : config.Namespaced) (hkind : src.groupVersionKind = gvk)
    (hname : ∀ slot ∈ slots, slot.1.name = "" → src.name = "")
    (discovers : fleet.Discovers key.cluster) (recorded : Recorded rep.status.inventory key)
    (hdenied : key ∉ allowedKeys gvk slots) :
    final.StillRecords nn key ∨ final.spokes key = none ∨ Orphaned key trace := by
  have hfan := stages.recorded_fan hkind hname recorded hdenied
  have hknown : stages.converged.Discovers key.cluster := by
    unfold Fleet.Discovers
    rwa [stages.records_converged]
  rw [stages.stillRecords_iff, stages.spokes_final]
  rcases collectGarbage_fate namespaced hknown hfan stages.collects with
    h | h | h
  · exact .inl h
  · exact .inr (.inl h)
  · refine .inr (.inr (h.mono fun exchange hmem => ?_))
    have hwhole : exchange ∈ stages.planTrace ++
        (stages.fanTrace ++ (stages.gcTrace ++ stages.writeTrace)) := by
      simp [hmem]
    rwa [← stages.trace_eq] at hwhole

end ConvergeStages

end K8sR8r
