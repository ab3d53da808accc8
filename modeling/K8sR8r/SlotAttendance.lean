import K8sR8r.EngineSight

/-!
# Reading a slot before writing it

Every write of the engine to a spoke follows a read of the same slot, and what
the read returned decides about the write.  The rules here walk the engine in
any world in which a read leaves a lasting impression; what the impression is,
and what it says about the slot at the moment of the write, is up to the world.
-/

namespace K8sR8r

open Interaction

def EngineCall.WritesAt (slot : SlotKey) : EngineCall → Prop
  | .transportApply cluster obj =>
    slotOf cluster obj.groupVersionKind obj.key = slot
  | .transportDelete cluster gvk key => slotOf cluster gvk key = slot
  | _ => False

/-- A world in which reads leave an impression.  `sees slot seen` is what a
read of the slot that returned `seen` leaves behind until the engine has applied
something there; `may slot object` says that the engine may write over the
object. -/
structure Attends {World : Type} (semantics : Semantics World EngineCall.Reply)
    (guard : World → EngineCall → Prop) (base : World → Prop)
    (sees : SlotKey → Option Unstructured → World → Prop)
    (may : SlotKey → Unstructured → Prop) (uid : String) : Prop where
  base_stable : Stable semantics base
  sees_stable : ∀ slot seen, Stable semantics (sees slot seen)
  sees_base : ∀ {slot seen world}, sees slot seen world → base world
  calm : ∀ {world} (call : EngineCall), base world → call.IsCalm →
    guard world call ∧ ∀ reply after,
      semantics.answers world call reply after → base after
  emits : ∀ {slot seen world signal reply after}, sees slot seen world →
    semantics.answers world (.emit signal) reply after →
      sees slot seen after
  finds : ∀ {world cluster gvk key object after}, base world →
    semantics.answers world (.transportGet cluster gvk key) (.ok object)
      after → sees (slotOf cluster gvk key) (some object) after
  misses : ∀ {world cluster gvk key err after}, base world →
    semantics.answers world (.transportGet cluster gvk key) (.error err)
      after → err.isNotFound = true → sees (slotOf cluster gvk key) none after
  applies : ∀ {world cluster obj slot seen}, sees slot seen world →
    slotOf cluster obj.groupVersionKind obj.key = slot →
    (∀ object, seen = some object → may slot object) →
    (obj.labels.lookup labelSourceUID = some uid ∨
      seen = none ∧ ∃ ns, obj = namespacePayload ns) →
    guard world (.transportApply cluster obj) ∧ ∀ reply after,
      semantics.answers world (.transportApply cluster obj) reply after →
        match reply with
        | .ok _ => base after
        | .error _ => sees slot seen after
  deletes : ∀ {world cluster gvk key slot object},
    sees slot (some object) world → slotOf cluster gvk key = slot →
    may slot object →
    guard world (.transportDelete cluster gvk key) ∧ ∀ reply after,
      semantics.answers world (.transportDelete cluster gvk key) reply after →
        sees slot (some object) after

namespace Attends

variable {World : Type} {semantics : Semantics World EngineCall.Reply}
  {guard : World → EngineCall → Prop} {base : World → Prop}
  {sees : SlotKey → Option Unstructured → World → Prop}
  {may : SlotKey → Unstructured → Prop} {uid : String} {world : World}
  {slot : SlotKey} {seen : Option Unstructured} {α : Type}

theorem done (attends : Attends semantics guard base sees may uid) (value : α)
    (holds : base world) :
    Safe semantics guard (.done value : EngineProgram α) (fun _ => base) world :=
  fun _ change => attends.base_stable holds change

variable {program : EngineProgram α} {cluster : String} {next : ApiResult Unit → EngineProgram α}
  {post : α → World → Prop}

section

variable (attends : Attends semantics guard base sees may uid)
include attends

theorem calm_safe {value : α → Prop} (within : program.Within EngineCall.IsCalm value)
    (holds : base world) :
    Safe semantics guard program (fun result current => value result ∧ base current) world :=
  Safe.of_within within attends.base_stable holds
    (fun hcalm hcurrent => (attends.calm _ hcurrent hcalm).1)
    fun hcalm hcurrent answer => (attends.calm _ hcurrent hcalm).2 _ _ answer

theorem passive_safe {value : α → Prop} (within : program.Within EngineCall.IsPassive value)
    (holds : base world) :
    Safe semantics guard program (fun result current => value result ∧ base current) world :=
  attends.calm_safe (within.weaken (fun _ h => h.calm) fun _ h => h) holds

theorem emitAll_safe (signals : List EngineSignal) (holds : sees slot seen world) :
    Safe semantics guard (emitAll signals) (fun _ => sees slot seen) world := by
  induction signals generalizing world with
  | nil => exact fun _ change => attends.sees_stable slot seen holds change
  | cons signal rest ih =>
    refine Safe.call_of_stable (attends.sees_stable slot seen) holds (fun current h =>
        (attends.calm (.emit signal) (attends.sees_base h) trivial).1) ?_
    intro current reply after hcurrent answer
    exact ih (attends.emits hcurrent answer)

theorem apply_safe {obj : Unstructured}
    (hslot : slotOf cluster obj.groupVersionKind obj.key = slot)
    (hmay : ∀ object, seen = some object → may slot object)
    (hmarked : obj.labels.lookup labelSourceUID = some uid ∨
      seen = none ∧ ∃ ns, obj = namespacePayload ns) (holds : sees slot seen world)
    (hnext : ∀ reply current, base current → Safe semantics guard (next reply) post current) :
    Safe semantics guard (.call (EngineCall.transportApply cluster obj) next) post world := by
  refine Safe.call_of_stable (attends.sees_stable slot seen) holds
    (fun current h => (attends.applies h hslot hmay hmarked).1) ?_
  intro current reply after hcurrent answer
  have hafter := (attends.applies hcurrent hslot hmay hmarked).2 reply after answer
  apply hnext
  cases reply with
  | ok _ => exact hafter
  | error err => exact attends.sees_base hafter

theorem applyWithRecreate_safe {desired object : Unstructured}
    (hslot : slotOf cluster desired.groupVersionKind desired.key = slot) (hmay : may slot object)
    (hmarked : desired.labels.lookup labelSourceUID = some uid)
    (holds : sees slot (some object) world) :
    Safe semantics guard (applyWithRecreate cluster desired) (fun _ => base) world := by
  have hsome : ∀ other, some object = some other → may slot other := by
    rintro other ⟨⟩
    exact hmay
  have hretry : ∀ {current : World}, sees slot (some object) current →
      Safe semantics guard (Program.perform (EngineCall.transportApply cluster desired) :
          EngineProgram (ApiResult Unit)) (fun _ => base) current :=
    fun h => attends.apply_safe hslot hsome (.inl hmarked) h fun reply current => attends.done reply
  unfold applyWithRecreate
  rw [Program.perform_bind]
  refine Safe.call_of_stable (attends.sees_stable _ _) holds
    (fun current h => (attends.applies h hslot hsome (.inl hmarked)).1) ?_
  intro current reply after hcurrent answer
  have hafter := (attends.applies hcurrent hslot hsome (.inl hmarked)).2 reply after answer
  cases reply with
  | ok _ => exact attends.done _ hafter
  | error err =>
    dsimp only
    split_ifs
    · exact attends.done _ (attends.sees_base hafter)
    · rw [Program.perform_bind]
      refine Safe.call_of_stable (attends.sees_stable _ _) hafter
        (fun current h => (attends.deletes h hslot hmay).1) ?_
      intro current reply after hcurrent answer
      have hdeleted := (attends.deletes hcurrent hslot hmay).2 reply after answer
      cases reply with
      | ok _ => exact hretry hdeleted
      | error delErr =>
        dsimp only
        split_ifs
        · exact attends.done _ (attends.sees_base hdeleted)
        · exact hretry hdeleted

theorem create_safe {obj : Unstructured}
    (hslot : slotOf cluster obj.groupVersionKind obj.key = slot)
    (hmarked : obj.labels.lookup labelSourceUID = some uid ∨ ∃ ns, obj = namespacePayload ns)
    (holds : sees slot none world)
    (hnext : ∀ reply current, base current → Safe semantics guard (next reply) post current) :
    Safe semantics guard (.call (EngineCall.transportApply cluster obj) next) post world := by
  have hnone : ∀ object, none = some object → may slot object :=
    fun _ h => nomatch h
  exact attends.apply_safe hslot hnone (hmarked.imp id fun h => ⟨rfl, h⟩) holds hnext

theorem get_safe {gvk : GroupVersionKind} {key : NamespacedName}
    {next : ApiResult Unstructured → EngineProgram α} (holds : base world)
    (found : ∀ object current, sees (slotOf cluster gvk key) (some object) current →
        Safe semantics guard (next (.ok object)) post current)
    (missed : ∀ err current, err.isNotFound = true → sees (slotOf cluster gvk key) none current →
        Safe semantics guard (next (.error err)) post current)
    (failed : ∀ err current, ¬ err.isNotFound = true → base current →
      Safe semantics guard (next (.error err)) post current) :
    Safe semantics guard (.call (EngineCall.transportGet cluster gvk key) next) post world := by
  refine Safe.call_of_stable attends.base_stable holds (fun current h =>
      (attends.calm (.transportGet cluster gvk key) h trivial).1) ?_
  intro current reply after hcurrent answer
  cases reply with
  | ok object => exact found object after (attends.finds hcurrent answer)
  | error err =>
    by_cases hfound : err.isNotFound = true
    · exact missed err after hfound (attends.misses hcurrent answer hfound)
    · exact failed err after hfound ((attends.calm (.transportGet cluster gvk key) hcurrent
          trivial).2 _ _ answer)

theorem ensureNamespace_safe (cluster ns : String) (allowCreate : Bool) (holds : base world) :
    Safe semantics guard (ensureNamespace cluster ns allowCreate) (fun _ => base) world := by
  unfold ensureNamespace
  rw [Program.perform_bind]
  refine attends.get_safe holds ?_ ?_ ?_
  · exact fun object current h => attends.done _ (attends.sees_base h)
  · intro err current hfound hsees
    simp only [hfound, Bool.not_true, Bool.false_eq_true, if_false]
    split_ifs
    · exact attends.done _ (attends.sees_base hsees)
    · rw [Program.perform_bind]
      refine attends.create_safe rfl (.inr ⟨ns, rfl⟩) hsees ?_
      intro reply current hcurrent
      cases reply with
      | ok _ => exact attends.done _ hcurrent
      | error err => exact attends.done _ hcurrent
  · intro err current hfound hcurrent
    simp only [hfound, Bool.not_false, if_true]
    exact attends.done _ hcurrent

theorem apply_then_report_safe {program : EngineProgram (ApiResult Unit)}
    {signals : List EngineSignal} (hprogram : Safe semantics guard program (fun _ => base) world) :
    Safe semantics guard (do
      match ← program with
      | .error err => pure (SlotVerdict.ofErr err)
      | .ok () => do
        emitAll signals
        pure SlotVerdict.ready) (fun _ => base) world := by
  refine Safe.seq hprogram ?_
  intro result current hcurrent
  cases result with
  | error err => exact attends.done _ hcurrent
  | ok _ =>
    refine Safe.seq (attends.calm_safe (emitAll_allCalls fun _ _ => trivial) hcurrent) ?_
    exact fun _ later h => attends.done _ h.2

end

section Slot

variable (config : EngineConfig) {src : Unstructured}
  {gvk : GroupVersionKind} {target : SlotInfo} {allowed : List ConflictPolicy}

def Touchable (config : EngineConfig) (src : Unstructured) (allowed : List ConflictPolicy)
    (object : Unstructured) : Prop :=
  StringMap.get object.labels labelSourceUID = src.uid ∨
    MayTakeOver config.renderer object src (config.renderer.sourceHash src) allowed

section

variable (attends : Attends semantics guard base sees may src.uid)
  (hkind : src.groupVersionKind = gvk) (hname : target.name = "" → src.name = "")
include attends hkind hname

theorem convergeExisting_safe
    (hmay : ∀ object, Touchable config src allowed object → may (target.key gvk) object)
    {object : Unstructured} (holds : sees (target.key gvk) (some object) world) :
    Safe semantics guard (convergeExisting config src gvk target allowed
      (config.renderer.render src target.ns target.name).1
      (config.renderer.render src target.ns target.name).2 object)
      (fun _ => base) world := by
  have hslot : slotOf target.cluster
      (config.renderer.render src target.ns target.name).1.groupVersionKind
      (config.renderer.render src target.ns target.name).1.key = target.key gvk := by
    rw [← hkind]
    exact slotOf_render config.renderer hname
  have hmarked := config.renderer.render_sourceUID src target.ns target.name
  have htouch : (decideConflict config.renderer object src
      (config.renderer.render src target.ns target.name).2 allowed).action ≠
        .fail → may (target.key gvk) object :=
    fun haction => hmay object (decideConflict_touches haction)
  have hrecreate : ∀ {current : World}, may (target.key gvk) object →
      sees (target.key gvk) (some object) current →
      Safe semantics guard (applyWithRecreate target.cluster
        (config.renderer.render src target.ns target.name).1)
        (fun _ => base) current :=
    fun h hsees => attends.applyWithRecreate_safe hslot h hmarked hsees
  unfold convergeExisting
  dsimp only
  cases haction : (decideConflict config.renderer object src
      (config.renderer.render src target.ns target.name).2 allowed).action with
  | fail =>
    refine Safe.seq (attends.emitAll_safe _ holds) ?_
    exact fun _ current h => attends.done _ (attends.sees_base h)
  | adopt =>
    have hobject := htouch (by rw [haction]; decide)
    refine Safe.seq (attends.emitAll_safe _ holds) ?_
    intro _ current hcurrent
    have hsome : ∀ other, some object = some other → may (target.key gvk) other := by
      rintro other ⟨⟩
      exact hobject
    rw [Program.perform_bind]
    refine attends.apply_safe (slotOf_adoptPatch _ _ _ _ _) hsome
      (.inl (config.renderer.adoptPatch_sourceUID _ _ _ _ _)) hcurrent ?_
    intro reply later hlater
    cases reply with
    | error err => exact attends.done _ hlater
    | ok _ =>
      refine Safe.seq (attends.calm_safe (emitAll_allCalls fun _ _ => trivial) hlater) ?_
      exact fun _ last h => attends.done _ h.2
  | overwrite =>
    have hobject := htouch (by rw [haction]; decide)
    refine Safe.seq (attends.emitAll_safe _ holds) ?_
    intro _ current hcurrent
    exact attends.apply_then_report_safe (hrecreate hobject hcurrent)
  | apply =>
    have hobject := htouch (by rw [haction]; decide)
    dsimp only
    by_cases hwrite : StringMap.get object.annotations annotationSourceHash ≠
            (config.renderer.render src target.ns target.name).2 ∨
          config.renderer.sourceHash object ≠ (config.renderer.render src target.ns target.name).2
    · rw [if_pos hwrite]
      exact attends.apply_then_report_safe (hrecreate hobject holds)
    · rw [if_neg hwrite]
      exact attends.done _ (attends.sees_base holds)

theorem convergeSlot_safe
    (hmay : ∀ object, Touchable config src allowed object → may (target.key gvk) object)
    (holds : base world) :
    Safe semantics guard (convergeSlot config src gvk target allowed) (fun _ => base) world := by
  have hslot : slotOf target.cluster
      (config.renderer.render src target.ns target.name).1.groupVersionKind
      (config.renderer.render src target.ns target.name).1.key = target.key gvk := by
    rw [← hkind]
    exact slotOf_render config.renderer hname
  have hmarked := config.renderer.render_sourceUID src target.ns target.name
  unfold convergeSlot
  dsimp only
  rw [Program.perform_bind]
  refine attends.get_safe holds ?_ ?_ ?_
  · intro object current hsees
    dsimp only
    split_ifs with hstripped
    · have hown : StringMap.get object.labels labelSourceUID = src.uid := by
        apply sourceUID_of_ownership
        rw [hstripped]
        decide
      exact attends.apply_then_report_safe (attends.applyWithRecreate_safe
        hslot (hmay object (.inl hown)) hmarked hsees)
    · exact attends.convergeExisting_safe config hkind hname hmay hsees
  · intro err current hfound hsees
    simp only [hfound, if_true]
    rw [Program.perform_bind]
    refine attends.create_safe hslot (.inl hmarked) hsees ?_
    intro reply current hcurrent
    cases reply with
    | ok _ => exact attends.done _ hcurrent
    | error err => exact attends.done _ hcurrent
  · intro err current hfound hcurrent
    simp only [hfound, Bool.false_eq_true, if_false]
    exact attends.done _ hcurrent

theorem applyTarget_safe (nn : NamespacedName) (eff : EffectiveOptions)
    (hmay : ∀ object, Touchable config src eff.allowedConflictPolicies object →
        may (target.key gvk) object) (inv : List InventoryEntry) (holds : base world) :
    Safe semantics guard (applyTarget config nn src gvk target eff inv) (fun _ => base) world := by
  have hsettle : ∀ verdict {current : World}, base current →
      Safe semantics guard (settleSlot nn gvk target
        (config.renderer.sourceHash src) inv verdict) (fun _ => base)
        current :=
    fun verdict _ h => (attends.passive_safe (within_passive (settleSlot_within nn gvk target
      _ inv verdict)) h).weaken fun _ _ h => h.2
  unfold applyTarget
  dsimp only
  refine Safe.seq (attends.ensureNamespace_safe target.cluster target.ns _ holds) ?_
  intro result current hcurrent
  cases result with
  | missing text =>
    have hreport : ((do
        let delay ← Program.perform
          (EngineCall.backoffFailure nn target.cluster)
        pure ⟨slotState target false reasonNamespaceMissing text, delay,
          removeEntry inv (target.key gvk)⟩ : EngineProgram TargetOutcome)).AllCalls
              EngineCall.IsPassive := ⟨trivial, fun _ => trivial⟩
    exact (attends.passive_safe hreport hcurrent).weaken fun _ _ h => h.2
  | failed err => exact hsettle _ hcurrent
  | ensured =>
    refine Safe.seq (attends.convergeSlot_safe config hkind hname hmay hcurrent) ?_
    exact fun verdict later hlater => hsettle verdict hlater

end

end Slot

/-! ## Whole reconciles -/

theorem collectEntry_safe (attends : Attends semantics guard base sees may uid)
    (config : EngineConfig) (nn : NamespacedName) (gc : FanOut) {entry : InventoryEntry}
    (hmay : ∀ object, StringMap.get object.labels labelSourceUID = uid →
      may (keyForEntry entry) object) (holds : base world) :
    Safe semantics guard (collectEntry config nn uid gc entry) (fun _ => base) world := by
  have hretry : ∀ step err {current : World}, base current →
      Safe semantics guard (retryEntry nn gc entry step err) (fun _ => base) current := by
    intro step err current hcurrent
    have hcalls : (retryEntry nn gc entry step err).AllCalls
        EngineCall.IsPassive := ⟨trivial, fun _ => trivial⟩
    exact (attends.passive_safe hcalls hcurrent).weaken fun _ _ h => h.2
  have hcleaned : ∀ {current : World}, base current →
      Safe semantics guard (cleanedEntry nn gc entry) (fun _ => base) current := by
    intro current hcurrent
    have hcalls : (cleanedEntry nn gc entry).AllCalls EngineCall.IsPassive :=
      ⟨trivial, fun _ => ⟨fun h => h, fun _ => trivial⟩⟩
    exact (attends.passive_safe hcalls hcurrent).weaken fun _ _ h => h.2
  unfold collectEntry
  cases hgvk : gvkForEntry config entry with
  | none => exact attends.done _ holds
  | some gvk =>
    have hslot := slotOf_gvkForEntry hgvk
    have hdelete : ∀ {current : World} {object : Unstructured},
        StringMap.get object.labels labelSourceUID = uid →
        sees (keyForEntry entry) (some object) current →
        Safe semantics guard (deleteEntry nn gc entry gvk) (fun _ => base) current := by
      intro current object hown hsees
      unfold deleteEntry
      rw [Program.perform_bind]
      refine Safe.call_of_stable (attends.sees_stable _ _) hsees
        (fun current h => (attends.deletes h hslot (hmay object hown)).1) ?_
      intro current reply after hcurrent answer
      have hafter := attends.sees_base
        ((attends.deletes hcurrent hslot (hmay object hown)).2 reply after answer)
      cases reply with
      | ok _ => exact hcleaned hafter
      | error err =>
        dsimp only
        split_ifs
        · exact hcleaned hafter
        · exact hretry _ _ hafter
    dsimp only
    rw [Program.perform_bind]
    refine attends.get_safe holds ?_ ?_ ?_
    · intro object current hsees
      rw [hslot] at hsees
      dsimp only
      cases hown : classifyReplicaOwnership object.labels uid with
      | foreign =>
        refine Safe.seq (attends.emitAll_safe _ hsees) ?_
        exact fun _ later h => attends.done _ (attends.sees_base h)
      | stripped =>
        have hlabel := sourceUID_of_ownership (by rw [hown]; decide :
          classifyReplicaOwnership object.labels uid ≠ .foreign)
        refine Safe.seq (attends.emitAll_safe _ hsees) ?_
        exact fun _ later h => hdelete hlabel h
      | managed =>
        have hlabel := sourceUID_of_ownership (by rw [hown]; decide :
          classifyReplicaOwnership object.labels uid ≠ .foreign)
        exact hdelete hlabel hsees
    · intro err current hfound hsees
      simp only [hfound, if_true]
      have hcalls : ((do
          Program.perform (EngineCall.backoffSuccess nn entry.clusterName)
          pure (dropEntry gc entry) : EngineProgram FanOut)).AllCalls
            EngineCall.IsPassive := ⟨trivial, fun _ => trivial⟩
      exact (attends.passive_safe hcalls (attends.sees_base hsees)).weaken fun _ _ h => h.2
    · intro err current hfound hcurrent
      simp only [hfound, Bool.false_eq_true, if_false]
      exact hretry _ _ hcurrent

theorem collectGarbage_safe (attends : Attends semantics guard base sees may uid)
    (config : EngineConfig) (nn : NamespacedName) {keep : List SlotKey}
    {inv : List InventoryEntry}
    (hmay : ∀ entry ∈ inv, keyForEntry entry ∉ keep → ∀ object,
      StringMap.get object.labels labelSourceUID = uid →
        may (keyForEntry entry) object) (holds : base world) :
    Safe semantics guard (collectGarbage config nn uid keep inv) (fun _ => base) world := by
  unfold collectGarbage
  refine Safe.seq (attends.passive_safe (within_passive (planGC_within keep inv)) holds) ?_
  rintro plan current ⟨hplan, hcurrent⟩
  refine Safe.seq (attends.calm_safe ((releaseEntries_within plan.release
    inv).weaken ?_ fun _ h => h) hcurrent) ?_
  · rintro call ⟨entry, _, rfl⟩
    trivial
  rintro left current ⟨_, hcurrent⟩
  refine Safe.foldlM (fun _ => attends.base_stable) ?_ hcurrent
  intro entry hentry gc current hcurrent
  obtain ⟨hinv, hkeep⟩ := (hplan entry).mp (.inl hentry)
  exact attends.collectEntry_safe config nn gc (hmay entry hinv hkeep) hcurrent

theorem reconcileDeletion_safe (config : EngineConfig) (nn : NamespacedName) {rep : Replication}
    (attends : Attends semantics guard base sees may rep.spec.sourceRef.uid)
    (hmay : ∀ slot object, StringMap.get object.labels labelSourceUID =
      rep.spec.sourceRef.uid → may slot object)
    (hreleases : ∀ {current}, base current →
      guard current (.hub (.updateReplication (released rep))) ∧
        ∀ reply after, semantics.answers current
          (.hub (.updateReplication (released rep))) reply after → base after)
    (holds : base world) :
    Safe semantics guard (reconcileDeletion config nn rep) (fun _ => base) world := by
  unfold reconcileDeletion
  split_ifs
  · exact attends.done _ holds
  · refine Safe.seq (attends.collectGarbage_safe config nn (fun entry _ _ => hmay _) holds) ?_
    intro gc current hcurrent
    refine (Safe.of_within (finishDeletion_calls config nn rep gc)
      attends.base_stable hcurrent ?_ ?_).weaken fun _ _ h => h.2
    · rintro current call (hcalm | rfl) hcurrent
      · exact (attends.calm call hcurrent hcalm).1
      · exact (hreleases hcurrent).1
    · rintro current call reply after (hcalm | rfl) hcurrent answer
      · exact (attends.calm call hcurrent hcalm).2 _ _ answer
      · exact (hreleases hcurrent).2 _ _ answer

section FanOut

variable (config : EngineConfig) (nn : NamespacedName) {rep : Replication}
  {src : Unstructured} {gvk : GroupVersionKind}
  {policies : List ReplicationPolicy} {slots : List (SlotInfo × Decision)}

def conflictPolicies (policies : List ReplicationPolicy) (slot : SlotInfo × Decision) :
    List ConflictPolicy :=
  (resolveOptions (policiesByName policies slot.2.matchedPolicies)).allowedConflictPolicies

theorem fanOut_safe (attends : Attends semantics guard base sees may src.uid)
    (hkind : src.groupVersionKind = gvk)
    (hname : ∀ slot ∈ slots, slot.1.name = "" → src.name = "")
    (hmay : ∀ slot ∈ slots, slot.2.allowed = true → ∀ object,
      Touchable config src (conflictPolicies policies slot) object →
        may (slot.1.key gvk) object) (outcome : RevocationOutcome) (fan : FanOut)
    (holds : base world) :
    Safe semantics guard (slots.foldlM (fanOutSlot config nn src gvk policies
      outcome) fan) (fun _ => base) world := by
  refine Safe.foldlM (fun _ => attends.base_stable) ?_ holds
  intro slot hmem state current hcurrent
  unfold fanOutSlot
  split_ifs with hallowed
  · refine Safe.seq (attends.applyTarget_safe config hkind (hname slot hmem)
      nn _ (hmay slot hmem hallowed) state.inv hcurrent) ?_
    exact fun out later hlater => attends.done _ hlater
  · refine Safe.seq (attends.calm_safe (emitAll_allCalls fun _ _ => trivial) hcurrent) ?_
    exact fun _ later h => attends.done _ h.2

theorem persistPlanned_safe (attends : Attends semantics guard base sees may src.uid)
    (huid : rep.spec.sourceRef.uid = src.uid)
    (hstored : ∀ {current inv stored after}, base current →
      semantics.answers current (.hub (.updateReplicationStatus
        { rep with status := { rep.status with inventory := inv } }))
          (.ok stored) after → stored.spec.sourceRef.uid = src.uid) (inv : List InventoryEntry)
    (holds : base world) :
    Safe semantics guard (persistPlanned rep inv)
      (fun result current => base current ∧ ∀ stored, result = .ok stored →
        stored.spec.sourceRef.uid = src.uid) world := by
  unfold persistPlanned
  split_ifs
  · refine fun current change => ⟨attends.base_stable holds change, ?_⟩
    rintro stored ⟨⟩
    exact huid
  · refine Safe.call_of_stable attends.base_stable holds (fun current h =>
        (attends.calm (.hub (.updateReplicationStatus _)) h trivial).1) ?_
    intro current reply after hcurrent answer
    have hafter := (attends.calm (.hub (.updateReplicationStatus _))
      hcurrent trivial).2 reply after answer
    refine fun later change => ⟨attends.base_stable hafter change, ?_⟩
    rintro stored rfl
    exact hstored hcurrent answer

theorem converge_safe (attends : Attends semantics guard base sees may src.uid)
    (hkind : src.groupVersionKind = gvk) (huid : rep.spec.sourceRef.uid = src.uid)
    (hname : ∀ slot ∈ slots, slot.1.name = "" → src.name = "")
    (hstored : ∀ {current inv stored after}, base current →
      semantics.answers current (.hub (.updateReplicationStatus
        { rep with status := { rep.status with inventory := inv } }))
          (.ok stored) after → stored.spec.sourceRef.uid = src.uid)
    (hserves : ∀ slot ∈ slots, slot.2.allowed = true → ∀ object,
      Touchable config src (conflictPolicies policies slot) object → may (slot.1.key gvk) object)
    (hcollects : ∀ slot ∉ allowedKeys gvk slots, ∀ object,
      StringMap.get object.labels labelSourceUID = src.uid →
        may slot object) (outcome : RevocationOutcome) (holds : base world) :
    Safe semantics guard (converge config nn rep src gvk policies slots
      outcome) (fun _ => base) world := by
  unfold converge
  refine Safe.seq (attends.persistPlanned_safe huid hstored _ holds) ?_
  rintro result current ⟨hcurrent, hresult⟩
  cases result with
  | error err => exact attends.done _ hcurrent
  | ok stored =>
    dsimp only
    rw [hresult stored rfl]
    refine Safe.seq (attends.fanOut_safe config nn hkind hname hserves outcome _ hcurrent) ?_
    intro fan current hcurrent
    refine Safe.seq (attends.collectGarbage_safe config nn ?_ hcurrent) ?_
    · intro entry _ hkeep
      rw [List.mem_append, not_or] at hkeep
      exact hcollects _ hkeep.2
    · intro gc current hcurrent
      refine (attends.calm_safe ((finishFanOut_calls config nn _ _ _
        _ gc.inv _).weaken ?_ fun _ h => h) hcurrent).weaken fun _ _ h => h.2
      rintro call (hminor | hrecords)
      · exact hminor.passive.calm
      · exact hrecords.calm

end FanOut

end Attends

end K8sR8r
