import K8sR8r.InventoryLedger

/-!
# The inventory never loses a replica

Every part of the engine is safe for the ledger: at each call, in every world
that interference can have produced, `Ledger.Good` holds.  The local copy of
the inventory that the engine edits tracks every live replica throughout; an
entry leaves it only when its slot is vacant or its release has been noted.
-/

namespace K8sR8r

open Interaction

namespace Ledger

def inventoryGuard (nn : NamespacedName) (ledger : Ledger) (_ : EngineCall) : Prop :=
  ledger.Good nn

/-- The state of a reconcile that has a Replication in hand and a local
inventory. -/
structure Working (nn : NamespacedName) (uid : String) (rep : Replication)
    (inv : List InventoryEntry) (ledger : Ledger) : Prop where
  good : ledger.Good nn
  held : Held nn rep ledger
  persisted : Persisted nn uid rep.status.inventory ledger
  tracks : Tracks uid inv ledger

variable {nn : NamespacedName} {uid : String} {rep : Replication}
  {inv : List InventoryEntry} {before after ledger : Ledger}

theorem Working.interfered (working : Working nn uid rep inv before)
    (change : Interferes nn before after) :
    Working nn uid rep inv after :=
  ⟨change.good working.good, working.held.interfered change,
    working.persisted.interfered change, working.tracks.interfered change⟩

theorem working_stable : Stable (semantics nn) (Working nn uid rep inv) :=
  fun working change => working.interfered change

variable {replica : Replica} {cluster : String}

theorem working_vacant_stable : Stable (semantics nn) fun ledger =>
      Working nn uid rep inv ledger ∧ Vacant replica ledger :=
  fun h change => ⟨h.1.interfered change, h.2.interfered change⟩

theorem Working.withTracks {other : List InventoryEntry} (working : Working nn uid rep inv ledger)
    (tracks : Tracks uid other ledger) : Working nn uid rep other ledger :=
  { working with tracks := tracks }

theorem Working.remove {slot : SlotKey} (working : Working nn uid rep inv ledger)
    (vacant : Vacant (slot, uid) ledger) :
    Working nn uid rep (removeEntry inv slot) ledger :=
  working.withTracks (working.tracks.removeEntry fun live => vacant live.1)

theorem Working.uid_ne (working : Working nn uid rep inv ledger) : uid ≠ "" := by
  obtain ⟨cur, hcur, _, _, hUID⟩ := working.persisted
  rw [← hUID]
  exact (working.good.identity cur hcur).2

theorem safe_of_quiet {α : Type} {program : EngineProgram α} {assertion : Ledger → Prop}
    (quiet : program.AllCalls EngineCall.IsQuiet) (stable : Stable (semantics nn) assertion)
    (good : ∀ ledger, assertion ledger → ledger.Good nn) (holds : assertion ledger) :
    Safe (semantics nn) (inventoryGuard nn) program (fun _ => assertion)
      ledger :=
  (Safe.of_harmless quiet stable holds (fun _ h => good _ h)
    harmless_of_isQuiet).weaken fun _ _ h => h.2

theorem emitAll_safe {signals : List EngineSignal} {assertion : Ledger → Prop}
    (quiet : ∀ signal ∈ signals, ¬ signal.IsRelease) (stable : Stable (semantics nn) assertion)
    (good : ∀ ledger, assertion ledger → ledger.Good nn) (holds : assertion ledger) :
    Safe (semantics nn) (inventoryGuard nn) (emitAll signals) (fun _ => assertion) ledger :=
  safe_of_quiet (emitAll_allCalls quiet) stable good holds

/-! ## Reading the spokes -/

theorem transportGet_interferes {gvk : GroupVersionKind} {key : NamespacedName}
    {reply : ApiResult Unstructured}
    (answer : Answers nn before (.transportGet cluster gvk key) reply after) :
    Interferes nn before after := by
  have hquiet : (EngineCall.transportGet cluster gvk key).IsQuiet := trivial
  exact harmless_of_isQuiet hquiet answer

theorem Good.vacant_of_namespace_missing (good : ledger.Good nn) {ns : String}
    (missing : ledger.fleet.spokes (namespaceSlot cluster ns) = none)
    (hcluster : replica.1.cluster = cluster) (hns : replica.1.ns = ns) : Vacant replica ledger := by
  intro howned
  obtain ⟨hplace, obj, hobj, _⟩ := good.marked replica howned
  rcases good.placed replica.1 (by simp [hobj]) with hkind | ⟨_, hsome⟩
  · simp only [SlotKey.isNamespace, Bool.and_eq_true, decide_eq_true_eq] at hkind
    exact hplace hkind.1.1
  · rw [hcluster, hns, missing] at hsome
    cases hsome

theorem Good.vacant_of_absent (good : ledger.Good nn)
    (absent : ledger.fleet.spokes replica.1 = none) :
    Vacant replica ledger := by
  intro howned
  obtain ⟨_, obj, hobj, _⟩ := good.marked replica howned
  rw [absent] at hobj
  cases hobj

theorem Good.vacant_of_label (good : ledger.Good nn) {obj : Unstructured}
    (hobj : ledger.fleet.spokes replica.1 = some obj)
    (hlabel : StringMap.get obj.labels labelSourceUID ≠ replica.2) :
    Vacant replica ledger := by
  intro howned
  obtain ⟨_, other, hother, hsame⟩ := good.marked replica howned
  rw [hobj, Option.some.injEq] at hother
  subst other
  exact hlabel hsame

def NamespaceVerdict (cluster ns : String) (result : NamespaceResult) (ledger : Ledger) : Prop :=
  match result with
  | .ensured => ns ≠ ""
  | .missing _ => ∀ replica : Replica, replica.1.cluster = cluster →
      replica.1.ns = ns → Vacant replica ledger
  | .failed _ => True

theorem NamespaceVerdict.interfered {ns : String} {result : NamespaceResult}
    (verdict : NamespaceVerdict cluster ns result before) (change : Interferes nn before after) :
    NamespaceVerdict cluster ns result after := by
  cases result with
  | ensured => exact verdict
  | missing text =>
    intro replica hcluster hns
    exact (verdict replica hcluster hns).interfered change
  | failed err => trivial

theorem ensureNamespace_safe (cluster ns : String) (allowCreate : Bool)
    (working : Working nn uid rep inv ledger) :
    Safe (semantics nn) (inventoryGuard nn) (ensureNamespace cluster ns allowCreate)
      (fun result current => Working nn uid rep inv current ∧
        NamespaceVerdict cluster ns result current) ledger := by
  have stable : ∀ result, Stable (semantics nn) fun current =>
      Working nn uid rep inv current ∧ NamespaceVerdict cluster ns result current :=
    fun result world current h change =>
      ⟨h.1.interfered change, h.2.interfered change⟩
  unfold ensureNamespace
  rw [Program.perform_bind]
  refine Safe.call_of_stable working_stable working (fun _ h => h.good) ?_
  intro current reply after hworking answer
  have hnext := hworking.interfered (transportGet_interferes answer)
  obtain ⟨hread, hfleet⟩ := answer.fleet
  cases reply with
  | ok obj =>
    exact Safe.done_of_stable (stable .ensured) ⟨hnext, hread.1⟩
  | error err =>
    by_cases hfound : err.isNotFound = true
    · simp only [Spokes.AnswersGet, if_pos hfound] at hread
      simp only [hfound, Bool.not_true, Bool.false_eq_true, if_false]
      cases allowCreate with
      | false =>
        refine Safe.done_of_stable (stable (.missing _)) ⟨hnext, ?_⟩
        intro replica hcluster hns
        refine hnext.good.vacant_of_namespace_missing ?_ hcluster hns
        rw [hfleet]
        exact hread.2
      | true =>
        simp only [Bool.not_true, Bool.false_eq_true, if_false]
        rw [Program.perform_bind]
        refine Safe.call_of_harmless working_stable hnext (fun _ h => h.good)
          (harmless_transportApply (namespacePayload_plain ns)) ?_
        intro reply current hcurrent
        cases reply with
        | ok _ =>
          exact Safe.done_of_stable (stable .ensured) ⟨hcurrent, hread.1⟩
        | error err =>
          exact Safe.done_of_stable (stable (.failed err)) ⟨hcurrent, trivial⟩
    · simp only [hfound]
      exact Safe.done_of_stable (stable (.failed err)) ⟨hnext, trivial⟩

/-! ## Writing one slot -/

/-- A successful application on behalf of the source: the slot becomes live,
and it was recorded beforehand. -/
theorem Working.applied {obj : Unstructured} {entry : InventoryEntry}
    (working : Working nn uid rep inv before)
    (answer : Answers nn before (.transportApply cluster obj) (Except.ok () : ApiResult Unit) after)
    (hlabel : obj.labels.lookup labelSourceUID = some uid)
    (hslot : slotOf cluster obj.groupVersionKind obj.key = keyForEntry entry)
    (hns : entry.ns ≠ "") (hrec : Recorded rep.status.inventory (keyForEntry entry)) :
    Working nn uid rep (upsertEntry entry inv) after := by
  obtain ⟨spokes, ⟨admits, result, _, hupdate⟩, hafter⟩ := answer.fleet
  have hhub : after.fleet.hub = before.fleet.hub := by rw [hafter]
  have hlive : ∀ replica, after.Live replica →
      before.Live replica ∨ replica = (keyForEntry entry, uid) := by
    rintro ⟨slot, owner⟩ ⟨howned, hkept⟩
    rw [answer.owned] at howned
    rw [answer.released] at hkept
    by_cases happlied : AppliedFor (.transportApply cluster obj)
        (Except.ok () : ApiResult Unit) (slot, owner)
    · obtain ⟨_, hat, howner⟩ := happlied
      rw [hlabel, Option.some.injEq] at howner
      right
      exact Prod.ext (hat.trans hslot) howner.symm
    · rcases howned.1 with hold | hnew
      · refine .inl ⟨hold, fun hreleased => hkept ?_⟩
        exact ⟨.inl hreleased, happlied, fun h => h.elim⟩
      · exact (happlied hnew).elim
  obtain ⟨cur, hcur, hfin, hinv, hUID⟩ := working.persisted
  refine ⟨⟨?_, ?_, ?_, ?_, ?_⟩, ?_, ?_, ?_⟩
  · rw [hafter, hupdate]
    exact working.good.placed.update admits result
  · rw [hhub]
    exact working.good.versions
  · rw [hhub]
    exact working.good.identity
  · intro replica howned
    refine ⟨?_, answer.carries howned⟩
    rw [answer.owned] at howned
    rcases howned.1 with hold | ⟨_, hat, _⟩
    · exact (working.good.marked replica hold).1
    · rw [hat, hslot]
      exact hns
  · intro replica live
    rw [hhub]
    rcases hlive replica live with hbefore | rfl
    · exact working.good.recorded replica hbefore
    · exact ⟨cur, hcur, hUID, hfin, by rw [hinv]; exact hrec⟩
  · rw [Held, hhub]
    exact working.held
  · exact ⟨cur, by rw [hhub]; exact hcur, hfin, hinv, hUID⟩
  · intro slot live
    rw [recorded_upsertEntry_iff]
    rcases hlive (slot, uid) live with hbefore | heq
    · exact .inr (working.tracks slot hbefore)
    · exact .inl (Prod.mk.inj heq).1

theorem Working.upsert (working : Working nn uid rep inv ledger) (entry : InventoryEntry) :
    Working nn uid rep (upsertEntry entry inv) ledger :=
  working.withTracks (working.tracks.of_recorded fun _ h =>
    (recorded_upsertEntry_iff _ _ _).mpr (.inr h))

def ApplyVerdict (nn : NamespacedName) (uid : String) (rep : Replication)
    (inv : List InventoryEntry) (entry : InventoryEntry) (result : ApiResult Unit)
    (ledger : Ledger) : Prop :=
  match result with
  | .ok () => Working nn uid rep (upsertEntry entry inv) ledger
  | .error _ => Working nn uid rep inv ledger

theorem applyVerdict_stable (entry : InventoryEntry) (result : ApiResult Unit) :
    Stable (semantics nn) (ApplyVerdict nn uid rep inv entry result) := by
  cases result with
  | ok _ => exact working_stable
  | error err => exact working_stable

section Apply

variable {cluster : String} {obj : Unstructured} {entry : InventoryEntry}
  (hlabel : obj.labels.lookup labelSourceUID = some uid)
  (hslot : slotOf cluster obj.groupVersionKind obj.key = keyForEntry entry)
  (hns : entry.ns ≠ "")
  (hrec : Recorded rep.status.inventory (keyForEntry entry))

include hlabel hslot hns hrec

theorem applyVerdict_of_answer (working : Working nn uid rep inv before) {reply : ApiResult Unit}
    (answer : Answers nn before (.transportApply cluster obj) reply after) :
    ApplyVerdict nn uid rep inv entry reply after := by
  cases reply with
  | ok _ => exact working.applied answer hlabel hslot hns hrec
  | error err => exact working.interfered (interferes_of_applyError answer)

theorem transportApply_safe (working : Working nn uid rep inv ledger) :
    Safe (semantics nn) (inventoryGuard nn)
      (Program.perform (EngineCall.transportApply cluster obj))
      (ApplyVerdict nn uid rep inv entry) ledger := by
  refine Safe.call_of_stable working_stable working (fun _ h => h.good) ?_
  intro current reply after hworking answer
  exact Safe.done_of_stable (applyVerdict_stable entry reply)
    (applyVerdict_of_answer hlabel hslot hns hrec hworking answer)

theorem applyWithRecreate_safe (working : Working nn uid rep inv ledger) :
    Safe (semantics nn) (inventoryGuard nn) (applyWithRecreate cluster obj)
      (ApplyVerdict nn uid rep inv entry) ledger := by
  unfold applyWithRecreate
  rw [Program.perform_bind]
  refine Safe.call_of_stable working_stable working (fun _ h => h.good) ?_
  intro current reply after hworking answer
  have hverdict :=
    applyVerdict_of_answer hlabel hslot hns hrec hworking answer
  cases reply with
  | ok _ => exact Safe.done_of_stable (applyVerdict_stable entry _) hverdict
  | error err =>
    dsimp only
    split_ifs with hinvalid
    · exact Safe.done_of_stable (applyVerdict_stable entry _) hverdict
    · rw [Program.perform_bind]
      -- The delete before the second attempt takes nothing but objects.
      refine Safe.call_of_harmless working_stable hverdict
        (fun _ h => h.good) (harmless_transportDelete _ _ _) ?_
      intro reply current hcurrent
      cases reply with
      | ok _ => exact transportApply_safe hlabel hslot hns hrec hcurrent
      | error delErr =>
        dsimp only
        by_cases hfound : delErr.isNotFound = true
        · rw [if_neg (by simp [hfound])]
          exact transportApply_safe hlabel hslot hns hrec hcurrent
        · rw [if_pos (by simp [hfound])]
          exact Safe.done_of_stable (applyVerdict_stable entry (.error delErr)) hcurrent

end Apply

/-! ## Converging one slot -/

/-- What a verdict says about the slot: a ready slot is recorded, a refused one
holds no replica of this source. -/
def VerdictHolds (nn : NamespacedName) (uid : String) (rep : Replication)
    (inv : List InventoryEntry) (entry : InventoryEntry) (verdict : SlotVerdict) (ledger : Ledger) :
    Prop :=
  match verdict with
  | .ready => Working nn uid rep (upsertEntry entry inv) ledger
  | .retry _ _ => Working nn uid rep inv ledger
  | .refused _ _ => Working nn uid rep inv ledger ∧
      Vacant (keyForEntry entry, uid) ledger

theorem verdictHolds_stable (entry : InventoryEntry) (verdict : SlotVerdict) :
    Stable (semantics nn) (VerdictHolds nn uid rep inv entry verdict) := by
  cases verdict with
  | ready => exact working_stable
  | retry reason message => exact working_stable
  | refused reason message => exact working_vacant_stable

variable {signals : List EngineSignal}

theorem emit_ready_safe {entry : InventoryEntry} (quiet : ∀ signal ∈ signals, ¬ signal.IsRelease)
    (working : Working nn uid rep (upsertEntry entry inv) ledger) :
    Safe (semantics nn) (inventoryGuard nn)
      (do emitAll signals; pure SlotVerdict.ready)
      (VerdictHolds nn uid rep inv entry) ledger :=
  Safe.seq (emitAll_safe quiet working_stable (fun _ h => h.good) working) fun _ _ hworking =>
      Safe.done_of_stable (verdictHolds_stable entry .ready) hworking

theorem apply_then_ready_safe {entry : InventoryEntry} {program : EngineProgram (ApiResult Unit)}
    (safe : Safe (semantics nn) (inventoryGuard nn) program
      (ApplyVerdict nn uid rep inv entry) ledger) (quiet : ∀ signal ∈ signals, ¬ signal.IsRelease) :
    Safe (semantics nn) (inventoryGuard nn)
      (do
        match ← program with
        | .error err => pure (SlotVerdict.ofErr err)
        | .ok () => do
          emitAll signals
          pure .ready)
      (VerdictHolds nn uid rep inv entry) ledger := by
  refine Safe.seq safe ?_
  intro result current hverdict
  cases result with
  | error err =>
    exact Safe.done_of_stable (verdictHolds_stable entry (.ofErr err)) hverdict
  | ok _ => exact emit_ready_safe quiet hverdict

section Slot

variable (config : EngineConfig) {src : Unstructured}
  {gvk : GroupVersionKind} {slot : SlotInfo} {entry : InventoryEntry}
  (hUID : src.uid = uid) (hkind : src.groupVersionKind = gvk)
  (hentry : keyForEntry entry = slot.key gvk)
  (hns : slot.ns ≠ "") (hname : slot.name ≠ "")
  (hrec : Recorded rep.status.inventory (keyForEntry entry))

omit hkind hname in
include hUID hentry hns hrec in
theorem adoptSlot_safe (hash : String) (working : Working nn uid rep inv ledger) :
    Safe (semantics nn) (inventoryGuard nn) (Program.perform (EngineCall.transportApply slot.cluster
        (config.renderer.adoptPatch src gvk slot.ns slot.name hash)))
      (ApplyVerdict nn uid rep inv entry) ledger := by
  have hplace : entry.ns = slot.ns := congrArg SlotKey.ns hentry
  refine transportApply_safe ?_ ?_ (by rwa [hplace]) hrec working
  · rw [Renderer.adoptPatch_sourceUID, hUID]
  · rw [slotOf_adoptPatch, hentry]

include hUID hkind hentry hns hname hrec

theorem createSlot_safe (working : Working nn uid rep inv ledger) :
    Safe (semantics nn) (inventoryGuard nn) (Program.perform (EngineCall.transportApply slot.cluster
        (config.renderer.render src slot.ns slot.name).1))
      (ApplyVerdict nn uid rep inv entry) ledger := by
  have hplace : entry.ns = slot.ns := congrArg SlotKey.ns hentry
  refine transportApply_safe ?_ ?_ (by rwa [hplace]) hrec working
  · rw [Renderer.render_sourceUID, hUID]
  · rw [slotOf_render _ (fun h => (hname h).elim), hkind, hentry]

theorem rewriteSlot_safe (working : Working nn uid rep inv ledger) :
    Safe (semantics nn) (inventoryGuard nn) (applyWithRecreate slot.cluster
        (config.renderer.render src slot.ns slot.name).1)
      (ApplyVerdict nn uid rep inv entry) ledger := by
  have hplace : entry.ns = slot.ns := congrArg SlotKey.ns hentry
  refine applyWithRecreate_safe ?_ ?_ (by rwa [hplace]) hrec working
  · rw [Renderer.render_sourceUID, hUID]
  · rw [slotOf_render _ (fun h => (hname h).elim), hkind, hentry]

theorem repairStripped_safe (hash : String) (existing : Unstructured)
    (working : Working nn uid rep inv ledger) :
    Safe (semantics nn) (inventoryGuard nn) (repairStripped config slot
        (config.renderer.render src slot.ns slot.name).1 hash existing)
      (VerdictHolds nn uid rep inv entry) ledger := by
  unfold repairStripped
  refine apply_then_ready_safe (rewriteSlot_safe config hUID hkind hentry hns hname hrec working) ?_
  intro signal hmem
  split_ifs at hmem <;>
    simp only [List.mem_append, List.mem_cons, List.not_mem_nil, or_false] at hmem <;>
    rcases hmem with (rfl | rfl) | rfl | rfl <;> exact fun h => h

theorem convergeExisting_safe (allowed : List ConflictPolicy) {existing : Unstructured}
    (hstripped : classifyReplicaOwnership existing.labels uid ≠ .stripped)
    (hvacant : StringMap.get existing.labels labelSourceUID ≠ uid →
      Vacant (keyForEntry entry, uid) ledger) (working : Working nn uid rep inv ledger) :
    Safe (semantics nn) (inventoryGuard nn) (convergeExisting config src gvk slot allowed
        (config.renderer.render src slot.ns slot.name).1
        (config.renderer.render src slot.ns slot.name).2 existing)
      (VerdictHolds nn uid rep inv entry) ledger := by
  unfold convergeExisting
  dsimp only
  cases haction : (decideConflict config.renderer existing src
      (config.renderer.render src slot.ns slot.name).2 allowed).action with
  | fail =>
    have hmanaged := not_managed_of_decideConflict_fail haction
    rw [hUID] at hmanaged
    have hgone := hvacant (sourceUID_ne_of_not_managed working.uid_ne hstripped hmanaged)
    refine Safe.seq (emitAll_safe (by simp [EngineSignal.IsRelease])
      working_vacant_stable (fun _ h => h.1.good)
      ⟨working, hgone⟩) ?_
    intro _ current hrefused
    exact Safe.done_of_stable (verdictHolds_stable entry _) hrefused
  | adopt =>
    refine Safe.seq (emitAll_safe (by simp [EngineSignal.IsRelease])
      working_stable (fun _ h => h.good) working) ?_
    intro _ current hworking
    refine Safe.seq (adoptSlot_safe config hUID hentry hns hrec _ hworking) ?_
    intro result current hverdict
    cases result with
    | error err =>
      exact Safe.done_of_stable (verdictHolds_stable entry (.ofErr err)) hverdict
    | ok _ =>
      exact emit_ready_safe (by simp [EngineSignal.IsRelease]) hverdict
  | overwrite =>
    refine Safe.seq (emitAll_safe (by simp [EngineSignal.IsRelease])
      working_stable (fun _ h => h.good) working) ?_
    intro _ current hworking
    exact apply_then_ready_safe (rewriteSlot_safe config hUID hkind hentry hns hname hrec hworking)
      (by simp [EngineSignal.IsRelease])
  | apply =>
    dsimp only
    by_cases hwrite : StringMap.get existing.annotations annotationSourceHash ≠
            (config.renderer.render src slot.ns slot.name).2 ∨
          config.renderer.sourceHash existing ≠ (config.renderer.render src slot.ns slot.name).2
    · rw [if_pos hwrite]
      refine apply_then_ready_safe
        (rewriteSlot_safe config hUID hkind hentry hns hname hrec working) ?_
      split_ifs <;> simp [EngineSignal.IsRelease]
    · rw [if_neg hwrite]
      exact Safe.done_of_stable (verdictHolds_stable entry .ready) (working.upsert entry)

end Slot

variable {src : Unstructured} {gvk : GroupVersionKind} {slot : SlotInfo}

theorem convergeSlot_safe (config : EngineConfig) {entry : InventoryEntry} (hUID : src.uid = uid)
    (hkind : src.groupVersionKind = gvk) (hentry : keyForEntry entry = slot.key gvk)
    (hns : slot.ns ≠ "") (hrec : Recorded rep.status.inventory (keyForEntry entry))
    (allowed : List ConflictPolicy) (working : Working nn uid rep inv ledger) :
    Safe (semantics nn) (inventoryGuard nn) (convergeSlot config src gvk slot allowed)
      (VerdictHolds nn uid rep inv entry) ledger := by
  unfold convergeSlot
  dsimp only
  rw [Program.perform_bind]
  refine Safe.call_of_stable working_stable working (fun _ h => h.good) ?_
  intro current reply after hworking answer
  have hnext := hworking.interfered (transportGet_interferes answer)
  obtain ⟨hread, hfleet⟩ := answer.fleet
  cases reply with
  | error err =>
    dsimp only
    split_ifs with hfound
    · simp only [Spokes.AnswersGet, if_pos hfound] at hread
      refine Safe.seq (createSlot_safe config hUID hkind hentry hns hread.1 hrec hnext) ?_
      intro result later hverdict
      cases result with
      | error err =>
        exact Safe.done_of_stable (verdictHolds_stable entry (.ofErr err)) hverdict
      | ok _ =>
        exact Safe.done_of_stable (verdictHolds_stable entry .ready) hverdict
    · exact Safe.done_of_stable (verdictHolds_stable entry (.ofErr err)) hnext
  | ok existing =>
    dsimp only
    rw [hUID]
    split_ifs with hstripped
    · exact repairStripped_safe config hUID hkind hentry hns hread.1 hrec _ existing hnext
    · refine convergeExisting_safe config hUID hkind hentry hns hread.1
        hrec allowed hstripped ?_ hnext
      intro hlabel
      refine hnext.good.vacant_of_label ?_ hlabel
      rw [hfleet, hentry]
      exact hread.2

/-! ## One target, and all of them -/

theorem safe_quiet_call {α : Type} {call : EngineCall} {next : call.Reply → EngineProgram α}
    {assertion : Ledger → Prop} {post : α → Ledger → Prop} (quiet : call.IsQuiet)
    (stable : Stable (semantics nn) assertion)
    (good : ∀ ledger, assertion ledger → ledger.Good nn) (holds : assertion ledger)
    (step : ∀ reply current, assertion current →
      Safe (semantics nn) (inventoryGuard nn) (next reply) post current) :
    Safe (semantics nn) (inventoryGuard nn) (Program.perform call >>= next) post ledger := by
  rw [Program.perform_bind]
  exact Safe.call_of_harmless stable holds good (harmless_of_isQuiet quiet) step

theorem settleSlot_safe {hash : String} {verdict : SlotVerdict}
    (holds : VerdictHolds nn uid rep inv
      ⟨slot.cluster, slot.ns, slot.name, gvk.group, gvk.kind, hash⟩
      verdict ledger) :
    Safe (semantics nn) (inventoryGuard nn) (settleSlot nn gvk slot hash inv verdict)
      (fun out => Working nn uid rep out.inv) ledger := by
  cases verdict with
  | retry reason message =>
    refine safe_quiet_call trivial working_stable (fun _ h => h.good) holds ?_
    intro delay current hworking
    exact Safe.done_of_stable working_stable hworking
  | refused reason message =>
    exact Safe.done_of_stable working_stable (holds.1.remove holds.2)
  | ready =>
    refine safe_quiet_call trivial working_stable (fun _ h => h.good) holds ?_
    intro _ current hworking
    refine safe_quiet_call trivial working_stable (fun _ h => h.good) hworking ?_
    intro _ later hlater
    exact Safe.done_of_stable working_stable hlater

theorem applyTarget_safe (config : EngineConfig) (hUID : src.uid = uid)
    (hkind : src.groupVersionKind = gvk) (hrec : Recorded rep.status.inventory (slot.key gvk))
    (eff : EffectiveOptions) (working : Working nn uid rep inv ledger) :
    Safe (semantics nn) (inventoryGuard nn) (applyTarget config nn src gvk slot eff inv)
      (fun out => Working nn uid rep out.inv) ledger := by
  let entry : InventoryEntry :=
    ⟨slot.cluster, slot.ns, slot.name, gvk.group, gvk.kind, config.renderer.sourceHash src⟩
  have hentry : keyForEntry entry = slot.key gvk := rfl
  unfold applyTarget
  dsimp only
  refine Safe.seq (ensureNamespace_safe slot.cluster slot.ns eff.allowNamespaceCreation working) ?_
  rintro result current ⟨hworking, hverdict⟩
  cases result with
  | ensured =>
    refine Safe.seq (convergeSlot_safe config hUID hkind hentry hverdict
      (by rwa [hentry]) eff.allowedConflictPolicies hworking) ?_
    intro verdict later hholds
    exact settleSlot_safe hholds
  | failed err =>
    refine settleSlot_safe ?_
    split_ifs
    · exact hworking
    · exact hworking
  | missing text =>
    have hvacant : Vacant (slot.key gvk, uid) current :=
      hverdict _ rfl rfl
    refine safe_quiet_call trivial working_vacant_stable
      (fun _ h => h.1.good) ⟨hworking, hvacant⟩ ?_
    rintro delay later ⟨hlater, hvacant⟩
    exact Safe.done_of_stable working_stable (hlater.remove hvacant)

theorem fanOutSlot_safe (config : EngineConfig) (hUID : src.uid = uid)
    (hkind : src.groupVersionKind = gvk) (policies : List ReplicationPolicy)
    (outcome : RevocationOutcome) {fan : FanOut} {slot : SlotInfo × Decision}
    (hrec : slot.2.allowed = true → Recorded rep.status.inventory (slot.1.key gvk))
    (working : Working nn uid rep fan.inv ledger) :
    Safe (semantics nn) (inventoryGuard nn) (fanOutSlot config nn src gvk policies outcome fan slot)
      (fun fan => Working nn uid rep fan.inv) ledger := by
  unfold fanOutSlot
  split_ifs with hallowed
  · refine Safe.seq (applyTarget_safe config hUID hkind (hrec hallowed) _ working) ?_
    intro out current hworking
    exact Safe.done_of_stable working_stable hworking
  · refine Safe.seq (emitAll_safe (fun _ hmem => (deniedState_minor _ _ _ _ _ _ hmem).1)
      working_stable (fun _ h => h.good) working) ?_
    intro _ current hworking
    exact Safe.done_of_stable working_stable hworking

theorem fanOut_safe (config : EngineConfig) (hUID : src.uid = uid)
    (hkind : src.groupVersionKind = gvk) (policies : List ReplicationPolicy)
    (outcome : RevocationOutcome) {slots : List (SlotInfo × Decision)} {fan : FanOut}
    (hrec : ∀ slot ∈ slots, slot.2.allowed = true → Recorded rep.status.inventory (slot.1.key gvk))
    (working : Working nn uid rep fan.inv ledger) :
    Safe (semantics nn) (inventoryGuard nn)
      (slots.foldlM (fanOutSlot config nn src gvk policies outcome) fan)
      (fun fan => Working nn uid rep fan.inv) ledger := by
  refine Safe.foldlM (fun _ => working_stable) ?_ working
  intro slot hmem fan current hworking
  exact fanOutSlot_safe config hUID hkind policies outcome (hrec slot hmem) hworking

end Ledger

end K8sR8r
