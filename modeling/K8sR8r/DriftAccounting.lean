import K8sR8r.RequestedReadiness

/-!
# What the drift counter counts

Converging an own replica compares the content it finds with the source as it
is now and counts a correction when they differ and the write succeeds.  A run
is taken apart into segments; each segment has a tally of the corrective writes
that succeeded and of the corrections that were counted and reported.
-/

namespace K8sR8r

open Interaction

/-- The exchange is a successful write of this object. -/
def Writes {World : Type} (cluster : String) (obj : Unstructured)
    (exchange : Exchange World EngineCall.Reply) : Prop :=
  match exchange.request, exchange.reply with
  | .transportApply target payload, .ok _ => target = cluster ∧ payload = obj
  | _, _ => False

/-- The call can play no part in a drift correction of the slot. -/
def EngineCall.IsNeutral (slot : SlotInfo) (obj : Unstructured) : EngineCall → Prop
  | .transportApply cluster payload => cluster ≠ slot.cluster ∨ payload ≠ obj
  | .emit (.metric (.driftCorrection cluster)) => cluster ≠ slot.cluster
  | .emit (.event (.driftCorrected other _ _)) => other ≠ slot
  | _ => True

section Tallies

variable {World : Type} {semantics : Semantics World EngineCall.Reply}
  {slot : SlotInfo} {obj : Unstructured}

def Written (slot : SlotInfo) (obj : Unstructured)
    (trace : List (Exchange World EngineCall.Reply)) : Prop :=
  ∃ exchange ∈ trace, Writes slot.cluster obj exchange

/-- The drift-correction counter of the slot's cluster was incremented. -/
def Counted (slot : SlotInfo) (trace : List (Exchange World EngineCall.Reply)) :
    Prop :=
  ∃ exchange ∈ trace, exchange.request = .emit (.metric (.driftCorrection slot.cluster))

def Reported (slot : SlotInfo) (trace : List (Exchange World EngineCall.Reply)) :
    Prop :=
  ∃ exchange ∈ trace, ∃ observed expected, exchange.request =
    .emit (.event (.driftCorrected slot observed expected))

/-- A segment in which the object was written or not, and a correction counted
and reported or not. -/
structure DriftTally
    (slot : SlotInfo) (obj : Unstructured)
    (trace : List (Exchange World EngineCall.Reply))
    (written corrected : Prop) : Prop where
  written : Written slot obj trace ↔ written
  counted : Counted slot trace ↔ corrected
  reported : Reported slot trace ↔ corrected

theorem exists_mem_append_iff {α : Type} {first second : List α} {holds : α → Prop} :
    (∃ item ∈ first ++ second, holds item) ↔
      (∃ item ∈ first, holds item) ∨ ∃ item ∈ second, holds item := by
  simp only [List.mem_append, or_and_right, exists_or]

variable {first trace : List (Exchange World EngineCall.Reply)} {corrected : Prop} {value : Unit}
  {world final : World} {signals : List EngineSignal}

theorem DriftTally.append {second : List (Exchange World EngineCall.Reply)}
    {written written' corrected' : Prop} (left : DriftTally slot obj first written corrected)
    (right : DriftTally slot obj second written' corrected') :
    DriftTally slot obj (first ++ second) (written ∨ written') (corrected ∨ corrected') where
  written := exists_mem_append_iff.trans (or_congr left.written right.written)
  counted := exists_mem_append_iff.trans (or_congr left.counted right.counted)
  reported :=
    exists_mem_append_iff.trans (or_congr left.reported right.reported)

theorem driftTally_of_neutral (neutral : ∀ exchange ∈ trace, exchange.request.IsNeutral slot obj) :
    DriftTally slot obj trace False False where
  written := by
    refine iff_of_false ?_ id
    rintro ⟨⟨before, request, reply, after⟩, hmem, hwrites⟩
    have hneutral := neutral _ hmem
    cases request with
    | transportApply cluster payload =>
      cases reply with
      | error err => exact hwrites
      | ok _ =>
        obtain ⟨rfl, rfl⟩ := hwrites
        rcases hneutral with h | h
        · exact h rfl
        · exact h rfl
    | _ => exact hwrites
  counted := by
    refine iff_of_false ?_ id
    rintro ⟨exchange, hmem, hrequest⟩
    have hneutral := neutral _ hmem
    rw [hrequest] at hneutral
    exact hneutral rfl
  reported := by
    refine iff_of_false ?_ id
    rintro ⟨exchange, hmem, observed, expected, hrequest⟩
    have hneutral := neutral _ hmem
    rw [hrequest] at hneutral
    exact hneutral rfl

theorem driftTally_of_within {α : Type} {program : EngineProgram α} {value : α} {post : α → Prop}
    (within : program.Within (EngineCall.IsNeutral slot obj) post)
    (run : Run semantics world program trace final (.done value)) :
    DriftTally slot obj trace False False :=
  driftTally_of_neutral (run.value_of_within within).2

theorem driftTally_apply (before after : World) (reply : ApiResult Unit) : DriftTally slot obj
      [⟨before, .transportApply slot.cluster obj, reply, after⟩]
      (reply = .ok ()) False where
  written := by
    cases reply with
    | error err => simp [Written, Writes]
    | ok _ => simp [Written, Writes]
  counted := by simp [Counted]
  reported := by simp [Reported]

theorem applyWithRecreate_driftTally {result : ApiResult Unit}
    (run : Run semantics world (applyWithRecreate slot.cluster obj) trace final (.done result)) :
    DriftTally slot obj trace (result = .ok ()) False := by
  -- A retry after the deletion is tallied by its own reply.
  have hretry : ∀ {world trace}, Run semantics world (Program.perform
        (EngineCall.transportApply slot.cluster obj)) trace final
        (.done result) →
      DriftTally slot obj trace (result = .ok ()) False := by
    intro world trace run
    obtain ⟨current, reply, after, rest, _, _, rfl, hrest⟩ := run.of_call
    obtain ⟨rfl, hresult, _⟩ := hrest.of_done
    cases hresult
    exact driftTally_apply _ _ result
  unfold applyWithRecreate at run
  rw [Program.perform_bind] at run
  obtain ⟨current, reply, after, rest, _, _, rfl, hrest⟩ := run.of_call
  cases reply with
  | ok done =>
    obtain ⟨rfl, hresult, _⟩ := hrest.of_done
    cases hresult
    exact driftTally_apply _ _ (.ok ())
  | error err =>
    dsimp only at hrest
    split_ifs at hrest with hinvalid
    · obtain ⟨rfl, hresult, _⟩ := hrest.of_done
      cases hresult
      exact driftTally_apply _ _ (.error err)
    · rw [Program.perform_bind] at hrest
      obtain ⟨current', reply, after', rest', _, _, rfl, hdeleted⟩ :=
        hrest.of_call
      have hdelete : DriftTally slot obj [(⟨current', .transportDelete
          slot.cluster obj.groupVersionKind obj.key, reply, after'⟩ :
            Exchange World EngineCall.Reply)] False False :=
        driftTally_of_neutral (by simp [EngineCall.IsNeutral])
      have hhead :=
        (driftTally_apply current after (.error err)).append hdelete
      cases reply with
      | ok done => simpa using hhead.append (hretry hdeleted)
      | error delErr =>
        dsimp only at hdeleted
        split_ifs at hdeleted
        · obtain ⟨rfl, hresult, _⟩ := hdeleted.of_done
          cases hresult
          simpa using hhead
        · simpa using hhead.append (hretry hdeleted)

theorem emitAll_requests (run : Run semantics world (emitAll signals) trace final (.done value)) :
    trace.map Exchange.request = signals.map EngineCall.emit := by
  induction signals generalizing world trace with
  | nil =>
    obtain ⟨rfl, _, _⟩ := run.of_done
    rfl
  | cons signal rest ih =>
    obtain ⟨current, reply, after, tail, _, _, rfl, hrest⟩ := run.of_call
    rw [List.map_cons, List.map_cons, ih hrest]

theorem emitAll_emits (run : Run semantics world (emitAll signals) trace final (.done value))
    (signal : EngineSignal) :
    (∃ exchange ∈ trace, exchange.request = .emit signal) ↔ signal ∈ signals := by
  have hmem : EngineCall.emit signal ∈ trace.map Exchange.request ↔
      EngineCall.emit signal ∈ signals.map EngineCall.emit := by
    rw [emitAll_requests run]
  simpa using hmem

/-- Signals are tallied by whether the drift signals are among them. -/
theorem emitAll_driftTally (run : Run semantics world (emitAll signals) trace final (.done value))
    (hcounted : EngineSignal.metric (.driftCorrection slot.cluster) ∈ signals ↔ corrected)
    (hreported : (∃ observed expected, EngineSignal.event
      (.driftCorrected slot observed expected) ∈ signals) ↔ corrected) :
    DriftTally slot obj trace False corrected := by
  have hrequests := emitAll_emits run
  refine ⟨?_, (hrequests _).trans hcounted, ?_⟩
  · refine iff_of_false ?_ id
    rintro ⟨⟨before, request, reply, after⟩, hmem, hwrites⟩
    have hemit := List.mem_map_of_mem (f := Exchange.request) hmem
    rw [emitAll_requests run] at hemit
    obtain ⟨signal, _, rfl⟩ := List.mem_map.mp hemit
    exact hwrites
  · refine Iff.trans ?_ hreported
    constructor
    · rintro ⟨exchange, hmem, observed, expected, hrequest⟩
      exact ⟨observed, expected, (hrequests _).mp ⟨exchange, hmem, hrequest⟩⟩
    · rintro ⟨observed, expected, hmem⟩
      obtain ⟨exchange, hexchange, hrequest⟩ := (hrequests _).mpr hmem
      exact ⟨exchange, hexchange, observed, expected, hrequest⟩

/-- A correction is counted exactly when the write succeeded and the content
was off. -/
def CountsAgainst (slot : SlotInfo) (obj : Unstructured) (corrected : Prop)
    (trace : List (Exchange World EngineCall.Reply)) : Prop :=
  ∃ written, DriftTally slot obj trace written (written ∧ corrected)

theorem CountsAgainst.between {middle last : List (Exchange World EngineCall.Reply)}
    (before : DriftTally slot obj first False False)
    (counts : CountsAgainst slot obj corrected middle)
    (after : DriftTally slot obj last False False) :
    CountsAgainst slot obj corrected (first ++ (middle ++ last)) := by
  obtain ⟨written, tally⟩ := counts
  exact ⟨written, by simpa using before.append (tally.append after)⟩

theorem countsAgainst_of_neutral (tally : DriftTally slot obj trace False False) :
    CountsAgainst slot obj corrected trace :=
  ⟨False, by simpa using tally⟩

theorem correct_and_report_counts {verdict : SlotVerdict}
    (hcounted : EngineSignal.metric (.driftCorrection slot.cluster) ∈ signals ↔ corrected)
    (hreported : (∃ observed expected, EngineSignal.event
      (.driftCorrected slot observed expected) ∈ signals) ↔ corrected)
    (run : Run semantics world (do
      match ← applyWithRecreate slot.cluster obj with
      | .error err => pure (SlotVerdict.ofErr err)
      | .ok () => do
        emitAll signals
        pure SlotVerdict.ready) trace final (.done verdict)) :
    CountsAgainst slot obj corrected trace := by
  obtain ⟨first, second, middle, result, rfl, hfirst, hsecond⟩ := run.split
  have htally := applyWithRecreate_driftTally hfirst
  cases result with
  | error err =>
    obtain ⟨rfl, _, _⟩ := hsecond.of_done
    exact countsAgainst_of_neutral (by simpa using htally)
  | ok done =>
    obtain ⟨emitted, rest, later, _, rfl, hemitted, hrest⟩ := hsecond.split
    obtain ⟨rfl, _, _⟩ := hrest.of_done
    have hsignals : DriftTally slot obj emitted False corrected :=
      emitAll_driftTally hemitted hcounted hreported
    exact ⟨True, by simpa using htally.append hsignals⟩

end Tallies

/-! ## Converging an own replica -/

section Converging

variable {World : Type} {semantics : Semantics World EngineCall.Reply}
  {config : EngineConfig} {src live : Unstructured} {gvk : GroupVersionKind}
  {slot : SlotInfo} {allowed : List ConflictPolicy}

theorem settleSlot_neutral (nn : NamespacedName) (obj : Unstructured) (hash : String)
    (inv : List InventoryEntry) (verdict : SlotVerdict) :
    (settleSlot nn gvk slot hash inv verdict).AllCalls (EngineCall.IsNeutral slot obj) := by
  cases verdict with
  | ready => exact ⟨trivial, fun _ => ⟨trivial, fun _ => trivial⟩⟩
  | retry reason message => exact ⟨trivial, fun _ => trivial⟩
  | refused reason message => trivial

theorem ensureNamespace_neutral (allowCreate : Bool) (name : String) :
    (ensureNamespace slot.cluster slot.ns allowCreate).AllCalls (EngineCall.IsNeutral slot
        (config.renderer.render src slot.ns name).1) := by
  have hother : namespacePayload slot.ns ≠ (config.renderer.render src slot.ns name).1 := by
    intro heq
    have hlabel := namespacePayload_plain slot.ns
    rw [heq, Renderer.render_sourceUID] at hlabel
    cases hlabel
  refine (ensureNamespace_calls _ _ _).weaken ?_ fun _ h => h
  rintro call (rfl | ⟨_, rfl⟩)
  · trivial
  · exact .inr hother

theorem decideConflict_of_managed
    (hmanaged : classifyReplicaOwnership live.labels src.uid = .managed) (hash : String) :
    (decideConflict config.renderer live src hash allowed).action =
      .apply := by
  have hown : isManagedReplica live.labels src.uid = true := by
    unfold classifyReplicaOwnership at hmanaged
    split_ifs at hmanaged with huid hlabel
    simp only [Bool.or_eq_true, decide_eq_true_eq, not_or, not_not] at huid
    simp [isManagedReplica, hlabel, huid.2]
  unfold decideConflict
  rw [if_pos hown]

/-- Whatever is done about an own replica counts against the current
source. -/
theorem converge_owned_counts {world final : World}
    {trace : List (Exchange World EngineCall.Reply)} {verdict : SlotVerdict}
    (howned : classifyReplicaOwnership live.labels src.uid ≠ .foreign)
    (run : Run semantics world (if classifyReplicaOwnership live.labels src.uid = .stripped then
        repairStripped config slot (config.renderer.render src slot.ns slot.name).1
          (config.renderer.sourceHash src) live
      else convergeExisting config src gvk slot allowed
        (config.renderer.render src slot.ns slot.name).1
        (config.renderer.sourceHash src) live)
      trace final (.done verdict)) :
    CountsAgainst slot (config.renderer.render src slot.ns slot.name).1
      (config.renderer.sourceHash live ≠ config.renderer.sourceHash src)
      trace := by
  by_cases hstripped : classifyReplicaOwnership live.labels src.uid = .stripped
  · rw [if_pos hstripped] at run
    unfold repairStripped at run
    refine correct_and_report_counts ?_ ?_ run
    · split_ifs with hsame <;> simp [hsame]
    · split_ifs with hsame <;> simp [hsame]
  · rw [if_neg hstripped] at run
    have hmanaged : classifyReplicaOwnership live.labels src.uid =
        .managed := by
      cases hclass : classifyReplicaOwnership live.labels src.uid with
      | foreign => exact absurd hclass howned
      | managed => rfl
      | stripped => exact absurd hclass hstripped
    unfold convergeExisting at run
    dsimp only at run
    rw [decideConflict_of_managed hmanaged] at run
    dsimp only at run
    split_ifs at run with hneeded hsame
    · refine correct_and_report_counts ?_ ?_ run
      · simp [hsame]
      · simp [hsame]
    · refine correct_and_report_counts ?_ ?_ run
      · simp [hsame]
      · simp [hsame]
    · obtain ⟨rfl, _, _⟩ := run.of_done
      exact countsAgainst_of_neutral (driftTally_of_neutral (by simp))

end Converging

section Applying

variable {fails : EngineCall → Prop} {config : EngineConfig} {fleet : Fleet}
  {src live : Unstructured} {gvk : GroupVersionKind} {slot : SlotInfo}

/-- A namespace is created under its name, so whatever lies in one is spared. -/
theorem ensureNamespace_spares (key : SlotKey) {cluster ns : String}
    (hkey : ns ≠ "" → key ≠ namespaceSlot cluster ns) (allowCreate : Bool) :
    Safe (Fleet.alone fails) unguarded (ensureNamespace cluster ns allowCreate)
      (fun _ current => current.spokes key = fleet.spokes key) fleet := by
  refine (Safe.undisturbed_within (fun current : Fleet => current.spokes key = fleet.spokes key)
    (ensureNamespace_calls cluster ns allowCreate) ?_ rfl).weaken fun _ _ h => h.2
  rintro before call reply after (rfl | ⟨_, rfl⟩) hsame answer
  · obtain ⟨_, rfl⟩ := answer
    exact hsame
  · obtain ⟨spokes, hanswer, rfl⟩ := answer
    cases reply with
    | error err =>
      obtain ⟨rfl, _⟩ := hanswer
      exact hsame
    | ok _ =>
      obtain ⟨hadmits, result, _, rfl⟩ := hanswer
      exact (Function.update_of_ne (hkey hadmits.1) _ _).trans hsame

variable {trace : List (Exchange Fleet EngineCall.Reply)}

theorem convergeSlot_counts {allowed : List ConflictPolicy} {verdict : SlotVerdict}
    {final : Fleet} (hlive : fleet.spokes (slot.key gvk) = some live)
    (howned : classifyReplicaOwnership live.labels src.uid ≠ .foreign)
    (run : Run (Fleet.alone fails) fleet (convergeSlot config src gvk slot allowed) trace final
      (.done verdict)) :
    CountsAgainst slot (config.renderer.render src slot.ns slot.name).1
      (config.renderer.sourceHash live ≠ config.renderer.sourceHash src)
      trace := by
  unfold convergeSlot at run
  dsimp only at run
  rw [Program.perform_bind] at run
  obtain ⟨current, reply, after, rest, hcurrent, ⟨hget, hafter⟩, rfl, hrest⟩ := run.of_call
  cases hcurrent
  cases hafter
  have hread : DriftTally slot (config.renderer.render src slot.ns slot.name).1
      [(⟨fleet, .transportGet slot.cluster gvk ⟨slot.ns, slot.name⟩, reply,
        fleet⟩ : Exchange Fleet EngineCall.Reply)] False False :=
    driftTally_of_neutral (by simp [EngineCall.IsNeutral])
  cases reply with
  | error err =>
    have hmissing : if err.isNotFound = true then
        slot.name ≠ "" ∧ fleet.spokes (slot.key gvk) = none
      else _ := hget
    dsimp only at hrest
    split_ifs at hmissing hrest
    · rw [hlive] at hmissing
      cases hmissing.2
    · obtain ⟨rfl, _, _⟩ := hrest.of_done
      exact countsAgainst_of_neutral hread
  | ok existing =>
    have hfound : fleet.spokes (slot.key gvk) = some existing := hget.2
    obtain rfl : live = existing :=
      Option.some.inj (hlive.symm.trans hfound)
    have hcounts := converge_owned_counts howned hrest
    have hempty : DriftTally slot (config.renderer.render src slot.ns slot.name).1
        ([] : List (Exchange Fleet EngineCall.Reply)) False False :=
      driftTally_of_neutral (by simp)
    simpa using hcounts.between hread hempty

theorem applyTarget_counts {nn : NamespacedName} {eff : EffectiveOptions}
    {inv : List InventoryEntry} {final : Fleet} {out : TargetOutcome}
    (hlive : fleet.spokes (slot.key gvk) = some live)
    (howned : classifyReplicaOwnership live.labels src.uid ≠ .foreign)
    (run : Run (Fleet.alone fails) fleet
      (applyTarget config nn src gvk slot eff inv) trace final (.done out)) :
    CountsAgainst slot (config.renderer.render src slot.ns slot.name).1
      (config.renderer.sourceHash live ≠ config.renderer.sourceHash src)
      trace := by
  unfold applyTarget at run
  obtain ⟨first, second, middle, result, rfl, hfirst, hsecond⟩ := run.split
  have hbefore : DriftTally slot
      (config.renderer.render src slot.ns slot.name).1 first False False :=
    driftTally_of_within (ensureNamespace_neutral _ slot.name) hfirst
  have hkept : middle.spokes (slot.key gvk) = some live :=
    ((ensureNamespace_spares _ (fun hns heq => hns (congrArg SlotKey.ns heq))
      eff.allowNamespaceCreation).run_done hfirst).trans hlive
  cases result with
  | missing text =>
    have hafter : DriftTally slot (config.renderer.render src slot.ns slot.name).1 second False
          False := by
      obtain ⟨_, _, _, rest, _, _, rfl, hrest⟩ := hsecond.of_call
      obtain ⟨rfl, _, _⟩ := hrest.of_done
      exact driftTally_of_neutral (by simp [EngineCall.IsNeutral])
    exact countsAgainst_of_neutral (by simpa using hbefore.append hafter)
  | failed err =>
    have hafter : DriftTally slot (config.renderer.render src slot.ns slot.name).1 second False
          False :=
      driftTally_of_within (settleSlot_neutral _ _ _ _ _) hsecond
    exact countsAgainst_of_neutral (by simpa using hbefore.append hafter)
  | ensured =>
    obtain ⟨converged, settled, later, verdict, rfl, hconverged, hsettled⟩ := hsecond.split
    exact (convergeSlot_counts hkept howned hconverged).between hbefore
      (driftTally_of_within (settleSlot_neutral _ _ _ _ _) hsettled)

/-- The counter and the event tell drift from the content that an entry records
exactly when no corrective write succeeds, or the live content is the recorded
one just in case it is the current one. -/
theorem drift_counted_against_record_iff {nn : NamespacedName} {eff : EffectiveOptions}
    {inv : List InventoryEntry} {entry : InventoryEntry} {out : TargetOutcome} {final : Fleet}
    {trace : List (Exchange Fleet EngineCall.Reply)}
    (hlive : fleet.spokes (slot.key gvk) = some live)
    (howned : classifyReplicaOwnership live.labels src.uid ≠ .foreign)
    (run : Run (Fleet.alone fails) fleet (applyTarget config nn src gvk slot eff inv) trace
      final (.done out)) :
    ((Counted slot trace ↔
        Written slot (config.renderer.render src slot.ns slot.name).1 trace ∧
        config.renderer.sourceHash live ≠ entry.lastAppliedHash) ∧
      (Reported slot trace ↔
        Written slot (config.renderer.render src slot.ns slot.name).1 trace ∧
        config.renderer.sourceHash live ≠ entry.lastAppliedHash)) ↔
      (Written slot (config.renderer.render src slot.ns slot.name).1 trace →
        (config.renderer.sourceHash live = entry.lastAppliedHash ↔
          config.renderer.sourceHash live = config.renderer.sourceHash src)) := by
  obtain ⟨written, tally⟩ := applyTarget_counts hlive howned run
  rw [tally.written, tally.counted, tally.reported]
  tauto

end Applying

namespace Sample

def earlier : Unstructured :=
  { source with fields := (∅ : FieldMap).insert ["data", "key"] "before" }

def eastSlot : SlotInfo := ⟨"east", "app", "settings"⟩

def replicaOf (src : Unstructured) : Unstructured :=
  (engine.renderer.render src "app" "settings").1

def withReplica (obj : Unstructured) : Fleet :=
  { fleet with spokes := Function.update spokes slot (some obj) }

def replicaEntry (src : Unstructured) : InventoryEntry :=
  ⟨"east", "app", "settings", "", "ConfigMap", engine.renderer.sourceHash src⟩

def convergeEast (fleet : Fleet) (inv : List InventoryEntry) :
    Execution Fleet EngineCall.Reply TargetOutcome :=
  execute Fleet.handle (applyTarget engine key source configMapGVK eastSlot
    (resolveOptions [policy]) inv) fleet

theorem run_convergeEast (fleet : Fleet) (inv : List InventoryEntry) :
    Run (Fleet.alone fun _ => False) fleet (applyTarget engine key source configMapGVK eastSlot
        (resolveOptions [policy]) inv)
      (convergeEast fleet inv).trace (convergeEast fleet inv).final
      (.done (convergeEast fleet inv).value) :=
  run_execute (execute_answered (Fleet.answers_handle fun _ => False) _ _)

theorem counted_of_any {trace : List (Exchange Fleet EngineCall.Reply)}
    (hany : trace.any (fun exchange => emitted exchange.request =
      some (.metric (.driftCorrection "east"))) = true) :
    Counted eastSlot trace :=
  exists_emit_of_any hany

def tampered : Unstructured :=
  { replicaOf source with fields := (∅ : FieldMap).insert ["data", "key"] "edited" }

end Sample

open Sample

/-- The content was edited on the spoke and the source was not: the correction
is counted. -/
theorem drift_counted_against_record_iff_sample :
    ∃ trace final out,
      Run (Fleet.alone fun _ => False) (withReplica tampered)
        (applyTarget engine key source configMapGVK eastSlot (resolveOptions [policy])
          [replicaEntry source]) trace final (.done out) ∧
      Counted eastSlot trace ∧
      (((Counted eastSlot trace ↔
            Written eastSlot (replicaOf source) trace ∧
            engine.renderer.sourceHash tampered ≠ (replicaEntry source).lastAppliedHash) ∧
          (Reported eastSlot trace ↔
            Written eastSlot (replicaOf source) trace ∧
            engine.renderer.sourceHash tampered ≠ (replicaEntry source).lastAppliedHash)) ↔
        (Written eastSlot (replicaOf source) trace →
          (engine.renderer.sourceHash tampered = (replicaEntry source).lastAppliedHash ↔
            engine.renderer.sourceHash tampered = engine.renderer.sourceHash source))) := by
  refine ⟨_, _, _, run_convergeEast _ _, ?_,
    drift_counted_against_record_iff (by decide +kernel) (by decide +kernel)
      (run_convergeEast _ _)⟩
  have hany : (convergeEast (withReplica tampered)
      [replicaEntry source]).trace.any (fun exchange =>
        emitted exchange.request = some (.metric (.driftCorrection "east"))) = true := by
    decide +kernel
  exact counted_of_any hany

/-- The source was edited, nobody touched the replica, and propagating the edit
counts as a drift correction. -/
theorem source_update_counted_as_drift :
    ∃ trace final out,
      Run (Fleet.alone fun _ => False) (withReplica (replicaOf earlier))
        (applyTarget engine key source configMapGVK eastSlot (resolveOptions [policy])
          [replicaEntry earlier]) trace final (.done out) ∧
      engine.renderer.sourceHash (replicaOf earlier) = (replicaEntry earlier).lastAppliedHash ∧
      Counted eastSlot trace := by
  refine ⟨_, _, _, run_convergeEast _ _, by decide +kernel, ?_⟩
  have hany : (convergeEast (withReplica (replicaOf earlier))
      [replicaEntry earlier]).trace.any (fun exchange =>
        emitted exchange.request = some (.metric (.driftCorrection "east"))) = true := by
    decide +kernel
  exact counted_of_any hany

end K8sR8r
