import K8sR8r.InteractionFaults
import K8sR8r.RequestedReadiness

/-!
# Reads that fail

A reconcile decides what to withdraw from what it reads on the hub.  A read
that fails with anything but `NotFound` says nothing about the hub, and all but
one of them end the reconcile.  The exception is the read of the source
namespace: both controllers go on without labels, and a policy that selects
source namespaces by label then denies what it permits.
-/

namespace K8sR8r

open Interaction

/-! ## The reads and their failures -/

/-- The kinds of hub reads of the request controller and of the engine. -/
inductive HubRead where
  | replication
  | source
  | sourceMetadata
  | policies
  | sourceNamespace
  deriving DecidableEq

def HubCall.read? : HubCall → Option HubRead
  | .getReplication _ => some .replication
  | .getSource _ _ => some .source
  | .getSourceMetadata _ _ => some .sourceMetadata
  | .listPolicies => some .policies
  | .getNamespaceLabels _ => some .sourceNamespace
  | _ => none

/-- The answer is an error that does not say the object is missing. -/
def ApiResult.Fails {α : Type} : ApiResult α → Prop
  | .ok _ => False
  | .error err => err.isNotFound = false

def HubCall.ReadFails (choice : HubRead → Prop) : (call : HubCall) → call.Reply → Prop
  | .getReplication _, reply => choice .replication ∧ ApiResult.Fails reply
  | .getSource _ _, reply => choice .source ∧ ApiResult.Fails reply
  | .getSourceMetadata _ _, reply =>
    choice .sourceMetadata ∧ ApiResult.Fails reply
  | .listPolicies, reply => choice .policies ∧ ApiResult.Fails reply
  | .getNamespaceLabels _, reply =>
    choice .sourceNamespace ∧ ApiResult.Fails reply
  | _, _ => False

def EngineCall.ReadFails (choice : HubRead → Prop) : (call : EngineCall) → call.Reply → Prop
  | .hub call, reply => call.ReadFails choice reply
  | _, _ => False

def RequestCall.ReadFails (choice : HubRead → Prop) : (call : RequestCall) → call.Reply → Prop
  | .hub call, reply => call.ReadFails choice reply
  | _, _ => False

/-- The calls that may fail although the chosen reads succeed. -/
def HubCall.Unchosen (choice : HubRead → Prop) (call : HubCall) : Prop :=
  ∀ read, call.read? = some read → ¬ choice read

def EngineCall.Unchosen (choice : HubRead → Prop) : EngineCall → Prop
  | .hub call => call.Unchosen choice
  | _ => True

def RequestCall.Unchosen (choice : HubRead → Prop) : RequestCall → Prop
  | .hub call => call.Unchosen choice
  | _ => True

/-! ## Withdrawals -/

/-- What a reconcile can take away: a replica, a target of a Replication's
spec, or a Replication. -/
inductive Withdrawal where
  | replica (cluster : String) (gvk : GroupVersionKind) (key : NamespacedName)
  | target (key : NamespacedName) (cluster ns : String)
  | replication (key : NamespacedName)
  deriving DecidableEq

def ReplicationSpec.HasTarget (spec : ReplicationSpec) (cluster ns : String) : Prop :=
  ∃ tgt ∈ spec.resolvedTargets, tgt.clusterName = cluster ∧ ns ∈ tgt.namespaces
deriving Decidable

def HubCall.updated? : HubCall → Option Replication
  | .updateReplication rep => some rep
  | _ => none

def HubCall.deleted? : HubCall → Option NamespacedName
  | .deleteReplication key => some key
  | _ => none

/-- A target is withdrawn when the stored spec has it and the written one
does not. -/
def HubCall.Withdraws (hub : Hub) (call : HubCall) : Withdrawal → Prop
  | .replica _ _ _ => False
  | .target key cluster ns =>
    (∃ rep ∈ call.updated?, rep.key = key ∧ ¬ rep.spec.HasTarget cluster ns) ∧
      ∃ stored ∈ hub.replications key, stored.spec.HasTarget cluster ns
  | .replication key => call.deleted? = some key

instance (hub : Hub) (call : HubCall) :
    (withdrawal : Withdrawal) → Decidable (call.Withdraws hub withdrawal)
  | .replica _ _ _ => inferInstanceAs (Decidable False)
  | .target _ _ _ => inferInstanceAs (Decidable (_ ∧ _))
  | .replication _ => inferInstanceAs (Decidable (_ = _))

def EngineCall.Withdraws (fleet : Fleet) : EngineCall → Withdrawal → Prop
  | .hub call, withdrawal => call.Withdraws fleet.hub withdrawal
  | .transportDelete cluster gvk key, withdrawal =>
    withdrawal = .replica cluster gvk key
  | _, _ => False

def RequestCall.Withdraws (fleet : Fleet) : RequestCall → Withdrawal → Prop
  | .hub call, withdrawal => call.Withdraws fleet.hub withdrawal
  | _, _ => False

instance (fleet : Fleet) (call : EngineCall) (withdrawal : Withdrawal) :
    Decidable (call.Withdraws fleet withdrawal) := by
  cases call with
  | hub call => exact inferInstanceAs (Decidable (call.Withdraws _ _))
  | transportDelete cluster gvk key =>
    exact inferInstanceAs (Decidable (_ = _))
  | _ => exact .isFalse id

instance (fleet : Fleet) (call : RequestCall) (withdrawal : Withdrawal) :
    Decidable (call.Withdraws fleet withdrawal) := by
  cases call with
  | hub call => exact inferInstanceAs (Decidable (call.Withdraws _ _))
  | _ => exact .isFalse id

/-! ## Sparing what the reads would have spared -/

section Spares

variable {World Call : Type} {Reply : Call → Type} {α : Type}

/-- In every run in which chosen reads may fail, the program withdraws only
what it withdraws when they succeed. -/
def Spares (handle : World → (request : Call) → Reply request × World)
    (faults : (request : Call) → Reply request → Prop)
    (withdraws : World → Call → Withdrawal → Prop) (program : Program Reply α) : Prop :=
  ∀ world trace final rest, Run (.faulty handle faults) world program trace final rest →
    ∀ exchange ∈ trace, ∀ withdrawal, withdraws exchange.before exchange.request withdrawal →
      ∃ spared ∈ (execute handle program world).trace,
        withdraws spared.before spared.request withdrawal

theorem spares_of_stopsAt {handle : World → (request : Call) → Reply request × World}
    {faults : (request : Call) → Reply request → Prop}
    {withdraws : World → Call → Withdrawal → Prop} {stopped : α → Prop}
    {program : Program Reply α} (stops : program.StopsAt faults stopped)
    (harmless : ∀ world request reply withdrawal, faults request reply →
      ¬ withdraws world request withdrawal) :
    Spares handle faults withdraws program := by
  intro world trace final rest run exchange hmem withdrawal hwithdraws
  rcases stops.run run exchange hmem with hclean | hfault
  · exact ⟨exchange, hclean, hwithdraws⟩
  · exact (harmless _ _ _ _ hfault hwithdraws).elim

end Spares

/-- The engine, over every world whose chosen reads succeed: `fleet` is what
the world shows, and the world itself may remember more. -/
def EngineSpares (choice : HubRead → Prop) : Prop :=
  ∀ (World : Type) (fleet : World → Fleet)
    (handle : World → (call : EngineCall) → call.Reply × World),
    (∀ world call, (fleet world).Answers (EngineCall.Unchosen choice) call
      (handle world call).1 (fleet (handle world call).2)) →
    ∀ config nn, Spares handle (EngineCall.ReadFails choice)
      (fun world => EngineCall.Withdraws (fleet world)) (reconcile config nn)

def RequestSpares (choice : HubRead → Prop) : Prop :=
  ∀ (World : Type) (fleet : World → Fleet)
    (handle : World → (call : RequestCall) → call.Reply × World),
    (∀ world call, (fleet world).AnswersRequest (RequestCall.Unchosen choice)
      call (handle world call).1 (fleet (handle world call).2)) →
    ∀ config key, Spares handle (RequestCall.ReadFails choice)
      (fun world => RequestCall.Withdraws (fleet world))
      (reconcileRequest config key)

/-! ## The reads that end a reconcile -/

section Stops

variable {choice : HubRead → Prop}

def Prepared.Aborted : Prepared → Prop
  | .ended (.error _) => True
  | _ => False

def EngineCall.IsReadless : EngineCall → Prop
  | .hub call => ¬ call.IsRead
  | _ => True

variable {call : EngineCall}

theorem EngineCall.IsReadless.spared (readless : call.IsReadless) (reply : call.Reply) :
    ¬ call.ReadFails choice reply := by
  cases call with
  | hub call =>
    cases call with
    | getReplication key => exact (readless trivial).elim
    | getSource gvk key => exact (readless trivial).elim
    | getSourceMetadata gvk key => exact (readless trivial).elim
    | listPolicies => exact (readless trivial).elim
    | getNamespaceLabels name => exact (readless trivial).elim
    | _ => exact id
  | _ => exact id

theorem EngineCall.IsOffHub.readless (offHub : call.IsOffHub) : call.IsReadless := by
  cases call with
  | hub call => exact offHub.elim
  | _ => trivial

theorem EngineCall.IsReport.readless (report : call.IsReport) : call.IsReadless := by
  cases call with
  | hub call =>
    cases call with
    | updateReplication rep => exact id
    | updateReplicationStatus rep => exact id
    | _ => exact report.elim
  | _ => trivial

section Frames

variable {α : Type} {program : EngineProgram α}

theorem AllCalls.readless_of_offHub (offHub : program.AllCalls EngineCall.IsOffHub) :
    program.AllCalls EngineCall.IsReadless :=
  offHub.weaken (fun _ => EngineCall.IsOffHub.readless) fun _ => id

theorem AllCalls.readless_of_reports (reports : program.AllCalls EngineCall.IsReport) :
    program.AllCalls EngineCall.IsReadless :=
  reports.weaken (fun _ => EngineCall.IsReport.readless) fun _ => id

theorem AllCalls.spared (readless : program.AllCalls EngineCall.IsReadless) :
    program.AllCalls fun call => ∀ reply, ¬ call.ReadFails choice reply :=
  readless.weaken (fun _ => EngineCall.IsReadless.spared) fun _ => id

end Frames

theorem converge_readless (config : EngineConfig) (nn : NamespacedName) (rep : Replication)
    (src : Unstructured) (gvk : GroupVersionKind) (policies : List ReplicationPolicy)
    (slots : List (SlotInfo × Decision)) (outcome : RevocationOutcome) :
    (converge config nn rep src gvk policies slots outcome).AllCalls
      EngineCall.IsReadless := by
  unfold converge
  dsimp only
  apply (AllCalls.readless_of_reports (persistPlanned_reports _ _)).bind
  intro stored
  cases stored with
  | error err => trivial
  | ok rep =>
    have hfan : ∀ fan : FanOut, (slots.foldlM
        (fanOutSlot config nn src gvk policies outcome) fan).AllCalls
          EngineCall.IsOffHub := by
      intro fan
      apply Program.Within.foldlM _ trivial
      intro slot _ fan _
      exact (fanOutSlot_works config nn policies outcome fan slot).weaken
        (fun _ => EngineCall.WorksOn.offHub) fun _ h => h
    apply (AllCalls.readless_of_offHub (hfan _)).bind
    intro fan
    apply (AllCalls.readless_of_offHub ((collectGarbage_cleansUp config nn _ _ fan.inv).weaken
      (fun _ => EngineCall.Sweeps.offHub) fun _ _ => trivial)).bind
    intro gc
    exact AllCalls.readless_of_reports (finishFanOut_reports config nn _ _ _ _ _ _)

theorem reconcileDeletion_readless (config : EngineConfig) (nn : NamespacedName)
    (rep : Replication) :
    (reconcileDeletion config nn rep).AllCalls EngineCall.IsReadless := by
  unfold reconcileDeletion
  split_ifs
  · trivial
  · apply (AllCalls.readless_of_offHub ((collectGarbage_cleansUp config nn _ _ _).weaken
      (fun _ => EngineCall.Sweeps.offHub) fun _ _ => trivial)).bind
    intro gc
    unfold finishDeletion
    split_ifs
    · rw [hub_bind]
      refine ⟨id, ?_⟩
      intro reply
      cases reply with
      | error err => trivial
      | ok stored =>
        exact ⟨trivial, fun _ => ⟨trivial, fun _ => ⟨trivial, fun _ =>
          ⟨trivial, fun _ => trivial⟩⟩⟩⟩
    · refine ⟨trivial, fun now => ?_⟩
      apply (AllCalls.readless_of_reports (writeStatusIfChanged_reports _ _)).bind
      intro reply
      cases reply with
      | error err => trivial
      | ok stored => trivial

theorem carryOut_readless (config : EngineConfig) (nn : NamespacedName) (prepared : Prepared) :
    (carryOut config nn prepared).AllCalls EngineCall.IsReadless := by
  cases prepared with
  | ended result => trivial
  | deleting rep => exact reconcileDeletion_readless config nn rep
  | simple rep reason message =>
    exact AllCalls.readless_of_reports (finishSimple_reports rep reason message minute)
  | fanOut rep src gvk policies slots outcome =>
    apply (AllCalls.readless_of_offHub (AllCalls.offHub (emitAll_local outcome.signals))).bind
    intro _
    exact converge_readless config nn rep src gvk policies slots outcome

/-- A failed read is followed by nothing but the error. -/
theorem prepareSource_stops (spared : ¬ choice .sourceNamespace) (rep : Replication)
    (gvk : GroupVersionKind) (src : Unstructured) :
    (prepareSource rep gvk src).StopsAt (EngineCall.ReadFails choice)
      Prepared.Aborted := by
  unfold prepareSource
  rw [hub_bind]
  intro reply
  cases reply with
  | error err => exact ⟨fun _ => ⟨_, rfl, trivial⟩, trivial⟩
  | ok policies =>
    refine ⟨fun hfault => hfault.2.elim, ?_⟩
    have hlabels : (namespaceLabels rep.spec.sourceRef.ns).AllCalls
        fun call => ∀ reply, ¬ call.ReadFails choice reply :=
      namespaceLabels_allCalls fun _ hfault => spared hfault.1
    refine Program.StopsAt.after hlabels fun labels => ?_
    apply Program.StopsAt.of_allCalls
    apply AllCalls.spared
    apply AllCalls.readless_of_offHub
    apply (flattenTargets_allCalls _ _ fun _ => trivial).bind
    exact fun _ => ⟨trivial, fun _ => ⟨trivial, fun _ => trivial⟩⟩

theorem prepareLive_stops (spared : ¬ choice .sourceNamespace) (config : EngineConfig)
    (rep : Replication) :
    (prepareLive config rep).StopsAt (EngineCall.ReadFails choice)
      Prepared.Aborted := by
  unfold prepareLive
  dsimp only
  cases config.kindGVKs.lookup rep.spec.sourceRef.kind with
  | none => trivial
  | some gvk =>
    dsimp only
    rw [hub_bind]
    intro reply
    cases reply with
    | error err =>
      dsimp only
      by_cases hmissing : err.isNotFound = true
      · rw [if_pos hmissing]
        refine ⟨fun hfault => ?_, trivial⟩
        exact (Bool.eq_false_iff.mp hfault.2 hmissing).elim
      · rw [if_neg hmissing]
        exact ⟨fun _ => ⟨_, rfl, trivial⟩, trivial⟩
    | ok src =>
      refine ⟨fun hfault => hfault.2.elim, ?_⟩
      dsimp only
      split_ifs
      · trivial
      · exact prepareSource_stops spared rep gvk src

theorem prepare_stops (spared : ¬ choice .sourceNamespace) (config : EngineConfig)
    (nn : NamespacedName) :
    (prepare config nn).StopsAt (EngineCall.ReadFails choice)
      Prepared.Aborted := by
  unfold prepare
  rw [hub_bind]
  intro reply
  cases reply with
  | error err =>
    dsimp only
    by_cases hmissing : err.isNotFound = true
    · rw [if_pos hmissing]
      constructor
      · intro hfault
        exact (Bool.eq_false_iff.mp hfault.2 hmissing).elim
      · apply Program.StopsAt.of_allCalls
        apply AllCalls.spared
        apply AllCalls.readless_of_offHub
        exact ⟨trivial, fun _ => (AllCalls.offHub (emitAll_local _)).bind fun _ => trivial⟩
    · rw [if_neg hmissing]
      exact ⟨fun _ => ⟨_, rfl, trivial⟩, trivial⟩
  | ok rep =>
    refine ⟨fun hfault => hfault.2.elim, ?_⟩
    dsimp only
    split_ifs
    · trivial
    · trivial
    · apply Program.StopsAt.after (AllCalls.spared
        (AllCalls.readless_of_reports (ensureFinalizer_reports rep)))
      intro held
      cases held with
      | error err => trivial
      | ok rep => exact prepareLive_stops spared config rep

theorem reconcile_stops (spared : ¬ choice .sourceNamespace) (config : EngineConfig)
    (nn : NamespacedName) :
    (reconcile config nn).StopsAt (EngineCall.ReadFails choice) fun _ => True := by
  rw [reconcile_eq]
  apply (prepare_stops spared config nn).bind
  · intro prepared haborted
    cases prepared with
    | ended result => exact ⟨result, rfl, trivial⟩
    | _ => exact haborted.elim
  · intro prepared
    exact .of_allCalls (AllCalls.spared (carryOut_readless config nn prepared))

/-! ## The request controller's reads -/

def ApiResult.Erred {α : Type} : ApiResult α → Prop
  | .ok _ => False
  | .error _ => True

/-- A read whose failure is handed on: what follows the answers that are no
failure decides. -/
theorem stopsAt_requestHub {α : Type} {stopped : α → Prop} {call : HubCall}
    {next : call.Reply → RequestProgram α}
    (fails : ∀ reply, call.ReadFails choice reply →
      ∃ value, next reply = .done value ∧ stopped value)
    (second : ∀ reply, (next reply).StopsAt (RequestCall.ReadFails choice) stopped) :
    (requestHub call >>= next).StopsAt (RequestCall.ReadFails choice)
      stopped := by
  rw [requestHub_bind]
  exact fun reply => ⟨fails reply, second reply⟩

theorem resolveTargets_stops (spared : ¬ choice .sourceNamespace) (config : RequestConfig)
    (obj : PartialObjectMetadata) (parsed : AnnotationRequest) :
    (resolveTargets config obj parsed).StopsAt (RequestCall.ReadFails choice)
      ApiResult.Erred := by
  unfold resolveTargets
  rw [Program.perform_bind]
  intro clusters
  refine ⟨fun hfault => hfault.elim, ?_⟩
  dsimp only
  split_ifs
  · trivial
  · have hlabels : (requestLabels obj.ns).AllCalls
        fun call => ∀ reply, ¬ call.ReadFails choice reply :=
      requestLabels_allCalls fun _ hfault => spared hfault.1
    refine Program.StopsAt.after hlabels fun labels => ?_
    apply stopsAt_requestHub
    · intro reply hfault
      cases reply with
      | error err => exact ⟨_, rfl, trivial⟩
      | ok policies => exact hfault.2.elim
    · intro reply
      cases reply with
      | error err => trivial
      | ok policies => trivial

theorem reportTargetResolution_stops (key : NamespacedName) (resolved : List ResolvedTarget)
    (denied : List Decision) :
    (reportTargetResolution key resolved denied).StopsAt
      (RequestCall.ReadFails choice) ApiResult.Erred := by
  unfold reportTargetResolution
  apply stopsAt_requestHub
  · intro reply hfault
    cases reply with
    | error err =>
      dsimp only
      rw [if_neg (Bool.eq_false_iff.mp hfault.2)]
      exact ⟨_, rfl, trivial⟩
    | ok rep => exact hfault.2.elim
  · intro reply
    cases reply with
    | error err => trivial
    | ok rep =>
      dsimp only
      rw [Program.perform_bind]
      intro now
      refine ⟨fun hfault => hfault.elim, ?_⟩
      dsimp only
      split_ifs
      · trivial
      · apply stopsAt_requestHub
        · exact fun _ hfault => hfault.elim
        · intro reply
          cases reply with
          | error err => trivial
          | ok stored => trivial

theorem writeReplication_stops (config : RequestConfig) (obj : PartialObjectMetadata)
    (resolved : List ResolvedTarget) :
    (writeReplication config obj resolved).StopsAt
      (RequestCall.ReadFails choice) ApiResult.Erred := by
  have hconflict : ∀ event, (Program.perform (RequestCall.emit event) >>= fun _ =>
        (pure (.ok false) : RequestProgram (ApiResult Bool))).StopsAt
          (RequestCall.ReadFails choice) ApiResult.Erred :=
    fun event reply => ⟨fun hfault => hfault.elim, trivial⟩
  unfold writeReplication
  apply stopsAt_requestHub
  · intro reply hfault
    cases reply with
    | error err =>
      dsimp only
      rw [if_pos (by rw [hfault.2]; rfl)]
      exact ⟨_, rfl, trivial⟩
    | ok rep => exact hfault.2.elim
  · intro reply
    cases reply with
    | error err =>
      dsimp only
      split_ifs
      · trivial
      · apply stopsAt_requestHub
        · exact fun _ hfault => hfault.elim
        · intro reply
          cases reply with
          | error err =>
            dsimp only
            split_ifs
            · exact hconflict _
            · trivial
          | ok stored => trivial
    | ok rep =>
      dsimp only
      split_ifs
      · exact hconflict _
      · trivial
      · apply stopsAt_requestHub
        · exact fun _ hfault => hfault.elim
        · intro reply
          cases reply with
          | error err => trivial
          | ok stored => trivial

theorem placeReplication_stops (config : RequestConfig) (obj : PartialObjectMetadata)
    (resolved : List ResolvedTarget) (denied : List Decision) :
    (placeReplication config obj resolved denied).StopsAt
      (RequestCall.ReadFails choice) ApiResult.Erred := by
  unfold placeReplication
  apply (writeReplication_stops config obj resolved).bind
  · intro written herred
    cases written with
    | error err => exact ⟨_, rfl, trivial⟩
    | ok placed => exact herred.elim
  · intro written
    match written with
    | .error err => trivial
    | .ok false => trivial
    | .ok true => exact reportTargetResolution_stops _ _ _

theorem materialize_stops (spared : ¬ choice .sourceNamespace) (config : RequestConfig)
    (obj : PartialObjectMetadata) (parsed : AnnotationRequest) :
    (materialize config obj parsed).StopsAt (RequestCall.ReadFails choice)
      ApiResult.Erred := by
  have hhold : (holdSource obj).AllCalls fun call => ∀ reply, ¬ call.ReadFails choice reply := by
    unfold holdSource
    split_ifs
    · trivial
    · exact ⟨fun _ => id, fun _ => trivial⟩
  have hannounce : ∀ denied : List Decision, (announceDenied denied).AllCalls
      fun call => ∀ reply, ¬ call.ReadFails choice reply := by
    intro denied
    cases denied with
    | nil => trivial
    | cons first rest => exact ⟨fun _ => id, fun _ => trivial⟩
  unfold materialize
  apply Program.StopsAt.after hhold
  intro held
  cases held with
  | error err => trivial
  | ok obj =>
    apply (resolveTargets_stops spared config obj parsed).bind
    · intro targets herred
      cases targets with
      | error err => exact ⟨_, rfl, trivial⟩
      | ok targets => exact herred.elim
    · intro targets
      cases targets with
      | error err => trivial
      | ok targets =>
        exact Program.StopsAt.after (hannounce targets.2) fun _ =>
          placeReplication_stops config obj targets.1 targets.2

theorem release_stops (config : RequestConfig) (obj : PartialObjectMetadata) :
    (release config obj).StopsAt (RequestCall.ReadFails choice)
      ApiResult.Erred := by
  have hrelease : (releaseSource obj).StopsAt (RequestCall.ReadFails choice)
      ApiResult.Erred := by
    unfold releaseSource
    split_ifs
    · apply stopsAt_requestHub
      · exact fun _ hfault => hfault.elim
      · intro reply
        cases reply with
        | error err => trivial
        | ok stored => trivial
    · trivial
  unfold release
  apply stopsAt_requestHub
  · intro reply hfault
    cases reply with
    | error err =>
      dsimp only
      rw [if_neg (Bool.eq_false_iff.mp hfault.2)]
      exact ⟨_, rfl, trivial⟩
    | ok rep => exact hfault.2.elim
  · intro reply
    cases reply with
    | error err =>
      dsimp only
      split_ifs
      · exact hrelease
      · trivial
    | ok rep =>
      dsimp only
      split_ifs
      · exact hrelease
      · trivial
      · apply stopsAt_requestHub
        · exact fun _ hfault => hfault.elim
        · intro reply
          cases reply with
          | error err => trivial
          | ok stored => trivial

theorem reconcileRequest_stops (spared : ¬ choice .sourceNamespace) (config : RequestConfig)
    (key : NamespacedName) :
    (reconcileRequest config key).StopsAt (RequestCall.ReadFails choice)
      ApiResult.Erred := by
  have hemit : ∀ event, (Program.perform (RequestCall.emit event) >>= fun _ =>
        (pure (.ok ()) : RequestProgram (ApiResult Unit))).StopsAt
          (RequestCall.ReadFails choice) ApiResult.Erred :=
    fun event reply => ⟨fun hfault => hfault.elim, trivial⟩
  unfold reconcileRequest
  apply stopsAt_requestHub
  · intro reply hfault
    cases reply with
    | error err =>
      dsimp only
      rw [if_neg (Bool.eq_false_iff.mp hfault.2)]
      exact ⟨_, rfl, trivial⟩
    | ok obj => exact hfault.2.elim
  · intro reply
    cases reply with
    | error err => trivial
    | ok obj =>
      dsimp only
      split_ifs
      · exact hemit _
      · trivial
      · exact release_stops config obj
      · split
        · exact hemit _
        · trivial
        · exact materialize_stops spared config obj _

end Stops

/-! ## The read that does not -/

namespace Sample

def labelPolicy : ReplicationPolicy :=
  { policy with
    sources := ⟨[], some ⟨[("tier", "core")], []⟩, ["ConfigMap"]⟩ }

def labelChosen : Fleet :=
  { fleet with
    hub := { hub with
      policies := ⟨[labelPolicy], by decide⟩
      namespaces := fun name =>
        if name = "team" then some ((∅ : StringMap).insert "tier" "core")
        else none } }

def chosenInPlace : Fleet := reconciled labelChosen

def onlyNamespace (read : HubRead) : Prop := read = .sourceNamespace

def unavailable : ApiError := ⟨.other, "etcd unavailable"⟩

/-- The hub cannot read namespaces. -/
def handleBlind (fleet : Fleet) : (call : EngineCall) → call.Reply × Fleet
  | .hub (.getNamespaceLabels _) => (.error unavailable, fleet)
  | call => fleet.handle call

def handleBlindRequest (fleet : Fleet) : (call : RequestCall) → call.Reply × Fleet
  | .hub (.getNamespaceLabels _) => (.error unavailable, fleet)
  | call => fleet.handleRequest call

theorem run_blind {choice : HubRead → Prop} (chosen : choice .sourceNamespace) {α : Type}
    (program : EngineProgram α) (start : Fleet) :
    Run (.faulty Fleet.handle (EngineCall.ReadFails choice)) start program
      (execute handleBlind program start).trace
      (execute handleBlind program start).final
      (.done (execute handleBlind program start).value) := by
  apply run_execute (execute_answered _ _ _)
  intro world call
  cases call with
  | hub call =>
    cases call with
    | getNamespaceLabels name => exact .inr ⟨⟨chosen, rfl⟩, rfl⟩
    | _ => exact .inl rfl
  | _ => exact .inl rfl

theorem run_blindRequest {choice : HubRead → Prop} (chosen : choice .sourceNamespace) {α : Type}
    (program : RequestProgram α) (start : Fleet) :
    Run (.faulty Fleet.handleRequest (RequestCall.ReadFails choice)) start
      program (execute handleBlindRequest program start).trace
      (execute handleBlindRequest program start).final
      (.done (execute handleBlindRequest program start).value) := by
  apply run_execute (execute_answered _ _ _)
  intro world call
  cases call with
  | hub call =>
    cases call with
    | getNamespaceLabels name => exact .inr ⟨⟨chosen, rfl⟩, rfl⟩
    | _ => exact .inl rfl
  | _ => exact .inl rfl

def placedReplica : Withdrawal :=
  .replica "east" configMapGVK ⟨"app", "settings"⟩

def placedTarget : Withdrawal := .target key "east" "app"

/-- With the namespace unreadable the engine deletes the replica, otherwise
it leaves it alone. -/
theorem blind_engine : (∃ exchange ∈ (execute handleBlind (reconcile engine key)
        chosenInPlace).trace,
      exchange.request.Withdraws exchange.before placedReplica) ∧
      ∀ exchange ∈ (execute Fleet.handle (reconcile engine key) chosenInPlace).trace,
        ¬ exchange.request.Withdraws exchange.before placedReplica := by
  decide +kernel

theorem blind_request : (∃ exchange ∈ (execute handleBlindRequest (reconcileRequest request
        sourceKey) chosenInPlace).trace,
      exchange.request.Withdraws exchange.before placedTarget) ∧
      ∀ exchange ∈ (execute Fleet.handleRequest (reconcileRequest request
          sourceKey) chosenInPlace).trace,
        ¬ exchange.request.Withdraws exchange.before placedTarget := by
  decide +kernel

end Sample

theorem not_withdraws_of_readFails {choice : HubRead → Prop} {hub : Hub} {call : HubCall}
    {reply : call.Reply} (hfault : call.ReadFails choice reply) (withdrawal : Withdrawal) :
    ¬ call.Withdraws hub withdrawal := by
  cases call with
  | createReplication rep => exact hfault.elim
  | updateReplication rep => exact hfault.elim
  | updateReplicationStatus rep => exact hfault.elim
  | deleteReplication key => exact hfault.elim
  | patchSourceFinalizers obj => exact hfault.elim
  | _ =>
    cases withdrawal with
    | replica cluster gvk key => exact id
    | target key cluster ns =>
      rintro ⟨⟨rep, hrep, _⟩, _⟩
      cases hrep
    | replication key => exact nofun

open Sample

/-- Failed reads withdraw nothing, whatever the world, exactly when the read of
the source namespace is not among them. -/
theorem failed_reads_spare_iff (choice : HubRead → Prop) :
    (EngineSpares choice ↔ ¬ choice .sourceNamespace) ∧
    (RequestSpares choice ↔ ¬ choice .sourceNamespace) := by
  refine ⟨⟨?_, ?_⟩, ⟨?_, ?_⟩⟩
  · intro spares chosen
    obtain ⟨⟨exchange, hmem, hwithdraws⟩, hclean⟩ := blind_engine
    obtain ⟨spared, hspared, hsame⟩ := spares Fleet id Fleet.handle
      (Fleet.answers_handle _) engine key chosenInPlace
      _ _ _ (run_blind chosen _ _) exchange hmem _ hwithdraws
    exact hclean spared hspared hsame
  · intro spared World fleet handle _ config nn
    apply spares_of_stopsAt (reconcile_stops spared config nn)
    intro world call reply withdrawal hfault
    cases call with
    | hub call => exact not_withdraws_of_readFails hfault withdrawal
    | _ => exact hfault.elim
  · intro spares chosen
    obtain ⟨⟨exchange, hmem, hwithdraws⟩, hclean⟩ := blind_request
    obtain ⟨spared, hspared, hsame⟩ := spares Fleet id Fleet.handleRequest
      (Fleet.answersRequest_handleRequest _) request sourceKey
      chosenInPlace _ _ _ (run_blindRequest chosen _ _)
      exchange hmem _ hwithdraws
    exact hclean spared hspared hsame
  · intro spared World fleet handle _ config key
    apply spares_of_stopsAt (reconcileRequest_stops spared config key)
    intro world call reply withdrawal hfault
    cases call with
    | hub call => exact not_withdraws_of_readFails hfault withdrawal
    | _ => exact hfault.elim

/-- A policy admits the source by the label of its namespace.  In one reconcile
the namespace cannot be read: the engine deletes the replica, and the request
controller drops the target from the spec. -/
theorem unreadable_namespace_withdraws :
    (∃ trace final value,
      Run (.faulty Fleet.handle (EngineCall.ReadFails onlyNamespace)) chosenInPlace
        (reconcile engine key) trace final (.done value) ∧
      (∃ exchange ∈ trace,
        exchange.request.Withdraws exchange.before
          (.replica "east" configMapGVK ⟨"app", "settings"⟩)) ∧
      ∀ exchange ∈ (execute Fleet.handle (reconcile engine key) chosenInPlace).trace,
        ¬ exchange.request.Withdraws exchange.before
          (.replica "east" configMapGVK ⟨"app", "settings"⟩)) ∧
    ∃ trace final value,
      Run (.faulty Fleet.handleRequest (RequestCall.ReadFails onlyNamespace)) chosenInPlace
        (reconcileRequest request sourceKey) trace final (.done value) ∧
      (∃ exchange ∈ trace,
        exchange.request.Withdraws exchange.before (.target key "east" "app")) ∧
      ∀ exchange ∈
          (execute Fleet.handleRequest (reconcileRequest request sourceKey)
            chosenInPlace).trace,
        ¬ exchange.request.Withdraws exchange.before (.target key "east" "app") := by
  have chosen : onlyNamespace .sourceNamespace := rfl
  exact ⟨⟨_, _, _, run_blind chosen _ _, blind_engine⟩,
    ⟨_, _, _, run_blindRequest chosen _ _, blind_request⟩⟩

end K8sR8r
