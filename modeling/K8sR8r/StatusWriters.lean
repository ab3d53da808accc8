import K8sR8r.SnapshotWrites

/-!
# Three writers of one status

The engine, the request controller and the authority controller all write the
whole status of a Replication.  A write is accepted only under the version its
writer last read or wrote, and every writer builds its status from that copy,
so an accepted write changes nothing but what its writer owns.
-/

namespace K8sR8r

open Interaction

namespace Controller

def hubCall : (role : Controller) → HubCall → role.Call
  | engine, call => EngineCall.hub call
  | request, call => RequestCall.hub call
  | authority, call => AuthorityCall.hub call

end Controller

/-- What a writer may change of a status. -/
def StatusFrame : Controller → ReplicationStatus → ReplicationStatus → Prop
  | .engine, before, after => EngineFrame before after
  | .request, before, after =>
    after = { before with conditions := after.conditions } ∧
      KeepsConditions (fun type => type ≠ replicationConditionTargetsResolved)
        before.conditions after.conditions
  | .authority, before, after =>
    after = { before with conditions := after.conditions } ∧
      KeepsConditions (fun type => type ≠ conditionNotAuthoritative ∧
          type ≠ replicationConditionReady)
        before.conditions after.conditions

/-- A request that writes a status starts from a copy in hand. -/
def HubCall.FramesStatus (role : Controller) (hub : Hub) : HubCall → Prop
  | .updateReplicationStatus rep => ∃ base next, hub.Holds base ∧
      rep = { base with status := next } ∧
      StatusFrame role base.status next
  | _ => True

def HubCall.SparesStatus : HubCall → Prop
  | .updateReplicationStatus _ => False
  | _ => True

theorem HubCall.SparesStatus.frames {call : HubCall} (spares : call.SparesStatus)
    (role : Controller) (hub : Hub) : call.FramesStatus role hub := by
  cases call with
  | updateReplicationStatus rep => exact spares.elim
  | _ => trivial

/-! ## The request controller -/

def RequestCall.SparesStatus : RequestCall → Prop
  | .hub call => call.SparesStatus
  | _ => True

def RequestCall.FramesStatus (hub : Hub) (call : RequestCall) : Prop :=
  hub.Consistent ∧
    match call with
    | .hub call => call.FramesStatus .request hub
    | _ => True

theorem RequestCall.SparesStatus.frames {call : RequestCall} (spares : call.SparesStatus)
    {hub : Hub} (consistent : hub.Consistent) : call.FramesStatus hub := by
  refine ⟨consistent, ?_⟩
  cases call with
  | hub call => exact HubCall.SparesStatus.frames spares .request hub
  | _ => trivial

theorem release_sparesStatus (config : RequestConfig) (obj : PartialObjectMetadata) :
    (release config obj).AllCalls RequestCall.SparesStatus := by
  have hsource : (releaseSource obj).AllCalls RequestCall.SparesStatus := by
    unfold releaseSource
    split_ifs
    · rw [requestHub_bind]
      refine ⟨trivial, fun reply => ?_⟩
      cases reply with
      | ok stored => trivial
      | error err => trivial
    · trivial
  unfold release
  rw [requestHub_bind]
  refine ⟨trivial, fun reply => ?_⟩
  cases reply with
  | error err =>
    dsimp only
    split_ifs
    · exact hsource
    · trivial
  | ok rep =>
    dsimp only
    split_ifs
    · exact hsource
    · trivial
    · rw [requestHub_bind]
      refine ⟨trivial, fun reply => ?_⟩
      cases reply with
      | ok stored => trivial
      | error err => trivial

theorem holdSource_sparesStatus (obj : PartialObjectMetadata) :
    (holdSource obj).AllCalls RequestCall.SparesStatus := by
  unfold holdSource
  split_ifs
  · trivial
  · exact ⟨trivial, fun _ => trivial⟩

structure Requests {World : Type}
    (semantics : Semantics World RequestCall.Reply) (hubOf : World → Hub) :
    Prop extends Versioned semantics hubOf where
  answers : ∀ {before call reply after},
    semantics.answers before (.hub call) reply after →
      ∃ fails, (hubOf before).Answers fails call reply (hubOf after)

namespace Requests

variable {World : Type} {semantics : Semantics World RequestCall.Reply}
  {hubOf : World → Hub} {world : World}

theorem spares_safe (requests : Requests semantics hubOf) {α : Type} {program : RequestProgram α}
    (calls : program.AllCalls RequestCall.SparesStatus) (consistent : (hubOf world).Consistent) :
    Safe semantics (fun world => RequestCall.FramesStatus (hubOf world))
      program (fun _ current => (hubOf current).Consistent) world :=
  (requests.calls_safe calls (fun spares h => spares.frames h) consistent).weaken fun _ _ h => h.2

theorem reportTargetResolution_safe (requests : Requests semantics hubOf) (key : NamespacedName)
    (resolved : List ResolvedTarget) (denied : List Decision)
    (consistent : (hubOf world).Consistent) :
    Safe semantics (fun world => RequestCall.FramesStatus (hubOf world))
      (reportTargetResolution key resolved denied)
      (fun _ current => (hubOf current).Consistent) world := by
  unfold reportTargetResolution
  rw [requestHub_bind]
  refine Safe.call_of_stable requests.consistent_stable consistent (fun _ h => ⟨h, trivial⟩) ?_
  intro current reply after hcurrent answer
  have hafter := (requests.moves answer hcurrent).2
  obtain ⟨fails, hread, hsame⟩ := requests.answers answer
  cases reply with
  | error err => exact requests.done hafter
  | ok rep =>
    have hsnapshot : Snapshot rep (hubOf after) :=
      ⟨hafter, by rw [hsame]; exact hcurrent.holds hread⟩
    dsimp only
    rw [Program.perform_bind]
    refine Safe.call_of_stable requests.snapshot_stable hsnapshot
      (fun _ h => ⟨h.consistent, trivial⟩) ?_
    intro current now after hcurrent answer
    have hafter := requests.snapshot_answers hcurrent answer
    split_ifs
    · exact requests.done hafter.consistent
    · have htype : (resolutionCondition rep resolved denied).type =
          replicationConditionTargetsResolved := rfl
      have hframe : KeepsConditions (fun type => type ≠ replicationConditionTargetsResolved)
          rep.status.conditions (setStatusCondition now rep.status.conditions
            (resolutionCondition rep resolved denied)) :=
        keepsConditions_set now (by rw [htype]; decide) _
      rw [requestHub_bind]
      refine Safe.call_of_stable requests.snapshot_stable hafter
        (fun _ h => ⟨h.consistent, rep, _, h.holds, rfl, rfl, hframe⟩) ?_
      intro current reply after hcurrent answer
      have hafter := requests.snapshot_answers hcurrent answer
      cases reply with
      | ok stored => exact requests.done hafter.consistent
      | error err => exact requests.done hafter.consistent

theorem materialize_safe (requests : Requests semantics hubOf) (config : RequestConfig)
    (obj : PartialObjectMetadata) (parsed : AnnotationRequest)
    (consistent : (hubOf world).Consistent) :
    Safe semantics (fun world => RequestCall.FramesStatus (hubOf world))
      (materialize config obj parsed)
      (fun _ current => (hubOf current).Consistent) world := by
  unfold materialize
  refine Safe.seq (requests.spares_safe (holdSource_sparesStatus obj) consistent) ?_
  intro held current hcurrent
  cases held with
  | error err => exact requests.done hcurrent
  | ok obj =>
    refine Safe.seq (requests.spares_safe
      (resolveTargets_allCalls config obj parsed trivial trivial trivial) hcurrent) ?_
    intro targets current hcurrent
    cases targets with
    | error err => exact requests.done hcurrent
    | ok targets =>
      refine Safe.seq (requests.spares_safe
        (announceDenied_allCalls (fun _ => trivial) targets.2) hcurrent) ?_
      intro _ current hcurrent
      refine Safe.seq (requests.spares_safe (writeReplication_allCalls config obj targets.1
        (fun _ => trivial) (fun _ => trivial) trivial fun _ _ => trivial) hcurrent) ?_
      intro written current hcurrent
      rcases written with err | _ | _
      · exact requests.done hcurrent
      · exact requests.done hcurrent
      · exact requests.reportTargetResolution_safe _ _ _ hcurrent

theorem reconcileRequest_safe (requests : Requests semantics hubOf) (config : RequestConfig)
    (key : NamespacedName) (consistent : (hubOf world).Consistent) :
    Safe semantics (fun world => RequestCall.FramesStatus (hubOf world))
      (reconcileRequest config key)
      (fun _ current => (hubOf current).Consistent) world := by
  unfold reconcileRequest
  rw [requestHub_bind]
  refine Safe.call_of_stable requests.consistent_stable consistent (fun _ h => ⟨h, trivial⟩) ?_
  intro current reply after hcurrent answer
  have hafter := (requests.moves answer hcurrent).2
  cases reply with
  | error err => exact requests.done hafter
  | ok obj =>
    dsimp only
    split_ifs
    · refine requests.spares_safe ?_ hafter
      exact ⟨trivial, fun _ => trivial⟩
    · exact requests.done hafter
    · exact requests.spares_safe (release_sparesStatus config obj) hafter
    · cases parseAnnotations config.library obj.annotations with
      | error errs =>
        exact requests.spares_safe ⟨trivial, fun _ => trivial⟩ hafter
      | ok parsed =>
        cases parsed with
        | none => exact requests.done hafter
        | some parsed =>
          exact requests.materialize_safe config obj parsed hafter

end Requests

/-! ## The authority controller -/

def AuthorityCall.FramesStatus (hub : Hub) (call : AuthorityCall) : Prop :=
  hub.Consistent ∧
    match call with
    | .hub call => call.FramesStatus .authority hub
    | _ => True

theorem keepsConditions_authority (now : Nat) (rep : Replication) :
    KeepsConditions
      (fun type => type ≠ conditionNotAuthoritative ∧ type ≠ replicationConditionReady)
      rep.status.conditions (authorityConditions now rep) := by
  unfold authorityConditions
  cases rep.getControllerOf with
  | none =>
    have hmark : (notAuthoritativeMark rep).type =
        conditionNotAuthoritative := rfl
    have hready : (notAuthoritativeReady rep).type =
        replicationConditionReady := rfl
    exact (keepsConditions_set now (by rw [hmark]; decide) _).trans
      (keepsConditions_set now (by rw [hready]; decide) _)
  | some owner => exact keepsConditions_remove (by decide) _

theorem reconcileAuthority_safe {World : Type} {semantics : Semantics World AuthorityCall.Reply}
    {hubOf : World → Hub} {world : World} (versioned : Versioned semantics hubOf)
    (answers : ∀ {before call reply after}, semantics.answers before (.hub call) reply after →
        ∃ fails, (hubOf before).Answers fails call reply (hubOf after)) (key : NamespacedName)
    (consistent : (hubOf world).Consistent) :
    Safe semantics (fun world => AuthorityCall.FramesStatus (hubOf world)) (reconcileAuthority key)
      (fun _ current => (hubOf current).Consistent) world := by
  unfold reconcileAuthority
  rw [Program.perform_bind]
  refine Safe.call_of_stable versioned.consistent_stable consistent (fun _ h => ⟨h, trivial⟩) ?_
  intro current reply after hcurrent answer
  have hafter := (versioned.moves answer hcurrent).2
  obtain ⟨fails, hread, hsame⟩ := answers answer
  cases reply with
  | error err => exact versioned.done hafter
  | ok rep =>
    have hsnapshot : Snapshot rep (hubOf after) :=
      ⟨hafter, by rw [hsame]; exact hcurrent.holds hread⟩
    dsimp only
    rw [Program.perform_bind]
    refine Safe.call_of_stable versioned.snapshot_stable hsnapshot
      (fun _ h => ⟨h.consistent, trivial⟩) ?_
    intro current now after hcurrent answer
    have hafter := versioned.snapshot_answers hcurrent answer
    split_ifs
    · exact versioned.done hafter.consistent
    · rw [Program.perform_bind]
      refine Safe.call_of_stable versioned.snapshot_stable hafter
        (fun _ h => ⟨h.consistent, rep, _, h.holds, rfl, rfl, keepsConditions_authority now rep⟩) ?_
      intro current reply after hcurrent answer
      have hafter := versioned.snapshot_answers hcurrent answer
      cases reply with
      | ok stored => exact versioned.done hafter.consistent
      | error err => exact versioned.done hafter.consistent

/-! ## The system -/

def Fleet.Moves (before after : Fleet) : Prop :=
  before.hub.Consistent → before.hub.Newer after.hub ∧ after.hub.Consistent

namespace StatusWriters

def semantics (role : Controller) : Semantics Fleet role.Reply where
  interfere := Fleet.Moves
  answers := fun fleet => fleet.AnswersRole role
  interfere_refl := fun fleet consistent => ⟨.refl fleet.hub, consistent⟩
  interfere_trans := by
    intro first second third head tail consistent
    obtain ⟨hnewer, hsecond⟩ := head consistent
    obtain ⟨hlater, hthird⟩ := tail hsecond
    exact ⟨hnewer.trans hlater, hthird⟩

theorem versioned (role : Controller) : Versioned (semantics role) Fleet.hub where
  interferes := fun change => change
  moves := fun answer consistent => Fleet.AnswersRole.consistent consistent answer

variable {fleet : Fleet}

theorem answers_hub {after : Fleet} {call : HubCall} {reply : call.Reply} {fails : Prop}
    (answer : ∃ hub, fleet.hub.Answers fails call reply hub ∧ after = { fleet with hub := hub }) :
    ∃ fails, fleet.hub.Answers fails call reply after.hub := by
  obtain ⟨hub, hanswer, rfl⟩ := answer
  exact ⟨fails, hanswer⟩

/-- Reconciles of any objects by the three controllers, among users who may do
anything and restarts. -/
def system : System Fleet Controller.Reply Controller.Outcome where
  semantics := semantics
  starts
    | .engine, program => ∃ config nn, program = reconcile config nn
    | .request, program => ∃ config key, program = reconcileRequest config key
    | .authority, program => ∃ key, program = reconcileAuthority key
  outside := fun state => state.world.Moves
  restart := fun before after => after = before.restarted

def guards : (role : Controller) → Fleet → role.Call → Prop
  | .engine, fleet, call => call.FromSnapshot fleet.hub
  | .request, fleet, call => call.FramesStatus fleet.hub
  | .authority, fleet, call => call.FramesStatus fleet.hub

theorem guards_consistent {role : Controller} {call : role.Call} (hguard : guards role fleet call) :
    fleet.hub.Consistent := by
  cases role with
  | engine => exact hguard.1
  | request => exact hguard.1
  | authority => exact hguard.1

theorem system_certified : system.Certified (fun fleet => fleet.hub.Consistent) guards where
  outside_invariant := fun consistent change => (change consistent).2
  outside_tolerated := fun _ _ _ _ _ change => change
  restart_invariant := by
    rintro world _ consistent rfl
    exact consistent
  guard_invariant := fun _ _ _ hguard => guards_consistent hguard
  start_safe := by
    intro role program world hstarts consistent
    cases role with
    | engine =>
      obtain ⟨config, nn, rfl⟩ := hstarts
      have operates : Operates (semantics .engine) Fleet.hub :=
        { versioned .engine with answers := answers_hub }
      exact operates.reconcile_safe config nn consistent
    | request =>
      obtain ⟨config, key, rfl⟩ := hstarts
      have requests : Requests (semantics .request) Fleet.hub :=
        { versioned .request with answers := answers_hub }
      exact requests.reconcileRequest_safe config key consistent
    | authority =>
      obtain ⟨key, rfl⟩ := hstarts
      exact reconcileAuthority_safe (versioned .authority) answers_hub key consistent
  call_tolerated := by
    intro role other world call reply next _ _ answer consistent
    exact (versioned role).moves answer consistent

theorem guards_status {role : Controller} {rep : Replication}
    (hguard : guards role fleet (role.hubCall (.updateReplicationStatus rep))) :
    (HubCall.updateReplicationStatus rep).FramesStatus role fleet.hub := by
  cases role with
  | engine =>
    rcases hguard.2 with hspares | ⟨base, hholds, next, hrep, hframe⟩
    · exact hspares.elim
    · exact ⟨base, next, hholds, hrep, hframe⟩
  | request => exact hguard.2
  | authority => exact hguard.2

/-- An accepted status write changes only what its writer owns of the status
that was stored before it, and only the engine changes the inventory. -/
theorem status_writes_framed {start : Fleet}
    (consistent : start.hub.Consistent)
    {state : PlaneState}
    (reach : system.Reachable (System.idle start) state)
    {role : Controller} {rep : Replication}
    {next : role.Reply (role.hubCall (.updateReplicationStatus rep)) →
    Program role.Reply role.Outcome}
    (waiting : state.running role =
      some (.call (role.hubCall (.updateReplicationStatus rep)) next))
    {stored : Replication} {after : Hub}
    (accepted : state.world.hub.acceptStatusUpdate rep = some (stored, after)) :
    ∃ cur,
      state.world.hub.replications rep.key = some cur ∧
      after.replications rep.key = some stored ∧
      StatusFrame role cur.status stored.status ∧
      (role ≠ .engine → stored.status.inventory = cur.status.inventory) := by
  have hguard := system_certified.guard_reachable consistent reach waiting
  obtain ⟨base, status, hholds, hrep, hframe⟩ := guards_status hguard
  obtain ⟨cur, hcur, heq⟩ := Option.map_eq_some_iff.mp accepted
  obtain ⟨rfl, rfl⟩ := Prod.mk.inj heq
  have hbase : cur = base := by
    apply hholds.eq_of_current _ _ hcur
    · rw [hrep]
      rfl
    · rw [hrep]
  subst base
  have hstatus : rep.status = status := by rw [hrep]
  rw [← hstatus] at hframe
  refine ⟨cur, (Hub.current_eq_some hcur).1, Hub.setReplication_self _ _ _, hframe, ?_⟩
  intro hrole
  cases role with
  | engine => exact (hrole rfl).elim
  | request => rw [hframe.1]
  | authority => rw [hframe.1]

def reportedStatus : RequestCall → Option Replication
  | .hub (.updateReplicationStatus rep) => some rep
  | _ => none

theorem eq_updateReplicationStatus_of_reported {call : RequestCall} {rep : Replication}
    (reported : reportedStatus call = some rep) :
    call = Controller.request.hubCall (.updateReplicationStatus rep) := by
  unfold reportedStatus at reported
  split at reported
  · cases reported
    rfl
  · cases reported

/-- The request controller reports the resolution of the sample's targets. -/
theorem status_writes_framed_sample :
    ∃ (state : PlaneState) (rep cur stored : Replication),
      (∃ next,
        state.running .request =
          some (.call (Controller.request.hubCall (.updateReplicationStatus rep)) next)) ∧
      state.world.hub.replications rep.key = some cur ∧
      stored.status ≠ cur.status ∧
      StatusFrame .request cur.status stored.status := by
  have hreports : ∃ exchange ∈ (execute Fleet.handleRequest
      (reconcileRequest Sample.request ⟨"team", "settings"⟩)
      Sample.fleet).trace, ∃ rep ∈ reportedStatus exchange.request,
        ∃ accepted ∈ exchange.before.hub.acceptStatusUpdate rep,
          (exchange.before.hub.replications rep.key).map
            Replication.status ≠ some accepted.1.status := by
    decide +kernel
  obtain ⟨exchange, hmem, rep, hrep, ⟨stored, hub⟩, haccepted, hchanged⟩ :=
    hreports
  have hanswered : Answered (system.semantics .request) (execute Fleet.handleRequest
        (reconcileRequest Sample.request ⟨"team", "settings"⟩)
        Sample.fleet).trace :=
    execute_answered (fun world => Fleet.answersRole_handleRole world .request) _ _
  obtain ⟨state, hreach, hworld, next, hwaiting⟩ :=
    System.reachable_idle_exchange system .request ⟨_, _, rfl⟩ hanswered hmem
      (eq_updateReplicationStatus_of_reported hrep)
  rw [← hworld] at haccepted hchanged
  obtain ⟨cur, hcur, _, hframe, _⟩ := status_writes_framed
    Sample.hub_consistent hreach hwaiting haccepted
  refine ⟨state, rep, cur, stored, ⟨next, hwaiting⟩, hcur, ?_, hframe⟩
  intro hsame
  rw [hcur, Option.map_some, hsame] at hchanged
  exact hchanged rfl

end StatusWriters

end K8sR8r
