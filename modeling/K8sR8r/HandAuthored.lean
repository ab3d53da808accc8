import K8sR8r.StatusWriters
import K8sR8r.WriteAuthorisation

/-!
# Hand-authored Replications

A Replication without a controller owner reference must never be acted on.
The engine learns that from the Ready condition, which the authority
controller writes and the engine itself rewrites.  As long as the authority
controller has spoken before the engine looks, the engine keeps its hands off;
when the engine looks first, it does not.
-/

namespace K8sR8r

open Interaction

namespace HandAuthored

/-- A status that nobody but the authority controller has written. -/
structure Unserved (status : ReplicationStatus) : Prop where
  inventory : status.inventory = []
  ready : ∀ condition, findStatusCondition status.conditions
    replicationConditionReady = some condition →
      condition.reason = reasonNotAuthoritative

/-- The Replication, if it exists, has no controller and was never served. -/
def Untouched (nn : NamespacedName) (fleet : Fleet) : Prop :=
  ∀ rep, fleet.hub.replications nn = some rep → rep.getControllerOf = none ∧ Unserved rep.status

theorem unserved_empty : Unserved .empty :=
  ⟨rfl, fun _ h => nomatch h⟩

theorem unserved_marked {rep : Replication} (horphan : rep.getControllerOf = none)
    (unserved : Unserved rep.status) (now : Nat) :
    Unserved { rep.status with
      conditions := authorityConditions now rep } := by
  refine ⟨unserved.inventory, ?_⟩
  intro condition hfind
  unfold authorityConditions at hfind
  rw [horphan] at hfind
  have hset := findStatusCondition_set now (setStatusCondition now
    rep.status.conditions (notAuthoritativeMark rep))
    (notAuthoritativeReady rep)
  obtain ⟨time, htime⟩ := hset
  rw [show (notAuthoritativeReady rep).type = replicationConditionReady
    from rfl] at htime
  rw [htime] at hfind
  cases hfind
  rfl

/-! ## What the two controllers may do -/

/-- The engine's calls that leave a hand-authored Replication alone: nothing
on a spoke, and no finalizer. -/
def HandsOff : EngineCall → Prop
  | .transportApply _ _ => False
  | .transportDelete _ _ _ => False
  | .hub (.updateReplication rep) =>
    finalizerName ∉ rep.finalizers ∧ rep.getControllerOf = none
  | .hub call => call.IsRead
  | _ => True

def Marks : AuthorityCall → Prop
  | .hub (.updateReplicationStatus rep) => Unserved rep.status
  | .hub call => call.IsRead
  | .now => True

def Spares : HubCall → Prop
  | .updateReplication rep => rep.getControllerOf = none
  | .updateReplicationStatus rep => Unserved rep.status
  | call => call.IsRead

variable {nn : NamespacedName} {fleet after : Fleet}

theorem Untouched.setReplication {hub : Hub} {key : NamespacedName} {next : Option Replication}
    (untouched : ∀ rep, hub.replications nn = some rep →
      rep.getControllerOf = none ∧ Unserved rep.status)
    (hnext : key = nn → ∀ rep, next = some rep → rep.getControllerOf = none ∧ Unserved rep.status) :
    ∀ rep, (hub.setReplication key next).replications nn = some rep →
      rep.getControllerOf = none ∧ Unserved rep.status := by
  intro rep hrep
  by_cases hkey : nn = key
  · rw [hkey, Hub.setReplication_self] at hrep
    exact hnext hkey.symm rep hrep
  · rw [Hub.setReplication_of_ne hub next hkey] at hrep
    exact untouched rep hrep

theorem Untouched.hub_answers {hub : Hub} {fails : Prop} {call : HubCall} {reply : call.Reply}
    (untouched : Untouched nn fleet) (spares : Spares call)
    (answer : fleet.hub.Answers fails call reply hub) :
    Untouched nn { fleet with hub := hub } := by
  cases answer.effect with
  | same => exact untouched
  | updated hcur stored_eq =>
    refine Untouched.setReplication untouched ?_
    intro hkey new hnew
    have hstored := (Hub.current_eq_some hcur).1
    rw [hkey] at hstored
    rw [Hub.keepUnlessReleased_eq_some hnew, stored_eq]
    exact ⟨spares, (untouched _ hstored).2⟩
  | statusUpdated hcur stored_eq =>
    refine Untouched.setReplication untouched ?_
    rintro hkey new ⟨⟩
    have hstored := (Hub.current_eq_some hcur).1
    rw [hkey] at hstored
    rw [stored_eq]
    exact ⟨(untouched _ hstored).1, spares⟩
  | _ => exact spares.elim

theorem Untouched.engine_answers {call : EngineCall} {reply : call.Reply}
    (untouched : Untouched nn fleet) (handsOff : HandsOff call)
    (answer : fleet.AnswersRole .engine call reply after) :
    Untouched nn after := by
  by_cases hspares : call.SparesHub
  · unfold Untouched
    rw [Fleet.answers_sparesHub hspares answer]
    exact untouched
  · cases call with
    | hub call =>
      obtain ⟨hub, hanswer, rfl⟩ := answer
      have hcall : Spares call := by
        cases call with
        | updateReplication rep => exact handsOff.2
        | updateReplicationStatus rep => exact handsOff.elim
        | _ => exact handsOff
      exact untouched.hub_answers hcall hanswer
    | _ => exact (hspares trivial).elim

theorem Untouched.authority_answers {call : AuthorityCall} {reply : call.Reply}
    (untouched : Untouched nn fleet) (marks : Marks call)
    (answer : fleet.AnswersRole .authority call reply after) :
    Untouched nn after := by
  cases call with
  | hub call =>
    obtain ⟨hub, hanswer, rfl⟩ := answer
    have hcall : Spares call := by
      cases call with
      | updateReplicationStatus rep => exact marks
      | updateReplication rep => exact marks.elim
      | _ => exact marks
    exact untouched.hub_answers hcall hanswer
  | now =>
    have hsame : after = fleet := answer
    rw [hsame]
    exact untouched

/-! ## The system -/

/-- Users may do anything except give the Replication a controller or write
its status. -/
def Happens (nn : NamespacedName) (before after : Fleet) : Prop :=
  ∀ rep, after.hub.replications nn = some rep → rep.getControllerOf = none ∧
      (rep.status = .empty ∨ ∃ cur, before.hub.replications nn = some cur ∧ rep.status = cur.status)

theorem Happens.untouched (happens : Happens nn fleet after) (untouched : Untouched nn fleet) :
    Untouched nn after := by
  intro rep hrep
  obtain ⟨horphan, hempty | ⟨cur, hcur, hstatus⟩⟩ := happens rep hrep
  · rw [hempty]
    exact ⟨horphan, unserved_empty⟩
  · rw [hstatus]
    exact ⟨horphan, (untouched cur hcur).2⟩

def semantics (nn : NamespacedName) (role : Controller) : Semantics Fleet role.Reply where
  interfere := fun before after => Untouched nn before → Untouched nn after
  answers := fun fleet => fleet.AnswersRole role
  interfere_refl := fun _ h => h
  interfere_trans := fun head tail h => tail (head h)

def system (config : EngineConfig) (nn : NamespacedName) :
    System Fleet Controller.Reply Controller.Outcome where
  semantics := semantics nn
  starts
    | .engine, program => program = reconcile config nn
    | .authority, program => program = reconcileAuthority nn
    | .request, _ => False
  outside := fun state => Happens nn state.world
  restart := fun before after => after = before.restarted

/-- Whenever the engine reads the Replication, it is being deleted or has a
Ready condition. -/
def admits (nn : NamespacedName) : (role : Controller) → Fleet → role.Call → Prop
  | .engine, fleet, call => call = .hub (.getReplication nn) →
      ∀ rep, fleet.hub.replications nn = some rep → rep.deletionTimestamp.isSome = true ∨
          (findStatusCondition rep.status.conditions replicationConditionReady).isSome = true
  | _, _, _ => True

def judgedSystem (config : EngineConfig) (nn : NamespacedName) :
    System Fleet Controller.Reply Controller.Outcome :=
  (system config nn).restrict (admits nn) fun _ _ => True

def guards (nn : NamespacedName) : (role : Controller) → Fleet → role.Call → Prop
  | .engine, fleet, call => Untouched nn fleet ∧ HandsOff call
  | .authority, fleet, call => Untouched nn fleet ∧ Marks call
  | .request, _, _ => False

theorem untouched_stable (config : EngineConfig) (role : Controller) :
    Stable ((judgedSystem config nn).semantics role) (Untouched nn) :=
  fun untouched change => change untouched

/-! ## The engine keeps its hands off -/

theorem handsOff_safe (config : EngineConfig) {α : Type} {program : EngineProgram α}
    (calls : program.AllCalls HandsOff) (untouched : Untouched nn fleet) :
    Safe ((judgedSystem config nn).semantics .engine) (guards nn .engine)
      program (fun _ => Untouched nn) fleet :=
  (Safe.of_within calls (untouched_stable config .engine) untouched
    (fun handsOff h => ⟨h, handsOff⟩)
    fun handsOff h answer => h.engine_answers handsOff answer.1).weaken fun _ _ h => h.2

theorem reconcileDeletion_handsOff (config : EngineConfig) {rep : Replication}
    (horphan : rep.getControllerOf = none) (hempty : rep.status.inventory = []) :
    (reconcileDeletion config nn rep).AllCalls HandsOff := by
  have hreleased : HandsOff (.hub (.updateReplication (released rep))) :=
    ⟨by simp [released], horphan⟩
  unfold reconcileDeletion
  rw [hempty]
  split_ifs
  · trivial
  · refine ⟨hreleased, fun reply => ?_⟩
    cases reply with
    | error err => trivial
    | ok stored =>
      exact ⟨trivial, fun _ => ⟨trivial, fun _ => ⟨trivial, fun _ =>
        ⟨trivial, fun _ => trivial⟩⟩⟩⟩

theorem engine_safe (config : EngineConfig) (untouched : Untouched nn fleet) :
    Safe ((judgedSystem config nn).semantics .engine) (guards nn .engine)
      (reconcile config nn) (fun _ => Untouched nn) fleet := by
  unfold reconcile
  rw [hub_bind]
  refine Safe.call_of_stable (untouched_stable config .engine) untouched
    (fun _ h => ⟨h, trivial⟩) ?_
  rintro current reply after hcurrent ⟨answer, hadmits⟩
  have hread : HandsOff (.hub (.getReplication nn)) := trivial
  have hafter := hcurrent.engine_answers hread answer
  obtain ⟨hub, ⟨hstored, _⟩, _⟩ := answer
  cases reply with
  | error err =>
    refine handsOff_safe config ?_ hafter
    dsimp only
    split_ifs
    · exact ⟨trivial, fun _ => ⟨trivial, fun _ => trivial⟩⟩
    · trivial
  | ok rep =>
    have hrep : current.hub.replications nn = some rep := hstored
    obtain ⟨horphan, hunserved⟩ := hcurrent rep hrep
    refine handsOff_safe config ?_ hafter
    dsimp only
    split_ifs with hdeleted hauthority
    · exact reconcileDeletion_handsOff config horphan hunserved.inventory
    · trivial
    · -- The authority controller has spoken, so the check cannot fail.
      exfalso
      rcases hadmits rfl rep hrep with hdeleting | hready
      · exact hdeleted hdeleting
      · obtain ⟨condition, hfind⟩ := Option.isSome_iff_exists.mp hready
        apply hauthority
        unfold isNotAuthoritative
        rw [hfind]
        exact decide_eq_true (hunserved.ready condition hfind)

theorem authority_safe (config : EngineConfig) (untouched : Untouched nn fleet) :
    Safe ((judgedSystem config nn).semantics .authority)
      (guards nn .authority) (reconcileAuthority nn)
      (fun _ => Untouched nn) fleet := by
  have hends : ∀ {fleet : Fleet} (value : ApiResult Unit), Untouched nn fleet →
      Safe ((judgedSystem config nn).semantics .authority)
        (guards nn .authority) (.done value : AuthorityProgram _)
        (fun _ => Untouched nn) fleet :=
    fun value h => Safe.done_of_stable (untouched_stable config .authority) h
  unfold reconcileAuthority
  rw [Program.perform_bind]
  refine Safe.call_of_stable (untouched_stable config .authority) untouched
    (fun _ h => ⟨h, trivial⟩) ?_
  rintro current reply after hcurrent ⟨answer, _⟩
  have hread : Marks (.hub (.getReplication nn)) := trivial
  have hafter := hcurrent.authority_answers hread answer
  obtain ⟨hub, ⟨hstored, _⟩, _⟩ := answer
  cases reply with
  | error err => exact hends _ hafter
  | ok rep =>
    obtain ⟨horphan, hunserved⟩ := hcurrent rep hstored
    dsimp only
    rw [Program.perform_bind]
    refine Safe.call_of_stable (untouched_stable config .authority) hafter
      (fun _ h => ⟨h, trivial⟩) ?_
    rintro current now after hcurrent ⟨answer, _⟩
    have hafter : Untouched nn after := by
      have hsame : after = current := answer
      rw [hsame]
      exact hcurrent
    split_ifs
    · exact hends _ hafter
    · rw [Program.perform_bind]
      have hmarks : Marks (.hub (.updateReplicationStatus { rep with
          status := { rep.status with
            conditions := authorityConditions now rep } })) :=
        unserved_marked horphan hunserved now
      refine Safe.call_of_stable (untouched_stable config .authority)
        hafter (fun _ h => ⟨h, hmarks⟩) ?_
      rintro current reply after hcurrent ⟨answer, _⟩
      have hafter := hcurrent.authority_answers hmarks answer
      cases reply with
      | ok stored => exact hends _ hafter
      | error err => exact hends _ hafter

theorem judgedSystem_certified (config : EngineConfig) (nn : NamespacedName) :
    (judgedSystem config nn).Certified (Untouched nn) (guards nn) where
  outside_invariant := fun untouched change => change.1.untouched untouched
  outside_tolerated := fun _ _ _ _ _ change => change.1.untouched
  restart_invariant := by
    rintro world _ untouched rfl
    exact untouched
  guard_invariant := by
    intro role world call hguard
    cases role with
    | engine => exact hguard.1
    | authority => exact hguard.1
    | request => exact hguard.elim
  start_safe := by
    intro role program world hstarts untouched
    cases role with
    | engine =>
      cases hstarts
      exact engine_safe config untouched
    | authority =>
      cases hstarts
      exact authority_safe config untouched
    | request => exact hstarts.elim
  call_tolerated := by
    intro role other world call reply next _ hguard answer untouched
    cases role with
    | engine => exact untouched.engine_answers hguard.2 answer.1
    | authority => exact untouched.authority_answers hguard.2 answer.1
    | request => exact hguard.elim

/-- Nobody has reported on the Replication yet, and nobody controls it. -/
def Fresh (nn : NamespacedName) (fleet : Fleet) : Prop :=
  ∀ rep, fleet.hub.replications nn = some rep → rep.getControllerOf = none ∧ rep.status = .empty

/-- While the authority controller always speaks first, the engine writes
nothing on a spoke for a hand-authored Replication and never adds its
finalizer to it. -/
theorem hand_authored_ignored (config : EngineConfig) {nn : NamespacedName} {start : Fleet}
    (fresh : Fresh nn start)
    {state : PlaneState}
    (reach : (judgedSystem config nn).Reachable (System.idle start) state)
    {call : EngineCall} {next : call.Reply → EngineProgram (ApiResult ReconcileOutcome)}
    (waiting : state.running .engine = some (.call call next)) :
    call.SparesSpokes ∧
    ∀ rep, call = .hub (.updateReplication rep) → finalizerName ∉ rep.finalizers := by
  have huntouched : Untouched nn start := by
    intro rep hrep
    obtain ⟨horphan, hempty⟩ := fresh rep hrep
    rw [hempty]
    exact ⟨horphan, unserved_empty⟩
  have hguard := (judgedSystem_certified config nn).guard_reachable huntouched reach waiting
  constructor
  · cases call with
    | transportApply cluster obj => exact hguard.2.elim
    | transportDelete cluster gvk key => exact hguard.2.elim
    | _ => trivial
  · rintro rep rfl
    exact hguard.2.1

open Sample

/-! ## The sample as a hand-authored object -/

def orphanedWith (finalizers : List String) : Fleet :=
  { Sample.fleet with
    hub := { Sample.hub with
      replications := fun nn =>
        if nn = key then
          some { replication with ownerReferences := [], finalizers := finalizers }
        else none } }

def orphaned : Fleet := orphanedWith []

theorem orphaned_fresh : Fresh key orphaned := by
  intro rep hrep
  obtain rfl := Option.some.inj hrep
  exact ⟨rfl, rfl⟩

def updatedReplication : EngineCall → Option Replication
  | .hub (.updateReplication rep) => some rep
  | _ => none

theorem eq_updateReplication_of_written {call : EngineCall} {rep : Replication}
    (written : updatedReplication call = some rep) :
    call = .hub (.updateReplication rep) := by
  unfold updatedReplication at written
  split at written
  · cases written
    rfl
  · cases written

theorem engine_answered (start : Fleet) :
    Answered ((system engine key).semantics .engine)
      (execute Fleet.handle (reconcile engine key) start).trace :=
  execute_answered (fun world => Fleet.answersRole_handleRole world .engine) _ _

def judged : Fleet :=
  (execute Fleet.handleAuthority (reconcileAuthority key) orphaned).final

def judgedTrace : List (Exchange Fleet EngineCall.Reply) :=
  (execute Fleet.handle (reconcile engine key) judged).trace

/-- Once it is judged, the engine looks at the live object and leaves it alone. -/
theorem hand_authored_ignored_sample :
    (∃ rep ∈ judged.hub.replications key,
      isNotAuthoritative rep = true ∧ rep.deletionTimestamp = none) ∧
    judgedTrace.map (·.request) = [.hub (.getReplication key)] ∧
    ∀ exchange ∈ judgedTrace,
      exchange.request.SparesSpokes ∧
      ∀ rep, exchange.request = .hub (.updateReplication rep) → finalizerName ∉ rep.finalizers := by
  have hjudged : ∀ exchange ∈ judgedTrace, ∀ rep ∈ exchange.before.hub.replications key,
      (findStatusCondition rep.status.conditions replicationConditionReady).isSome = true := by
    decide +kernel
  have hauthority := System.reachable_execute_idle (judgedSystem engine key)
    Controller.authority rfl ((execute_answered (fun world =>
      Fleet.answersRole_handleRole world .authority) (reconcileAuthority key)
      orphaned).restrict fun _ _ => trivial)
  refine ⟨by decide +kernel, rfl, ?_⟩
  intro exchange hmem
  obtain ⟨state, hreach, _, next, hwaiting⟩ :=
    System.reachable_idle_exchange (judgedSystem engine key) .engine rfl
      ((engine_answered judged).restrict fun exchange hmem _ rep hrep =>
        .inr (hjudged exchange hmem rep hrep)) hmem rfl
  exact hand_authored_ignored engine orphaned_fresh (hauthority.trans hreach) hwaiting

/-- The engine looks first: it adds its finalizer to a hand-authored
Replication and writes a replica for it. -/
theorem hand_authored_served :
    (∃ state rep next,
      (system engine key).Reachable (System.idle orphaned) state ∧
      state.running .engine = some (.call (.hub (.updateReplication rep)) next) ∧
      finalizerName ∈ rep.finalizers ∧
      ∃ cur, state.world.hub.current rep = some cur ∧ cur.getControllerOf = none) ∧
    ∃ state cluster obj next,
      (system engine key).Reachable (System.idle orphaned) state ∧
      state.running .engine = some (.call (.transportApply cluster obj) next) ∧
      slotOf cluster obj.groupVersionKind obj.key = slot := by
  constructor
  · have hadds : ∃ exchange ∈ (execute Fleet.handle (reconcile engine key)
        orphaned).trace,
        ∃ rep ∈ updatedReplication exchange.request, finalizerName ∈ rep.finalizers ∧
          ∃ cur ∈ exchange.before.hub.current rep, cur.getControllerOf = none := by
      decide +kernel
    obtain ⟨exchange, hmem, rep, hwritten, hadded, cur, hcur, horphan⟩ :=
      hadds
    obtain ⟨state, hreach, hworld, next, hwaiting⟩ :=
      System.reachable_idle_exchange (system engine key)
        .engine rfl (engine_answered _) hmem
        (eq_updateReplication_of_written hwritten)
    rw [← hworld] at hcur
    exact ⟨state, rep, next, hreach, hwaiting, hadded, cur, hcur, horphan⟩
  · have hserves : ∃ exchange ∈ (execute Fleet.handle (reconcile engine key)
        orphaned).trace,
        appliedSlot exchange.request = some slot := by
      decide +kernel
    obtain ⟨exchange, hmem, hslot⟩ := hserves
    obtain ⟨cluster, obj, hcall, hobj⟩ := appliedSlot_eq_some hslot
    obtain ⟨state, hreach, _, next, hwaiting⟩ :=
      System.reachable_idle_exchange (system engine key)
        .engine rfl (engine_answered _) hmem hcall
    exact ⟨state, cluster, obj, next, hreach, hwaiting, hobj⟩

end HandAuthored

end K8sR8r
