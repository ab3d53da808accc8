import K8sR8r.HandAuthored
import K8sR8r.SoloReconcile
import K8sR8r.StatusSummary

/-!
# The authority mark and ownership

The authority controller marks a Replication without a controller owner
reference in two conditions, and the engine's check reads only the second one,
Ready.  When an owner comes back the authority controller takes away the first
one, and the engine, which would rewrite the second, does not get past its
check.  So the mark follows ownership in one direction: once on, it stays on
whatever happens to the owner references.
-/

namespace K8sR8r

open Interaction

namespace AuthorityMark

/-! ## The system -/

/-- The Replication is live, and the engine's check turns it away. -/
def Marked (nn : NamespacedName) (fleet : Fleet) : Prop :=
  ∃ rep, fleet.hub.replications nn = some rep ∧
    rep.deletionTimestamp = none ∧ isNotAuthoritative rep = true

/-- Somebody edits the owner references of the Replication. -/
def Reowned (nn : NamespacedName) (before after : Fleet) : Prop :=
  ∃ rep owners, before.hub.replications nn = some rep ∧ after = { before with
      hub := before.hub.setReplication nn (some { rep with
        ownerReferences := owners
        resourceVersion := before.hub.nextVersion }) }

def semantics (nn : NamespacedName) (role : Controller) : Semantics Fleet role.Reply where
  interfere := fun before after => Marked nn before → Marked nn after
  answers := fun fleet => fleet.AnswersRole role
  interfere_refl := fun _ h => h
  interfere_trans := fun head tail h => tail (head h)

/-- The engine and the authority controller on one Replication whose owner
references come and go. -/
def system (config : EngineConfig) (nn : NamespacedName) :
    System Fleet Controller.Reply Controller.Outcome where
  semantics := semantics nn
  starts
    | .engine, program => program = reconcile config nn
    | .authority, program => program = reconcileAuthority nn
    | .request, _ => False
  outside := fun state => Reowned nn state.world
  restart := fun before after => after = before.restarted

def alone : Semantics Fleet AuthorityCall.Reply :=
  .undisturbed fun fleet call => fleet.AnswersRole .authority call

variable {config : EngineConfig} {nn : NamespacedName} {fleet after : Fleet} {rep : Replication}

theorem Reowned.consistent (reowned : Reowned nn fleet after) (consistent : fleet.hub.Consistent) :
    after.hub.Consistent := by
  obtain ⟨rep, owners, hrep, rfl⟩ := reowned
  apply consistent.setReplication
  rintro stored ⟨⟩
  exact ⟨consistent.key nn rep hrep, le_rfl⟩

variable {state : PlaneState} {stored : Replication}

theorem consistent_of_step {next : PlaneState} (step : (system config nn).Step state next)
    (consistent : state.world.hub.Consistent) :
    next.world.hub.Consistent := by
  cases step with
  | outside change => exact change.consistent consistent
  | start => exact consistent
  | call role waiting answer =>
    exact (Fleet.AnswersRole.consistent consistent answer).2
  | finish => exact consistent
  | restart change =>
    obtain rfl := change
    exact consistent

theorem consistent_of_reachable (reach : (system config nn).Reachable (System.idle fleet) state)
    (consistent : fleet.hub.Consistent) : state.world.hub.Consistent := by
  induction reach with
  | refl => exact consistent
  | tail _ step ih => exact consistent_of_step step ih

/-! ## One authority reconcile -/

theorem isNotAuthoritative_of_orphan {now : Nat} (horphan : rep.getControllerOf = none)
    (hconditions : stored.status.conditions = authorityConditions now rep) :
    isNotAuthoritative stored = true := by
  obtain ⟨time, htime⟩ := findStatusCondition_set now
    (setStatusCondition now rep.status.conditions (notAuthoritativeMark rep))
    (notAuthoritativeReady rep)
  have hready : (notAuthoritativeReady rep).type =
    replicationConditionReady := rfl
  rw [hready] at htime
  unfold isNotAuthoritative
  simp only [hconditions, authorityConditions, horphan, htime]
  simp [notAuthoritativeReady]

theorem isNotAuthoritative_of_owned {now : Nat} (howned : rep.getControllerOf ≠ none)
    (hconditions : stored.status.conditions = authorityConditions now rep) :
    isNotAuthoritative stored = isNotAuthoritative rep := by
  obtain ⟨owner, howner⟩ := Option.ne_none_iff_exists'.mp howned
  have htype : replicationConditionReady ≠ conditionNotAuthoritative := by
    decide
  unfold isNotAuthoritative
  simp only [hconditions, authorityConditions, howner, findStatusCondition_remove_of_ne _ htype]

/-- A reconcile that ends without error leaves the conditions that the
authority controller wants, and the owner references alone. -/
theorem reconcileAuthority_marks (consistent : fleet.hub.Consistent)
    (hrep : fleet.hub.replications nn = some rep) :
    Safe alone unguarded (reconcileAuthority nn)
      (fun value current => value = .ok () → ∃ stored now,
        current.hub.replications nn = some stored ∧
        stored.ownerReferences = rep.ownerReferences ∧
        stored.status.conditions = authorityConditions now rep) fleet := by
  have hkey := consistent.key nn rep hrep
  unfold reconcileAuthority
  apply Safe.undisturbed_perform trivial
  intro reply current answer
  obtain ⟨hub, ⟨hread, rfl⟩, rfl⟩ := answer
  cases reply with
  | error err =>
    have hmissing : if err.isNotFound = true then
      fleet.hub.replications nn = none else True := hread
    rw [hrep] at hmissing
    apply Safe.undisturbed_done
    intro hok
    simp_all
  | ok read =>
    have hsame : some rep = some read := hrep.symm.trans hread
    cases hsame
    dsimp only
    apply Safe.undisturbed_perform trivial
    rintro now _ rfl
    split_ifs with hconditions
    · apply Safe.undisturbed_done
      intro _
      exact ⟨rep, now, hrep, rfl, hconditions.symm⟩
    · apply Safe.undisturbed_perform trivial
      intro reply current answer
      cases reply with
      | error err => exact Safe.undisturbed_done nofun
      | ok stored =>
        -- The hub answers the engine's status writes the same way.
        have hwrite : fleet.Answers (fun _ => True) (.hub (.updateReplicationStatus { rep with
            status := { rep.status with
              conditions := authorityConditions now rep } }))
          (.ok stored) current := answer
        have hstores : fleet.Stores nn rep := hrep
        obtain ⟨hstored, _, rfl⟩ := hstores.statusWritten hkey hwrite
        apply Safe.undisturbed_done
        intro _
        exact ⟨_, now, hstored, rfl, rfl⟩

/-! ## The mark does not come off -/

def Idles : EngineCall → Prop
  | .hub call => call.IsRead
  | .transportApply _ _ => False
  | .transportDelete _ _ _ => False
  | _ => True

def KeepsMark : AuthorityCall → Prop
  | .hub (.updateReplicationStatus rep) => isNotAuthoritative rep = true
  | .hub call => call.IsRead
  | .now => True

def guards (nn : NamespacedName) : (role : Controller) → Fleet → role.Call → Prop
  | .engine, fleet, call => Marked nn fleet ∧ Idles call
  | .authority, fleet, call => Marked nn fleet ∧ KeepsMark call
  | .request, _, _ => False

theorem marked_stable (role : Controller) : Stable (semantics nn role) (Marked nn) :=
  fun marked change => change marked

theorem Reowned.marked (reowned : Reowned nn fleet after) (marked : Marked nn fleet) :
    Marked nn after := by
  obtain ⟨rep, owners, hrep, rfl⟩ := reowned
  obtain ⟨stored, hstored, hlive, hmark⟩ := marked
  have hsame : some rep = some stored := hrep.symm.trans hstored
  cases hsame
  exact ⟨_, Hub.setReplication_self _ _ _, hlive, hmark⟩

theorem Marked.hub_answers {hub : Hub} {fails : Prop} {call : HubCall} {reply : call.Reply}
    (marked : Marked nn fleet) (keeps : KeepsMark (.hub call))
    (answer : fleet.hub.Answers fails call reply hub) :
    Marked nn { fleet with hub := hub } := by
  obtain ⟨rep, hrep, hlive, hmark⟩ := marked
  have hundeleted : ∀ key, call ≠ .deleteReplication key := by
    rintro key rfl
    exact keeps
  obtain ⟨kept, hkept, hlives, _, _, hstatus⟩ :=
    answer.effect.keeps_replication hrep hlive hundeleted
  refine ⟨kept, hkept, hlives, ?_⟩
  unfold isNotAuthoritative at hmark ⊢
  obtain hsame | ⟨new, rfl, _, hnew⟩ := hstatus
  · rw [hsame]
    exact hmark
  · rw [hnew]
    exact keeps

theorem Marked.engine_answers {call : EngineCall} {reply : call.Reply} (marked : Marked nn fleet)
    (idles : Idles call) (answer : fleet.AnswersRole .engine call reply after) :
    Marked nn after := by
  by_cases hspares : call.SparesHub
  · unfold Marked
    rw [Fleet.answers_sparesHub hspares answer]
    exact marked
  · cases call with
    | hub call =>
      obtain ⟨hub, hanswer, rfl⟩ := answer
      have hkeeps : KeepsMark (.hub call) := by
        cases call with
        | updateReplicationStatus rep => exact idles.elim
        | _ => exact idles
      exact marked.hub_answers hkeeps hanswer
    | _ => exact (hspares trivial).elim

theorem Marked.authority_answers {call : AuthorityCall} {reply : call.Reply}
    (marked : Marked nn fleet) (keeps : KeepsMark call)
    (answer : fleet.AnswersRole .authority call reply after) :
    Marked nn after := by
  cases call with
  | now =>
    obtain rfl : after = fleet := answer
    exact marked
  | hub call =>
    obtain ⟨hub, hanswer, rfl⟩ := answer
    exact marked.hub_answers keeps hanswer

theorem idles_safe {α : Type} {program : EngineProgram α} (calls : program.AllCalls Idles)
    (marked : Marked nn fleet) :
    Safe (semantics nn .engine) (guards nn .engine) program (fun _ => Marked nn) fleet :=
  (Safe.of_within calls (marked_stable .engine) marked (fun idles h => ⟨h, idles⟩)
    fun idles h answer => h.engine_answers idles answer).weaken fun _ _ h => h.2

theorem engine_idles (marked : Marked nn fleet) :
    Safe (semantics nn .engine) (guards nn .engine) (reconcile config nn)
      (fun _ => Marked nn) fleet := by
  unfold reconcile
  rw [hub_bind]
  apply Safe.call_of_stable (marked_stable .engine) marked (fun _ h => ⟨h, trivial⟩)
  intro current reply after hcurrent answer
  have hread : Idles (.hub (.getReplication nn)) := trivial
  have hafter := hcurrent.engine_answers hread answer
  obtain ⟨hub, ⟨hstored, _⟩, _⟩ := answer
  refine idles_safe ?_ hafter
  cases reply with
  | error err =>
    dsimp only
    split_ifs
    · exact ⟨trivial, fun _ => ⟨trivial, fun _ => trivial⟩⟩
    · trivial
  | ok rep =>
    obtain ⟨stored, hholds, hlive, hmark⟩ := hcurrent
    have hsame : some stored = some rep := hholds.symm.trans hstored
    cases hsame
    simp only [hlive, hmark, Option.isSome_none, if_true]
    trivial

theorem keepsMark_safe {α : Type} {program : AuthorityProgram α}
    (calls : program.AllCalls KeepsMark) (marked : Marked nn fleet) :
    Safe (semantics nn .authority) (guards nn .authority) program (fun _ => Marked nn) fleet :=
  (Safe.of_within calls (marked_stable .authority) marked (fun keeps h => ⟨h, keeps⟩)
    fun keeps h answer => h.authority_answers keeps answer).weaken fun _ _ h => h.2

theorem authority_keepsMark (marked : Marked nn fleet) :
    Safe (semantics nn .authority) (guards nn .authority)
      (reconcileAuthority nn) (fun _ => Marked nn) fleet := by
  unfold reconcileAuthority
  rw [Program.perform_bind]
  apply Safe.call_of_stable (marked_stable .authority) marked (fun _ h => ⟨h, trivial⟩)
  intro current reply after hcurrent answer
  have hread : KeepsMark (.hub (.getReplication nn)) := trivial
  have hafter := hcurrent.authority_answers hread answer
  obtain ⟨hub, ⟨hstored, _⟩, _⟩ := answer
  refine keepsMark_safe ?_ hafter
  cases reply with
  | error err => trivial
  | ok rep =>
    obtain ⟨stored, hholds, _, hmark⟩ := hcurrent
    have hsame : some stored = some rep := hholds.symm.trans hstored
    cases hsame
    refine ⟨trivial, fun now => ?_⟩
    -- With or without an owner, the Ready condition still says it.
    have hkeeps : KeepsMark (.hub (.updateReplicationStatus { rep with
        status := { rep.status with
          conditions := authorityConditions now rep } })) := by
      by_cases horphan : rep.getControllerOf = none
      · exact isNotAuthoritative_of_orphan horphan rfl
      · exact (isNotAuthoritative_of_owned horphan rfl).trans hmark
    dsimp only [Program.bind]
    split_ifs
    · trivial
    · refine ⟨hkeeps, fun reply => ?_⟩
      cases reply with
      | ok stored => trivial
      | error err => trivial

theorem system_certified (config : EngineConfig) (nn : NamespacedName) :
    (system config nn).Certified (Marked nn) (guards nn) where
  outside_invariant := fun marked change => change.marked marked
  outside_tolerated := fun _ _ _ _ _ change => change.marked
  restart_invariant := by
    intro world next marked change
    obtain rfl := change
    exact marked
  guard_invariant := by
    intro role world call hguard
    cases role with
    | engine => exact hguard.1
    | authority => exact hguard.1
    | request => exact hguard.elim
  start_safe := by
    intro role program world hstarts marked
    cases role with
    | engine =>
      cases hstarts
      exact engine_idles marked
    | authority =>
      cases hstarts
      exact authority_keepsMark marked
    | request => exact hstarts.elim
  call_tolerated := by
    intro role other world call reply next _ hguard answer marked
    cases role with
    | engine => exact marked.engine_answers hguard.2 answer
    | authority => exact marked.authority_answers hguard.2 answer
    | request => exact hguard.elim

/-- Once marked, a live Replication stays marked and the engine never gets
past its check, whatever its owner references become. -/
theorem marked_forever
    (marked : Marked nn fleet)
    (reach : (system config nn).Reachable (System.idle fleet) state) :
    Marked nn state.world ∧
    ∀ call next, state.running .engine = some (.call call next) → Idles call :=
  ⟨(system_certified config nn).invariant_reachable marked reach, fun _ _ waiting =>
      ((system_certified config nn).guard_reachable marked reach waiting).2⟩

/-! ## Judged again -/

/-- After an authority reconcile without error the engine's check agrees with
ownership exactly when the Replication has no controller, or was not marked
before. -/
theorem mark_follows_ownership_iff {start : Fleet}
    (consistent : start.hub.Consistent)
    {state : PlaneState}
    (reach : (system config nn).Reachable (System.idle start) state)
    (hrep : state.world.hub.replications nn = some rep)
    {trace : List (Exchange Fleet AuthorityCall.Reply)}
    (run : Run alone state.world (reconcileAuthority nn) trace after (.done (.ok ()))) :
    ∃ stored,
      after.hub.replications nn = some stored ∧
      stored.getControllerOf = rep.getControllerOf ∧
      ((isNotAuthoritative stored = true ↔ stored.getControllerOf = none) ↔
        (rep.getControllerOf = none ∨ isNotAuthoritative rep = false)) := by
  have hstate := consistent_of_reachable reach consistent
  obtain ⟨stored, now, hstored, howners, hconditions⟩ :=
    (reconcileAuthority_marks hstate hrep).run_done run rfl
  have hcontroller : stored.getControllerOf = rep.getControllerOf := by
    unfold Replication.getControllerOf
    rw [howners]
  refine ⟨stored, hstored, hcontroller, ?_⟩
  rw [hcontroller]
  by_cases horphan : rep.getControllerOf = none
  · simp [horphan, isNotAuthoritative_of_orphan horphan hconditions]
  · simp [horphan, isNotAuthoritative_of_owned horphan hconditions]

open Sample

/-! ## The sample loses and regains its owner -/

def orphaned : Fleet :=
  HandAuthored.orphanedWith [finalizerName]

def reowned (fleet : Fleet) : Fleet :=
  match fleet.hub.replications key with
  | none => fleet
  | some rep =>
    { fleet with
      hub := fleet.hub.setReplication key (some { rep with
        ownerReferences := replication.ownerReferences
        resourceVersion := fleet.hub.nextVersion }) }

def judged (fleet : Fleet) : Execution Fleet AuthorityCall.Reply (ApiResult Unit) :=
  execute (fun fleet call => fleet.handleRole .authority call) (reconcileAuthority key) fleet

theorem orphaned_consistent : orphaned.hub.Consistent where
  key := by
    intro other rep hrep
    have hrep : (if other = key then _ else none) = some rep := hrep
    split_ifs at hrep with hkey
    cases hrep
    exact hkey.symm
  version := by
    intro other rep hrep
    have hrep : (if other = key then _ else none) = some rep := hrep
    split_ifs at hrep
    cases hrep
    decide
  sourceVersion := hub_consistent.sourceVersion

theorem judged_answered (fleet : Fleet) :
    Answered ((system engine key).semantics .authority) (judged fleet).trace :=
  execute_answered (fun world => Fleet.answersRole_handleRole world .authority) _ _

theorem judged_run (fleet : Fleet) :
    Run alone fleet (reconcileAuthority key) (judged fleet).trace
      (judged fleet).final (.done (judged fleet).value) :=
  run_execute (judged_answered fleet)

/-- Judging the marked Replication again leaves it marked. -/
theorem marked_forever_sample : Marked key (judged (judged orphaned).final).final := by
  have hmarked : ∃ rep ∈ (judged orphaned).final.hub.replications key,
      rep.deletionTimestamp = none ∧ isNotAuthoritative rep = true := by decide +kernel
  have hjudged := System.reachable_execute_idle (system engine key)
    Controller.authority rfl (judged_answered (judged orphaned).final)
  exact (marked_forever hmarked hjudged).1

/-- A Replication without an owner is marked. -/
theorem mark_follows_ownership_iff_sample :
    ∃ stored,
      (judged orphaned).final.hub.replications key = some stored ∧
      (isNotAuthoritative stored = true ↔ stored.getControllerOf = none) := by
  have hrun := judged_run orphaned
  rw [show (judged orphaned).value = .ok () by decide +kernel] at hrun
  have hreach : (system engine key).Reachable
    (System.idle orphaned) (System.idle orphaned) := .refl
  obtain ⟨stored, hstored, _, hiff⟩ :=
    mark_follows_ownership_iff orphaned_consistent hreach rfl hrun
  exact ⟨stored, hstored, hiff.mpr (.inl rfl)⟩

/-- The Replication is marked, regains its owner and is judged again without
error; the engine still does nothing but read it. -/
theorem regained_owner_still_marked :
    ∃ state trace after stored,
      (system engine key).Reachable (System.idle orphaned) state ∧
      Run alone state.world (reconcileAuthority key) trace after (.done (.ok ())) ∧
      after.hub.replications key = some stored ∧
      stored.getControllerOf ≠ none ∧
      isNotAuthoritative stored = true ∧
      (execute Fleet.handle (reconcile engine key) after).trace.length = 1 := by
  have hmarked : (system engine key).Reachable
      (System.idle orphaned) (System.idle (judged orphaned).final) :=
    System.reachable_execute_idle _ Controller.authority rfl (judged_answered orphaned)
  have hreowned : Reowned key (judged orphaned).final (reowned (judged orphaned).final) := by
    have hstored : ((judged orphaned).final.hub.replications
      key).isSome = true := by decide +kernel
    obtain ⟨rep, hrep⟩ := Option.isSome_iff_exists.mp hstored
    refine ⟨rep, replication.ownerReferences, hrep, ?_⟩
    unfold reowned
    rw [hrep]
  have hrun := judged_run (reowned (judged orphaned).final)
  rw [show (judged (reowned (judged orphaned).final)).value = .ok ()
    by decide +kernel] at hrun
  have hstored : ∃ stored ∈ (judged (reowned
      (judged orphaned).final)).final.hub.replications key,
      stored.getControllerOf ≠ none ∧ isNotAuthoritative stored = true := by
    decide +kernel
  obtain ⟨stored, hstored, howned, hmark⟩ := hstored
  exact ⟨_, _, _, stored, hmarked.tail (.outside hreowned), hrun, hstored,
    howned, hmark, by decide +kernel⟩

end AuthorityMark

end K8sR8r
