import K8sR8r.ClusterDiscovery
import K8sR8r.StepMachine

/-!
# Wiring spokes to the cluster manager

`cmd/main.go`: discovery events start and cancel one bootstrap goroutine for
each ready cluster, and a goroutine that gets through registers the cluster
with the runtime manager.  Handle calls are sequential; the goroutines run
beside them.  A cancelled goroutine is told so only by the calls that look at
its context, and the registration is not one of them.
-/

namespace K8sR8r

/-- Where a bootstrap goroutine stands: before one of its network calls,
before the registration, at the check of its context after a failure, or in
the pause before a retry. -/
inductive BootstrapStage where
  | loadAdminConfig
  | bootstrapSpoke
  | rotatorConfig
  | register
  | failed
  | backoff
  deriving DecidableEq

/-- The stage after a network call that succeeded. -/
def BootstrapStage.completed : BootstrapStage → Option BootstrapStage
  | .loadAdminConfig => some .bootstrapSpoke
  | .bootstrapSpoke => some .rotatorConfig
  | .rotatorConfig => some .register
  | _ => none

structure Bootstrap where
  name : String
  stage : BootstrapStage
  deriving DecidableEq

def DiscoveryEvent.record : DiscoveryEvent → ClusterRecord
  | .register record => record
  | .update record => record
  | .deregister record => record

def DiscoveryEvent.wanted : DiscoveryEvent → Bool
  | .register record => record.ready
  | .update record => record.ready
  | .deregister _ => false

/-- What a drop does next: cancel the context, take the entry out of the
manager's map, or wait in `stopEntry` and for the hooks. -/
inductive DropStage where
  | cancel
  | deregister
  | stop
  deriving DecidableEq

/-- A drop after its first critical section.  `cancel` is the context that was
listed. -/
structure Drop where
  event : DiscoveryEvent
  cancel : Option Nat
  stage : DropStage

def Drop.name (drop : Drop) : String :=
  drop.event.record.name

/-- The wirer, its goroutines by context, and the manager's entries.  `last`
is the last event of each name whose Handle call has returned. -/
structure SpokeWirer where
  spokes : String → Option Nat
  cancelled : Finset Nat
  bootstraps : Nat → Option Bootstrap
  nextContext : Nat
  entries : Finset String
  dropping : Option Drop
  last : String → Option DiscoveryEvent

namespace SpokeWirer

open StepMachine

def initial : SpokeWirer where
  spokes := fun _ => none
  cancelled := ∅
  bootstraps := fun _ => none
  nextContext := 0
  entries := ∅
  dropping := none
  last := fun _ => none

/-- Start the bootstrap of a cluster unless one is listed. -/
def ensure (wirer : SpokeWirer) (event : DiscoveryEvent) : SpokeWirer :=
  let name := event.record.name
  let handled := { wirer with
    last := Function.update wirer.last name (some event) }
  match wirer.spokes name with
  | some _ => handled
  | none =>
    { handled with
      spokes := Function.update wirer.spokes name (some wirer.nextContext)
      bootstraps := Function.update wirer.bootstraps wirer.nextContext
        (some ⟨name, .loadAdminConfig⟩)
      nextContext := wirer.nextContext + 1 }

/-- The first part of a drop: the cluster is no longer listed. -/
def drop (wirer : SpokeWirer) (event : DiscoveryEvent) : SpokeWirer :=
  let name := event.record.name
  { wirer with
    spokes := Function.update wirer.spokes name none
    dropping := some ⟨event, wirer.spokes name, .cancel⟩ }

def handle (wirer : SpokeWirer) (event : DiscoveryEvent) : SpokeWirer :=
  if event.wanted then wirer.ensure event else wirer.drop event

/-- The goroutine of a context moves on, or ends. -/
def moveOn (wirer : SpokeWirer) (context : Nat) (next : Option Bootstrap) :
    SpokeWirer :=
  { wirer with
    bootstraps := Function.update wirer.bootstraps context next }

inductive Action where
  | handle (event : DiscoveryEvent)
  | cancel
  | deregister
  | stopped
  | complete (context : Nat)
  | fail (context : Nat)
  | register (context : Nat)
  | check (context : Nat)
  | retry (context : Nat)
  | giveUp (context : Nat)

/-- A network call may succeed or fail whether or not its context has been
cancelled. -/
def stepBootstrap (wirer : SpokeWirer) (context : Nat) (bootstrap : Bootstrap) :
    Action → Option SpokeWirer
  | .complete _ => bootstrap.stage.completed.map fun stage =>
    wirer.moveOn context (some { bootstrap with stage := stage })
  | .fail _ => bootstrap.stage.completed.map fun _ =>
    wirer.moveOn context (some { bootstrap with stage := .failed })
  | .register _ =>
    if bootstrap.stage = .register then
      some { wirer.moveOn context none with
        entries := insert bootstrap.name wirer.entries }
    else none
  | .check _ =>
    if bootstrap.stage = .failed then
      some (wirer.moveOn context (if context ∈ wirer.cancelled then none
          else some { bootstrap with stage := .backoff }))
    else none
  | .retry _ =>
    if bootstrap.stage = .backoff then
      some (wirer.moveOn context (some { bootstrap with stage := .loadAdminConfig }))
    else none
  | .giveUp _ =>
    if bootstrap.stage = .backoff ∧ context ∈ wirer.cancelled then
      some (wirer.moveOn context none)
    else none
  | _ => none

def handled (wirer : SpokeWirer) (drop : Drop) : SpokeWirer :=
  { wirer with
    dropping := none
    last := Function.update wirer.last drop.name (some drop.event) }

/-- `Deregister` takes the entry out of the map under the lock and then waits
for its lifecycle; without an entry it returns at once. -/
def stepDrop (wirer : SpokeWirer) (drop : Drop) : Action → Option SpokeWirer
  | .cancel =>
    if drop.stage = .cancel then
      some { wirer with
        cancelled := wirer.cancelled ∪ drop.cancel.toFinset
        dropping := some { drop with stage := .deregister } }
    else none
  | .deregister =>
    if drop.stage = .deregister then
      some (if drop.name ∈ wirer.entries then
        { wirer with
          entries := wirer.entries.erase drop.name
          dropping := some { drop with stage := .stop } }
      else wirer.handled drop)
    else none
  | .stopped => if drop.stage = .stop then some (wirer.handled drop) else none
  | _ => none

def Action.context : Action → Option Nat
  | .complete context => some context
  | .fail context => some context
  | .register context => some context
  | .check context => some context
  | .retry context => some context
  | .giveUp context => some context
  | _ => none

def step (wirer : SpokeWirer) (action : Action) : Option SpokeWirer :=
  match action with
  | .handle event =>
    if wirer.dropping.isSome then none else some (wirer.handle event)
  | action =>
    match action.context with
    | some context => (wirer.bootstraps context).bind fun bootstrap =>
      wirer.stepBootstrap context bootstrap action
    | none => wirer.dropping.bind fun drop => wirer.stepDrop drop action

/-! ## The invariant -/

/-- The last event handled for the name asked for a running spoke. -/
def Wanted (wirer : SpokeWirer) (name : String) : Prop :=
  ∃ event, wirer.last name = some event ∧ event.wanted = true

/-- The name has been unlisted and its entry not been deleted yet. -/
def Leaving (wirer : SpokeWirer) (name : String) : Prop :=
  ∃ drop ∈ wirer.dropping, drop.name = name ∧ drop.cancel.isSome = true ∧ drop.stage ≠ .stop

structure Sound (wirer : SpokeWirer) : Prop where
  listed : ∀ name, (wirer.spokes name).isSome = true → wirer.Wanted name
  leaving : ∀ name, wirer.Leaving name → wirer.Wanted name
  unlisted : ∀ drop, wirer.dropping = some drop →
    wirer.spokes drop.name = none
  tracked : ∀ context bootstrap,
    wirer.bootstraps context = some bootstrap →
      context ∉ wirer.cancelled →
        wirer.spokes bootstrap.name = some context ∨
          ∃ drop ∈ wirer.dropping,
            drop.name = bootstrap.name ∧ drop.cancel = some context ∧ drop.stage = .cancel
  registered : ∀ name ∈ wirer.entries,
    (wirer.spokes name).isSome = true ∨ wirer.Leaving name

variable {wirer next : SpokeWirer}

theorem sound_initial : initial.Sound where
  listed := fun _ h => nomatch h
  leaving := by
    rintro name ⟨drop, hdrop, _⟩
    cases hdrop
  unlisted := fun _ h => nomatch h
  tracked := fun _ _ h => nomatch h
  registered := fun _ h => nomatch h

theorem Sound.wanted (sound : wirer.Sound) {name : String} (hmem : name ∈ wirer.entries) :
    wirer.Wanted name := by
  rcases sound.registered name hmem with hlisted | hleaving
  · exact sound.listed name hlisted
  · exact sound.leaving name hleaving

/-! ## Handle calls -/

theorem wanted_update {event : DiscoveryEvent} {name : String}
    (hwanted : name ≠ event.record.name → wirer.Wanted name)
    (hevent : name = event.record.name → event.wanted = true) :
    ∃ other, Function.update wirer.last event.record.name (some event) name =
      some other ∧ other.wanted = true := by
  by_cases hname : name = event.record.name
  · subst name
    exact ⟨event, Function.update_self _ _ _, hevent rfl⟩
  · rw [Function.update_of_ne hname]
    exact hwanted hname

theorem Sound.ensure (sound : wirer.Sound) (hidle : wirer.dropping = none)
    {event : DiscoveryEvent} (hevent : event.wanted = true) :
    (wirer.ensure event).Sound := by
  have hnone : ∀ name, ¬ wirer.Leaving name := by
    rintro name ⟨drop, hdrop, _⟩
    rw [hidle] at hdrop
    cases hdrop
  have hregistered : ∀ name ∈ wirer.entries, (wirer.spokes name).isSome = true := by
    intro name hmem
    rcases sound.registered name hmem with hlisted | hleaving
    · exact hlisted
    · exact (hnone name hleaving).elim
  have htracked : ∀ context bootstrap, wirer.bootstraps context = some bootstrap →
        context ∉ wirer.cancelled → wirer.spokes bootstrap.name = some context := by
    intro context bootstrap hbootstrap hlive
    rcases sound.tracked context bootstrap hbootstrap hlive with
      hlisted | ⟨drop, hdrop, _⟩
    · exact hlisted
    · rw [hidle] at hdrop
      cases hdrop
  have hidle' : ∀ drop : Drop, wirer.dropping ≠ some drop := by
    intro drop hdrop
    rw [hidle] at hdrop
    cases hdrop
  unfold SpokeWirer.ensure
  dsimp only
  cases hspoke : wirer.spokes event.record.name with
  | some context =>
    refine ⟨fun name hname => ?_, fun name hname => (hnone name hname).elim,
      fun drop hdrop => (hidle' drop hdrop).elim,
      fun other bootstrap hother hlive =>
        .inl (htracked other bootstrap hother hlive),
      fun name hmem => .inl (hregistered name hmem)⟩
    exact wanted_update (fun _ => sound.listed name hname) fun _ => hevent
  | none =>
    refine ⟨fun name hname => ?_, fun name hname => (hnone name hname).elim,
      fun drop hdrop => (hidle' drop hdrop).elim, ?_, ?_⟩
    · dsimp only at hname
      refine wanted_update (fun hne => sound.listed name ?_) fun _ => hevent
      rwa [Function.update_of_ne hne] at hname
    · intro other bootstrap hother hlive
      left
      dsimp only at hother hlive ⊢
      by_cases hcontext : other = wirer.nextContext
      · subst other
        rw [Function.update_self, Option.some.injEq] at hother
        rw [← hother]
        exact Function.update_self _ _ _
      · rw [Function.update_of_ne hcontext] at hother
        have hlisted := htracked other bootstrap hother hlive
        -- The name that is being listed had no context before.
        have hname : bootstrap.name ≠ event.record.name := by
          intro hsame
          rw [hsame, hspoke] at hlisted
          cases hlisted
        rw [Function.update_of_ne hname]
        exact hlisted
    · intro name hmem
      left
      dsimp only
      by_cases hname : name = event.record.name
      · subst name
        rw [Function.update_self]
        rfl
      · rw [Function.update_of_ne hname]
        exact hregistered name hmem

theorem Sound.drop (sound : wirer.Sound) (hidle : wirer.dropping = none) (event : DiscoveryEvent) :
    (wirer.drop event).Sound := by
  have hlisted : ∀ name, ((wirer.drop event).spokes name).isSome = true →
      (wirer.spokes name).isSome = true := by
    intro name hname
    dsimp only [SpokeWirer.drop] at hname
    by_cases hsame : name = event.record.name
    · subst name
      rw [Function.update_self] at hname
      cases hname
    · rwa [Function.update_of_ne hsame] at hname
  have hkept : ∀ name, name ≠ event.record.name →
      (wirer.drop event).spokes name = wirer.spokes name :=
    fun name hne => Function.update_of_ne hne _ _
  refine ⟨fun name hname => sound.listed name (hlisted name hname), ?_, ?_, ?_, ?_⟩
  · rintro name ⟨_, ⟨⟩, hname, hsome, _⟩
    have hname : event.record.name = name := hname
    subst name
    exact sound.listed _ hsome
  · rintro _ ⟨⟩
    exact Function.update_self _ _ _
  · intro context bootstrap hbootstrap hlive
    rcases sound.tracked context bootstrap hbootstrap hlive with
      hspoke | ⟨drop, hdrop, _⟩
    · by_cases hname : bootstrap.name = event.record.name
      · refine .inr ⟨_, rfl, hname.symm, ?_, rfl⟩
        rw [hname] at hspoke
        exact hspoke
      · exact .inl ((hkept _ hname).trans hspoke)
    · rw [hidle] at hdrop
      cases hdrop
  · intro name hmem
    rcases sound.registered name hmem with hspoke | ⟨drop, hdrop, _⟩
    · by_cases hname : name = event.record.name
      · refine .inr ⟨_, rfl, hname.symm, ?_, by simp⟩
        rw [hname] at hspoke
        exact hspoke
      · rw [hkept name hname]
        exact .inl hspoke
    · rw [hidle] at hdrop
      cases hdrop

section

variable {action : Action} {context : Nat}

theorem Sound.cancel (sound : wirer.Sound) {drop : Drop} (hdrop : wirer.dropping = some drop)
    (hstage : drop.stage = .cancel) :
    Sound { wirer with
      cancelled := wirer.cancelled ∪ drop.cancel.toFinset
      dropping := some { drop with stage := .deregister } } := by
  refine ⟨sound.listed, ?_, ?_, ?_, ?_⟩
  · rintro name ⟨_, ⟨⟩, hname, hsome, _⟩
    exact sound.leaving name ⟨drop, hdrop, hname, hsome, by simp [hstage]⟩
  · rintro _ ⟨⟩
    exact sound.unlisted drop hdrop
  · intro context bootstrap hbootstrap hlive
    dsimp only at hbootstrap hlive
    rw [Finset.mem_union, not_or] at hlive
    rcases sound.tracked context bootstrap hbootstrap hlive.1 with
      hspoke | ⟨other, hother, _, hcancel, _⟩
    · exact .inl hspoke
    · obtain rfl := Option.some.inj (hdrop.symm.trans hother)
      rw [hcancel] at hlive
      simp at hlive
  · intro name hmem
    rcases sound.registered name hmem with hspoke | ⟨other, hother, hname, hsome, _⟩
    · exact .inl hspoke
    · obtain rfl := Option.some.inj (hdrop.symm.trans hother)
      exact .inr ⟨_, rfl, hname, hsome, by simp⟩

/-- Once the context is cancelled only listed goroutines go on uncancelled. -/
theorem Sound.tracked_of_cancelled (sound : wirer.Sound) {drop : Drop}
    (hdrop : wirer.dropping = some drop) (hstage : drop.stage ≠ .cancel) {bootstrap : Bootstrap}
    (hbootstrap : wirer.bootstraps context = some bootstrap) (hlive : context ∉ wirer.cancelled) :
    wirer.spokes bootstrap.name = some context := by
  rcases sound.tracked context bootstrap hbootstrap hlive with
    hspoke | ⟨other, hother, _, _, hpending⟩
  · exact hspoke
  · obtain rfl := Option.some.inj (hdrop.symm.trans hother)
    exact (hstage hpending).elim

theorem Sound.delete (sound : wirer.Sound) {drop : Drop} (hdrop : wirer.dropping = some drop)
    (hstage : drop.stage ≠ .cancel) :
    Sound { wirer with
      entries := wirer.entries.erase drop.name
      dropping := some { drop with stage := .stop } } := by
  refine ⟨sound.listed, ?_, ?_, ?_, ?_⟩
  · rintro name ⟨_, ⟨⟩, _, _, hstopped⟩
    exact (hstopped rfl).elim
  · rintro _ ⟨⟩
    exact sound.unlisted drop hdrop
  · intro context bootstrap hbootstrap hlive
    exact .inl (sound.tracked_of_cancelled hdrop hstage hbootstrap hlive)
  · intro name hmem
    obtain ⟨hne, hentry⟩ := Finset.mem_erase.mp hmem
    rcases sound.registered name hentry with hspoke | ⟨other, hother, hname, _⟩
    · exact .inl hspoke
    · obtain rfl := Option.some.inj (hdrop.symm.trans hother)
      exact (hne hname.symm).elim

/-- The call may return as soon as the cluster's entry is not in the map, or
stands there for a listed cluster. -/
theorem Sound.handled (sound : wirer.Sound) {drop : Drop} (hdrop : wirer.dropping = some drop)
    (hstage : drop.stage ≠ .cancel) (hleft : ∀ name ∈ wirer.entries, ¬ wirer.Leaving name) :
    (wirer.handled drop).Sound := by
  refine ⟨?_, ?_, fun _ h => (nomatch h), ?_, ?_⟩
  · intro name hname
    refine wanted_update (fun _ => sound.listed name hname) ?_
    intro hsame
    have hlisted : (wirer.spokes drop.name).isSome = true := by
      rw [← show name = drop.name from hsame]
      exact hname
    rw [sound.unlisted drop hdrop] at hlisted
    cases hlisted
  · rintro name ⟨_, hnone, _⟩
    cases hnone
  · intro context bootstrap hbootstrap hlive
    exact .inl (sound.tracked_of_cancelled hdrop hstage hbootstrap hlive)
  · intro name hmem
    rcases sound.registered name hmem with hspoke | hleaving
    · exact .inl hspoke
    · exact (hleft name hmem hleaving).elim

theorem Sound.stepDrop (sound : wirer.Sound) {drop : Drop} (hdrop : wirer.dropping = some drop)
    (hstep : wirer.stepDrop drop action = some next) : next.Sound := by
  cases action with
  | cancel =>
    simp only [SpokeWirer.stepDrop] at hstep
    split_ifs at hstep with hstage
    cases hstep
    exact sound.cancel hdrop hstage
  | deregister =>
    simp only [SpokeWirer.stepDrop] at hstep
    split_ifs at hstep with hstage hentry
    · cases hstep
      exact sound.delete hdrop (by simp [hstage])
    · cases hstep
      refine sound.handled hdrop (by simp [hstage]) ?_
      rintro name hmem ⟨other, hother, rfl, _⟩
      obtain rfl := Option.some.inj (hdrop.symm.trans hother)
      exact hentry hmem
  | stopped =>
    simp only [SpokeWirer.stepDrop] at hstep
    split_ifs at hstep with hstage
    cases hstep
    refine sound.handled hdrop (by simp [hstage]) ?_
    rintro name _ ⟨other, hother, _, _, hpending⟩
    obtain rfl := Option.some.inj (hdrop.symm.trans hother)
    exact hpending hstage
  | _ => simp [SpokeWirer.stepDrop] at hstep

/-! ## Goroutines -/

theorem Sound.moveOn (sound : wirer.Sound) {bootstrap : Bootstrap}
    (hbootstrap : wirer.bootstraps context = some bootstrap) {moved : Option Bootstrap}
    (hmoved : ∀ other, moved = some other → other.name = bootstrap.name) :
    (wirer.moveOn context moved).Sound := by
  refine ⟨sound.listed, sound.leaving, sound.unlisted, ?_, sound.registered⟩
  intro other new hnew hlive
  by_cases hcontext : other = context
  · subst other
    have hsame : moved = some new := by
      dsimp only [SpokeWirer.moveOn] at hnew
      rwa [Function.update_self] at hnew
    rw [hmoved new hsame]
    exact sound.tracked context bootstrap hbootstrap hlive
  · have hold : wirer.bootstraps other = some new := by
      dsimp only [SpokeWirer.moveOn] at hnew
      rwa [Function.update_of_ne hcontext] at hnew
    exact sound.tracked other new hold hlive

/-- A goroutine registers only while its cluster is listed or the Handle call
that unlisted it has not deleted the entry yet. -/
def Careful (wirer : SpokeWirer) : Action → Prop
  | .register context => ∀ bootstrap ∈ wirer.bootstraps context,
      (wirer.spokes bootstrap.name).isSome = true ∨ wirer.Leaving bootstrap.name
  | _ => True

theorem Sound.stepBootstrap (sound : wirer.Sound) {bootstrap : Bootstrap}
    (hcontext : action.context = some context)
    (hbootstrap : wirer.bootstraps context = some bootstrap) (careful : wirer.Careful action)
    (hstep : wirer.stepBootstrap context bootstrap action = some next) :
    next.Sound := by
  cases action with
  | complete other =>
    obtain ⟨stage, _, rfl⟩ := Option.map_eq_some_iff.mp hstep
    refine sound.moveOn hbootstrap ?_
    rintro moved ⟨⟩
    rfl
  | fail other =>
    obtain ⟨stage, _, rfl⟩ := Option.map_eq_some_iff.mp hstep
    refine sound.moveOn hbootstrap ?_
    rintro moved ⟨⟩
    rfl
  | register other =>
    obtain rfl : other = context := Option.some.inj hcontext
    simp only [SpokeWirer.stepBootstrap] at hstep
    split_ifs at hstep
    cases hstep
    have hended : (wirer.moveOn other none).Sound :=
      sound.moveOn hbootstrap fun _ h => nomatch h
    refine ⟨hended.listed, hended.leaving, hended.unlisted, hended.tracked, ?_⟩
    intro name hmem
    rcases Finset.mem_insert.mp hmem with rfl | hentry
    · exact careful bootstrap hbootstrap
    · exact sound.registered name hentry
  | check other =>
    simp only [SpokeWirer.stepBootstrap] at hstep
    split_ifs at hstep
    · cases hstep
      exact sound.moveOn hbootstrap fun _ h => nomatch h
    · cases hstep
      refine sound.moveOn hbootstrap ?_
      rintro moved ⟨⟩
      rfl
  | retry other =>
    simp only [SpokeWirer.stepBootstrap] at hstep
    split_ifs at hstep
    cases hstep
    refine sound.moveOn hbootstrap ?_
    rintro moved ⟨⟩
    rfl
  | giveUp other =>
    simp only [SpokeWirer.stepBootstrap] at hstep
    split_ifs at hstep
    cases hstep
    exact sound.moveOn hbootstrap fun _ h => nomatch h
  | _ => cases hcontext

theorem Sound.step (sound : wirer.Sound) (careful : wirer.Careful action)
    (hstep : wirer.step action = some next) : next.Sound := by
  unfold SpokeWirer.step at hstep
  split at hstep
  case h_1 event =>
      split_ifs at hstep with hidle
      have hnone : wirer.dropping = none := by simpa using hidle
      cases hstep
      unfold SpokeWirer.handle
      split_ifs with hevent
      · exact sound.ensure hnone hevent
      · exact sound.drop hnone event
  case h_2 =>
      split at hstep
      case h_1 context hcontext =>
          obtain ⟨bootstrap, hbootstrap, hnext⟩ :=
            Option.bind_eq_some_iff.mp hstep
          exact sound.stepBootstrap hcontext hbootstrap careful hnext
      case h_2 =>
          obtain ⟨drop, hdrop, hnext⟩ := Option.bind_eq_some_iff.mp hstep
          exact sound.stepDrop hdrop hnext

/-- As long as no goroutine registers a cluster that was dropped and is not
listed again, whatever is registered was last asked for. -/
theorem registered_spoke_wanted {schedule : List Action}
    (careful : Along step Careful initial schedule)
    (hrun : run step initial schedule = some wirer)
    {name : String}
    (hmem : name ∈ wirer.entries) :
    ∃ event, wirer.last name = some event ∧ event.wanted = true :=
  (run_invariant Sound.step sound_initial careful hrun).wanted hmem

end

instance (wirer : SpokeWirer) (action : Action) : Decidable (wirer.Careful action) := by
  unfold Careful Leaving
  split <;> infer_instance

namespace Sample

def spoke (name : String) : ClusterRecord where
  name := name
  labels := ∅
  ready := true
  credentialRef := ⟨"fleet", name ++ "-kubeconfig"⟩

def bootstrapped : List Action :=
  [.handle (.register (spoke "east")), .complete 0, .complete 0, .complete 0]

/-- West is registered; east registers while its drop is under way. -/
def overtaken : List Action :=
  bootstrapped ++
    [.handle (.register (spoke "west")), .complete 1, .complete 1, .complete 1, .register 1,
      .handle (.deregister (spoke "east")), .cancel, .register 0, .deregister, .stopped]

def late : List Action :=
  bootstrapped ++ [.handle (.deregister (spoke "east")), .cancel, .deregister, .register 0]

end Sample

theorem registered_spoke_wanted_sample :
    ∃ wirer,
      run step initial Sample.overtaken = some wirer ∧
      wirer.entries = {"west"} ∧
      ∃ event, wirer.last "west" = some event ∧ event.wanted = true := by
  have careful : Along step Careful initial Sample.overtaken := by decide
  have hrun : ∃ wirer, run step initial Sample.overtaken = some wirer ∧
      wirer.entries = {"west"} := ⟨_, rfl, by decide⟩
  obtain ⟨wirer, hrun, hentries⟩ := hrun
  have hmem : "west" ∈ wirer.entries := by simp [hentries]
  exact ⟨wirer, hrun, hentries, registered_spoke_wanted careful hrun hmem⟩

/-- A cancelled goroutine registers a cluster whose deregistration has been
handled, and nothing is in flight that would take it back. -/
theorem dropped_spoke_registered :
    ∃ wirer,
      run step initial Sample.late = some wirer ∧
      (∀ context, wirer.bootstraps context = none) ∧
      wirer.dropping.isNone = true ∧
      "east" ∈ wirer.entries ∧
      wirer.last "east" = some (.deregister (Sample.spoke "east")) := by
  refine ⟨_, rfl, ?_, rfl, by decide, rfl⟩
  intro context
  cases context with
  | zero => rfl
  | succ context => rfl

end SpokeWirer

end K8sR8r
