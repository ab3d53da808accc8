import K8sR8r.FiniteMaps
import K8sR8r.StepMachine

/-!
# The runtime manager

`internal/cluster/manager.go`.  Register and Deregister change the manager's
map in one critical section, launch a lifecycle or stop one in others, and may
run beside each other and beside Start; every lifecycle is a goroutine of its
own.  A step is one critical section, one launch, one wait, or one leg of a
lifecycle.
-/

namespace K8sR8r

namespace ClusterManager

/-- Where the lifecycle of an entry stands.  It is launched exactly when its
`cancel` is set. -/
inductive LifecyclePhase where
  | unlaunched
  | probing
  | starting
  | announcing
  | waiting
  | exited
  deriving DecidableEq

structure Entry where
  name : String
  phase : LifecyclePhase
  cancelled : Bool
  started : Bool
  runtimeUp : Bool
  deriving DecidableEq

def Entry.fresh (name : String) : Entry :=
  ⟨name, .unlaunched, false, false, false⟩

/-- The points at which `stopEntry` can be interrupted. -/
inductive StopStage where
  | cancel
  | waitDone
  | waitRuntime
  deriving DecidableEq

/-- A call of Register or Deregister, by what it does next. -/
inductive CallState where
  | idle
  | registerStop (name : String) (old : Nat) (stage : StopStage)
  | registerStore (name : String)
  | registerLaunch (name : String) (entry : Nat)
  | deregisterStop (name : String) (old : Nat) (stage : StopStage)
  | deregisterHooks (name : String)
  deriving DecidableEq

def CallState.about : CallState → Option String
  | .idle => none
  | .registerStop name _ _ => some name
  | .registerStore name => some name
  | .registerLaunch name _ => some name
  | .deregisterStop name _ _ => some name
  | .deregisterHooks name => some name

def CallState.registers : CallState → Option String
  | .registerStop name _ _ => some name
  | .registerStore name => some name
  | .registerLaunch name _ => some name
  | _ => none

inductive HookCall where
  | ready (name : String)
  | gone (name : String)
  deriving DecidableEq

/-- The manager.  `pending` are the entries that Start has still to launch,
`log` the hook calls so far, the latest first, and `dropped` the names with a
Deregister that has returned and no Register since. -/
structure Manager where
  running : Bool
  rootDone : Bool
  entries : Finmap fun _ : String => Nat
  entry : Nat → Entry
  next : Nat
  pending : Finset Nat
  calls : Nat → CallState
  log : List HookCall
  dropped : String → Bool

namespace Manager

def initial : Manager where
  running := false
  rootDone := false
  entries := ∅
  entry := fun _ => .fresh ""
  next := 0
  pending := ∅
  calls := fun _ => .idle
  log := []
  dropped := fun _ => false

def setEntry (m : Manager) (id : Nat) (entry : Entry) : Manager :=
  { m with entry := Function.update m.entry id entry }

def setCall (m : Manager) (thread : Nat) (call : CallState) : Manager :=
  { m with calls := Function.update m.calls thread call }

/-! ## Launching, storing, stopping -/

/-- `launch`: the cancel function is set and the goroutine started. -/
def launch (m : Manager) (id : Nat) : Manager :=
  m.setEntry id { m.entry id with phase := .probing }

/-- The last critical section of Register: a new entry takes the name. -/
def store (m : Manager) (thread : Nat) (name : String) : Manager :=
  { m with
    entries := m.entries.insert name m.next
    entry := Function.update m.entry m.next (.fresh name)
    next := m.next + 1
    calls := Function.update m.calls thread
      (if m.running then .registerLaunch name m.next else .idle) }

/-- `stopEntry`, from one stage to the next; a wait that is not over yet blocks
the step. -/
def stopEntry (m : Manager) (old : Nat) : StopStage → Option (Manager × Option StopStage)
  | .cancel =>
    if (m.entry old).phase = .unlaunched then some (m, some .waitDone)
    else some (m.setEntry old { m.entry old with cancelled := true }, some .waitDone)
  | .waitDone =>
    if (m.entry old).phase = .unlaunched ∨ (m.entry old).phase = .exited then
      some (m, some .waitRuntime)
    else none
  | .waitRuntime =>
    if (m.entry old).runtimeUp then none else some (m, none)

/-! ## Register and Deregister -/

def register (m : Manager) (thread : Nat) (name : String) : Manager :=
  let m := { m with dropped := Function.update m.dropped name false }
  match m.entries.lookup name with
  | some old => m.setCall thread (.registerStop name old .cancel)
  | none => m.store thread name

/-- The critical section of Deregister.  It returns at once when there is no
entry. -/
def deregister (m : Manager) (thread : Nat) (name : String) : Manager :=
  match m.entries.lookup name with
  | some old =>
    { m.setCall thread (.deregisterStop name old .cancel) with
      entries := m.entries.erase name }
  | none => { m with dropped := Function.update m.dropped name true }

def finishDeregister (m : Manager) (thread : Nat) (name : String) : Manager :=
  { m.setCall thread .idle with
    log := .gone name :: m.log
    dropped := Function.update m.dropped name true }

def advance (m : Manager) (thread : Nat) : Option Manager :=
  match m.calls thread with
  | .idle => none
  | .registerStop name old stage =>
    (m.stopEntry old stage).map fun result =>
      result.1.setCall thread (match result.2 with
        | some stage => .registerStop name old stage
        | none => .registerStore name)
  | .registerStore name => some (m.store thread name)
  | .registerLaunch _ id => some ((m.launch id).setCall thread .idle)
  | .deregisterStop name old stage =>
    (m.stopEntry old stage).map fun result =>
      result.1.setCall thread (match result.2 with
        | some stage => .deregisterStop name old stage
        | none => .deregisterHooks name)
  | .deregisterHooks name => some (m.finishDeregister thread name)

/-! ## Start and the lifecycles -/

def start (m : Manager) : Manager :=
  { m with
    running := true
    pending := (m.entries.sortedKeys.filterMap fun name => m.entries.lookup name).toFinset }

end Manager

/-- One leg of a lifecycle, or the end of its runtime. -/
inductive LifecycleStep where
  | probe (reached : Bool)
  | build (succeeded : Bool)
  | announce
  | tick
  | quit
  | runtimeEnd (failed : Bool)
  deriving DecidableEq

/-- `lifecycle`, `startRuntime` and the runtime's goroutine. -/
def Entry.advance (entry : Entry) (contextDone : Bool) : LifecycleStep → Option Entry
  | .probe reached =>
    if entry.phase = .probing then
      some { entry with
        phase :=
          if contextDone then .exited
          else if reached && !entry.started then .starting
          else .waiting }
    else none
  | .build succeeded =>
    if entry.phase = .starting then
      some (if succeeded then
        { entry with phase := .announcing, started := true, runtimeUp := true }
      else { entry with phase := .waiting })
    else none
  | .announce =>
    if entry.phase = .announcing then some { entry with phase := .waiting }
    else none
  | .tick =>
    if entry.phase = .waiting then some { entry with phase := .probing }
    else none
  | .quit =>
    if entry.phase = .waiting ∧ contextDone = true then
      some { entry with phase := .exited }
    else none
  | .runtimeEnd failed =>
    if entry.runtimeUp then
      some { entry with
        runtimeUp := false
        started := entry.started && !(failed && !contextDone) }
    else none

inductive Action where
  | start
  | startLaunch (id : Nat)
  | shutdown
  | register (thread : Nat) (name : String)
  | deregister (thread : Nat) (name : String)
  | advance (thread : Nat)
  | lifecycle (id : Nat) (step : LifecycleStep)
  deriving DecidableEq

namespace Manager

def contextDone (m : Manager) (id : Nat) : Bool :=
  (m.entry id).cancelled || m.rootDone

def stepLifecycle (m : Manager) (id : Nat) (step : LifecycleStep) : Option Manager :=
  ((m.entry id).advance (m.contextDone id) step).map fun moved =>
    { m.setEntry id moved with
      log := if step = .announce then .ready moved.name :: m.log else m.log }

/-- Start is called once. -/
def step (m : Manager) : Action → Option Manager
  | .start => if m.running then none else some m.start
  | .startLaunch id =>
    if id ∈ m.pending then
      some { m.launch id with pending := m.pending.erase id }
    else none
  | .shutdown => if m.running then some { m with rootDone := true } else none
  | .register thread name =>
    if m.calls thread = .idle then some (m.register thread name) else none
  | .deregister thread name =>
    if m.calls thread = .idle then some (m.deregister thread name) else none
  | .advance thread => m.advance thread
  | .lifecycle id step => m.stepLifecycle id step

/-! ## The properties -/

/-- The lifecycle has been launched and not cancelled. -/
def Live (m : Manager) (id : Nat) : Prop :=
  (m.entry id).phase ≠ .unlaunched ∧ m.contextDone id = false
deriving Decidable

def Stored (m : Manager) (id : Nat) : Prop :=
  m.entries.lookup (m.entry id).name = some id

def Busy (m : Manager) (name : String) : Prop :=
  ∃ thread, (m.calls thread).about = some name

def Registering (m : Manager) (name : String) : Prop :=
  ∃ thread, (m.calls thread).registers = some name

/-- A Deregister has taken the entry out of the map and is about to cancel
it. -/
def BeingDropped (m : Manager) (id : Nat) : Prop :=
  ∃ thread, m.calls thread = .deregisterStop (m.entry id).name id .cancel

end Manager

/-- After the last gone hook of the cluster there is no ready hook. -/
def QuietSinceGone (name : String) (log : List HookCall) : Prop :=
  ∀ newer older, log = newer ++ .gone name :: older → .gone name ∉ newer → .ready name ∉ newer

/-! ## Orderly schedules -/

namespace Manager

/-- Start still has to launch an entry of the cluster. -/
def Awaited (m : Manager) (name : String) : Prop :=
  ∃ id ∈ m.pending, (m.entry id).name = name

/-- Calls about one cluster come one after the other, and none comes between
the two halves of Start. -/
def Orderly (m : Manager) : Action → Prop
  | .start => ∀ thread, m.calls thread = .idle
  | .register _ name => ¬ m.Busy name ∧ ¬ m.Awaited name
  | .deregister _ name => ¬ m.Busy name ∧ ¬ m.Awaited name
  | _ => True

end Manager

/-- The lifecycle was never launched, or it was cancelled and has ended. -/
def Entry.Retired (entry : Entry) : Prop :=
  entry.phase = .unlaunched ∨ entry.cancelled = true ∧ entry.phase = .exited

/-- What has been achieved when `stopEntry` reaches a stage. -/
def Entry.Stopping (entry : Entry) : StopStage → Prop
  | .cancel => True
  | .waitDone => entry.phase = .unlaunched ∨ entry.cancelled = true
  | .waitRuntime => entry.Retired

namespace Manager

/-- What a running call relies on. -/
def CallSound (m : Manager) : CallState → Prop
  | .idle => True
  | .registerStop name old stage =>
    m.entries.lookup name = some old ∧ (m.entry old).Stopping stage
  | .registerStore name => ∀ old, m.entries.lookup name = some old →
      (m.entry old).Retired
  | .registerLaunch name id => m.entries.lookup name = some id
  | .deregisterStop name old stage =>
    m.entries.lookup name = none ∧ old < m.next ∧
      (m.entry old).name = name ∧ (m.entry old).Stopping stage
  | .deregisterHooks name => m.entries.lookup name = none

/-- A Deregister of the cluster is stopping the entry. -/
def HeldByDrop (m : Manager) (name : String) (id : Nat) : Prop :=
  ∃ thread stage, m.calls thread = .deregisterStop name id stage

/-- The invariant of one cluster: a lifecycle of it that is not retired is in
the map or held by the one call about the cluster. -/
structure SoundAt (m : Manager) (name : String) : Prop where
  stored : ∀ id, m.entries.lookup name = some id →
    id < m.next ∧ (m.entry id).name = name
  calls : ∀ thread, (m.calls thread).about = some name →
    m.CallSound (m.calls thread)
  alone : ∀ first second, (m.calls first).about = some name →
    (m.calls second).about = some name → first = second
  pending : ∀ id ∈ m.pending, (m.entry id).name = name →
    m.entries.lookup name = some id ∧ ¬ m.Busy name
  retired : ∀ id, (m.entry id).name = name →
    m.entries.lookup name = some id ∨ m.HeldByDrop name id ∨
      (m.entry id).Retired
  dropped : m.dropped name = true →
    m.entries.lookup name = none ∧ ¬ m.Busy name
  log : m.entries.lookup name = none → ¬ m.Busy name →
    QuietSinceGone name m.log

def Sound (m : Manager) : Prop :=
  ∀ name, m.SoundAt name

variable {m next : Manager} {thread id : Nat} {name : String}

theorem sound_initial : initial.Sound := fun name =>
  { stored := fun id h => by simp [initial] at h
    calls := fun _ h => nomatch h
    alone := fun _ _ h => nomatch h
    pending := fun _ h => by simp [initial] at h
    retired := fun _ _ => .inr (.inr (.inl rfl))
    dropped := fun h => nomatch h
    log := fun _ _ newer older h => by simp [initial] at h }

/-! ## Steps about another cluster -/

structure FrameAt (m next : Manager) (name : String) : Prop where
  allocated : m.next ≤ next.next
  lookup : next.entries.lookup name = m.entries.lookup name
  calls : ∀ thread call, call.about = some name →
    (next.calls thread = call ↔ m.calls thread = call)
  kept : ∀ id < m.next, (m.entry id).name = name →
    next.entry id = m.entry id
  named : ∀ id, (next.entry id).name = name → next.entry id = m.entry id
  pending : ∀ id ∈ next.pending, (next.entry id).name = name →
    id ∈ m.pending
  dropped : next.dropped name = true → m.dropped name = true
  log : QuietSinceGone name m.log → QuietSinceGone name next.log

namespace FrameAt

theorem about_iff (frame : FrameAt m next name) (thread : Nat) :
    (next.calls thread).about = some name ↔ (m.calls thread).about = some name := by
  constructor
  · intro habout
    rwa [(frame.calls thread _ habout).mp rfl]
  · intro habout
    rwa [(frame.calls thread _ habout).mpr rfl]

theorem busy_iff (frame : FrameAt m next name) : next.Busy name ↔ m.Busy name :=
  exists_congr frame.about_iff

theorem callSound (frame : FrameAt m next name) (sound : m.SoundAt name) {call : CallState}
    (habout : call.about = some name) (hcall : m.CallSound call) :
    next.CallSound call := by
  have hentry : ∀ id, m.entries.lookup name = some id → next.entry id = m.entry id := fun id hid =>
    frame.kept id (sound.stored id hid).1 (sound.stored id hid).2
  cases call with
  | idle => cases habout
  | registerStop other old stage =>
    obtain rfl : other = name := Option.some.inj habout
    refine ⟨frame.lookup.trans hcall.1, ?_⟩
    rw [hentry old hcall.1]
    exact hcall.2
  | registerStore other =>
    obtain rfl : other = name := Option.some.inj habout
    intro old hold
    rw [frame.lookup] at hold
    rw [hentry old hold]
    exact hcall old hold
  | registerLaunch other id =>
    obtain rfl : other = name := Option.some.inj habout
    exact frame.lookup.trans hcall
  | deregisterStop other old stage =>
    obtain rfl : other = name := Option.some.inj habout
    obtain ⟨hnone, hlt, hname, hstop⟩ := hcall
    have hold := frame.kept old hlt hname
    refine ⟨frame.lookup.trans hnone, hlt.trans_le frame.allocated, ?_, ?_⟩
    · rw [hold]
      exact hname
    · rw [hold]
      exact hstop
  | deregisterHooks other =>
    obtain rfl : other = name := Option.some.inj habout
    exact frame.lookup.trans hcall

theorem sound (frame : FrameAt m next name) (sound : m.SoundAt name) : next.SoundAt name where
  stored := by
    intro id hid
    rw [frame.lookup] at hid
    obtain ⟨hlt, hname⟩ := sound.stored id hid
    rw [frame.kept id hlt hname]
    exact ⟨hlt.trans_le frame.allocated, hname⟩
  calls := by
    intro thread habout
    have hsame := (frame.calls thread _ habout).mp rfl
    have hbefore := (frame.about_iff thread).mp habout
    rw [← hsame]
    exact frame.callSound sound hbefore (sound.calls thread hbefore)
  alone := by
    intro first second hfirst hsecond
    exact sound.alone first second ((frame.about_iff first).mp hfirst)
      ((frame.about_iff second).mp hsecond)
  pending := by
    intro id hid hname
    have hbefore : (m.entry id).name = name := by
      rw [← frame.named id hname]
      exact hname
    rw [frame.lookup, frame.busy_iff]
    exact sound.pending id (frame.pending id hid hname) hbefore
  retired := by
    intro id hname
    have hsame := frame.named id hname
    rw [hsame] at hname ⊢
    rw [frame.lookup]
    rcases sound.retired id hname with hstored | ⟨holder, stage, hdrop⟩ | hretired
    · exact .inl hstored
    · exact .inr (.inl ⟨holder, stage, (frame.calls holder _ rfl).mpr hdrop⟩)
    · exact .inr (.inr hretired)
  dropped := by
    intro hdropped
    rw [frame.lookup, frame.busy_iff]
    exact sound.dropped (frame.dropped hdropped)
  log := by
    intro hnone hidle
    rw [frame.lookup] at hnone
    rw [frame.busy_iff] at hidle
    exact frame.log (sound.log hnone hidle)

end FrameAt

theorem Sound.of_frame (sound : m.Sound) (name : String) (hat : next.SoundAt name)
    (hframe : ∀ other, other ≠ name → FrameAt m next other) :
    next.Sound := by
  intro other
  by_cases hother : other = name
  · rw [hother]
    exact hat
  · exact (hframe other hother).sound (sound other)

theorem quietSinceGone_cons {event : HookCall} {log : List HookCall}
    (hevent : event ≠ .ready name) (quiet : QuietSinceGone name log) :
    QuietSinceGone name (event :: log) := by
  intro newer older heq hgone
  cases newer with
  | nil => simp
  | cons head rest =>
    rw [List.cons_append, List.cons.injEq] at heq
    obtain ⟨rfl, hlog⟩ := heq
    rw [List.mem_cons, not_or] at hgone ⊢
    exact ⟨hevent.symm, quiet rest older hlog hgone.2⟩

/-! ## Steps of one entry -/

/-- The entry moves on, and what has been achieved in stopping it stays
achieved. -/
structure Continues (before after : Entry) : Prop where
  name : after.name = before.name
  retired : before.Retired → after.Retired
  stopping : ∀ stage, before.Stopping stage → after.Stopping stage

theorem continues_advance {entry moved : Entry} {contextDone : Bool} {step : LifecycleStep}
    (hstep : entry.advance contextDone step = some moved) :
    Continues entry moved := by
  -- No leg leaves `unlaunched` or `exited`, and none takes a cancel back.
  have hphase : (entry.phase = .unlaunched → moved.phase = .unlaunched) ∧
      (entry.phase = .exited → moved.phase = .exited) ∧
      moved.cancelled = entry.cancelled ∧ moved.name = entry.name := by
    cases step with
    | build succeeded =>
      simp only [Entry.advance, Option.ite_none_right_eq_some, Option.some.injEq] at hstep
      obtain ⟨hphase, rfl⟩ := hstep
      cases succeeded <;> simp [hphase]
    | quit =>
      simp only [Entry.advance, Option.ite_none_right_eq_some, Option.some.injEq] at hstep
      obtain ⟨⟨hphase, _⟩, rfl⟩ := hstep
      simp [hphase]
    | runtimeEnd failed =>
      simp only [Entry.advance, Option.ite_none_right_eq_some, Option.some.injEq] at hstep
      obtain ⟨_, rfl⟩ := hstep
      simp
    | _ =>
      simp only [Entry.advance, Option.ite_none_right_eq_some, Option.some.injEq] at hstep
      obtain ⟨hphase, rfl⟩ := hstep
      simp [hphase]
  obtain ⟨hunlaunched, hexited, hcancelled, hname⟩ := hphase
  have hretired : entry.Retired → moved.Retired := by
    rintro (hphase | ⟨hcancel, hphase⟩)
    · exact .inl (hunlaunched hphase)
    · exact .inr ⟨hcancelled.trans hcancel, hexited hphase⟩
  refine ⟨hname, hretired, fun stage => ?_⟩
  cases stage with
  | cancel => exact fun _ => trivial
  | waitDone =>
    rintro (hphase | hcancel)
    · exact .inl (hunlaunched hphase)
    · exact .inr (hcancelled.trans hcancel)
  | waitRuntime => exact hretired

theorem continues_cancel (entry : Entry) : Continues entry { entry with cancelled := true } := by
  have hretired : entry.Retired → ({ entry with cancelled := true } : Entry).Retired := by
    rintro (hphase | ⟨_, hphase⟩)
    · exact .inl hphase
    · exact .inr ⟨rfl, hphase⟩
  refine ⟨rfl, hretired, fun stage => ?_⟩
  cases stage with
  | cancel => exact fun _ => trivial
  | waitDone => exact fun _ => .inr rfl
  | waitRuntime => exact hretired

section SetEntry

variable {entry : Entry}

theorem entry_setEntry_of_ne {other : Nat} (hne : other ≠ id) :
    (m.setEntry id entry).entry other = m.entry other :=
  Function.update_of_ne hne _ _

@[simp] theorem entry_setEntry_self : (m.setEntry id entry).entry id = entry :=
  Function.update_self _ _ _

theorem frameAt_setEntry (hname : entry.name = (m.entry id).name) (hne : name ≠ (m.entry id).name) :
    FrameAt m (m.setEntry id entry) name where
  allocated := Nat.le_refl _
  lookup := rfl
  calls := fun _ _ _ => Iff.rfl
  kept := by
    rintro other _ rfl
    exact entry_setEntry_of_ne fun h => hne (by rw [h])
  named := by
    intro other hother
    by_cases heq : other = id
    · subst heq
      rw [entry_setEntry_self, hname] at hother
      exact (hne hother.symm).elim
    · exact entry_setEntry_of_ne heq
  pending := fun _ h _ => h
  dropped := fun h => h
  log := fun h => h

theorem SoundAt.setEntry (sound : m.SoundAt name) (continues : Continues (m.entry id) entry) :
    (m.setEntry id entry).SoundAt name := by
  have hcontinues : ∀ other, Continues (m.entry other) ((m.setEntry id entry).entry other) := by
    intro other
    by_cases hother : other = id
    · subst hother
      rw [entry_setEntry_self]
      exact continues
    · rw [entry_setEntry_of_ne hother]
      exact ⟨rfl, fun h => h, fun _ h => h⟩
  refine ⟨?_, ?_, sound.alone, ?_, ?_, sound.dropped, sound.log⟩
  · intro other hother
    rw [(hcontinues other).name]
    exact sound.stored other hother
  · intro thread habout
    have hcall := sound.calls thread habout
    change CallSound _ (m.calls thread)
    cases hstate : m.calls thread with
    | idle => trivial
    | registerStop other old stage =>
      rw [hstate] at hcall
      exact ⟨hcall.1, (hcontinues old).stopping stage hcall.2⟩
    | registerStore other =>
      rw [hstate] at hcall
      exact fun old hold => (hcontinues old).retired (hcall old hold)
    | registerLaunch other launched =>
      rw [hstate] at hcall
      exact hcall
    | deregisterStop other old stage =>
      rw [hstate] at hcall
      obtain ⟨hnone, hlt, hname, hstop⟩ := hcall
      exact ⟨hnone, hlt, (hcontinues old).name.trans hname, (hcontinues old).stopping stage hstop⟩
    | deregisterHooks other =>
      rw [hstate] at hcall
      exact hcall
  · intro other hother hname
    rw [(hcontinues other).name] at hname
    exact sound.pending other hother hname
  · intro other hname
    rw [(hcontinues other).name] at hname
    rcases sound.retired other hname with hstored | hheld | hretired
    · exact .inl hstored
    · exact .inr (.inl hheld)
    · exact .inr (.inr ((hcontinues other).retired hretired))

theorem Sound.setEntry (sound : m.Sound) (continues : Continues (m.entry id) entry) :
    (m.setEntry id entry).Sound :=
  fun name => (sound name).setEntry continues

end SetEntry

theorem Sound.stepLifecycle (sound : m.Sound) {step : LifecycleStep}
    (hstep : m.stepLifecycle id step = some next) : next.Sound := by
  obtain ⟨moved, hmoved, rfl⟩ := Option.map_eq_some_iff.mp hstep
  have hcontinues := continues_advance hmoved
  have htouched : (m.setEntry id moved).Sound := sound.setEntry hcontinues
  by_cases hannounce : step = .announce
  · subst hannounce
    rw [if_pos rfl]
    intro name
    have hat := htouched name
    refine ⟨hat.stored, hat.calls, hat.alone, hat.pending, hat.retired,
      hat.dropped, fun hnone hidle => ?_⟩
    refine quietSinceGone_cons ?_ (hat.log hnone hidle)
    -- A lifecycle that announces itself is in the map or held by a call.
    rintro ⟨⟩
    have hphase : (m.entry id).phase = .announcing := by
      simp only [Entry.advance, Option.ite_none_right_eq_some] at hmoved
      exact hmoved.1
    rcases (sound moved.name).retired id hcontinues.name.symm with
      hstored | ⟨holder, stage, hdrop⟩ | hretired
    · change m.entries.lookup moved.name = none at hnone
      rw [hstored] at hnone
      cases hnone
    · refine hidle ⟨holder, ?_⟩
      change (m.calls holder).about = _
      rw [hdrop]
      rfl
    · rcases hretired with hretired | ⟨_, hretired⟩
      · rw [hphase] at hretired
        cases hretired
      · rw [hphase] at hretired
        cases hretired
  · rw [if_neg hannounce]
    exact htouched

/-! ## Steps of one call -/

section SetCall

variable {call : CallState}

theorem calls_setCall_of_ne {other : Nat} (hne : other ≠ thread) :
    (m.setCall thread call).calls other = m.calls other :=
  Function.update_of_ne hne _ _

@[simp] theorem calls_setCall_self : (m.setCall thread call).calls thread = call :=
  Function.update_self _ _ _

theorem calls_iff_of_about {calls : Nat → CallState} {other : String} (hne : other ≠ name)
    (hbefore : (calls thread).about = none ∨ (calls thread).about = some name)
    (hafter : call.about = none ∨ call.about = some name) (holder : Nat) {asked : CallState}
    (hasked : asked.about = some other) :
    Function.update calls thread call holder = asked ↔ calls holder = asked := by
  have hdiffers : ∀ state : CallState,
      state.about = none ∨ state.about = some name → state ≠ asked := by
    rintro state (hnone | hname) rfl
    · rw [hnone] at hasked
      cases hasked
    · rw [hname, Option.some.injEq] at hasked
      exact hne hasked.symm
  by_cases hholder : holder = thread
  · subst hholder
    rw [Function.update_self]
    exact iff_of_false (hdiffers _ hafter) (hdiffers _ hbefore)
  · rw [Function.update_of_ne hholder]

theorem frameAt_setCall {other : String} (hne : other ≠ name)
    (hbefore : (m.calls thread).about = none ∨ (m.calls thread).about = some name)
    (hafter : call.about = none ∨ call.about = some name) :
    FrameAt m (m.setCall thread call) other where
  allocated := Nat.le_refl _
  lookup := rfl
  calls := fun holder _ hasked =>
    calls_iff_of_about hne hbefore hafter holder hasked
  kept := fun _ _ _ => rfl
  named := fun _ _ => rfl
  pending := fun _ h _ => h
  dropped := fun h => h
  log := fun h => h

theorem Sound.setCall (sound : m.Sound) (hbefore : (m.calls thread).about = some name)
    (hafter : call.about = some name) (hcall : m.CallSound call)
    (hheld : ∀ old stage, m.calls thread = .deregisterStop name old stage →
      (∃ later, call = .deregisterStop name old later) ∨ (m.entry old).Retired) :
    (m.setCall thread call).Sound := by
  have habout : ∀ holder other, ((m.setCall thread call).calls holder).about = some other ↔
        (m.calls holder).about = some other := by
    intro holder other
    by_cases hholder : holder = thread
    · subst hholder
      rw [calls_setCall_self, hafter, hbefore]
    · rw [calls_setCall_of_ne hholder]
  have hbusy : (m.setCall thread call).Busy name ↔ m.Busy name :=
    exists_congr fun holder => habout holder name
  refine sound.of_frame name ?_ fun other hne =>
    frameAt_setCall hne (.inr hbefore) (.inr hafter)
  have hat := sound name
  refine ⟨hat.stored, ?_, ?_, ?_, ?_, ?_, ?_⟩
  · intro holder hholder
    by_cases hthread : holder = thread
    · subst hthread
      rw [calls_setCall_self]
      exact hcall
    · rw [calls_setCall_of_ne hthread] at hholder ⊢
      exact hat.calls holder hholder
  · intro first second hfirst hsecond
    exact hat.alone first second ((habout first name).mp hfirst) ((habout second name).mp hsecond)
  · intro other hother hname
    rw [hbusy]
    exact hat.pending other hother hname
  · intro other hname
    rcases hat.retired other hname with hstored | ⟨holder, stage, hdrop⟩ | hretired
    · exact .inl hstored
    · by_cases hthread : holder = thread
      · subst hthread
        rcases hheld other stage hdrop with ⟨later, rfl⟩ | hretired
        · exact .inr (.inl ⟨holder, later, calls_setCall_self⟩)
        · exact .inr (.inr hretired)
      · refine .inr (.inl ⟨holder, stage, ?_⟩)
        rw [calls_setCall_of_ne hthread]
        exact hdrop
    · exact .inr (.inr hretired)
  · intro hdropped
    rw [hbusy]
    exact hat.dropped hdropped
  · intro hnone hidle
    rw [hbusy] at hidle
    exact hat.log hnone hidle

end SetCall

/-! ## Beginning a call -/

section Begin

variable {old : Nat}

/-- When at most one call is about a cluster and Start waits for none of its
entries, what is left is about the map. -/
theorem SoundAt.of_only (thread : Nat)
    (honly : ∀ holder, (next.calls holder).about = some name → holder = thread)
    (hcall : next.CallSound (next.calls thread)) (hawaited : ¬ next.Awaited name)
    (hstored : ∀ id, next.entries.lookup name = some id →
      id < next.next ∧ (next.entry id).name = name)
    (hretired : ∀ id, (next.entry id).name = name →
      next.entries.lookup name = some id ∨ next.HeldByDrop name id ∨ (next.entry id).Retired)
    (hdropped : next.dropped name = true → next.entries.lookup name = none ∧ ¬ next.Busy name)
    (hlog : next.entries.lookup name = none → ¬ next.Busy name → QuietSinceGone name next.log) :
    next.SoundAt name where
  stored := hstored
  calls := by
    intro holder hholder
    rw [honly holder hholder]
    exact hcall
  alone := fun first second hfirst hsecond =>
    (honly first hfirst).trans (honly second hsecond).symm
  pending := fun id hid hname => (hawaited ⟨id, hid, hname⟩).elim
  retired := hretired
  dropped := hdropped
  log := hlog

theorem only_of_idle (hidle : ∀ other, other ≠ thread → (m.calls other).about ≠ some name)
    {call : CallState} (holder : Nat)
    (hholder : (Function.update m.calls thread call holder).about = some name) :
    holder = thread := by
  by_contra hne
  rw [Function.update_of_ne hne] at hholder
  exact hidle holder hne hholder

theorem not_heldByDrop (hidle : ¬ m.Busy name) (id : Nat) : ¬ m.HeldByDrop name id := by
  rintro ⟨holder, stage, hdrop⟩
  refine hidle ⟨holder, ?_⟩
  rw [hdrop]
  rfl

theorem Sound.forget (sound : m.Sound) (name : String) :
    ({ m with dropped := Function.update m.dropped name false } :
      Manager).Sound := by
  intro other
  have hat := sound other
  refine ⟨hat.stored, hat.calls, hat.alone, hat.pending, hat.retired, ?_, hat.log⟩
  intro hdropped
  dsimp only at hdropped
  by_cases hother : other = name
  · rw [hother, Function.update_self] at hdropped
    cases hdropped
  · rw [Function.update_of_ne hother] at hdropped
    exact hat.dropped hdropped

theorem Sound.beginRegister (sound : m.Sound) (hidle : ¬ m.Busy name)
    (hawaited : ¬ m.Awaited name) (hcall : m.calls thread = .idle)
    (hold : m.entries.lookup name = some old) :
    ({ m with dropped := Function.update m.dropped name false }.setCall thread
      (.registerStop name old .cancel)).Sound := by
  refine sound.of_frame name ?_ ?_
  · refine SoundAt.of_only thread
      (only_of_idle fun other _ habout => hidle ⟨other, habout⟩) ?_ hawaited
      (sound name).stored ?_ ?_ ?_
    · rw [calls_setCall_self]
      exact ⟨hold, trivial⟩
    · intro id hname
      rcases (sound name).retired id hname with hstored | hheld | hretired
      · exact .inl hstored
      · exact (not_heldByDrop hidle id hheld).elim
      · exact .inr (.inr hretired)
    · intro hdropped
      change Function.update m.dropped name false name = true at hdropped
      rw [Function.update_self] at hdropped
      cases hdropped
    · intro hnone
      change m.entries.lookup name = none at hnone
      rw [hold] at hnone
      cases hnone
  · intro other hne
    have hbefore : (m.calls thread).about = none := by rw [hcall]; rfl
    refine ⟨Nat.le_refl _, rfl, ?_, fun _ _ _ => rfl, fun _ _ => rfl,
      fun _ h _ => h, ?_, fun h => h⟩
    · exact fun holder _ hasked =>
        calls_iff_of_about hne (.inl hbefore) (.inr rfl) holder hasked
    · intro hdropped
      change Function.update m.dropped name false other = true at hdropped
      rwa [Function.update_of_ne hne] at hdropped

theorem Sound.beginDeregister (sound : m.Sound) (hidle : ¬ m.Busy name)
    (hawaited : ¬ m.Awaited name) (hcall : m.calls thread = .idle)
    (hold : m.entries.lookup name = some old) :
    ({ m.setCall thread (.deregisterStop name old .cancel) with
      entries := m.entries.erase name } : Manager).Sound := by
  have hnone : (m.entries.erase name).lookup name = none :=
    Finmap.lookup_erase _ _
  obtain ⟨hlt, hname⟩ := (sound name).stored old hold
  refine sound.of_frame name ?_ ?_
  · refine SoundAt.of_only thread
      (only_of_idle fun other _ habout => hidle ⟨other, habout⟩) ?_ hawaited
      ?_ ?_ ?_ ?_
    · change CallSound _ (Function.update m.calls thread _ thread)
      rw [Function.update_self]
      exact ⟨hnone, hlt, hname, trivial⟩
    · intro id hid
      change (m.entries.erase name).lookup name = some id at hid
      rw [hnone] at hid
      cases hid
    · intro id hid
      rcases (sound name).retired id hid with hstored | hheld | hretired
      · obtain rfl : old = id := Option.some.inj (hold.symm.trans hstored)
        exact .inr (.inl ⟨thread, .cancel, Function.update_self _ _ _⟩)
      · exact (not_heldByDrop hidle id hheld).elim
      · exact .inr (.inr hretired)
    · intro hdropped
      rw [((sound name).dropped hdropped).1] at hold
      cases hold
    · intro _ hquiet
      refine (hquiet ⟨thread, ?_⟩).elim
      change (Function.update m.calls thread _ thread).about = _
      rw [Function.update_self]
      rfl
  · intro other hne
    have hbefore : (m.calls thread).about = none := by rw [hcall]; rfl
    exact ⟨Nat.le_refl _, Finmap.lookup_erase_ne hne, fun holder _ hasked =>
        calls_iff_of_about hne (.inl hbefore) (.inr rfl) holder hasked,
      fun _ _ _ => rfl, fun _ _ => rfl, fun _ h _ => h, fun h => h,
      fun h => h⟩

theorem Sound.store (sound : m.Sound)
    (honly : ∀ other, other ≠ thread → (m.calls other).about ≠ some name)
    (hcall : m.calls thread = .idle ∨ m.calls thread = .registerStore name)
    (hold : ∀ old, m.entries.lookup name = some old → (m.entry old).Retired)
    (hawaited : ¬ m.Awaited name) (hdropped : m.dropped name = false) :
    (m.store thread name).Sound := by
  have hentry : ∀ other, other ≠ m.next → (m.store thread name).entry other = m.entry other :=
    fun other hne => Function.update_of_ne hne _ _
  have hnew : (m.store thread name).entry m.next = .fresh name :=
    Function.update_self _ _ _
  have hlookup : (m.store thread name).entries.lookup name = some m.next :=
    Finmap.lookup_insert _
  have hbefore : (m.calls thread).about = none ∨ (m.calls thread).about = some name := by
    rcases hcall with hcall | hcall
    · exact .inl (by rw [hcall]; rfl)
    · exact .inr (by rw [hcall]; rfl)
  refine sound.of_frame name ?_ ?_
  · refine SoundAt.of_only thread (only_of_idle honly) ?_ ?_ ?_ ?_ ?_ ?_
    · change CallSound _ (Function.update m.calls thread _ thread)
      rw [Function.update_self]
      split_ifs
      · exact hlookup
      · trivial
    · rintro ⟨id, hid, hname⟩
      have hlt : ∀ other ∈ m.pending, other < m.next := fun other hother =>
        ((sound _).stored other ((sound _).pending other hother rfl).1).1
      rw [hentry id (hlt id hid).ne] at hname
      exact hawaited ⟨id, hid, hname⟩
    · intro id hid
      obtain rfl : m.next = id := Option.some.inj (hlookup.symm.trans hid)
      rw [hnew]
      exact ⟨Nat.lt_succ_self _, rfl⟩
    · intro id hname
      by_cases hid : id = m.next
      · subst hid
        exact .inl hlookup
      · rw [hentry id hid] at hname ⊢
        rcases (sound name).retired id hname with hstored | hheld | hretired
        · exact .inr (.inr (hold id hstored))
        · obtain ⟨holder, stage, hdrop⟩ := hheld
          by_cases hholder : holder = thread
          · subst hholder
            rw [hdrop] at hcall
            rcases hcall with hcall | hcall <;> cases hcall
          · refine (honly holder hholder ?_).elim
            rw [hdrop]
            rfl
        · exact .inr (.inr hretired)
    · intro h
      change m.dropped name = true at h
      rw [hdropped] at h
      cases h
    · intro hnone
      rw [hlookup] at hnone
      cases hnone
  · intro other hne
    refine ⟨Nat.le_succ _, Finmap.lookup_insert_of_ne _ hne, ?_, ?_, ?_, ?_, fun h => h, fun h => h⟩
    · intro holder asked hasked
      refine calls_iff_of_about hne hbefore ?_ holder hasked
      split_ifs
      · exact .inr rfl
      · exact .inl rfl
    · exact fun id hlt _ => hentry id hlt.ne
    · intro id hname
      by_cases hid : id = m.next
      · subst hid
        rw [hnew] at hname
        exact (hne hname.symm).elim
      · exact hentry id hid
    · exact fun _ h _ => h

end Begin

/-! ## Ending a call, launching, and Start -/

theorem Sound.launch (sound : m.Sound) (hstored : m.Stored id)
    (hidle : ¬ m.Busy (m.entry id).name) : (m.launch id).Sound := by
  have hname : ∀ other, ((m.launch id).entry other).name = (m.entry other).name := by
    intro other
    by_cases hother : other = id
    · rw [hother, Manager.launch, entry_setEntry_self]
    · rw [Manager.launch, entry_setEntry_of_ne hother]
  refine sound.of_frame (m.entry id).name ?_ fun other hne =>
    frameAt_setEntry rfl hne
  have hat := sound (m.entry id).name
  refine ⟨?_, ?_, hat.alone, ?_, ?_, hat.dropped, hat.log⟩
  · intro other hother
    rw [hname]
    exact hat.stored other hother
  · exact fun holder hholder => (hidle ⟨holder, hholder⟩).elim
  · intro other hother hsame
    rw [hname] at hsame
    exact hat.pending other hother hsame
  · intro other hsame
    by_cases hother : other = id
    · rw [hother]
      exact .inl hstored
    · rw [hname] at hsame
      rw [Manager.launch, entry_setEntry_of_ne hother]
      exact hat.retired other hsame

theorem Sound.endCall (sound : m.Sound) (hbefore : (m.calls thread).about = some name)
    (hheld : ∀ old stage, m.calls thread ≠ .deregisterStop name old stage)
    (hquiet : m.entries.lookup name = none → QuietSinceGone name m.log) :
    (m.setCall thread .idle).Sound ∧ ¬ (m.setCall thread .idle).Busy name := by
  have hat := sound name
  have hidle : ∀ holder, ((m.setCall thread .idle).calls holder).about ≠ some name := by
    intro holder hholder
    by_cases hthread : holder = thread
    · rw [hthread, calls_setCall_self] at hholder
      cases hholder
    · rw [calls_setCall_of_ne hthread] at hholder
      exact hthread (hat.alone holder thread hholder hbefore)
  have hnotBusy : ¬ (m.setCall thread .idle).Busy name :=
    fun ⟨holder, hholder⟩ => hidle holder hholder
  refine ⟨sound.of_frame name ?_ fun other hne =>
    frameAt_setCall hne (.inr hbefore) (.inl rfl), hnotBusy⟩
  refine ⟨hat.stored, fun holder hholder => (hidle holder hholder).elim,
    fun first _ hfirst => (hidle first hfirst).elim, ?_, ?_, ?_,
    fun hnone _ => hquiet hnone⟩
  · exact fun id hid hname =>
      ((hat.pending id hid hname).2 ⟨thread, hbefore⟩).elim
  · intro id hname
    rcases hat.retired id hname with hstored | ⟨holder, stage, hdrop⟩ | hretired
    · exact .inl hstored
    · have hholder : (m.calls holder).about = some name := by
        rw [hdrop]
        rfl
      rw [hat.alone holder thread hholder hbefore] at hdrop
      exact (hheld id stage hdrop).elim
    · exact .inr (.inr hretired)
  · exact fun hdropped => ((hat.dropped hdropped).2 ⟨thread, hbefore⟩).elim

theorem Sound.running (sound : m.Sound) {call : CallState} (hcall : m.calls thread = call)
    (habout : call.about = some name) :
    (m.calls thread).about = some name ∧ m.CallSound call := by
  rw [← hcall] at habout ⊢
  exact ⟨habout, (sound name).calls thread habout⟩

theorem Sound.finishDeregister (sound : m.Sound) (hcall : m.calls thread = .deregisterHooks name) :
    (m.finishDeregister thread name).Sound := by
  obtain ⟨hbefore, hnone⟩ := sound.running hcall rfl
  have hfirst : QuietSinceGone name (.gone name :: m.log) := by
    intro newer older heq hgone
    cases newer with
    | nil => simp
    | cons head rest =>
      rw [List.cons_append, List.cons.injEq] at heq
      exact (hgone (by simp [heq.1])).elim
  -- The hook is logged while the call still runs.
  have hlogged : ({ m with log := .gone name :: m.log } : Manager).Sound := by
    intro other
    have hat := sound other
    exact ⟨hat.stored, hat.calls, hat.alone, hat.pending, hat.retired,
      hat.dropped, fun hnone hidle =>
        quietSinceGone_cons (by simp) (hat.log hnone hidle)⟩
  obtain ⟨hended, hidle⟩ := hlogged.endCall hbefore (by
      intro old stage hdrop
      change m.calls thread = _ at hdrop
      rw [hcall] at hdrop
      cases hdrop)
    fun _ => hfirst
  intro other
  have hat := hended other
  refine ⟨hat.stored, hat.calls, hat.alone, hat.pending, hat.retired, ?_, hat.log⟩
  intro hdropped
  by_cases hother : other = name
  · rw [hother]
    exact ⟨hnone, hidle⟩
  · change Function.update m.dropped name true other = true at hdropped
    rw [Function.update_of_ne hother] at hdropped
    exact hat.dropped hdropped

theorem Sound.start (sound : m.Sound) (hidle : ∀ thread, m.calls thread = .idle) :
    m.start.Sound := by
  intro name
  have hat := sound name
  refine ⟨hat.stored, hat.calls, hat.alone, ?_, hat.retired, hat.dropped, hat.log⟩
  intro id hid hname
  have hpending : ∃ other, m.entries.lookup other = some id := by
    simp only [Manager.start, List.mem_toFinset, List.mem_filterMap] at hid
    obtain ⟨other, _, hother⟩ := hid
    exact ⟨other, hother⟩
  obtain ⟨other, hother⟩ := hpending
  obtain rfl : other = name := ((sound other).stored id hother).2.symm.trans hname
  refine ⟨hother, ?_⟩
  rintro ⟨holder, hholder⟩
  change (m.calls holder).about = _ at hholder
  rw [hidle] at hholder
  cases hholder

/-! ## Stopping an entry -/

/-- What the entry is after a stage of `stopEntry`. -/
def AfterStop (entry : Entry) : Option StopStage → Prop
  | some later => entry.Stopping later
  | none => entry.Retired

theorem stopEntry_spec {old : Nat} {stage : StopStage} {result : Manager × Option StopStage}
    (hstop : m.stopEntry old stage = some result) (hstage : (m.entry old).Stopping stage) :
    ∃ entry, Continues (m.entry old) entry ∧
      result.1 = m.setEntry old entry ∧ AfterStop entry result.2 := by
  have hself : m.setEntry old (m.entry old) = m := by
    simp [Manager.setEntry]
  have hsame : Continues (m.entry old) (m.entry old) :=
    ⟨rfl, fun h => h, fun _ h => h⟩
  cases stage with
  | cancel =>
    simp only [Manager.stopEntry] at hstop
    split_ifs at hstop with hphase
    · cases hstop
      exact ⟨_, hsame, hself.symm, .inl hphase⟩
    · cases hstop
      exact ⟨_, continues_cancel _, rfl, .inr rfl⟩
  | waitDone =>
    simp only [Manager.stopEntry] at hstop
    split_ifs at hstop with hdone
    cases hstop
    refine ⟨_, hsame, hself.symm, ?_⟩
    rcases hdone with hphase | hphase
    · exact .inl hphase
    · rcases hstage with hunlaunched | hcancelled
      · exact .inl hunlaunched
      · exact .inr ⟨hcancelled, hphase⟩
  | waitRuntime =>
    simp only [Manager.stopEntry] at hstop
    split_ifs at hstop
    cases hstop
    exact ⟨_, hsame, hself.symm, hstage⟩

theorem Sound.advance_registerStop {old : Nat} {stage : StopStage} (sound : m.Sound)
    (hcall : m.calls thread = .registerStop name old stage)
    (hstep : m.advance thread = some next) : next.Sound := by
  simp only [Manager.advance, hcall] at hstep
  obtain ⟨result, hresult, rfl⟩ := Option.map_eq_some_iff.mp hstep
  obtain ⟨hbefore, hold, hstage⟩ := sound.running hcall rfl
  obtain ⟨entry, hcontinues, hmoved, hafter⟩ := stopEntry_spec hresult hstage
  have hentry : ((m.setEntry old entry).entry old) = entry :=
    entry_setEntry_self
  rw [hmoved]
  refine (sound.setEntry hcontinues).setCall hbefore ?_ ?_ ?_
  · cases result.2 <;> rfl
  · cases hlater : result.2 with
    | none =>
      intro other hother
      obtain rfl : old = other :=
        Option.some.inj (hold.symm.trans hother)
      rw [hlater] at hafter
      rw [hentry]
      exact hafter
    | some later =>
      rw [hlater] at hafter
      refine ⟨hold, ?_⟩
      rw [hentry]
      exact hafter
  · intro other stage hdrop
    change m.calls thread = _ at hdrop
    rw [hcall] at hdrop
    cases hdrop

theorem Sound.advance_registerLaunch {id : Nat} (sound : m.Sound)
    (hcall : m.calls thread = .registerLaunch name id) :
    ((m.launch id).setCall thread .idle).Sound := by
  obtain ⟨hbefore, hsound⟩ := sound.running hcall rfl
  have hname := ((sound name).stored id hsound).2
  obtain ⟨hended, hidle⟩ := sound.endCall hbefore (by
      intro old stage hdrop
      rw [hcall] at hdrop
      cases hdrop)
    (by
      intro hnone
      rw [hsound] at hnone
      cases hnone)
  have hlaunched : ((m.setCall thread .idle).launch id).Sound := by
    refine hended.launch ?_ ?_
    · change m.entries.lookup (m.entry id).name = some id
      rw [hname]
      exact hsound
    · change ¬ (m.setCall thread .idle).Busy (m.entry id).name
      rw [hname]
      exact hidle
  exact hlaunched

theorem Sound.advance_deregisterStop {old : Nat} {stage : StopStage} (sound : m.Sound)
    (hcall : m.calls thread = .deregisterStop name old stage)
    (hstep : m.advance thread = some next) : next.Sound := by
  simp only [Manager.advance, hcall] at hstep
  obtain ⟨result, hresult, rfl⟩ := Option.map_eq_some_iff.mp hstep
  obtain ⟨hbefore, hnone, hlt, hname, hstage⟩ := sound.running hcall rfl
  obtain ⟨entry, hcontinues, hmoved, hafter⟩ := stopEntry_spec hresult hstage
  have hentry : ((m.setEntry old entry).entry old) = entry :=
    entry_setEntry_self
  rw [hmoved]
  refine (sound.setEntry hcontinues).setCall hbefore ?_ ?_ ?_
  · cases result.2 <;> rfl
  · cases hlater : result.2 with
    | none => exact hnone
    | some later =>
      rw [hlater] at hafter
      refine ⟨hnone, hlt, ?_, ?_⟩
      · rw [hentry, hcontinues.name]
        exact hname
      · rw [hentry]
        exact hafter
  · intro other stage hdrop
    change m.calls thread = _ at hdrop
    rw [hcall] at hdrop
    obtain ⟨rfl, rfl⟩ : old = other ∧ _ = stage := by
      simpa using hdrop
    cases hlater : result.2 with
    | none =>
      rw [hlater] at hafter
      rw [hentry]
      exact .inr hafter
    | some later => exact .inl ⟨later, rfl⟩

theorem Sound.advance (sound : m.Sound) (hstep : m.advance thread = some next) : next.Sound := by
  have hcase := hstep
  unfold Manager.advance at hcase
  split at hcase
  case h_1 => cases hcase
  case h_2 name old stage hcall => exact sound.advance_registerStop hcall hstep
  case h_3 name hcall =>
    cases hcase
    obtain ⟨hbefore, hsound⟩ := sound.running hcall rfl
    refine sound.store ?_ (.inr hcall) hsound ?_ ?_
    · intro other hne hother
      exact hne ((sound name).alone other thread hother hbefore)
    · rintro ⟨id, hid, hname⟩
      exact ((sound name).pending id hid hname).2 ⟨thread, hbefore⟩
    · rw [← Bool.not_eq_true]
      exact fun hdropped => ((sound name).dropped hdropped).2 ⟨thread, hbefore⟩
  case h_4 name id hcall =>
    cases hcase
    exact sound.advance_registerLaunch hcall
  case h_5 name old stage hcall => exact sound.advance_deregisterStop hcall hstep
  case h_6 name hcall =>
    cases hcase
    exact sound.finishDeregister hcall

theorem Sound.step (sound : m.Sound) {action : Action} (orderly : m.Orderly action)
    (hstep : m.step action = some next) : next.Sound := by
  cases action with
  | start =>
    simp only [Manager.step] at hstep
    split_ifs at hstep
    cases hstep
    exact sound.start orderly
  | startLaunch id =>
    simp only [Manager.step] at hstep
    split_ifs at hstep with hid
    cases hstep
    obtain ⟨hstored, hidle⟩ := (sound _).pending id hid rfl
    have hlaunched : (m.launch id).Sound := sound.launch hstored hidle
    intro name
    have hat := hlaunched name
    exact ⟨hat.stored, hat.calls, hat.alone, fun other hother =>
      hat.pending other (Finset.mem_of_mem_erase hother), hat.retired,
      hat.dropped, hat.log⟩
  | shutdown =>
    simp only [Manager.step] at hstep
    split_ifs at hstep
    cases hstep
    intro name
    have hat := sound name
    exact ⟨hat.stored, hat.calls, hat.alone, hat.pending, hat.retired, hat.dropped, hat.log⟩
  | register thread name =>
    simp only [Manager.step] at hstep
    split_ifs at hstep with hcall
    cases hstep
    obtain ⟨hidle, hawaited⟩ := orderly
    unfold Manager.register
    dsimp only
    split
    case h_1 old hold =>
        exact sound.beginRegister hidle hawaited hcall hold
    case h_2 hnone =>
        refine (sound.forget name).store ?_ (.inl hcall) ?_ hawaited (Function.update_self _ _ _)
        · exact fun other _ hother => hidle ⟨other, hother⟩
        · intro old hold
          dsimp only at hold
          rw [hnone] at hold
          cases hold
  | deregister thread name =>
    simp only [Manager.step] at hstep
    split_ifs at hstep with hcall
    cases hstep
    obtain ⟨hidle, hawaited⟩ := orderly
    unfold Manager.deregister
    split
    case h_1 old hold =>
        exact sound.beginDeregister hidle hawaited hcall hold
    case h_2 hnone =>
        intro other
        have hat := sound other
        refine ⟨hat.stored, hat.calls, hat.alone, hat.pending, hat.retired, ?_, hat.log⟩
        intro hdropped
        by_cases hother : other = name
        · rw [hother]
          exact ⟨hnone, hidle⟩
        · dsimp only at hdropped
          rw [Function.update_of_ne hother] at hdropped
          exact hat.dropped hdropped
  | advance thread => exact sound.advance hstep
  | lifecycle id step => exact sound.stepLifecycle hstep

/-! ## One lifecycle for each cluster -/

/-- A live lifecycle belongs to the entry in the map, except while a Deregister
has deleted the entry and not cancelled it yet; no cluster has two; and once a
Deregister has returned and no Register came after it, none is left and none is
announced. -/
structure Exclusive (m : Manager) : Prop where
  stored : ∀ id, m.Live id → ¬ m.BeingDropped id → m.Stored id
  unique : ∀ first second, m.Live first → m.Live second →
    (m.entry first).name = (m.entry second).name → first = second
  gone : ∀ name, m.dropped name = true → ¬ m.Registering name →
    (∀ id, (m.entry id).name = name → ¬ m.Live id) ∧
      QuietSinceGone name m.log

theorem not_retired_of_live (live : m.Live id) : ¬ (m.entry id).Retired := by
  have hcancelled : (m.entry id).cancelled = false := by
    have hcontext := live.2
    rw [contextDone, Bool.or_eq_false_iff] at hcontext
    exact hcontext.1
  rintro (hphase | ⟨hretired, _⟩)
  · exact live.1 hphase
  · rw [hcancelled] at hretired
    cases hretired

theorem SoundAt.held_cancel (sound : m.SoundAt name) (live : m.Live id)
    (hheld : m.HeldByDrop name id) :
    ∃ thread, m.calls thread = .deregisterStop name id .cancel := by
  obtain ⟨thread, stage, hdrop⟩ := hheld
  have hcall := sound.calls thread (by rw [hdrop]; rfl)
  rw [hdrop] at hcall
  obtain ⟨_, _, _, hstage⟩ := hcall
  cases stage with
  | cancel => exact ⟨thread, hdrop⟩
  | waitDone =>
    have hcontext := live.2
    rw [contextDone, Bool.or_eq_false_iff] at hcontext
    rcases hstage with hphase | hcancelled
    · exact (live.1 hphase).elim
    · rw [hcontext.1] at hcancelled
      cases hcancelled
  | waitRuntime => exact (not_retired_of_live live hstage).elim

theorem SoundAt.of_live (sound : m.SoundAt name) (live : m.Live id)
    (hname : (m.entry id).name = name) :
    m.entries.lookup name = some id ∨
      ∃ thread, m.calls thread = .deregisterStop name id .cancel := by
  rcases sound.retired id hname with hstored | hheld | hretired
  · exact .inl hstored
  · exact .inr (sound.held_cancel live hheld)
  · exact (not_retired_of_live live hretired).elim

theorem Sound.exclusive (sound : m.Sound) : m.Exclusive where
  stored := fun id live hkept => ((sound _).of_live live rfl).resolve_right hkept
  unique := by
    intro first second hfirst hsecond hname
    have hat := sound (m.entry second).name
    have hnone : ∀ id, (∃ thread, m.calls thread =
        .deregisterStop (m.entry second).name id .cancel) →
          m.entries.lookup (m.entry second).name = none := by
      rintro id ⟨thread, hdrop⟩
      have hcall := hat.calls thread (by rw [hdrop]; rfl)
      rw [hdrop] at hcall
      exact hcall.1
    rcases hat.of_live hfirst hname with hstored | hdropped
    · rcases hat.of_live hsecond rfl with hother | hother
      · exact Option.some.inj (hstored.symm.trans hother)
      · rw [hnone second hother] at hstored
        cases hstored
    · rcases hat.of_live hsecond rfl with hother | hother
      · rw [hnone first hdropped] at hother
        cases hother
      · obtain ⟨thread, hthread⟩ := hdropped
        obtain ⟨holder, hholder⟩ := hother
        have hsame : thread = holder := hat.alone thread holder
          (by rw [hthread]; rfl) (by rw [hholder]; rfl)
        rw [← hsame, hthread] at hholder
        simpa using hholder
  gone := by
    intro name hdropped _
    obtain ⟨hnone, hidle⟩ := (sound name).dropped hdropped
    refine ⟨fun id hname live => ?_, (sound name).log hnone hidle⟩
    rcases (sound name).of_live live hname with hstored | ⟨thread, hdrop⟩
    · rw [hnone] at hstored
      cases hstored
    · refine hidle ⟨thread, ?_⟩
      rw [hdrop]
      rfl

theorem orderly_of_idle (hidle : ∀ thread, m.calls thread = .idle) (hpending : m.pending = ∅)
    (action : Action) : m.Orderly action := by
  have hfree : ∀ name, ¬ m.Busy name ∧ ¬ m.Awaited name := by
    intro name
    constructor
    · rintro ⟨thread, hthread⟩
      rw [hidle] at hthread
      cases hthread
    · rintro ⟨id, hid, _⟩
      simp [hpending] at hid
  cases action with
  | start => exact hidle
  | register thread name => exact hfree name
  | deregister thread name => exact hfree name
  | _ => trivial

/-- As long as the calls about one cluster come one after the other and none
comes between the halves of Start, every cluster has at most one live
lifecycle, and none once it is gone. -/
theorem lifecycle_exclusive {schedule : List Action}
    (orderly : StepMachine.Along step Orderly initial schedule)
    (hrun : StepMachine.run step initial schedule = some m) :
    m.Exclusive :=
  (StepMachine.run_invariant (fun sound horderly => sound.step horderly)
    sound_initial orderly hrun).exclusive

end Manager

namespace Sample

/-- East is registered and deregistered, which waits for its lifecycle to end,
and then west is registered. -/
def replaced : List Action :=
  [.start, .register 0 "east", .advance 0, .deregister 0 "east", .advance 0,
    .lifecycle 0 (.probe true), .advance 0, .advance 0, .advance 0,
    .register 0 "west", .advance 0]

/-- The second call finds an entry that the first has stored and not launched
yet, so that there is nothing to stop. -/
def overlapping : List Action :=
  [.start, .register 0 "east", .register 1 "east", .advance 1, .advance 1,
    .advance 1, .advance 1, .advance 0, .advance 1]

end Sample

namespace Manager

theorem lifecycle_exclusive_sample :
    ∃ m,
      StepMachine.run step initial Sample.replaced = some m ∧
      m.dropped "east" = true ∧
      m.Live 1 ∧
      m.Exclusive := by
  have hpending : initial.start.pending = ∅ := by simp [initial, start, Finmap.sortedKeys]
  -- Each call begins when the one before it has returned.
  have hidle : ∀ {calls : Nat → CallState}, calls 0 = .idle → (∀ k, calls (k + 1) = .idle) →
      ∀ thread, calls thread = .idle := by
    intro calls hzero hsucc thread
    cases thread with
    | zero => exact hzero
    | succ k => exact hsucc k
  have orderly : StepMachine.Along step Orderly initial Sample.replaced := by
    refine ⟨orderly_of_idle (fun _ => rfl) rfl _, ?_⟩
    rintro _ ⟨⟩
    refine ⟨orderly_of_idle (hidle rfl fun _ => rfl) (by exact hpending) _, ?_⟩
    rintro _ ⟨⟩
    refine ⟨trivial, ?_⟩
    rintro _ ⟨⟩
    refine ⟨orderly_of_idle (hidle rfl fun _ => rfl) (by exact hpending) _, ?_⟩
    rintro _ ⟨⟩
    refine ⟨trivial, ?_⟩
    rintro _ ⟨⟩
    refine ⟨trivial, ?_⟩
    rintro _ ⟨⟩
    refine ⟨trivial, ?_⟩
    rintro _ ⟨⟩
    refine ⟨trivial, ?_⟩
    rintro _ ⟨⟩
    refine ⟨trivial, ?_⟩
    rintro _ ⟨⟩
    refine ⟨orderly_of_idle (hidle rfl fun _ => rfl) (by exact hpending) _, ?_⟩
    rintro _ ⟨⟩
    exact ⟨trivial, fun _ _ => trivial⟩
  obtain ⟨m, hrun, hgone, hlive⟩ : ∃ m, StepMachine.run step initial Sample.replaced = some m ∧
      m.dropped "east" = true ∧ m.Live 1 :=
    ⟨_, rfl, by decide +kernel, by decide +kernel⟩
  exact ⟨m, hrun, hgone, hlive, lifecycle_exclusive orderly hrun⟩

/-- Two Registers of one cluster that overlap leave two live lifecycles, and
only one of them is in the map. -/
theorem overlapping_registers_leak :
    ∃ m,
      StepMachine.run step initial Sample.overlapping = some m ∧
      m.Live 0 ∧
      m.Live 1 ∧
      (m.entry 0).name = (m.entry 1).name ∧
      ¬ m.Stored 0 ∧
      m.calls 0 = .idle ∧
      m.calls 1 = .idle := by
  refine ⟨_, rfl, ?_⟩
  unfold Stored
  decide +kernel

end Manager

end ClusterManager

end K8sR8r
