import K8sR8r.InteractionSafety

/-!
# Systems of interacting programs

A system runs several roles over one world.  Each role executes one program at
a time, drawn from the programs it may start; calls of different roles
interleave, outsiders change the world in between, and a restart abandons
every running program at once.

The rely-guarantee theorem reduces an invariant of all reachable states to one
`Safe` obligation per role: what a role's calls do must be interference the
other roles already tolerate.
-/

namespace Interaction

variable {World Role : Type} {Call : Role → Type}

structure Configuration
    (World : Type) {Role : Type} {Call : Role → Type}
    (Reply : (role : Role) → Call role → Type)
    (Outcome : Role → Type) where
  world : World
  running : (role : Role) → Option (Program (Reply role) (Outcome role))

structure System
    (World : Type) {Role : Type} {Call : Role → Type}
    (Reply : (role : Role) → Call role → Type)
    (Outcome : Role → Type) where
  semantics : (role : Role) → Semantics World (Reply role)
  starts : (role : Role) → Program (Reply role) (Outcome role) → Prop
  outside : Configuration World Reply Outcome → World → Prop
  restart : World → World → Prop

variable {Reply : (role : Role) → Call role → Type} {Outcome : Role → Type}

namespace System

def idle (world : World) : Configuration World Reply Outcome :=
  { world := world, running := fun _ => none }

/-- The inductive invariant of a system of safe programs: the world is good and
every running program is safe from it. -/
structure Sound
    (system : System World Reply Outcome) (invariant : World → Prop)
    (guard : (role : Role) → World → Call role → Prop)
    (config : Configuration World Reply Outcome) : Prop where
  holds : invariant config.world
  safe : ∀ role program, config.running role = some program →
    Safe (system.semantics role) (guard role) program
      (fun _ => invariant) config.world

theorem sound_idle {system : System World Reply Outcome} {invariant : World → Prop}
    {guard : (role : Role) → World → Call role → Prop} {world : World} (hworld : invariant world) :
    system.Sound invariant guard (idle world) :=
  ⟨hworld, by intro role program h; simp [idle] at h⟩

variable [DecidableEq Role]

inductive Step (system : System World Reply Outcome) :
    Configuration World Reply Outcome →
      Configuration World Reply Outcome → Prop where
  | outside {config : Configuration World Reply Outcome} {world : World}
      (change : system.outside config world) :
      Step system config { config with world := world }
  | start {config : Configuration World Reply Outcome} (role : Role)
      {program : Program (Reply role) (Outcome role)}
      (idle : config.running role = none)
      (allowed : system.starts role program) :
      Step system config
        { config with
          running := Function.update config.running role (some program) }
  | call {config : Configuration World Reply Outcome} (role : Role)
      {request : Call role}
      {next : Reply role request → Program (Reply role) (Outcome role)}
      {reply : Reply role request} {world : World}
      (waiting : config.running role = some (.call request next))
      (answer :
        (system.semantics role).answers config.world request reply world) :
      Step system config
        { world := world
          running :=
            Function.update config.running role (some (next reply)) }
  | finish {config : Configuration World Reply Outcome} (role : Role)
      {value : Outcome role}
      (ended : config.running role = some (.done value)) :
      Step system config
        { config with running := Function.update config.running role none }
  | restart {config : Configuration World Reply Outcome} {world : World}
      (change : system.restart config.world world) :
      Step system config { world := world, running := fun _ => none }

def Reachable (system : System World Reply Outcome) : Configuration World Reply Outcome →
      Configuration World Reply Outcome → Prop :=
  Relation.ReflTransGen system.Step

/-! ## Executed runs -/

section Executed

variable (system : System World Reply Outcome) (role : Role)
  {handle : World → (request : Call role) → Reply role request × World}
  {program : Program (Reply role) (Outcome role)} {world : World}
  {running : (role : Role) → Option (Program (Reply role) (Outcome role))}

/-- A running role executes the rest of its program while the others wait. -/
theorem reachable_finish (active : running role = some program)
    (answered : Answered (system.semantics role) (execute handle program world).trace) :
    system.Reachable ⟨world, running⟩ ⟨(execute handle program world).final,
        Function.update running role none⟩ := by
  induction program generalizing world running with
  | done value => exact .single (.finish role active)
  | call request next ih =>
    have hhead := answered _ List.mem_cons_self
    have hrest : Answered (system.semantics role) (execute handle
        (next (handle world request).1) (handle world request).2).trace :=
      fun exchange hmem => answered exchange (List.mem_cons_of_mem _ hmem)
    have hreach := ih _ (Function.update_self role
      (some (next (handle world request).1)) running) hrest
    rw [Function.update_idem] at hreach
    exact .head (.call role active hhead) hreach

theorem reachable_execute (allowed : system.starts role program) (idle : running role = none)
    (answered : Answered (system.semantics role) (execute handle program world).trace) :
    system.Reachable ⟨world, running⟩ ⟨(execute handle program world).final, running⟩ := by
  have hreach := reachable_finish system role
    (Function.update_self role (some program) running) answered
  rw [Function.update_idem, ← idle, Function.update_eq_self] at hreach
  exact .head (.start role idle allowed) hreach

theorem reachable_execute_idle (allowed : system.starts role program)
    (answered : Answered (system.semantics role) (execute handle program world).trace) :
    system.Reachable (idle world) (idle (execute handle program world).final) :=
  reachable_execute system role allowed rfl answered

variable {exchange : Exchange World (Reply role)}

/-- The state before any call of an executed program is reachable. -/
theorem reachable_exchange (active : running role = some program)
    (answered : Answered (system.semantics role) (execute handle program world).trace)
    (hmem : exchange ∈ (execute handle program world).trace) :
    ∃ next, system.Reachable ⟨world, running⟩ ⟨exchange.before, Function.update running role
        (some (.call exchange.request next))⟩ := by
  induction program generalizing world running with
  | done value => simp [execute] at hmem
  | call request next ih =>
    rcases List.mem_cons.mp hmem with rfl | htail
    · refine ⟨next, ?_⟩
      rw [← active, Function.update_eq_self]
      exact .refl
    · have hhead := answered _ List.mem_cons_self
      have hrest : Answered (system.semantics role) (execute handle (next (handle world request).1)
          (handle world request).2).trace :=
        fun exchange hmem => answered exchange (List.mem_cons_of_mem _ hmem)
      obtain ⟨rest, hreach⟩ := ih _ (Function.update_self role
        (some (next (handle world request).1)) running) hrest htail
      rw [Function.update_idem] at hreach
      exact ⟨rest, .head (.call role active hhead) hreach⟩

theorem reachable_idle_exchange (allowed : system.starts role program)
    (answered : Answered (system.semantics role) (execute handle program world).trace)
    (hmem : exchange ∈ (execute handle program world).trace) {request : Call role}
    (hrequest : exchange.request = request) :
    ∃ state : Configuration World Reply Outcome,
      system.Reachable (idle world) state ∧ state.world = exchange.before ∧
        ∃ next, state.running role = some (.call request next) := by
  subst hrequest
  have hactive : Function.update (fun role => (none : Option (Program (Reply role) (Outcome role))))
      role (some program) role = some program := Function.update_self _ _ _
  obtain ⟨next, hreach⟩ := reachable_exchange system role hactive answered hmem
  exact ⟨_, .head (.start role rfl allowed) hreach, rfl, next, Function.update_self _ _ _⟩

end Executed

/-! ## Restricted runs -/

/-- The runs of a system in which every call meets `admits` and every outside
step meets `permits`. -/
def restrict (system : System World Reply Outcome)
    (admits : (role : Role) → World → Call role → Prop)
    (permits : Configuration World Reply Outcome → World → Prop) :
    System World Reply Outcome where
  semantics := fun role => (system.semantics role).restrict (admits role)
  starts := system.starts
  outside := fun config next => system.outside config next ∧ permits config next
  restart := system.restart

/-! ## Invariants -/

/-- The obligations under which `invariant` and the guards hold in every
reachable state. -/
structure Certified
    (system : System World Reply Outcome) (invariant : World → Prop)
    (guard : (role : Role) → World → Call role → Prop) : Prop where
  outside_invariant : ∀ {config next},
    invariant config.world → system.outside config next → invariant next
  outside_tolerated : ∀ role {config next},
    (config.running role).isSome = true → invariant config.world →
      system.outside config next →
        (system.semantics role).interfere config.world next
  restart_invariant : ∀ {world next},
    invariant world → system.restart world next → invariant next
  guard_invariant : ∀ role {world request},
    guard role world request → invariant world
  start_safe : ∀ role {program world},
    system.starts role program → invariant world →
      Safe (system.semantics role) (guard role) program
        (fun _ => invariant) world
  call_tolerated : ∀ role other {world request reply next},
    role ≠ other → guard role world request →
      (system.semantics role).answers world request reply next →
      (system.semantics other).interfere world next

variable {system : System World Reply Outcome} {invariant : World → Prop}
  {guard : (role : Role) → World → Call role → Prop}

variable {config : Configuration World Reply Outcome} {world : World}

variable (certified : system.Certified invariant guard)
include certified

theorem Certified.sound_call (sound : system.Sound invariant guard config) {role : Role}
    {request : Call role} {next : Reply role request → Program (Reply role) (Outcome role)}
    {reply : Reply role request} (waiting : config.running role = some (.call request next))
    (answer : (system.semantics role).answers config.world request reply world) :
    system.Sound invariant guard
      { world := world
        running :=
          Function.update config.running role (some (next reply)) } := by
  obtain ⟨hguard, hnext⟩ :=
    sound.safe role _ waiting config.world ((system.semantics role).interfere_refl _)
  have hsafe := hnext reply world answer
  refine ⟨?_, ?_⟩
  · exact hsafe.holds (fun _ _ h => certified.guard_invariant role h) (fun _ _ h => h)
  · intro other program hother
    by_cases heq : other = role
    · subst other
      simp only [Function.update_self, Option.some.injEq] at hother
      subst program
      exact hsafe
    · simp only [Function.update_of_ne heq] at hother
      exact (sound.safe other program hother).interfered
        (certified.call_tolerated role other (Ne.symm heq) hguard answer)

theorem Certified.sound_step {after : Configuration World Reply Outcome}
    (sound : system.Sound invariant guard config) (step : system.Step config after) :
    system.Sound invariant guard after := by
  cases step with
  | @outside world change =>
    refine ⟨certified.outside_invariant sound.holds change, ?_⟩
    intro role program hrunning
    exact (sound.safe role program hrunning).interfered (certified.outside_tolerated role
        (Option.isSome_iff_exists.mpr ⟨program, hrunning⟩) sound.holds
        change)
  | start role idle allowed =>
    refine ⟨sound.holds, ?_⟩
    intro other program hother
    by_cases heq : other = role
    · subst other
      simp only [Function.update_self, Option.some.injEq] at hother
      subst program
      exact certified.start_safe role allowed sound.holds
    · simp only [Function.update_of_ne heq] at hother
      exact sound.safe other program hother
  | call role waiting answer =>
    exact certified.sound_call sound waiting answer
  | finish role ended =>
    refine ⟨sound.holds, ?_⟩
    intro other program hother
    by_cases heq : other = role
    · subst other
      simp at hother
    · simp only [Function.update_of_ne heq] at hother
      exact sound.safe other program hother
  | restart change =>
    exact ⟨certified.restart_invariant sound.holds change,
      by intro role program h; simp at h⟩

theorem Certified.sound_reachable {start : Configuration World Reply Outcome}
    (sound : system.Sound invariant guard start) (reach : system.Reachable start config) :
    system.Sound invariant guard config := by
  induction reach with
  | refl => exact sound
  | tail _ step ih => exact certified.sound_step ih step

/-- The invariant holds in every state reached from an idle good world. -/
theorem Certified.invariant_reachable (hworld : invariant world)
    (reach : system.Reachable (idle world) config) :
    invariant config.world :=
  (certified.sound_reachable (sound_idle hworld) reach).holds

/-- Every call a role is about to issue in a reachable state meets its
guard. -/
theorem Certified.guard_reachable (hworld : invariant world)
    (reach : system.Reachable (idle world) config) {role : Role} {request : Call role}
    {next : Reply role request → Program (Reply role) (Outcome role)}
    (waiting : config.running role = some (.call request next)) :
    guard role config.world request := by
  have hsafe := (certified.sound_reachable (sound_idle hworld) reach).safe role _ waiting
  exact (hsafe config.world ((system.semantics role).interfere_refl _)).1

end System

end Interaction
