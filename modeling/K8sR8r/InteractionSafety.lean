import K8sR8r.InteractionProgram

/-!
# Safety of interacting programs

`Safe` is a weakest precondition under interference.  It demands a guard at
every call the program issues, in every world that interference can have
produced by then, and a postcondition when the program ends.  The rules below
compose it along sequences and loops; the soundness theorem turns it into a
statement about every finite run.

A guard that contains an invariant of the world makes the invariant hold at
every point where the program can be stopped, because the world after a call
is already the world in which the next call is about to be issued.
-/

namespace Interaction

variable {World Call : Type} {Reply : Call → Type} {α β σ : Type}

def Safe (semantics : Semantics World Reply) (guard : World → Call → Prop) :
    Program Reply α → (α → World → Prop) → World → Prop
  | .done value, post, world =>
    ∀ current, semantics.interfere world current → post value current
  | .call request next, post, world =>
    ∀ current, semantics.interfere world current → guard current request ∧
        ∀ reply after, semantics.answers current request reply after →
          Safe semantics guard (next reply) post after

def unguarded (_ : World) (_ : Call) : Prop := True

/-- Interference never falsifies the assertion. -/
def Stable (semantics : Semantics World Reply) (assertion : World → Prop) :
    Prop :=
  ∀ {world current}, assertion world → semantics.interfere world current → assertion current

/-- Whatever the call does, interference could have done. -/
def Harmless (semantics : Semantics World Reply) (request : Call) : Prop :=
  ∀ {world reply after}, semantics.answers world request reply after →
    semantics.interfere world after

namespace Safe

variable {semantics : Semantics World Reply} {guard : World → Call → Prop}

variable {program : Program Reply α} {post other : α → World → Prop} {world : World} {value : α}
  {assertion : World → Prop} {allowed : Call → Prop} {continuation : α → Program Reply β}
  {trace : List (Exchange World Reply)}

theorem interfered {current : World} (safe : Safe semantics guard program post world)
    (change : semantics.interfere world current) :
    Safe semantics guard program post current := by
  cases program with
  | done value =>
    intro later hlater
    exact safe later (semantics.interfere_trans change hlater)
  | call request next =>
    intro later hlater
    exact safe later (semantics.interfere_trans change hlater)

theorem done (stable : ∀ current, semantics.interfere world current → post value current) :
    Safe semantics guard (.done value) post world :=
  stable

theorem done_of_stable (stable : Stable semantics (post value)) (holds : post value world) :
    Safe semantics guard (.done value) post world :=
  fun _ change => stable holds change

theorem call_of_stable {request : Call} {next : Reply request → Program Reply α}
    (stable : Stable semantics assertion) (holds : assertion world)
    (admitted : ∀ current, assertion current → guard current request)
    (step : ∀ current reply after, assertion current →
      semantics.answers current request reply after →
        Safe semantics guard (next reply) post after) :
    Safe semantics guard (.call request next) post world := by
  intro current change
  have hcurrent := stable holds change
  exact ⟨admitted current hcurrent,
    fun reply after answer => step current reply after hcurrent answer⟩

theorem call_of_harmless {request : Call} {next : Reply request → Program Reply α}
    (stable : Stable semantics assertion) (holds : assertion world)
    (admitted : ∀ current, assertion current → guard current request)
    (harmless : Harmless semantics request)
    (step : ∀ reply current, assertion current → Safe semantics guard (next reply) post current) :
    Safe semantics guard (.call request next) post world :=
  call_of_stable stable holds admitted fun _ reply after hcurrent answer =>
    step reply after (stable hcurrent (harmless answer))

theorem weaken (safe : Safe semantics guard program post world)
    (implies : ∀ value current, post value current → other value current) :
    Safe semantics guard program other world := by
  induction program generalizing world with
  | done value =>
    intro current change
    exact implies value current (safe current change)
  | call request next ih =>
    intro current change
    refine ⟨(safe current change).1, ?_⟩
    intro reply after answer
    exact ih reply ((safe current change).2 reply after answer)

theorem weaken_guard {other : World → Call → Prop}
    (safe : Safe semantics guard program post world)
    (implies : ∀ {current request}, guard current request → other current request) :
    Safe semantics other program post world := by
  induction program generalizing world with
  | done value => exact safe
  | call request next ih =>
    intro current change
    obtain ⟨hguard, hnext⟩ := safe current change
    exact ⟨implies hguard, fun reply after answer =>
      ih reply (hnext reply after answer)⟩

/-- Two obligations on the same calls hold together. -/
theorem both {other : World → Call → Prop} {final : α → World → Prop}
    (first : Safe semantics guard program post world)
    (second : Safe semantics other program final world) :
    Safe semantics (fun current request => guard current request ∧ other current request) program
      (fun value current => post value current ∧ final value current)
      world := by
  induction program generalizing world with
  | done value =>
    exact fun current change => ⟨first current change, second current change⟩
  | call request next ih =>
    intro current change
    obtain ⟨hfirst, hnextFirst⟩ := first current change
    obtain ⟨hsecond, hnextSecond⟩ := second current change
    exact ⟨⟨hfirst, hsecond⟩, fun reply after answer =>
      ih reply (hnextFirst reply after answer) (hnextSecond reply after answer)⟩

theorem under {stricter : Semantics World Reply} (safe : Safe semantics guard program post world)
    (interferes : ∀ {before after}, stricter.interfere before after →
      semantics.interfere before after)
    (answers : ∀ {before request reply after}, stricter.answers before request reply after →
        semantics.answers before request reply after) :
    Safe stricter guard program post world := by
  induction program generalizing world with
  | done value => exact fun current change => safe current (interferes change)
  | call request next ih =>
    intro current change
    obtain ⟨hguard, hnext⟩ := safe current (interferes change)
    exact ⟨hguard, fun reply after answer =>
      ih reply (hnext reply after (answers answer))⟩

theorem bind {post : β → World → Prop}
    (safe : Safe semantics guard program (fun value current =>
        Safe semantics guard (continuation value) post current) world) :
    Safe semantics guard (program >>= continuation) post world := by
  induction program generalizing world with
  | done value =>
    exact safe world (semantics.interfere_refl world)
  | call request next ih =>
    intro current change
    refine ⟨(safe current change).1, ?_⟩
    intro reply after answer
    exact ih reply ((safe current change).2 reply after answer)

theorem and (first : Safe semantics guard program post world)
    (second : Safe semantics guard program other world) :
    Safe semantics guard program (fun value current => post value current ∧ other value current)
      world := by
  induction program generalizing world with
  | done value =>
    exact fun current change => ⟨first current change, second current change⟩
  | call request next ih =>
    intro current change
    refine ⟨(first current change).1, ?_⟩
    intro reply after answer
    exact ih reply ((first current change).2 reply after answer)
      ((second current change).2 reply after answer)

/-- An invariant of the calls that meet the guard comes along. -/
theorem keep {invariant : World → Prop} (safe : Safe semantics guard program post world)
    (stable : Stable semantics invariant)
    (kept : ∀ {current request reply after}, guard current request →
      invariant current → semantics.answers current request reply after →
        invariant after) (holds : invariant world) :
    Safe semantics (fun current request => guard current request ∧ invariant current) program
      (fun value current => post value current ∧ invariant current)
      world := by
  induction program generalizing world with
  | done value =>
    exact fun current change => ⟨safe current change, stable holds change⟩
  | call request next ih =>
    intro current change
    obtain ⟨hguard, hnext⟩ := safe current change
    have hcurrent := stable holds change
    exact ⟨⟨hguard, hcurrent⟩, fun reply after answer =>
      ih reply (hnext reply after answer) (kept hguard hcurrent answer)⟩

theorem seq {middle : α → World → Prop} {post : β → World → Prop}
    (safe : Safe semantics guard program middle world)
    (next : ∀ value current, middle value current →
      Safe semantics guard (continuation value) post current) :
    Safe semantics guard (program >>= continuation) post world :=
  bind (safe.weaken next)

/-- A program keeps what each of the calls it can issue keeps. -/
theorem of_within {value : α → Prop} (within : program.Within allowed value)
    (stable : Stable semantics assertion) (holds : assertion world)
    (admitted : ∀ {current request}, allowed request → assertion current → guard current request)
    (preserved : ∀ {current request reply after}, allowed request → assertion current →
        semantics.answers current request reply after → assertion after) :
    Safe semantics guard program
      (fun result current => value result ∧ assertion current) world := by
  induction program generalizing world with
  | done result =>
    exact fun current change => ⟨within, stable holds change⟩
  | call request next ih =>
    refine call_of_stable stable holds (fun current => admitted within.1) ?_
    intro current reply after hcurrent answer
    exact ih reply (within.2 reply) (preserved within.1 hcurrent answer)

/-- A program of harmless calls keeps every stable assertion. -/
theorem of_harmless {value : α → Prop} (within : program.Within allowed value)
    (stable : Stable semantics assertion) (holds : assertion world)
    (admitted : ∀ {current request}, allowed request → assertion current → guard current request)
    (harmless : ∀ {request}, allowed request → Harmless semantics request) :
    Safe semantics guard program (fun result current => value result ∧ assertion current) world :=
  of_within within stable holds admitted fun hallowed hcurrent answer =>
    stable hcurrent (harmless hallowed answer)

/-- A loop over a list keeps a stable invariant that its body keeps. -/
theorem foldlM {body : σ → β → Program Reply σ} {invariant : σ → World → Prop} {items : List β}
    {state : σ} (stable : ∀ state, Stable semantics (invariant state))
    (step : ∀ item ∈ items, ∀ state world, invariant state world →
      Safe semantics guard (body state item) invariant world) (start : invariant state world) :
    Safe semantics guard (items.foldlM body state) invariant world := by
  induction items generalizing state world with
  | nil => exact done_of_stable (stable state) start
  | cons item rest ih =>
    rw [List.foldlM_cons]
    refine seq (step item List.mem_cons_self state world start) ?_
    intro next current hnext
    exact ih (fun other hmem => step other (List.mem_cons_of_mem _ hmem)) hnext

/-- Every call of a run met its guard, and what is left of the program is
still safe. -/
theorem run {rest : Program Reply α} {final : World}
    (safe : Safe semantics guard program post world)
    (hrun : Run semantics world program trace final rest) :
    (∀ exchange ∈ trace, guard exchange.before exchange.request) ∧
      Safe semantics guard rest post final := by
  induction hrun with
  | refl => exact ⟨by simp, safe⟩
  | interfere change _ ih => exact ih (safe.interfered change)
  | @call world middle final request next reply rest trace answer _ ih =>
    obtain ⟨hguard, hnext⟩ :=
      safe world (semantics.interfere_refl world)
    obtain ⟨htrace, hrest⟩ := ih (hnext reply middle answer)
    refine ⟨?_, hrest⟩
    intro exchange hmem
    rcases List.mem_cons.mp hmem with rfl | hmem
    · exact hguard
    · exact htrace exchange hmem

theorem run_done {final : World} (safe : Safe semantics guard program post world)
    (hrun : Run semantics world program trace final (.done value)) :
    post value final :=
  (safe.run hrun).2 final (semantics.interfere_refl final)

section Undisturbed

variable {answers : World → (request : Call) → Reply request → World → Prop}

theorem undisturbed_done (holds : post value world) :
    Safe (.undisturbed answers) guard (.done value) post world := by
  rintro current rfl
  exact holds

theorem undisturbed_call {request : Call} {next : Reply request → Program Reply α}
    (admitted : guard world request)
    (step : ∀ reply after, answers world request reply after →
      Safe (.undisturbed answers) guard (next reply) post after) :
    Safe (.undisturbed answers) guard (.call request next) post world := by
  rintro current rfl
  exact ⟨admitted, step⟩

theorem undisturbed_perform {request : Call} {next : Reply request → Program Reply α}
    (admitted : guard world request)
    (step : ∀ reply after, answers world request reply after →
      Safe (.undisturbed answers) guard (next reply) post after) :
    Safe (.undisturbed answers) guard (Program.perform request >>= next) post world :=
  undisturbed_call admitted step

theorem undisturbed_stable (assertion : World → Prop) :
    Stable (Semantics.undisturbed answers) assertion := by
  rintro world current holds rfl
  exact holds

theorem undisturbed_within {value : α → Prop} (assertion : World → Prop)
    (within : program.Within allowed value)
    (kept : ∀ {before request reply after}, allowed request →
      assertion before → answers before request reply after →
        assertion after) (holds : assertion world) :
    Safe (.undisturbed answers) unguarded program
      (fun result current => value result ∧ assertion current) world :=
  of_within within (undisturbed_stable assertion) holds (fun _ _ => trivial) kept

end Undisturbed

/-- What holds at the end of the scripted runs holds of the execution. -/
theorem execute {handle : World → (request : Call) → Reply request × World}
    (safe : Safe (Semantics.scripted handle) guard program post world) :
    post (Interaction.execute handle program world).value
      (Interaction.execute handle program world).final := by
  induction program generalizing world with
  | done value => exact safe world rfl
  | call request next ih => exact ih _ ((safe world rfl).2 _ _ rfl)

section

variable {invariant : World → Prop} (safe : Safe semantics guard program post world)
  (hguard : ∀ current request, guard current request → invariant current)
  (hpost : ∀ value current, post value current → invariant current)
include safe hguard hpost

theorem holds : invariant world := by
  cases program with
  | done value =>
    exact hpost value world (safe world (semantics.interfere_refl world))
  | call request next =>
    exact hguard world request (safe world (semantics.interfere_refl world)).1

theorem ahead :
    Safe semantics (fun current request => guard current request ∧
      ∀ reply after, semantics.answers current request reply after →
        invariant after) program post world := by
  induction program generalizing world with
  | done value => exact safe
  | call request next ih =>
    intro current change
    obtain ⟨hcurrent, hnext⟩ := safe current change
    refine ⟨⟨hcurrent, ?_⟩, ?_⟩
    · intro reply after answer
      exact (hnext reply after answer).holds hguard hpost
    · intro reply after answer
      exact ih reply (hnext reply after answer)

end

end Safe

end Interaction
