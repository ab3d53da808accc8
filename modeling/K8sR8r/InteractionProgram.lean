import Mathlib.Tactic

/-!
# Programs that interact with a world they do not own

A program is a tree of typed calls: after each call it waits for a reply and
continues with it.  Nothing in the tree says what a call does; a `Semantics`
says which replies and which next worlds a call admits, and what everybody
else may do to the world between two calls.

Keeping programs apart from their semantics lets one program text be run
against several worlds, and lets a world stop the program between any two
calls.
-/

namespace Interaction

/-- A program over the calls of `Reply`: finished, or waiting for the reply of
one call. -/
inductive Program {Call : Type} (Reply : Call → Type) (α : Type) : Type where
  | done (value : α) : Program Reply α
  | call (request : Call) (next : Reply request → Program Reply α) :
      Program Reply α

namespace Program

variable {Call : Type} {Reply : Call → Type} {α β γ : Type}

def bind : Program Reply α → (α → Program Reply β) → Program Reply β
  | .done value, continuation => continuation value
  | .call request next, continuation =>
    .call request (fun reply => (next reply).bind continuation)

instance : Monad (Program Reply) where
  pure := .done
  bind := bind

def perform (request : Call) : Program Reply (Reply request) :=
  .call request .done

@[simp] theorem pure_eq_done (value : α) : (pure value : Program Reply α) = .done value := rfl

@[simp] theorem done_bind (value : α) (continuation : α → Program Reply β) :
    (Program.done value : Program Reply α) >>= continuation = continuation value := rfl

@[simp] theorem call_bind (request : Call) (next : Reply request → Program Reply α)
    (continuation : α → Program Reply β) :
    Program.call request next >>= continuation =
      .call request (fun reply => next reply >>= continuation) := rfl

@[simp] theorem perform_bind (request : Call) (continuation : Reply request → Program Reply β) :
    perform request >>= continuation = .call request continuation := rfl

theorem bind_congr (program : Program Reply α) {first second : α → Program Reply β}
    (heq : ∀ value, first value = second value) :
    program >>= first = program >>= second := by
  rw [funext heq]

theorem bind_assoc (program : Program Reply α) (first : α → Program Reply β)
    (second : β → Program Reply γ) :
    (program >>= first) >>= second = program >>= fun value => first value >>= second := by
  induction program with
  | done value => rfl
  | call request next ih =>
    rw [call_bind, call_bind, call_bind]
    congr 1
    funext reply
    exact ih reply

/-- Whatever the replies are, every call satisfies `allowed` and the program
ends in a value that satisfies `post`. -/
def Within (allowed : Call → Prop) (post : α → Prop) : Program Reply α → Prop
  | .done value => post value
  | .call request next =>
    allowed request ∧ ∀ reply, Within allowed post (next reply)

/-- Every call the program can ever issue satisfies `allowed`. -/
abbrev AllCalls (allowed : Call → Prop) (program : Program Reply α) : Prop :=
  program.Within allowed fun _ => True

variable {allowed : Call → Prop} {program : Program Reply α} {continuation : α → Program Reply β}

theorem Within.bind {middle : α → Prop} {post : β → Prop} (first : program.Within allowed middle)
    (second : ∀ value, middle value → (continuation value).Within allowed post) :
    (program >>= continuation).Within allowed post := by
  induction program with
  | done value => exact second value first
  | call request next ih =>
    exact ⟨first.1, fun reply => ih reply (first.2 reply)⟩

theorem Within.weaken {other : Call → Prop} {post final : α → Prop}
    (within : program.Within allowed post) (hcalls : ∀ request, allowed request → other request)
    (hpost : ∀ value, post value → final value) :
    program.Within other final := by
  induction program with
  | done value => exact hpost value within
  | call request next ih =>
    exact ⟨hcalls request within.1, fun reply => ih reply (within.2 reply)⟩

theorem Within.and {other : Call → Prop} {post final : α → Prop}
    (first : program.Within allowed post) (second : program.Within other final) :
    program.Within (fun request => allowed request ∧ other request)
      (fun value => post value ∧ final value) := by
  induction program with
  | done value => exact ⟨first, second⟩
  | call request next ih =>
    exact ⟨⟨first.1, second.1⟩, fun reply => ih reply (first.2 reply) (second.2 reply)⟩

theorem within_true (program : Program Reply α) : program.AllCalls fun _ => True := by
  induction program with
  | done value => trivial
  | call request next ih => exact ⟨trivial, ih⟩

theorem Within.foldlM {σ : Type} {body : σ → β → Program Reply σ} {invariant : σ → Prop}
    {items : List β} {state : σ}
    (step : ∀ item ∈ items, ∀ state, invariant state → (body state item).Within allowed invariant)
    (start : invariant state) :
    (items.foldlM body state).Within allowed invariant := by
  induction items generalizing state with
  | nil => exact start
  | cons item rest ih =>
    rw [List.foldlM_cons]
    refine (step item List.mem_cons_self state start).bind ?_
    intro next hnext
    exact ih (fun other hmem => step other (List.mem_cons_of_mem _ hmem)) hnext

theorem AllCalls.bind (first : program.AllCalls allowed)
    (second : ∀ value, (continuation value).AllCalls allowed) :
    (program >>= continuation).AllCalls allowed :=
  Within.bind first fun value _ => second value

end Program

/-! ## Semantics and runs -/

/-- What the calls of a program do to a world, and what others may do to it
between two calls. -/
structure Semantics (World : Type) {Call : Type} (Reply : Call → Type) where
  interfere : World → World → Prop
  answers : World → (request : Call) → Reply request → World → Prop
  interfere_refl : ∀ world, interfere world world
  interfere_trans : ∀ {first second third},
    interfere first second → interfere second third → interfere first third

def Semantics.undisturbed {World Call : Type} {Reply : Call → Type}
    (answers : World → (request : Call) → Reply request → World → Prop) :
    Semantics World Reply where
  interfere := Eq
  answers := answers
  interfere_refl := fun _ => rfl
  interfere_trans := Eq.trans

/-- Only calls that meet a condition are answered. -/
def Semantics.restrict {World Call : Type} {Reply : Call → Type}
    (semantics : Semantics World Reply) (admits : World → Call → Prop) :
    Semantics World Reply :=
  { semantics with
    answers := fun world request reply after =>
      semantics.answers world request reply after ∧ admits world request }

/-- One answered call with the worlds around it. -/
structure Exchange (World : Type) {Call : Type} (Reply : Call → Type) where
  before : World
  request : Call
  reply : Reply request
  after : World

section Runs

variable {World Call : Type} {Reply : Call → Type} {α β : Type}

/-- A finite run of a program: interference and answered calls in any order.
The list records the answered calls. -/
inductive Run (semantics : Semantics World Reply) :
    World → Program Reply α → List (Exchange World Reply) →
      World → Program Reply α → Prop where
  | refl {world : World} {program : Program Reply α} :
      Run semantics world program [] world program
  | interfere {world middle final : World}
      {program rest : Program Reply α}
      {trace : List (Exchange World Reply)}
      (change : semantics.interfere world middle)
      (tail : Run semantics middle program trace final rest) :
      Run semantics world program trace final rest
  | call {world middle final : World} {request : Call}
      {next : Reply request → Program Reply α} {reply : Reply request}
      {rest : Program Reply α} {trace : List (Exchange World Reply)}
      (answer : semantics.answers world request reply middle)
      (tail : Run semantics middle (next reply) trace final rest) :
      Run semantics world (.call request next)
        (⟨world, request, reply, middle⟩ :: trace) final rest

end Runs

/-! ## Executing programs -/

section Execution

variable {World Call : Type} {Reply : Call → Type} {α : Type}

structure Execution (World : Type) {Call : Type} (Reply : Call → Type)
    (α : Type) where
  trace : List (Exchange World Reply)
  final : World
  value : α

/-- Run a program against one chosen answer for each call. -/
def execute (handle : World → (request : Call) → Reply request × World) :
    Program Reply α → World → Execution World Reply α
  | .done value, world => ⟨[], world, value⟩
  | .call request next, world =>
    let answer := handle world request
    let rest := execute handle (next answer.1) answer.2
    { rest with
      trace := ⟨world, request, answer.1, answer.2⟩ :: rest.trace }

/-- The semantics of the chosen answers, undisturbed. -/
def Semantics.scripted (handle : World → (request : Call) → Reply request × World) :
    Semantics World Reply :=
  .undisturbed fun world request reply after =>
    handle world request = (reply, after)

variable {handle : World → (request : Call) → Reply request × World}
  {semantics : Semantics World Reply}

theorem execute_invariant {invariant : World → Prop}
    (preserved : ∀ world request, invariant world → invariant (handle world request).2)
    (program : Program Reply α) {world : World} (holds : invariant world) :
    invariant (execute handle program world).final := by
  induction program generalizing world with
  | done value => exact holds
  | call request next ih => exact ih _ (preserved world request holds)

/-- The chosen answers of an execution are answers of the semantics. -/
def Answered (semantics : Semantics World Reply) (trace : List (Exchange World Reply)) :
    Prop :=
  ∀ exchange ∈ trace, semantics.answers exchange.before exchange.request
    exchange.reply exchange.after

theorem Answered.restrict {trace : List (Exchange World Reply)} {admits : World → Call → Prop}
    (answered : Answered semantics trace)
    (admitted : ∀ exchange ∈ trace, admits exchange.before exchange.request) :
    Answered (semantics.restrict admits) trace :=
  fun exchange hmem => ⟨answered exchange hmem, admitted exchange hmem⟩

theorem execute_answered
    (sound : ∀ world request, semantics.answers world request
      (handle world request).1 (handle world request).2) (program : Program Reply α)
    (world : World) :
    Answered semantics (execute handle program world).trace := by
  induction program generalizing world with
  | done value => simp [execute, Answered]
  | call request next ih =>
    intro exchange hmem
    rcases List.mem_cons.mp hmem with rfl | hrest
    · exact sound world request
    · exact ih _ _ exchange hrest

theorem run_execute {program : Program Reply α} {world : World}
    (answered : Answered semantics (execute handle program world).trace) :
    Run semantics world program (execute handle program world).trace
      (execute handle program world).final
      (.done (execute handle program world).value) := by
  induction program generalizing world with
  | done value => exact .refl
  | call request next ih =>
    have hhead := answered _ List.mem_cons_self
    have hrest : Answered semantics (execute handle
        (next (handle world request).1) (handle world request).2).trace :=
      fun exchange hmem => answered exchange (List.mem_cons_of_mem _ hmem)
    exact .call hhead (ih _ hrest)

end Execution

end Interaction
