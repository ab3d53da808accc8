import K8sR8r.InteractionRuns

/-!
# Two programs in lockstep

A pairing says which calls of two programs correspond and when their replies
do.  Two programs are in lockstep when they issue corresponding calls for as
long as the replies correspond, and then end in related values.

Nothing is assumed about what the calls do.  Two worlds enter at the end: if
related worlds answer corresponding calls with corresponding replies, the two
runs are the same up to the pairing.
-/

namespace Interaction

variable {World Call : Type} {Reply : Call → Type} {α β γ δ σ τ ι : Type}

/-- Corresponding calls, with the correspondence of their replies. -/
abbrev Pairing (Reply : Call → Type) :=
  (first second : Call) → (Reply first → Reply second → Prop) → Prop

def Pairing.Pairs (pairing : Pairing Reply) (first second : Call) : Prop :=
  ∃ agree, pairing first second agree

namespace Program

def Lockstep (pairing : Pairing Reply) (post : α → β → Prop) :
    Program Reply α → Program Reply β → Prop
  | .done first, .done second => post first second
  | .call first next, .call second following =>
    ∃ agree, pairing first second agree ∧ ∀ reply answer, agree reply answer →
        Lockstep pairing post (next reply) (following answer)
  | .done _, .call _ _ => False
  | .call _ _, .done _ => False

variable {pairing : Pairing Reply}

variable {next : α → Program Reply γ} {program : Program Reply α}

theorem Lockstep.bind {middle : α → β → Prop} {post : γ → δ → Prop} {first : Program Reply α}
    {second : Program Reply β} {following : β → Program Reply δ}
    (head : first.Lockstep pairing middle second)
    (tail : ∀ value other, middle value other →
      (next value).Lockstep pairing post (following other)) :
    (first >>= next).Lockstep pairing post (second >>= following) := by
  induction first generalizing second with
  | done value =>
    cases second with
    | done other => exact tail value other head
    | call request answers => exact head.elim
  | call request replies ih =>
    cases second with
    | done other => exact head.elim
    | call other answers =>
      obtain ⟨agree, hpair, hnext⟩ := head
      refine ⟨agree, hpair, ?_⟩
      intro reply answer hagree
      exact ih reply (hnext reply answer hagree)

/-- A program whose calls are answered alike is in lockstep with itself. -/
theorem Lockstep.refl (plain : program.AllCalls fun request => pairing request request Eq) :
    program.Lockstep pairing Eq program := by
  induction program with
  | done value => exact rfl
  | call request next ih =>
    refine ⟨Eq, plain.1, ?_⟩
    rintro reply _ rfl
    exact ih reply (plain.2 reply)

theorem Lockstep.after {post : γ → δ → Prop} {following : α → Program Reply δ}
    (plain : program.AllCalls fun request => pairing request request Eq)
    (tail : ∀ value, (next value).Lockstep pairing post (following value)) :
    (program >>= next).Lockstep pairing post (program >>= following) := by
  apply (Lockstep.refl plain).bind
  rintro value _ rfl
  exact tail value

theorem Lockstep.foldlM {body : σ → ι → Program Reply σ} {other : τ → ι → Program Reply τ}
    {invariant : σ → τ → Prop} {items : List ι} {state : σ} {twin : τ}
    (step : ∀ item ∈ items, ∀ state twin, invariant state twin →
      (body state item).Lockstep pairing invariant (other twin item))
    (start : invariant state twin) :
    (items.foldlM body state).Lockstep pairing invariant (items.foldlM other twin) := by
  induction items generalizing state twin with
  | nil => exact start
  | cons item rest ih =>
    rw [List.foldlM_cons, List.foldlM_cons]
    apply (step item List.mem_cons_self state twin start).bind
    intro next following hnext
    exact ih (fun later hmem => step later (List.mem_cons_of_mem _ hmem)) hnext

end Program

/-! ## Runs -/

/-- As long as the requests correspond, so do the outcomes. -/
def Accords (pairing : Pairing Reply)
    (outcome : Exchange World Reply → Exchange World Reply → Prop) :
    List (Exchange World Reply) → List (Exchange World Reply) → Prop
  | first :: rest, second :: others =>
    pairing.Pairs first.request second.request →
      outcome first second ∧ Accords pairing outcome rest others
  | _, _ => True

variable {outcome : Exchange World Reply → Exchange World Reply → Prop}
  {trace : List (Exchange World Reply)}

theorem Accords.of_forall₂ {pairing : Pairing Reply} {others : List (Exchange World Reply)}
    (outcomes : List.Forall₂ outcome trace others) :
    Accords pairing outcome trace others := by
  induction outcomes with
  | nil => trivial
  | cons head _ ih => exact fun _ => ⟨head, ih⟩

/-- Two completed runs of programs in lockstep issue corresponding calls. -/
theorem Program.Lockstep.runs {pairing : Pairing Reply} {post : α → β → Prop}
    {answers others : World → (request : Call) → Reply request → World → Prop}
    {related : World → World → Prop}
    (step : ∀ first second : Exchange World Reply, ∀ agree,
      pairing first.request second.request agree →
      answers first.before first.request first.reply first.after →
      others second.before second.request second.reply second.after →
      related first.before second.before → outcome first second →
        agree first.reply second.reply ∧ related first.after second.after)
    {program : Program Reply α} {twin : Program Reply β} {world world' final final' : World}
    {value : α} {value' : β} {trace' : List (Exchange World Reply)}
    (lockstep : program.Lockstep pairing post twin)
    (run : Run (.undisturbed answers) world program trace final (.done value))
    (run' : Run (.undisturbed others) world' twin trace' final' (.done value'))
    (start : related world world') (accords : Accords pairing outcome trace trace') :
    List.Forall₂ (fun first second =>
        pairing.Pairs first.request second.request) trace trace' ∧
      post value value' := by
  induction program generalizing twin world world' trace trace' with
  | done result =>
    cases twin with
    | call request next => exact lockstep.elim
    | done other =>
      obtain ⟨rfl, hvalue, _⟩ := run.of_done
      obtain ⟨rfl, hvalue', _⟩ := run'.of_done
      obtain rfl : value = result := Program.done.inj hvalue
      obtain rfl : value' = other := Program.done.inj hvalue'
      exact ⟨.nil, lockstep⟩
  | call request next ih =>
    cases twin with
    | done other => exact lockstep.elim
    | call request' next' =>
      obtain ⟨_, reply, after, rest, rfl, hanswer, rfl, hrest⟩ :=
        run.of_call
      obtain ⟨_, reply', after', rest', rfl, hanswer', rfl, hrest'⟩ :=
        run'.of_call
      obtain ⟨agree, hpair, hnext⟩ := lockstep
      have hpairs : pairing.Pairs request request' := ⟨agree, hpair⟩
      obtain ⟨houtcome, haccords⟩ := accords hpairs
      obtain ⟨hagree, hafter⟩ := step ⟨_, request, reply, after⟩
        ⟨_, request', reply', after'⟩ agree hpair hanswer hanswer' start
        houtcome
      obtain ⟨htrace, hpost⟩ := ih reply (hnext reply reply' hagree) hrest hrest' hafter haccords
      exact ⟨.cons hpairs htrace, hpost⟩

end Interaction
