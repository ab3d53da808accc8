import K8sR8r.InteractionSafety

/-!
# Taking runs apart

A completed run of a sequence is a completed run of its first half followed by
one of its second half, and a completed loop is a chain of completed bodies.
Where a statement is about what a part of a program did, its run is cut out of
the run of the whole.
-/

namespace Interaction

variable {World Call : Type} {Reply : Call → Type} {α β σ : Type}
  {semantics : Semantics World Reply}

variable {world final : World} {value : α} {trace : List (Exchange World Reply)}
  {program : Program Reply α} {body : σ → β → Program Reply σ} {items : List β} {state last : σ}

theorem Run.of_done {rest : Program Reply α}
    (run : Run semantics world (.done value) trace final rest) :
    trace = [] ∧ rest = .done value ∧ semantics.interfere world final := by
  generalize hprogram : Program.done value = program at run
  induction run with
  | refl => exact ⟨rfl, rfl, semantics.interfere_refl _⟩
  | interfere change _ ih =>
    obtain ⟨htrace, hrest, hfinal⟩ := ih hprogram
    exact ⟨htrace, hrest, semantics.interfere_trans change hfinal⟩
  | call => cases hprogram

theorem Run.of_call {request : Call} {next : Reply request → Program Reply α}
    (run : Run semantics world (.call request next) trace final (.done value)) :
    ∃ current reply after rest, semantics.interfere world current ∧
      semantics.answers current request reply after ∧
      trace = ⟨current, request, reply, after⟩ :: rest ∧
      Run semantics after (next reply) rest final (.done value) := by
  generalize hprogram : Program.call request next = program at run
  generalize hrest : (Program.done value : Program Reply α) = rest at run
  induction run with
  | refl =>
    subst hrest
    cases hprogram
  | interfere change _ ih =>
    obtain ⟨current, reply, after, rest, hcurrent, hanswer⟩ :=
      ih hprogram hrest
    exact ⟨current, reply, after, rest, semantics.interfere_trans change hcurrent, hanswer⟩
  | call answer tail _ =>
    cases hprogram
    subst hrest
    exact ⟨_, _, _, _, semantics.interfere_refl _, answer, rfl, tail⟩

theorem Run.split {continuation : α → Program Reply β} {value : β}
    (run : Run semantics world (program >>= continuation) trace final (.done value)) :
    ∃ first second middle result, trace = first ++ second ∧
      Run semantics world program first middle (.done result) ∧
      Run semantics middle (continuation result) second final (.done value) := by
  generalize hwhole : program >>= continuation = whole at run
  generalize hrest : (Program.done value : Program Reply β) = rest at run
  induction run generalizing program with
  | refl =>
    subst hwhole
    cases program with
    | done result =>
      exact ⟨[], [], _, result, rfl, .refl, .refl⟩
    | call request next => cases hrest
  | interfere change _ ih =>
    obtain ⟨first, second, middle, result, htrace, hfirst, hsecond⟩ :=
      ih hwhole hrest
    exact ⟨first, second, middle, result, htrace, .interfere change hfirst, hsecond⟩
  | @call world middle final request next reply rest trace answer tail ih =>
    cases program with
    | done result =>
      refine ⟨[], _, world, result, rfl, .refl, ?_⟩
      have hprogram : continuation result = .call request next := hwhole
      rw [hprogram]
      exact .call answer tail
    | call other following =>
      have hcall : Program.call other (fun reply =>
          following reply >>= continuation) = .call request next :=
        hwhole
      rw [Program.call.injEq] at hcall
      obtain ⟨rfl, hnext⟩ := hcall
      have hnext : (fun reply => following reply >>= continuation) =
        next := eq_of_heq hnext
      obtain ⟨first, second, point, result, htrace, hfirst, hsecond⟩ :=
        ih (congrFun hnext reply) hrest
      exact ⟨_ :: first, second, point, result, by rw [htrace]; rfl,
        .call answer hfirst, hsecond⟩

inductive Loop
    (semantics : Semantics World Reply) (body : σ → β → Program Reply σ) :
    World → σ → List β → List (Exchange World Reply) → World → σ → Prop where
  | nil {world final : World} {state : σ}
      (change : semantics.interfere world final) :
      Loop semantics body world state [] [] final state
  | cons {world middle final : World} {state next last : σ} {item : β}
      {items : List β} {first second : List (Exchange World Reply)}
      (head : Run semantics world (body state item) first middle
        (.done next))
      (tail : Loop semantics body middle next items second final last) :
      Loop semantics body world state (item :: items) (first ++ second) final
        last

theorem Run.loop (run : Run semantics world (items.foldlM body state) trace final (.done last)) :
    Loop semantics body world state items trace final last := by
  induction items generalizing world state trace with
  | nil =>
    obtain ⟨rfl, hlast, hfinal⟩ := run.of_done
    obtain rfl : last = state := Program.done.inj hlast
    exact .nil hfinal
  | cons item items ih =>
    rw [List.foldlM_cons] at run
    obtain ⟨first, second, middle, next, rfl, hfirst, hsecond⟩ := run.split
    exact .cons hfirst (ih hsecond)

theorem Loop.invariant (loop : Loop semantics body world state items trace final last)
    (invariant : σ → World → Prop) (stable : ∀ state, Stable semantics (invariant state))
    (step : ∀ {world middle state next item segment}, item ∈ items →
      Run semantics world (body state item) segment middle (.done next) →
        invariant state world → invariant next middle) (start :
    invariant state world) : invariant last final := by
  induction loop with
  | nil change => exact stable _ start change
  | cons head _ ih =>
    refine ih (fun hmem => step (List.mem_cons_of_mem _ hmem)) ?_
    exact step List.mem_cons_self head start

theorem Loop.trace_invariant {past : List (Exchange World Reply)}
    (loop : Loop semantics body world state items trace final last)
    (invariant : σ → World → List (Exchange World Reply) → Prop)
    (stable : ∀ state past, Stable semantics fun world => invariant state world past)
    (step : ∀ {world middle state next item past segment}, item ∈ items →
      Run semantics world (body state item) segment middle (.done next) →
        invariant state world past →
          invariant next middle (past ++ segment)) (start : invariant state world past) :
    invariant last final (past ++ trace) := by
  induction loop generalizing past with
  | nil change =>
    rw [List.append_nil]
    exact stable _ _ start change
  | cons head _ ih =>
    rw [← List.append_assoc]
    refine ih (fun hmem => step (List.mem_cons_of_mem _ hmem)) ?_
    exact step List.mem_cons_self head start

theorem Run.value_of_within {allowed : Call → Prop} {post : α → Prop}
    (within : program.Within allowed post)
    (run : Run semantics world program trace final (.done value)) :
    post value ∧ ∀ exchange ∈ trace, allowed exchange.request := by
  generalize hrest : (Program.done value : Program Reply α) = rest at run
  induction run with
  | refl =>
    subst hrest
    exact ⟨within, by simp⟩
  | interfere _ _ ih => exact ih within hrest
  | call answer _ ih =>
    obtain ⟨hpost, htrace⟩ := ih (within.2 _) hrest
    refine ⟨hpost, ?_⟩
    intro exchange hmem
    rcases List.mem_cons.mp hmem with rfl | hmem
    · exact within.1
    · exact htrace exchange hmem

theorem Loop.requests {allowed : Call → Prop}
    (loop : Loop semantics body world state items trace final last)
    (calls : ∀ state item, (body state item).AllCalls allowed) :
    ∀ exchange ∈ trace, allowed exchange.request := by
  induction loop with
  | nil => simp
  | cons head _ ih =>
    intro exchange hmem
    rcases List.mem_append.mp hmem with hmem | hmem
    · exact (head.value_of_within (calls _ _)).2 exchange hmem
    · exact ih exchange hmem

end Interaction
