import K8sR8r.InteractionRuns

/-!
# Programs that stop at a fault

A faulty world answers as usual, except that some replies may be replaced by a
fault that changes nothing.  A program that stops at every fault does nothing
in a faulty world that it would not have done without the faults: its run is
an initial piece of the faultless one, with at most one fault at its end.
-/

namespace Interaction

variable {World Call : Type} {Reply : Call → Type} {α β : Type}

/-- The chosen answers, or a fault in their place. -/
def Semantics.faulty (handle : World → (request : Call) → Reply request × World)
    (faults : (request : Call) → Reply request → Prop) :
    Semantics World Reply :=
  .undisturbed fun world request reply after =>
    handle world request = (reply, after) ∨ faults request reply ∧ after = world

namespace Program

/-- After a fault no call follows, and the program ends in a value that says
so. -/
def StopsAt (faults : (request : Call) → Reply request → Prop) (stopped : α → Prop) :
    Program Reply α → Prop
  | .done _ => True
  | .call request next => ∀ reply,
      (faults request reply → ∃ value, next reply = .done value ∧ stopped value) ∧
      StopsAt faults stopped (next reply)

variable {faults : (request : Call) → Reply request → Prop}

variable {program : Program Reply α} {continuation : α → Program Reply β}

theorem StopsAt.bind {middle : α → Prop} {stopped : β → Prop}
    (first : program.StopsAt faults middle)
    (passed : ∀ value, middle value → ∃ result, continuation value = .done result ∧ stopped result)
    (second : ∀ value, (continuation value).StopsAt faults stopped) :
    (program >>= continuation).StopsAt faults stopped := by
  induction program with
  | done value => exact second value
  | call request next ih =>
    intro reply
    obtain ⟨hfault, hrest⟩ := first reply
    refine ⟨?_, ih reply hrest⟩
    intro hreply
    obtain ⟨value, hdone, hmiddle⟩ := hfault hreply
    obtain ⟨result, hresult, hstopped⟩ := passed value hmiddle
    refine ⟨result, ?_, hstopped⟩
    rw [← hresult]
    beta_reduce
    rw [hdone]
    rfl

theorem StopsAt.of_allCalls {stopped : α → Prop}
    (spared : program.AllCalls fun request => ∀ reply, ¬ faults request reply) :
    program.StopsAt faults stopped := by
  induction program with
  | done value => trivial
  | call request next ih =>
    intro reply
    exact ⟨fun hfault => (spared.1 reply hfault).elim, ih reply (spared.2 reply)⟩

theorem StopsAt.after {stopped : β → Prop}
    (spared : program.AllCalls fun request => ∀ reply, ¬ faults request reply)
    (second : ∀ value, (continuation value).StopsAt faults stopped) :
    (program >>= continuation).StopsAt faults stopped := by
  have hfirst : program.StopsAt faults fun _ => False :=
    .of_allCalls spared
  exact hfirst.bind (fun _ hfalse => hfalse.elim) second

end Program

/-- What a run with faults does is a fault, or is done without them as well. -/
theorem Program.StopsAt.run {handle : World → (request : Call) → Reply request × World}
    {faults : (request : Call) → Reply request → Prop} {stopped : α → Prop}
    {program rest : Program Reply α} {world final : World} {trace : List (Exchange World Reply)}
    (stops : program.StopsAt faults stopped)
    (run : Run (.faulty handle faults) world program trace final rest) :
    ∀ exchange ∈ trace, exchange ∈ (execute handle program world).trace ∨
        faults exchange.request exchange.reply := by
  induction run with
  | refl => simp
  | interfere change _ ih =>
    cases change
    exact ih stops
  | @call world middle final request next reply rest trace answer tail ih =>
    obtain ⟨hfault, hnext⟩ := stops reply
    intro exchange hmem
    rcases answer with hhandle | ⟨hreply, rfl⟩
    · have htrace : (execute handle (.call request next) world).trace =
          ⟨world, request, reply, middle⟩ :: (execute handle (next reply) middle).trace := by
        simp only [execute, hhandle]
      rw [htrace]
      rcases List.mem_cons.mp hmem with rfl | hrest
      · exact .inl List.mem_cons_self
      · exact (ih hnext exchange hrest).imp_left (List.mem_cons_of_mem _)
    · -- The fault was the last thing that happened.
      obtain ⟨value, hdone, _⟩ := hfault hreply
      rw [hdone] at tail
      obtain ⟨rfl, _⟩ := tail.of_done
      rw [List.mem_singleton.mp hmem]
      exact .inr hreply

end Interaction
