import K8sR8r.InteractionSafety

/-!
# Programs that are held to what they were told

A guard may depend on the exchanges so far, not only on the present world.  The
logged semantics carries them along; it changes nothing about the program, so
safety in it speaks about the ordinary runs.
-/

namespace Interaction

variable {World Call : Type} {Reply : Call → Type} {α : Type}

/-- A world together with the exchanges that led to it. -/
structure Logged (World : Type) {Call : Type} (Reply : Call → Type) where
  world : World
  log : List (Exchange World Reply)

def Semantics.logged (semantics : Semantics World Reply) :
    Semantics (Logged World Reply) Reply where
  interfere := fun before after =>
    semantics.interfere before.world after.world ∧ after.log = before.log
  answers := fun before request reply after =>
    semantics.answers before.world request reply after.world ∧
      after.log = before.log ++ [⟨before.world, request, reply, after.world⟩]
  interfere_refl := fun state => ⟨semantics.interfere_refl state.world, rfl⟩
  interfere_trans := fun head tail =>
    ⟨semantics.interfere_trans head.1 tail.1, tail.2.trans head.2⟩

namespace Safe

variable {semantics : Semantics World Reply}

variable {program : Program Reply α}

/-- What does not look at the log is not affected by it. -/
theorem logged {guard : World → Call → Prop} {post : α → World → Prop}
    {state : Logged World Reply} (safe : Safe semantics guard program post state.world) :
    Safe semantics.logged (fun state => guard state.world) program
      (fun value state => post value state.world) state := by
  induction program generalizing state with
  | done value => exact fun current change => safe _ change.1
  | call request next ih =>
    intro current change
    obtain ⟨hguard, hnext⟩ := safe _ change.1
    exact ⟨hguard, fun reply after answer =>
      ih reply (hnext reply after.world answer.1)⟩

/-- Every call of a run met its guard at the log it had by then. -/
theorem run_logged {guard : Logged World Reply → Call → Prop} {rest : Program Reply α}
    {post : α → Logged World Reply → Prop} {world final : World}
    {log trace : List (Exchange World Reply)}
    (safe : Safe semantics.logged guard program post ⟨world, log⟩)
    (hrun : Run semantics world program trace final rest) :
    ∀ earlier exchange later, trace = earlier ++ exchange :: later →
      guard ⟨exchange.before, log ++ earlier⟩ exchange.request := by
  induction hrun generalizing log with
  | refl =>
    intro earlier exchange later hsplit
    simp at hsplit
  | @interfere world current _ _ _ _ change _ ih =>
    have hchange : semantics.logged.interfere ⟨world, log⟩ ⟨current, log⟩ := ⟨change, rfl⟩
    exact ih (safe.interfered hchange)
  | @call world middle final request next reply rest trace answer _ ih =>
    obtain ⟨hguard, hnext⟩ := safe _ (semantics.logged.interfere_refl _)
    have hlogged := hnext reply ⟨middle, log ++ [⟨world, request, reply, middle⟩]⟩ ⟨answer, rfl⟩
    intro earlier exchange later hsplit
    cases earlier with
    | nil =>
      rw [List.nil_append, List.cons.injEq] at hsplit
      obtain ⟨rfl, _⟩ := hsplit
      rwa [List.append_nil]
    | cons first earlier =>
      rw [List.cons_append, List.cons.injEq] at hsplit
      obtain ⟨rfl, hsplit⟩ := hsplit
      have hexchange := ih hlogged earlier exchange later hsplit
      rwa [List.append_assoc] at hexchange

end Safe

end Interaction
