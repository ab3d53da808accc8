import K8sR8r.InteractionSafety

/-!
# Programs under a promise about replies

What a program does often depends on what it is told.  When every reply it can
get keeps a promise, its calls and its result are known without looking at the
world; the world enters once, where the promise is shown to be kept.
-/

namespace Interaction

variable {World Call : Type} {Reply : Call → Type} {α β σ : Type}

namespace Program

/-- As long as the replies keep the promise, every call satisfies `allowed`,
and the program ends in a value that satisfies `post`. -/
def Promised (promise : (request : Call) → Reply request → Prop) (allowed : Call → Prop)
    (post : α → Prop) : Program Reply α → Prop
  | .done value => post value
  | .call request next => allowed request ∧
      ∀ reply, promise request reply → Promised promise allowed post (next reply)

variable {promise : (request : Call) → Reply request → Prop} {allowed : Call → Prop}

theorem Within.promised {post : α → Prop} {program : Program Reply α}
    (within : program.Within allowed post) :
    program.Promised promise allowed post := by
  induction program with
  | done value => exact within
  | call request next ih =>
    exact ⟨within.1, fun reply _ => ih reply (within.2 reply)⟩

theorem Promised.bind {middle : α → Prop} {post : β → Prop} {program : Program Reply α}
    {continuation : α → Program Reply β} (first : program.Promised promise allowed middle)
    (second : ∀ value, middle value → (continuation value).Promised promise allowed post) :
    (program >>= continuation).Promised promise allowed post := by
  induction program with
  | done value => exact second value first
  | call request next ih =>
    exact ⟨first.1, fun reply hreply => ih reply (first.2 reply hreply)⟩

theorem Promised.foldlM {body : σ → β → Program Reply σ} {invariant : σ → Prop} {items : List β}
    {state : σ}
    (step : ∀ item ∈ items, ∀ state, invariant state →
      (body state item).Promised promise allowed invariant) (start : invariant state) :
    (items.foldlM body state).Promised promise allowed invariant := by
  induction items generalizing state with
  | nil => exact start
  | cons item rest ih =>
    rw [List.foldlM_cons]
    apply (step item List.mem_cons_self state start).bind
    intro next hnext
    exact ih (fun other hmem => step other (List.mem_cons_of_mem _ hmem)) hnext

end Program

/-- In a world that keeps the promise the program is safe. -/
theorem Safe.of_promised {semantics : Semantics World Reply} {guard : World → Call → Prop}
    {promise : (request : Call) → Reply request → Prop} {allowed : Call → Prop} {post : α → Prop}
    {program : Program Reply α} {assertion : World → Prop} {world : World}
    (promised : program.Promised promise allowed post) (stable : Stable semantics assertion)
    (holds : assertion world)
    (admitted : ∀ {current request}, allowed request → assertion current → guard current request)
    (kept : ∀ {current request reply after}, allowed request →
      assertion current → semantics.answers current request reply after →
        promise request reply ∧ assertion after) :
    Safe semantics guard program (fun value current => post value ∧ assertion current) world := by
  induction program generalizing world with
  | done value =>
    exact fun current change => ⟨promised, stable holds change⟩
  | call request next ih =>
    apply Safe.call_of_stable stable holds
    · exact fun current hcurrent => admitted promised.1 hcurrent
    · intro current reply after hcurrent answer
      obtain ⟨hreply, hafter⟩ := kept promised.1 hcurrent answer
      exact ih reply (promised.2 reply hreply) hafter

end Interaction
