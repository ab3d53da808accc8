import Mathlib.Data.Finmap

/-!
# The event limiter

`internal/telemetry/events.go`: repeated events are suppressed for a cooldown.
The limiter remembers one message for every object and reason, the last one it
let through, so a message that alternates with another one of the same reason
is never recognised as a repeat.
-/

namespace K8sR8r

/-! ## The limiter -/

structure EventKey where
  object : String
  reason : String
  deriving DecidableEq

structure EventEntry where
  message : String
  time : Int
  deriving DecidableEq

structure EventLimiter where
  cooldown : Int
  last : Finmap fun _ : EventKey => EventEntry

/-- Five minutes, in nanoseconds. -/
def defaultEventCooldown : Int := 5 * 60 * 1000000000

def newEventLimiter (cooldown : Int) : EventLimiter where
  cooldown := if cooldown ≤ 0 then defaultEventCooldown else cooldown
  last := ∅

/-- `Allow` at the time that the limiter's clock shows. -/
def EventLimiter.allow (limiter : EventLimiter) (now : Int) (object reason message : String) :
    Bool × EventLimiter :=
  let key : EventKey := ⟨object, reason⟩
  let repeated := (limiter.last.lookup key).any fun entry =>
    entry.message = message && now - entry.time < limiter.cooldown
  if repeated then (false, limiter)
  else
    (true, { limiter with last := limiter.last.insert key ⟨message, now⟩ })

/-! ## Histories of calls -/

structure EventCall where
  time : Int
  object : String
  reason : String
  message : String

def EventCall.key (call : EventCall) : EventKey := ⟨call.object, call.reason⟩

def EventLimiter.after (limiter : EventLimiter) (calls : ℕ → EventCall) : ℕ → EventLimiter
  | 0 => limiter
  | n + 1 =>
    ((limiter.after calls n).allow (calls n).time (calls n).object
      (calls n).reason (calls n).message).2

def EventLimiter.emits (limiter : EventLimiter) (calls : ℕ → EventCall) (n : ℕ) : Bool :=
  ((limiter.after calls n).allow (calls n).time (calls n).object
    (calls n).reason (calls n).message).1

section History

variable {limiter : EventLimiter} {calls : ℕ → EventCall}

theorem EventLimiter.after_cooldown (n : ℕ) :
    (limiter.after calls n).cooldown = limiter.cooldown := by
  induction n with
  | zero => rfl
  | succ n ih =>
    rw [← ih, EventLimiter.after, EventLimiter.allow]
    split_ifs <;> rfl

variable {n : ℕ}

/-- A call is suppressed when the remembered message of its key is the same and
recent. -/
theorem EventLimiter.emits_eq_false_iff :
    limiter.emits calls n = false ↔
      ∃ entry,
        (limiter.after calls n).last.lookup (calls n).key = some entry ∧
        entry.message = (calls n).message ∧
        (calls n).time - entry.time < limiter.cooldown := by
  unfold EventLimiter.emits EventLimiter.allow
  rw [EventLimiter.after_cooldown]
  cases hlast : (limiter.after calls n).last.lookup (calls n).key with
  | none =>
    have hlast' : (limiter.after calls n).last.lookup
        ⟨(calls n).object, (calls n).reason⟩ = none := hlast
    simp [hlast']
  | some entry =>
    have hlast' : (limiter.after calls n).last.lookup
        ⟨(calls n).object, (calls n).reason⟩ = some entry := hlast
    by_cases hrepeat : entry.message = (calls n).message ∧
        (calls n).time - entry.time < limiter.cooldown <;>
      simp [hlast', hrepeat]

theorem EventLimiter.after_succ_of_suppressed (hsuppressed : limiter.emits calls n = false) :
    limiter.after calls (n + 1) = limiter.after calls n := by
  unfold EventLimiter.emits EventLimiter.allow at hsuppressed
  rw [EventLimiter.after, EventLimiter.allow]
  dsimp only at hsuppressed ⊢
  split_ifs at hsuppressed ⊢
  rfl

theorem EventLimiter.lookup_after_succ_of_emitted (hemits : limiter.emits calls n = true)
    (key : EventKey) :
    (limiter.after calls (n + 1)).last.lookup key =
      if key = (calls n).key then some ⟨(calls n).message, (calls n).time⟩
      else (limiter.after calls n).last.lookup key := by
  unfold EventLimiter.emits EventLimiter.allow at hemits
  rw [EventLimiter.after, EventLimiter.allow]
  dsimp only at hemits ⊢
  split_ifs at hemits ⊢ with hrepeat hkey
  · subst hkey
    exact Finmap.lookup_insert _
  · exact Finmap.lookup_insert_of_ne _ hkey

/-- What the limiter remembers of the first calls: for every key the last call
it let through, since which the key has only repeated itself. -/
structure EventLimiter.Remembers
    (limiter : EventLimiter) (calls : ℕ → EventCall) (n : ℕ) : Prop where
  unseen : ∀ key, (limiter.after calls n).last.lookup key = none →
    ∀ i < n, (calls i).key ≠ key
  seen : ∀ key entry,
    (limiter.after calls n).last.lookup key = some entry →
      ∃ i < n, (calls i).key = key ∧ (calls i).message = entry.message ∧
        (calls i).time = entry.time ∧ limiter.emits calls i = true ∧
        ∀ k < n, i < k → (calls k).key = key →
          (calls k).message = entry.message ∧
            limiter.emits calls k = false

theorem EventLimiter.remembers (hempty : limiter.last = ∅) (n : ℕ) : limiter.Remembers calls n := by
  induction n with
  | zero =>
    constructor
    · intro key _ i hi
      omega
    · intro key entry hentry
      rw [EventLimiter.after, hempty, Finmap.lookup_empty] at hentry
      cases hentry
  | succ n ih =>
    cases hemits : limiter.emits calls n with
    | false =>
      have hsame := EventLimiter.after_succ_of_suppressed hemits
      obtain ⟨current, hcurrent, hmessage, _⟩ :=
        EventLimiter.emits_eq_false_iff.mp hemits
      constructor
      · intro key hnone i hi
        rw [hsame] at hnone
        rcases Nat.lt_succ_iff_lt_or_eq.mp hi with hlt | rfl
        · exact ih.unseen key hnone i hlt
        · rintro rfl
          rw [hcurrent] at hnone
          cases hnone
      · intro key entry hentry
        rw [hsame] at hentry
        obtain ⟨i, hi, hkey, hfirst, htime, hemitted, hsince⟩ :=
          ih.seen key entry hentry
        refine ⟨i, by omega, hkey, hfirst, htime, hemitted, ?_⟩
        intro k hk hik hkeyk
        rcases Nat.lt_succ_iff_lt_or_eq.mp hk with hlt | rfl
        · exact hsince k hlt hik hkeyk
        · subst hkeyk
          rw [hcurrent] at hentry
          cases hentry
          exact ⟨hmessage.symm, hemits⟩
    | true =>
      have hlookup := EventLimiter.lookup_after_succ_of_emitted hemits
      constructor
      · intro key hnone i hi
        rw [hlookup key] at hnone
        split_ifs at hnone with hkey
        rcases Nat.lt_succ_iff_lt_or_eq.mp hi with hlt | rfl
        · exact ih.unseen key hnone i hlt
        · exact fun heq => hkey heq.symm
      · intro key entry hentry
        rw [hlookup key] at hentry
        split_ifs at hentry with hkey
        · cases hentry
          refine ⟨n, by omega, hkey.symm, rfl, rfl, hemits, ?_⟩
          intro k hk hnk
          omega
        · obtain ⟨i, hi, hkeyi, hfirst, htime, hemitted, hsince⟩ :=
            ih.seen key entry hentry
          refine ⟨i, by omega, hkeyi, hfirst, htime, hemitted, ?_⟩
          intro k hk hik hkeyk
          rcases Nat.lt_succ_iff_lt_or_eq.mp hk with hlt | rfl
          · exact hsince k hlt hik hkeyk
          · exact absurd hkeyk.symm hkey

def EventCall.Same (call other : EventCall) : Prop :=
  call.key = other.key ∧ call.message = other.message

/-- Calls that return true for the same event are a cooldown apart. -/
def EventLimiter.Coalesces (limiter : EventLimiter) (calls : ℕ → EventCall) (n : ℕ) : Prop :=
  ∀ i j, i < j → j < n → (calls i).Same (calls j) →
    limiter.emits calls i = true → limiter.emits calls j = true →
      limiter.cooldown ≤ (calls j).time - (calls i).time

/-- A message that nobody has reported before for its object and reason gets
through. -/
def EventLimiter.ShowsNew (limiter : EventLimiter) (calls : ℕ → EventCall) (n : ℕ) : Prop :=
  ∀ j < n, (∀ i < j, ¬ (calls i).Same (calls j)) → limiter.emits calls j = true

/-- Between a call that got through and a repetition of it within the cooldown,
the object and reason report nothing else. -/
def EventLimiter.Uninterrupted (limiter : EventLimiter) (calls : ℕ → EventCall) (n : ℕ) : Prop :=
  ∀ i k j, i < k → k < j → j < n → (calls i).Same (calls j) → limiter.emits calls i = true →
    (calls j).time - (calls i).time < limiter.cooldown →
    (calls k).key = (calls i).key → (calls k).message = (calls i).message

theorem EventLimiter.showsNew (hempty : limiter.last = ∅) (n : ℕ) : limiter.ShowsNew calls n := by
  intro j _ hnew
  by_contra hsuppressed
  rw [Bool.not_eq_true] at hsuppressed
  obtain ⟨entry, hentry, hmessage, _⟩ :=
    EventLimiter.emits_eq_false_iff.mp hsuppressed
  obtain ⟨i, hi, hkey, hfirst, _⟩ :=
    (EventLimiter.remembers hempty j).seen _ entry hentry
  exact hnew i hi ⟨hkey, hfirst.trans hmessage⟩

/-- A repetition within the cooldown after which nothing else was reported is
recognised. -/
theorem EventLimiter.coalesces_of_uninterrupted (hempty : limiter.last = ∅)
    (hordered : ∀ i j, i ≤ j → j < n → (calls i).time ≤ (calls j).time)
    (huninterrupted : limiter.Uninterrupted calls n) :
    limiter.Coalesces calls n := by
  intro i j hij hj hsame hi hemits
  by_contra hrecent
  rw [not_le] at hrecent
  have hremembers : limiter.Remembers calls j :=
    EventLimiter.remembers hempty j
  cases hlast : (limiter.after calls j).last.lookup (calls j).key with
  | none => exact hremembers.unseen _ hlast i hij hsame.1
  | some entry =>
    obtain ⟨last, hlastj, hkey, hmessage, htime, _, hsince⟩ :=
      hremembers.seen _ entry hlast
    -- The remembered call is the earlier one or comes after it.
    have hle : i ≤ last := by
      by_contra hlt
      have hsuppressed := (hsince i hij (by omega) hsame.1).2
      rw [hi] at hsuppressed
      cases hsuppressed
    have hrepeat : entry.message = (calls j).message := by
      rcases Nat.lt_or_eq_of_le hle with hlt | rfl
      · have hmiddle := huninterrupted i last j hlt hlastj hj hsame hi
          hrecent (hkey.trans hsame.1.symm)
        rw [← hmessage, hmiddle, hsame.2]
      · rw [← hmessage, hsame.2]
    have hlater := hordered i last hle (by omega)
    have hfalse : limiter.emits calls j = false :=
      EventLimiter.emits_eq_false_iff.mpr ⟨entry, hlast, hrepeat, by omega⟩
    rw [hemits] at hfalse
    cases hfalse

theorem EventLimiter.uninterrupted_of_coalesces (hempty : limiter.last = ∅)
    (hordered : ∀ i j, i ≤ j → j < n → (calls i).time ≤ (calls j).time)
    (hcoalesces : limiter.Coalesces calls n) :
    limiter.Uninterrupted calls n := by
  intro i k j hik hkj hj hsame hi hrecent hkey
  by_contra hother
  have hsuppressed : limiter.emits calls j = false := by
    rw [← Bool.not_eq_true]
    intro hemits
    have hapart := hcoalesces i j (by omega) hj hsame hi hemits
    omega
  obtain ⟨entry, hentry, hmessage, _⟩ :=
    EventLimiter.emits_eq_false_iff.mp hsuppressed
  obtain ⟨last, hlastj, hkeylast, hlast, htime, hemitted, hsince⟩ :=
    (EventLimiter.remembers hempty j).seen _ entry hentry
  -- The repeated message was let through again after the interruption.
  have hkl : k < last := by
    rcases Nat.lt_trichotomy k last with hlt | rfl | hgt
    · exact hlt
    · exact absurd (hlast.trans (hmessage.trans hsame.2.symm)) hother
    · have hquiet := (hsince k hkj hgt (hkey.trans hsame.1)).1
      exact absurd (hquiet.trans (hmessage.trans hsame.2.symm)) hother
  have hapart := hcoalesces i last (by omega) (by omega)
    ⟨hsame.1.trans hkeylast.symm, hsame.2.trans (hlast.trans hmessage).symm⟩ hi hemitted
  have hlater := hordered last j (by omega) hj
  omega

end History

/-- A fresh limiter coalesces the repeated events of a history exactly when no
message is interrupted by another one of its object and reason; new messages
always get through. -/
theorem events_coalesced_iff (cooldown : Int) (calls : ℕ → EventCall) (n : ℕ)
    (hordered : ∀ i j, i ≤ j → j < n → (calls i).time ≤ (calls j).time) :
    ((newEventLimiter cooldown).Coalesces calls n ∧
      (newEventLimiter cooldown).ShowsNew calls n) ↔
      (newEventLimiter cooldown).Uninterrupted calls n := by
  constructor
  · rintro ⟨hcoalesces, _⟩
    exact EventLimiter.uninterrupted_of_coalesces rfl hordered hcoalesces
  · intro huninterrupted
    exact ⟨EventLimiter.coalesces_of_uninterrupted rfl hordered
      huninterrupted, EventLimiter.showsNew rfl n⟩

namespace Sample

def oneFailingTarget (n : ℕ) : EventCall :=
  ⟨n * 1000000000, "51aa", "Conflict", "conflict on east/app/settings"⟩

def twoFailingTargets (n : ℕ) : EventCall :=
  ⟨n * 1000000000, "51aa", "Conflict",
    if n % 2 = 0 then "conflict on east/app/settings"
    else "conflict on west/app/settings"⟩

end Sample

open Sample

theorem events_coalesced_iff_sample :
    (∀ i j, i ≤ j → j < 10 → (oneFailingTarget i).time ≤ (oneFailingTarget j).time) ∧
    (newEventLimiter 0).Coalesces oneFailingTarget 10 := by
  have hordered : ∀ i j, i ≤ j → j < 10 →
      (oneFailingTarget i).time ≤ (oneFailingTarget j).time := by
    intro i j hij _
    simp only [oneFailingTarget]
    omega
  refine ⟨hordered, ((events_coalesced_iff 0 oneFailingTarget 10 hordered).mpr ?_).1⟩
  intro i k j _ _ _ _ _ _ _
  rfl

/-- Within three seconds the first target's message is emitted twice. -/
theorem alternating_events_repeated :
    (twoFailingTargets 0).Same (twoFailingTargets 2) ∧
    (newEventLimiter 0).emits twoFailingTargets 0 = true ∧
    (newEventLimiter 0).emits twoFailingTargets 2 = true ∧
    (twoFailingTargets 2).time - (twoFailingTargets 0).time < (newEventLimiter 0).cooldown :=
  ⟨⟨rfl, rfl⟩, by decide +kernel, by decide +kernel, by decide⟩

end K8sR8r
