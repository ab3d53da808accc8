import Mathlib.Order.Bounds.Image
import Mathlib.Tactic

/-!
# Streaks of failures

A counter goes up with every failure and back to zero with every success.  A
round of outcomes is a list, true for a failure; the values that the counter
takes at the failures of a round depend on where the round's successes are.
-/

namespace FailureStreaks

def streak (start : ℕ) (round : List Bool) : ℕ :=
  round.foldl (fun count failed => if failed then count + 1 else 0) start

/-- The values of the counter right after each failure of a round. -/
def counts : ℕ → List Bool → List ℕ
  | _, [] => []
  | start, true :: rest => (start + 1) :: counts (start + 1) rest
  | _, false :: rest => counts 0 rest

/-- No failure of the round comes after a success. -/
def Sorted (round : List Bool) : Prop :=
  round.Pairwise fun earlier later => later = true → earlier = true
deriving Decidable

/-- The round starts with its failures. -/
def Steady (round : List Bool) : Prop :=
  round.head? = some true ∧ Sorted round
deriving Decidable

theorem streak_append (start : ℕ) (first second : List Bool) :
    streak start (first ++ second) = streak (streak start first) second := by
  rw [streak, List.foldl_append]
  rfl

theorem counts_append (start : ℕ) (first second : List Bool) : counts start (first ++ second) =
      counts start first ++ counts (streak start first) second := by
  induction first generalizing start with
  | nil => rfl
  | cons failed rest ih =>
    cases failed with
    | true =>
      rw [List.cons_append, counts, counts, ih]
      rfl
    | false =>
      rw [List.cons_append, counts, counts, ih]
      rfl

variable {start : ℕ} {round : List Bool}

theorem counts_eq_nil (hnone : true ∉ round) : counts start round = [] := by
  induction round generalizing start with
  | nil => rfl
  | cons failed rest ih =>
    cases failed with
    | true => exact absurd List.mem_cons_self hnone
    | false => exact ih fun hmem => hnone (List.mem_cons_of_mem _ hmem)

theorem pos_of_mem_counts {count : ℕ} (hmem : count ∈ counts start round) : 0 < count := by
  induction round generalizing start with
  | nil => cases hmem
  | cons failed rest ih =>
    cases failed with
    | true =>
      rcases List.mem_cons.mp hmem with rfl | hrest
      · omega
      · exact ih hrest
    | false => exact ih hmem

/-- A round that was not interrupted only adds to the streak. -/
theorem start_lt_of_mem_counts {count : ℕ} (hsorted : Sorted round)
    (hmem : count ∈ counts start round) : start < count := by
  induction round generalizing start with
  | nil => cases hmem
  | cons failed rest ih =>
    obtain ⟨hhead, hrest⟩ := List.pairwise_cons.mp hsorted
    cases failed with
    | true =>
      rcases List.mem_cons.mp hmem with rfl | hlater
      · omega
      · have hlt := ih hrest hlater
        omega
    | false =>
      have hnone : true ∉ rest := fun htrue => by
        simpa using hhead true htrue rfl
      rw [counts, counts_eq_nil hnone] at hmem
      cases hmem

theorem one_mem_counts_zero (hsome : true ∈ round) : 1 ∈ counts 0 round := by
  induction round with
  | nil => cases hsome
  | cons failed rest ih =>
    cases failed with
    | true => exact List.mem_cons_self
    | false => exact ih (by simpa using hsome)

theorem one_mem_counts_of_not_sorted (hinterrupted : ¬ Sorted round) :
    1 ∈ counts start round := by
  induction round generalizing start with
  | nil => exact absurd List.Pairwise.nil hinterrupted
  | cons failed rest ih =>
    cases failed with
    | true =>
      apply List.mem_cons_of_mem
      apply ih
      intro hrest
      exact hinterrupted (List.pairwise_cons.mpr ⟨by simp, hrest⟩)
    | false =>
      by_cases hsome : true ∈ rest
      · exact one_mem_counts_zero hsome
      · apply absurd _ hinterrupted
        apply List.pairwise_of_forall_mem_list
        intro earlier _ later hlater htrue
        subst htrue
        exact absurd (by simpa using hlater) hsome

/-- The smallest value of the counter at a failure of the round. -/
theorem isLeast_counts (start : ℕ) (hsome : true ∈ round) :
    IsLeast {count | count ∈ counts start round} (if Steady round then start + 1 else 1) := by
  split_ifs with hsteady
  · obtain ⟨hhead, hsorted⟩ := hsteady
    constructor
    · cases round with
      | nil => cases hhead
      | cons failed rest =>
        obtain rfl : failed = true := by simpa using hhead
        exact List.mem_cons_self
    · intro count hmem
      exact start_lt_of_mem_counts hsorted hmem
  · constructor
    · by_cases hsorted : Sorted round
      · cases round with
        | nil => cases hsome
        | cons failed rest =>
          cases failed with
          | true => exact absurd ⟨rfl, hsorted⟩ hsteady
          | false => exact one_mem_counts_zero (by simpa using hsome)
      · exact one_mem_counts_of_not_sorted hsorted
    · intro count hmem
      exact pos_of_mem_counts hmem

end FailureStreaks
