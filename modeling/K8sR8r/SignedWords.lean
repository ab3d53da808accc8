import Mathlib.Tactic

/-!
# Signed machine words

Two's complement arithmetic as integers reduced into the range of a word, and
doubling up to a cap: `min (base * 2 ^ n) cap` can be computed one doubling at
a time as long as the cap leaves room for one more doubling.
-/

namespace SignedWords

/-- The value of a word of `width` bits after an operation with this result. -/
def reduce (width : ℕ) (x : ℤ) : ℤ := Int.bmod x (2 ^ width)

/-- The values of a word of `width` bits. -/
def InRange (width : ℕ) (x : ℤ) : Prop :=
  -2 ^ width ≤ 2 * x ∧ 2 * x < 2 ^ width
deriving Decidable

theorem reduce_of_inRange {width : ℕ} {x : ℤ} (hrange : InRange width x) : reduce width x = x := by
  apply Int.bmod_eq_of_le_mul_two
  · push_cast
    linarith [hrange.1]
  · push_cast
    linarith [hrange.2]

theorem reduce_add_one (width : ℕ) (x : ℤ) :
    reduce width (reduce width x + 1) = reduce width (x + 1) :=
  Int.bmod_add_bmod

/-! ## Doubling up to a cap -/

def capped (base cap : ℤ) (doublings : ℕ) : ℤ :=
  min (base * 2 ^ doublings) cap

variable {base cap : ℤ}

theorem capped_zero (hle : base ≤ cap) : capped base cap 0 = base := by
  simp [capped, hle]

theorem capped_le (doublings : ℕ) : capped base cap doublings ≤ cap :=
  min_le_right _ _

theorem capped_pos (hbase : 0 < base) (hcap : 0 < cap) (doublings : ℕ) :
    0 < capped base cap doublings :=
  lt_min (by positivity) hcap

theorem capped_succ (hcap : 0 ≤ cap) (doublings : ℕ) : min (2 * capped base cap doublings) cap =
      capped base cap (doublings + 1) := by
  have hdouble : base * 2 ^ (doublings + 1) = 2 * (base * 2 ^ doublings) := by
    ring
  unfold capped
  rw [hdouble]
  omega

theorem double_capped_inRange (hbase : 0 < base) (hcap : 0 < cap) {width : ℕ}
    (hsmall : 4 * cap < 2 ^ width) (doublings : ℕ) :
    InRange width (2 * capped base cap doublings) := by
  have hpos := capped_pos hbase hcap doublings
  have hle : capped base cap doublings ≤ cap := capped_le doublings
  constructor <;> linarith

end SignedWords
