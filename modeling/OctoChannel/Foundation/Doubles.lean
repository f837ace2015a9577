import Mathlib.Data.Rat.Defs
import Mathlib.Algebra.Order.Field.Rat
import Mathlib.Tactic.Linarith
import Mathlib.Tactic.NormNum

/-! Floating-point arithmetic as a rounding of the rational one: all that is known of a
result is that rounding is monotone and leaves the numbers that a double holds. -/

namespace OctoChannel.Foundation

/-- A number with a significand of 53 bits. -/
def IsDouble (value : ℚ) : Prop :=
  ∃ (significand : ℤ) (exponent : ℤ), |significand| < 2 ^ 53 ∧ value = significand * 2 ^ exponent

/-- How results are rounded to doubles. Infinity stands beyond all of them, so that a
result there counts as itself. -/
structure Doubles where
  round : ℚ → ℚ
  monotone : ∀ {first second : ℚ}, first ≤ second → round first ≤ round second
  exact : ∀ {value : ℚ}, IsDouble value → round value = value

namespace Doubles

/-- No rounding at all. -/
def rational : Doubles := ⟨id, id, fun _ => rfl⟩

variable (doubles : Doubles)

def add (first second : ℚ) : ℚ := doubles.round (first + second)

def mul (first second : ℚ) : ℚ := doubles.round (first * second)

/-- The integers from here on would be rounded beyond the largest double. -/
def overflowBound : Nat := 2 ^ (1023 + 1) - 2 ^ 970

/-- The conversion of an integer; `none` is OverflowError. -/
def ofNat? (value : Nat) : Option ℚ :=
  if value < overflowBound then some (doubles.round value) else none

variable {doubles} {bound value : ℚ}

theorem le_round (double : IsDouble bound) (below : bound ≤ value) :
    bound ≤ doubles.round value := by
  rw [← @exact doubles bound double]
  exact doubles.monotone below

theorem round_le (double : IsDouble bound) (above : value ≤ bound) :
    doubles.round value ≤ bound := by
  rw [← @exact doubles bound double]
  exact doubles.monotone above

theorem isDouble_intCast {value : ℤ} (short : |value| < 2 ^ 53) : IsDouble (value : ℚ) :=
  ⟨value, 0, short, by simp⟩

theorem isDouble_quarters {quarters : ℤ} (short : |quarters| < 2 ^ 53) :
    IsDouble ((quarters : ℚ) / 4) :=
  ⟨quarters, -2, short, by rw [div_eq_mul_inv]; norm_num⟩

theorem isDouble_two_pow (exponent : Nat) : IsDouble ((2 ^ exponent : Nat) : ℚ) :=
  ⟨1, exponent, by norm_num, by simp⟩

private theorem two_pow_lt_iff {exponent top gap : Nat} (small : gap < top) :
    (2 : Nat) ^ exponent < 2 ^ (top + 1) - 2 ^ gap ↔ exponent < top + 1 := by
  have room : (2 : Nat) ^ gap < 2 ^ top := Nat.pow_lt_pow_right (by decide) small
  have doubled : (2 : Nat) ^ (top + 1) = 2 ^ top * 2 := pow_succ 2 top
  constructor
  · intro below
    by_contra large
    have grown : (2 : Nat) ^ (top + 1) ≤ 2 ^ exponent :=
      Nat.pow_le_pow_right (by decide) (by omega)
    exact absurd (Nat.lt_of_lt_of_le below (Nat.sub_le _ _)) (Nat.not_lt.mpr grown)
  · intro below
    have bounded : (2 : Nat) ^ exponent ≤ 2 ^ top := Nat.pow_le_pow_right (by decide) (by omega)
    rw [doubled]
    omega

/-- A power of two is converted as it is, up to the exponents that doubles have. -/
theorem ofNat?_two_pow (exponent : Nat) : doubles.ofNat? (2 ^ exponent) =
    if exponent < 1023 + 1 then some ((2 ^ exponent : Nat) : ℚ) else none := by
  have fits : 2 ^ exponent < overflowBound ↔ exponent < 1023 + 1 :=
    two_pow_lt_iff (by decide)
  unfold ofNat?
  rw [doubles.exact (isDouble_two_pow exponent)]
  by_cases small : exponent < 1023 + 1
  · rw [if_pos small, if_pos (fits.mpr small)]
  · rw [if_neg small, if_neg (fun below => small (fits.mp below))]

end Doubles

end OctoChannel.Foundation
