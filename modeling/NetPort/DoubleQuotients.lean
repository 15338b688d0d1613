import Mathlib.Algebra.Field.Rat
import Mathlib.Algebra.Order.Ring.Rat
import Mathlib.Data.Rat.Lemmas
import NetPort.Doubles

/-! Quotients rounded to doubles. -/
namespace Doubles

section Apart

variable {a b d : ℕ}

/-- The last bit of a quotient is less than what one more makes. -/
theorem lastBit_lt_one (small : b ≤ 2 ^ 51) (divisor : d ≤ 2 ^ 53) :
    d * 2 ^ lastBit (b * one) d < one := by
  have large : 2 ^ 53 < one := by decide +kernel
  by_cases dropped : lastBit (b * one) d = 0
  · rw [dropped]
    omega
  · have size : (b * one / d).log2 = lastBit (b * one) d + 52 := by
      unfold lastBit at dropped ⊢
      omega
    have nonzero : b * one / d ≠ 0 := by
      intro zero
      have none_ : Nat.log2 0 = 0 := by decide
      rw [zero, none_] at size
      omega
    have below := Nat.log2_self_le nonzero
    rw [size, Nat.pow_add] at below
    have whole_ : 2 ^ lastBit (b * one) d * 2 ^ 52 * d ≤ b * one :=
      (Nat.mul_le_mul_right d below).trans (Nat.div_mul_le_self _ _)
    have bound : b * one ≤ 2 ^ 51 * one := Nat.mul_le_mul_right one small
    rw [Nat.mul_right_comm, Nat.mul_comm _ d] at whole_
    omega

theorem roundBits_strict (pos : 0 < d) (divisor : d ≤ 2 ^ 53) (small : b ≤ 2 ^ 51) (lt : a < b) :
    roundBits (a * one) d < roundBits (b * one) d := by
  have bit := lastBit_lt_one small divisor
  have more := Nat.mul_le_mul_right one (show a + 1 ≤ b from lt)
  rw [Nat.add_mul, Nat.one_mul] at more
  exact roundBits_lt pos (by omega)

theorem roundBits_finite (pos : 0 < d) (small : b ≤ 2 ^ 51) : roundBits (b * one) d < overflow := by
  have le : b * one ≤ 2 ^ 51 * 2 ^ unitBits * d :=
    (Nat.mul_le_mul_right one small).trans (Nat.le_mul_of_pos_right _ pos)
  have bound := roundBits_mono (d := d) le
  rw [roundBits_exact pos (by decide)] at bound
  exact bound.trans_lt (by decide +kernel)

end Apart

namespace Double

def nearest (q : ℚ) : Double := ofRatio (q.num < 0) (q.num.natAbs * one) q.den

def value : Double → ℚ
  | .finite units _ => units / one
  | _ => 0

variable {x y : ℤ} {d : ℕ} {q : ℚ}

theorem ofRatio_congr {negative : Bool} {n n' d' : ℕ} (same : roundBits n d = roundBits n' d') :
    ofRatio negative n d = ofRatio negative n' d' := by
  simp only [ofRatio, same]

theorem nearest_div (pos : 0 < d) :
    nearest ((x : ℚ) / d) = ofRatio (x < 0) (x.natAbs * one) d := by
  have nonzero : (d : ℤ) ≠ 0 := by omega
  obtain ⟨c, numerator, denominator⟩ := Rat.exists_eq_mul_div_num_and_eq_mul_div_den x nonzero
  rw [Int.cast_natCast] at numerator denominator
  rw [nearest]
  generalize ((x : ℚ) / d) = q at numerator denominator ⊢
  have den := q.den_pos
  have positive : 0 < c := by
    by_contra negative
    have := Int.mul_le_mul_of_nonneg_right (show c ≤ 0 by omega) (Int.natCast_nonneg q.den)
    omega
  lift c to ℕ using positive.le
  have sign : decide (q.num < 0) = decide (x < 0) := by
    refine decide_eq_decide.2 ?_
    rw [numerator]
    constructor
    · exact fun below => Int.mul_neg_of_pos_of_neg positive below
    · intro below
      by_contra nonneg
      have := Int.mul_nonneg positive.le (show 0 ≤ q.num by omega)
      omega
  have top : x.natAbs * one = c * (q.num.natAbs * one) := by
    rw [numerator, Int.natAbs_mul, Int.natAbs_natCast, Nat.mul_assoc]
  have bottom : d = c * q.den := by exact_mod_cast denominator
  rw [sign, top, bottom]
  exact ofRatio_congr (roundBits_scale (by exact_mod_cast positive)).symm

theorem nearest_nonneg (nonneg : 0 ≤ q) : lt (nearest q) zero = false := by
  have sign : decide (q.num < 0) = false := by
    simpa using nonneg
  rw [nearest, sign]
  simp only [ofRatio, Bool.false_eq_true, if_false]
  split
  · simp [lt, zero]
  · rfl

def unitsOf (x : ℤ) (d : ℕ) : ℤ :=
  if x < 0 then -roundBits (x.natAbs * one) d else roundBits (x.natAbs * one) d

theorem ofRatio_eq (pos : 0 < d) (small : x.natAbs ≤ 2 ^ 51) :
    ∃ representable, ofRatio (x < 0) (x.natAbs * one) d =
      .finite (unitsOf x d) representable := by
  have finite_ := roundBits_finite pos small
  have units : (unitsOf x d).natAbs = roundBits (x.natAbs * one) d := by
    unfold unitsOf
    split <;> omega
  refine ⟨⟨by rwa [units], ?_⟩, ?_⟩
  · rw [units]
    exact roundBits_bits _ _
  · simp only [ofRatio, unitsOf, finite_, dite_true, decide_eq_true_eq]
    split <;> rfl

theorem unitsOf_inj (pos : 0 < d) (divisor : d ≤ 2 ^ 53) (small : x.natAbs ≤ 2 ^ 51)
    (small' : y.natAbs ≤ 2 ^ 51) (same : unitsOf x d = unitsOf y d) : x = y := by
  have strict {a b : ℕ} := @roundBits_strict a b d pos divisor
  have injective {a b : ℕ} (le : a ≤ 2 ^ 51) (le' : b ≤ 2 ^ 51)
      (same : roundBits (a * one) d = roundBits (b * one) d) : a = b := by
    rcases Nat.lt_trichotomy a b with lt | eq | lt
    · exact absurd same (strict le' lt).ne
    · exact eq
    · exact absurd same (strict le lt).ne'
  have positive {a : ℤ} (le : a.natAbs ≤ 2 ^ 51) (nonzero : a < 0) :
      0 < roundBits (a.natAbs * one) d :=
    Nat.zero_lt_of_lt (strict (a := 0) le (by omega))
  unfold unitsOf at same
  split at same <;> split at same
  · have := injective small small' (by omega)
    omega
  · have := positive small (by assumption)
    omega
  · have := positive small' (by assumption)
    omega
  · have := injective small small' (by omega)
    omega

/-- Quotients of whole numbers by one divisor stay apart when they are rounded. -/
theorem nearest_div_inj (pos : 0 < d) (divisor : d ≤ 2 ^ 53) (small : x.natAbs ≤ 2 ^ 51)
    (small' : y.natAbs ≤ 2 ^ 51) : nearest ((x : ℚ) / d) = nearest ((y : ℚ) / d) ↔ x = y := by
  refine ⟨fun same => ?_, fun same => by rw [same]⟩
  obtain ⟨_, left⟩ := ofRatio_eq pos small
  obtain ⟨_, right⟩ := ofRatio_eq pos small'
  rw [nearest_div pos, nearest_div pos, left, right, Double.finite.injEq] at same
  exact unitsOf_inj pos divisor small small' same

end Double

end Doubles
