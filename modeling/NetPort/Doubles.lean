import Mathlib.Data.List.TakeDrop
import Mathlib.Data.List.TakeWhile
import Mathlib.Algebra.GroupWithZero.Nat
import Mathlib.Order.Basic
import Mathlib.Data.Int.Notation
import Mathlib.Data.Nat.Notation

/-! Binary64 numbers as whole numbers of units of 2^-1074, and `Number` of a string. -/
namespace Doubles

section Rounding

variable {n n' d m e : ℕ}

/-- `n / d` rounded to the nearest integer, to the even one of two. -/
def roundEven (n d : ℕ) : ℕ :=
  let q := n / d
  let r := n % d
  if 2 * r < d ∨ (2 * r = d ∧ q % 2 = 0) then q else q + 1

/-- The weight of the last of 53 bits of `n / d`, as an exponent. -/
def lastBit (n d : ℕ) : ℕ := (n / d).log2 - 52

/-- `n / d` rounded to 53 bits; below that all bits of the whole part are kept. -/
def roundBits (n d : ℕ) : ℕ := roundEven n (d * 2 ^ lastBit n d) * 2 ^ lastBit n d

theorem roundEven_bounds : n / d ≤ roundEven n d ∧ roundEven n d ≤ n / d + 1 := by
  simp only [roundEven]
  split <;> omega

theorem roundEven_mono (le : n ≤ n') : roundEven n d ≤ roundEven n' d := by
  have lower := @roundEven_bounds n d
  have upper := @roundEven_bounds n' d
  have quotients : n / d ≤ n' / d := Nat.div_le_div_right le
  by_cases same : n / d = n' / d
  · have split := Nat.div_add_mod n d
    have split' := Nat.div_add_mod n' d
    have remainders : n % d ≤ n' % d := by
      rw [same] at split
      omega
    simp only [roundEven, same]
    split
    · split <;> omega
    · rename_i up
      refine Nat.le_of_eq (if_neg ?_).symm
      omega
  · omega

theorem roundEven_mul (pos : 0 < d) : roundEven (m * d) d = m := by
  simp only [roundEven, Nat.mul_mod_left, Nat.mul_div_cancel m pos]
  exact if_pos (.inl pos)

theorem bits_lt : n / (d * 2 ^ lastBit n d) < 2 ^ 53 := by
  rw [← Nat.div_div_eq_div_mul]
  refine (Nat.div_lt_iff_lt_mul (Nat.two_pow_pos _)).2 ?_
  rw [← Nat.pow_add]
  refine Nat.lt_of_lt_of_le Nat.lt_log2_self (Nat.pow_le_pow_right Nat.two_pos ?_)
  unfold lastBit
  omega

theorem roundBits_le : roundEven n (d * 2 ^ lastBit n d) ≤ 2 ^ 53 := by
  have := @bits_lt n d
  have := (@roundEven_bounds n (d * 2 ^ lastBit n d)).2
  omega

theorem le_bits (dropped : 0 < lastBit n d) : 2 ^ 52 ≤ n / (d * 2 ^ lastBit n d) := by
  rw [← Nat.div_div_eq_div_mul]
  refine (Nat.le_div_iff_mul_le (Nat.two_pow_pos _)).2 ?_
  rw [← Nat.pow_add]
  have size : 52 + lastBit n d = (n / d).log2 := by
    unfold lastBit at dropped ⊢
    omega
  rw [size]
  refine Nat.log2_self_le fun zero => ?_
  rw [lastBit, zero] at dropped
  exact absurd dropped (by decide)

theorem lastBit_mono (le : n ≤ n') : lastBit n d ≤ lastBit n' d := by
  have quotients : n / d ≤ n' / d := Nat.div_le_div_right le
  unfold lastBit
  by_cases zero : n / d = 0
  · rw [zero]
    exact Nat.zero_le _
  · have nonzero : n' / d ≠ 0 := fun none => zero (Nat.le_zero.1 (none ▸ quotients))
    have : (n / d).log2 ≤ (n' / d).log2 :=
      (Nat.le_log2 nonzero).2 (Nat.le_trans (Nat.log2_self_le zero) quotients)
    omega

theorem roundBits_mono (le : n ≤ n') : roundBits n d ≤ roundBits n' d := by
  rcases Nat.eq_or_lt_of_le (@lastBit_mono n n' d le) with same | more
  · unfold roundBits
    rw [same]
    exact Nat.mul_le_mul_right _ (roundEven_mono le)
  · have upper : roundBits n d ≤ 2 ^ (53 + lastBit n d) := by
      rw [Nat.pow_add]
      exact Nat.mul_le_mul_right _ roundBits_le
    have lower : 2 ^ (52 + lastBit n' d) ≤ roundBits n' d := by
      rw [Nat.pow_add]
      exact Nat.mul_le_mul_right _ (Nat.le_trans (le_bits (by omega)) roundEven_bounds.1)
    have between : 2 ^ (53 + lastBit n d) ≤ 2 ^ (52 + lastBit n' d) :=
      Nat.pow_le_pow_right Nat.two_pos (by omega)
    exact Nat.le_trans upper (Nat.le_trans between lower)

theorem lastBit_dvd (small : m ≤ 2 ^ 53) : 2 ^ lastBit (m * 2 ^ e) 1 ∣ m * 2 ^ e := by
  by_cases enough : lastBit (m * 2 ^ e) 1 ≤ e
  · exact Nat.dvd_trans (Nat.pow_dvd_pow 2 enough) (Nat.dvd_mul_left _ _)
  · have lower : 2 ^ (52 + lastBit (m * 2 ^ e) 1) ≤ m * 2 ^ e := by
      have bits := @le_bits (m * 2 ^ e) 1 (by omega)
      rw [Nat.one_mul] at bits
      rw [Nat.pow_add]
      exact (Nat.le_div_iff_mul_le (Nat.two_pow_pos _)).1 bits
    have upper : m * 2 ^ e ≤ 2 ^ (53 + e) := by
      rw [Nat.pow_add]
      exact Nat.mul_le_mul_right _ small
    have between : 2 ^ (53 + e) ≤ 2 ^ (52 + lastBit (m * 2 ^ e) 1) :=
      Nat.pow_le_pow_right Nat.two_pos (by omega)
    have all : m * 2 ^ e = 2 ^ (52 + lastBit (m * 2 ^ e) 1) := by omega
    have dvd := Nat.pow_dvd_pow 2 (Nat.le_add_left (lastBit (m * 2 ^ e) 1) 52)
    rwa [← all] at dvd

theorem roundBits_exact (pos : 0 < d) (small : m ≤ 2 ^ 53) :
    roundBits (m * 2 ^ e * d) d = m * 2 ^ e := by
  have same : lastBit (m * 2 ^ e * d) d = lastBit (m * 2 ^ e) 1 := by
    rw [lastBit, lastBit, Nat.mul_div_cancel _ pos, Nat.div_one]
  obtain ⟨k, hk⟩ := @lastBit_dvd m e small
  rw [roundBits, same]
  generalize lastBit (m * 2 ^ e) 1 = b at hk
  have whole : 2 ^ b * k * d = k * (d * 2 ^ b) := by
    rw [Nat.mul_comm (2 ^ b), Nat.mul_assoc, Nat.mul_comm (2 ^ b)]
  rw [hk, whole, roundEven_mul (Nat.mul_pos pos (Nat.two_pow_pos b)), Nat.mul_comm]

/-- The rounding moves a fraction by half of the last bit at most. -/
theorem roundEven_near (pos : 0 < d) : 2 * n ≤ 2 * (roundEven n d * d) + d ∧
    2 * (roundEven n d * d) ≤ 2 * n + d := by
  have rest := Nat.mod_lt n pos
  have split := Nat.div_add_mod n d
  have up : (n / d + 1) * d = d * (n / d) + d := by rw [Nat.add_mul, Nat.one_mul, Nat.mul_comm]
  have down : n / d * d = d * (n / d) := Nat.mul_comm _ _
  simp only [roundEven]
  split <;> omega

theorem roundBits_near (pos : 0 < d) : 2 * n ≤ 2 * (roundBits n d * d) + d * 2 ^ lastBit n d ∧
    2 * (roundBits n d * d) ≤ 2 * n + d * 2 ^ lastBit n d := by
  have near := @roundEven_near n (d * 2 ^ lastBit n d) (Nat.mul_pos pos (Nat.two_pow_pos _))
  have same : roundBits n d * d = roundEven n (d * 2 ^ lastBit n d) * (d * 2 ^ lastBit n d) := by
    rw [roundBits, Nat.mul_assoc, Nat.mul_comm (2 ^ _)]
  rwa [same]

theorem roundBits_lt (pos : 0 < d) (apart : n + d * 2 ^ lastBit n' d < n') :
    roundBits n d < roundBits n' d := by
  have below := (@roundBits_near n d pos).2
  have above := (@roundBits_near n' d pos).1
  have bits : d * 2 ^ lastBit n d ≤ d * 2 ^ lastBit n' d :=
    Nat.mul_le_mul_left d (Nat.pow_le_pow_right Nat.two_pos (lastBit_mono (by omega)))
  refine Nat.lt_of_mul_lt_mul_right (a := d) ?_
  omega

theorem roundEven_scale {k : ℕ} (pos : 0 < k) : roundEven (k * n) (k * d) = roundEven n d := by
  simp only [roundEven, Nat.mul_div_mul_left _ _ pos, Nat.mul_mod_mul_left]
  have lt : 2 * (k * (n % d)) < k * d ↔ 2 * (n % d) < d := by
    rw [Nat.mul_left_comm]
    exact Nat.mul_lt_mul_left pos
  have eq : 2 * (k * (n % d)) = k * d ↔ 2 * (n % d) = d := by
    rw [Nat.mul_left_comm]
    exact Nat.mul_right_inj pos.ne'
  simp only [lt, eq]

theorem roundBits_scale {k : ℕ} (pos : 0 < k) : roundBits (k * n) (k * d) = roundBits n d := by
  have same : lastBit (k * n) (k * d) = lastBit n d := by
    rw [lastBit, Nat.mul_div_mul_left _ _ pos, lastBit]
  rw [roundBits, same, Nat.mul_assoc, roundEven_scale pos, roundBits]

theorem roundBits_bits (n d : ℕ) : ∃ m e : ℕ, m ≤ 2 ^ 53 ∧ roundBits n d = m * 2 ^ e :=
  ⟨_, _, roundBits_le, rfl⟩

theorem roundBits_pos (positive : 0 < n) : 0 < roundBits n 1 := by
  have one : roundBits 1 1 = 1 := @roundBits_exact 1 1 0 Nat.one_pos (by decide)
  have := @roundBits_mono 1 n 1 positive
  omega

def whole (n : ℕ) : ℕ := roundBits n 1

theorem whole_exact (small : n ≤ 2 ^ 53) : whole n = n := by
  have kept := @roundBits_exact 1 n 0 Nat.one_pos small
  rwa [Nat.pow_zero, Nat.mul_one, Nat.mul_one] at kept

theorem whole_mono (le : n ≤ n') : whole n ≤ whole n' := roundBits_mono le

end Rounding

@[irreducible] def unitBits : ℕ := 1074

def one : ℕ := 2 ^ unitBits

def overflow : ℕ := 2 ^ (1024 + unitBits)

def Representable (units : ℤ) : Prop :=
  units.natAbs < overflow ∧ ∃ m e : ℕ, m ≤ 2 ^ 53 ∧ units.natAbs = m * 2 ^ e

/-- The two zeros are one number here. -/
inductive Double where
  | nan
  | negInfinity
  | finite (units : ℤ) (representable : Representable units)
  | infinity
  deriving DecidableEq

namespace Double

def zero : Double := .finite 0 ⟨by decide +kernel, 0, 0, by decide, rfl⟩

/-- A number with the sign, of as many units as the fraction rounds to. -/
def ofRatio (negative : Bool) (n d : ℕ) : Double :=
  let units := roundBits n d
  if small : units < overflow then
    if negative then .finite (-units) (by
        rw [Representable, Int.natAbs_neg]
        exact ⟨small, roundBits_bits n d⟩)
    else .finite units ⟨small, roundBits_bits n d⟩
  else if negative then .negInfinity else .infinity

def ofNat (n : ℕ) : Double := ofRatio false (n * one) 1

/-- `x - y` -/
def sub : Double → Double → Double
  | .nan, _ => .nan
  | _, .nan => .nan
  | .infinity, .infinity => .nan
  | .negInfinity, .negInfinity => .nan
  | .infinity, _ => .infinity
  | .negInfinity, _ => .negInfinity
  | _, .infinity => .negInfinity
  | _, .negInfinity => .infinity
  | .finite x _, .finite y _ => ofRatio (x < y) (x - y).natAbs 1

/-- `x < y` -/
def lt : Double → Double → Bool
  | .finite x _, .finite y _ => x < y
  | .negInfinity, .finite _ _ => true
  | .negInfinity, .infinity => true
  | .finite _ _, .infinity => true
  | _, _ => false

/-- `x || 0`, where `none` is `undefined`. -/
def orZero : Option Double → Double
  | none => zero
  | some .nan => zero
  | some x => x

def isFinite : Double → Bool
  | .finite _ _ => true
  | _ => false

section Order

variable {x y z : Double} {n n' : ℕ}

theorem lt_irrefl (x : Double) : lt x x = false := by
  cases x with
  | finite x _ => exact decide_eq_false (Int.lt_irrefl x)
  | _ => rfl

theorem lt_trans (xy : lt x y) (yz : lt y z) : lt x z := by
  cases x <;> cases y <;> cases z <;> simp_all [lt]
  omega

theorem lt_trichotomy (x_nan : x ≠ .nan) (y_nan : y ≠ .nan) : lt x y ∨ x = y ∨ lt y x := by
  cases x <;> cases y <;> simp_all [lt]
  omega

theorem orZero_ne_nan (x : Option Double) : orZero x ≠ .nan := by
  unfold orZero
  split
  · exact nofun
  · exact nofun
  · rename_i number
    exact number

theorem orZero_some (x_nan : x ≠ .nan) : orZero (some x) = x := by
  cases x with
  | nan => exact absurd rfl x_nan
  | _ => rfl

theorem ofNat_ne_nan (n : ℕ) : ofNat n ≠ .nan := by
  unfold ofNat ofRatio
  dsimp only
  split <;> exact nofun

theorem ofRatio_zero {negative : Bool} : ofRatio negative 0 1 = zero := by
  cases negative <;> decide +kernel

theorem ofRatio_true_lt (positive : 0 < n) : lt (ofRatio true n 1) zero := by
  have units := roundBits_pos positive
  unfold ofRatio
  dsimp only
  split
  · refine decide_eq_true ?_
    omega
  · rfl

theorem zero_lt_ofRatio (positive : 0 < n) : lt zero (ofRatio false n 1) := by
  have units := roundBits_pos positive
  unfold ofRatio
  dsimp only
  split
  · refine decide_eq_true ?_
    omega
  · rfl

theorem not_lt_of_lt (xy : lt x y) : lt y x = false := by
  refine Bool.eq_false_iff.2 fun yx => ?_
  have := lt_trans xy yx
  rw [lt_irrefl] at this
  cases this

theorem ne_of_lt (xy : lt x y) : x ≠ y := by
  rintro rfl
  rw [lt_irrefl] at xy
  cases xy

theorem ofRatio_sign (d : ℤ) : (lt (ofRatio (d < 0) d.natAbs 1) zero ↔ d < 0) ∧
    (ofRatio (d < 0) d.natAbs 1 = zero ↔ d = 0) := by
  rcases Int.lt_trichotomy d 0 with negative | rfl | positive
  · have below := @ofRatio_true_lt d.natAbs (by omega)
    rw [decide_eq_true negative]
    exact ⟨iff_of_true below negative, iff_of_false (ne_of_lt below) (by omega)⟩
  · rw [Int.natAbs_zero, ofRatio_zero]
    exact ⟨by decide, by decide⟩
  · have above := @zero_lt_ofRatio d.natAbs (by omega)
    rw [decide_eq_false (show ¬d < 0 by omega)]
    refine ⟨iff_of_false ?_ (by omega), iff_of_false (ne_of_lt above).symm (by omega)⟩
    rw [not_lt_of_lt above]
    exact Bool.false_ne_true

/-- A difference is negative where the order says so, and zero for equal finite numbers. -/
theorem sub_sign (x_nan : x ≠ .nan) (y_nan : y ≠ .nan) :
    (lt (sub x y) zero ↔ lt x y) ∧ (sub x y = zero ↔ x = y ∧ x.isFinite) := by
  cases x with
  | nan => exact absurd rfl x_nan
  | finite a _ =>
    cases y with
    | nan => exact absurd rfl y_nan
    | finite b _ =>
      have sign := ofRatio_sign (a - b)
      have difference : sub (.finite a ‹_›) (.finite b ‹_›) =
          ofRatio (a - b < 0) (a - b).natAbs 1 :=
        congrArg (fun negative => ofRatio negative (a - b).natAbs 1)
          (decide_eq_decide.2 (by omega))
      rw [difference, sign.1, sign.2]
      simp only [lt, isFinite, Double.finite.injEq, and_true, decide_eq_true_eq]
      omega
    | _ => exact ⟨by simp [sub, lt, zero], by simp [sub, zero]⟩
  | _ =>
    cases y with
    | nan => exact absurd rfl y_nan
    | _ => exact ⟨by simp [sub, lt, zero], by simp [sub, zero, isFinite]⟩

theorem ofNat_zero : ofNat 0 = zero := by
  rw [ofNat, Nat.zero_mul, ofRatio_zero]

theorem ofNat_mono (le : n ≤ n') : lt (ofNat n) (ofNat n') ∨ ofNat n = ofNat n' := by
  have rounded := @roundBits_mono (n * one) (n' * one) 1 (Nat.mul_le_mul_right _ le)
  unfold ofNat ofRatio
  simp only [Bool.false_eq_true, if_false]
  split
  · split
    · rename_i small small'
      rcases Nat.eq_or_lt_of_le rounded with same | less
      · right
        simp only [same]
      · left
        exact decide_eq_true (Int.ofNat_lt.2 less)
    · exact .inl rfl
  · rw [dif_neg (by omega)]
    exact .inr rfl

theorem ofNat_exact (small : n ≤ 2 ^ 53) :
    ∃ representable, ofNat n = .finite ((n * one : ℕ) : ℤ) representable := by
  have kept : roundBits (n * one) 1 = n * one := by
    have := @roundBits_exact 1 n unitBits Nat.one_pos small
    rwa [Nat.mul_one] at this
  have bound : n * one < overflow :=
    Nat.lt_of_le_of_lt (Nat.mul_le_mul_right one small) (by decide +kernel)
  refine ⟨⟨bound, n, unitBits, small, rfl⟩, ?_⟩
  unfold ofNat ofRatio
  simp only [kept, bound, Bool.false_eq_true, if_false, dite_true]

theorem ofNat_finite (small : n ≤ 2 ^ 53) : (ofNat n).isFinite := by
  obtain ⟨_, exact_⟩ := ofNat_exact small
  rw [exact_]
  rfl

theorem ofNat_inj (small : n ≤ 2 ^ 53) (small' : n' ≤ 2 ^ 53) (same : ofNat n = ofNat n') :
    n = n' := by
  obtain ⟨_, exact_⟩ := ofNat_exact small
  obtain ⟨_, exact_'⟩ := ofNat_exact small'
  rw [exact_, exact_', Double.finite.injEq, Int.natCast_inj] at same
  exact Nat.eq_of_mul_eq_mul_right (Nat.two_pow_pos unitBits) same

end Order

end Double

section Literals

open Double

/-- `WhiteSpace` and `LineTerminator`. -/
def isWhiteSpace (c : Char) : Bool :=
  c.toNat ∈ [0x9, 0xA, 0xB, 0xC, 0xD, 0x20, 0xA0, 0x1680, 0x2028, 0x2029, 0x202F, 0x205F, 0x3000,
    0xFEFF] || (0x2000 ≤ c.toNat && c.toNat ≤ 0x200A)

def trim (text : List Char) : List Char :=
  ((text.dropWhile isWhiteSpace).reverse.dropWhile isWhiteSpace).reverse

def digitValue (c : Char) : Option ℕ :=
  if '0' ≤ c ∧ c ≤ '9' then some (c.toNat - '0'.toNat)
  else if 'a' ≤ c ∧ c ≤ 'f' then some (c.toNat - 'a'.toNat + 10)
  else if 'A' ≤ c ∧ c ≤ 'F' then some (c.toNat - 'A'.toNat + 10)
  else none

def digitsFrom (base : ℕ) : ℕ → List Char → Option ℕ
  | value, [] => some value
  | value, c :: rest =>
    match digitValue c with
    | none => none
    | some digit => if digit < base then digitsFrom base (value * base + digit) rest else none

def digits (base : ℕ) (text : List Char) : Option ℕ :=
  if text = [] then none else digitsFrom base 0 text

def signedDigits : List Char → Option ℤ
  | '+' :: text => (digits 10 text).map fun n => (n : ℤ)
  | '-' :: text => (digits 10 text).map fun n => -(n : ℤ)
  | text => (digits 10 text).map fun n => (n : ℤ)

/-- `mantissa * 10^exponent` -/
def scaled (negative : Bool) (mantissa : ℕ) (exponent : ℤ) : Double :=
  if 0 ≤ exponent then ofRatio negative (mantissa * 10 ^ exponent.toNat * one) 1
  else ofRatio negative (mantissa * one) (10 ^ (-exponent).toNat)

/-- `StrUnsignedDecimalLiteral`, with the sign before it. -/
def unsignedDecimal (negative : Bool) (text : List Char) : Option Double :=
  if text = "Infinity".toList then some (if negative then .negInfinity else .infinity)
  else do
    let (mantissa, exponentPart) := text.span fun c => c ≠ 'e' ∧ c ≠ 'E'
    let (whole, fraction) := mantissa.span (· ≠ '.')
    let exponent ← if exponentPart = [] then some 0 else signedDigits exponentPart.tail
    let value ← digits 10 (whole ++ fraction.tail)
    return scaled negative value (exponent - fraction.tail.length)

/-- `StrDecimalLiteral` -/
def decimal : List Char → Option Double
  | '+' :: text => unsignedDecimal false text
  | '-' :: text => unsignedDecimal true text
  | text => unsignedDecimal false text

/-- `NonDecimalIntegerLiteral` -/
def nonDecimal : List Char → Option Double
  | '0' :: c :: text =>
    if c = 'x' ∨ c = 'X' then (digits 16 text).map ofNat
    else if c = 'o' ∨ c = 'O' then (digits 8 text).map ofNat
    else if c = 'b' ∨ c = 'B' then (digits 2 text).map ofNat
    else none
  | _ => none

/-- `Number(text)` -/
def number (text : List Char) : Double :=
  let literal := trim text
  if literal = [] then zero else ((nonDecimal literal).or (decimal literal)).getD .nan

/-- `0` to `9` -/
def Decimal (c : Char) : Prop := 48 ≤ c.toNat ∧ c.toNat ≤ 57

variable {c : Char} {text : List Char} {n value : ℕ}

theorem decimal_of_digitValue (digit : digitValue c = some n) (small : n < 10) : Decimal c := by
  unfold digitValue at digit
  split at digit
  · rename_i between
    exact between
  · split at digit
    · cases digit
      omega
    · split at digit
      · cases digit
        omega
      · cases digit

theorem decimal_of_digitsFrom (parsed : digitsFrom 10 value text = some n) :
    ∀ c ∈ text, Decimal c := by
  induction text generalizing value with
  | nil => exact fun _ mem => absurd mem List.not_mem_nil
  | cons c rest ih =>
    unfold digitsFrom at parsed
    split at parsed
    · cases parsed
    · rename_i digit known
      split at parsed
      · rename_i small
        exact List.forall_mem_cons.2 ⟨decimal_of_digitValue known small, ih parsed⟩
      · cases parsed

theorem Decimal.not_whiteSpace (digit : Decimal c) : isWhiteSpace c = false := by
  obtain ⟨lower, upper⟩ := digit
  simp [isWhiteSpace]
  omega

theorem Decimal.ne (digit : Decimal c) {k : Char} (other : ¬Decimal k) : c ≠ k := by
  rintro rfl
  exact other digit

theorem dropWhile_digits (all : ∀ c ∈ text, Decimal c) : text.dropWhile isWhiteSpace = text := by
  cases text with
  | nil => rfl
  | cons c rest =>
    exact List.dropWhile_cons_of_neg (by simp [(all c List.mem_cons_self).not_whiteSpace])

theorem trim_digits (all : ∀ c ∈ text, Decimal c) : trim text = text := by
  have reversed : ∀ c ∈ text.reverse, Decimal c := fun c mem => all c (List.mem_reverse.1 mem)
  rw [trim, dropWhile_digits all, dropWhile_digits reversed, List.reverse_reverse]

theorem span_digits (all : ∀ c ∈ text, Decimal c) {p : Char → Bool} (holds : ∀ c, Decimal c → p c) :
    text.span p = (text, []) := by
  rw [List.span_eq_takeWhile_dropWhile]
  refine Prod.ext (List.takeWhile_eq_self_iff.2 ?_) (List.dropWhile_eq_nil_iff.2 ?_)
  · exact fun c mem => holds c (all c mem)
  · exact fun c mem => holds c (all c mem)

instance : Decidable (Decimal c) := inferInstanceAs (Decidable (_ ∧ _))

theorem nonDecimal_digits (all : ∀ c ∈ text, Decimal c) : nonDecimal text = none := by
  unfold nonDecimal
  split
  · rename_i c rest
    have digit := all c (List.mem_cons_of_mem _ List.mem_cons_self)
    have apart (k : Char) (other : ¬Decimal k) := digit.ne other
    rw [if_neg, if_neg, if_neg]
    · simp [apart 'b' (by decide), apart 'B' (by decide)]
    · simp [apart 'o' (by decide), apart 'O' (by decide)]
    · simp [apart 'x' (by decide), apart 'X' (by decide)]
  · rfl

theorem scaled_zero (n : ℕ) : scaled false n 0 = ofNat n := by
  rw [scaled, if_pos (Int.le_refl 0), Int.toNat_zero, Nat.pow_zero, Nat.mul_one, ofNat]

theorem unsignedDecimal_digits (parsed : digits 10 text = some n)
    (all : ∀ c ∈ text, Decimal c) : unsignedDecimal false text = some (ofNat n) := by
  have finite : text ≠ "Infinity".toList := by
    rintro rfl
    exact absurd (all 'I' (by decide)) (by decide)
  have mantissa := span_digits all (p := fun c => c ≠ 'e' ∧ c ≠ 'E') fun c digit =>
    decide_eq_true ⟨digit.ne (by decide), digit.ne (by decide)⟩
  have whole := span_digits all (p := (· ≠ '.')) fun c digit =>
    decide_eq_true (digit.ne (by decide))
  rw [unsignedDecimal, if_neg finite, mantissa]
  dsimp only
  rw [whole]
  dsimp only [List.tail_nil]
  rw [List.append_nil, parsed, if_pos rfl, ← scaled_zero]
  rfl

/-- A text of decimal digits is the number nearest to their value. -/
theorem number_digits (parsed : digits 10 text = some n) : number text = ofNat n := by
  obtain ⟨nonempty, parsed'⟩ : text ≠ [] ∧ digitsFrom 10 0 text = some n := by
    unfold digits at parsed
    split at parsed
    · cases parsed
    · exact ⟨‹_›, parsed⟩
  have all := decimal_of_digitsFrom parsed'
  have unsigned : decimal text = unsignedDecimal false text := by
    unfold decimal
    split
    · exact absurd (all '+' List.mem_cons_self) (by decide)
    · exact absurd (all '-' List.mem_cons_self) (by decide)
    · rfl
  rw [number, trim_digits all, if_neg nonempty, nonDecimal_digits all, unsigned,
    unsignedDecimal_digits parsed all, Option.none_or, Option.getD_some]

end Literals

end Doubles
