import DoubleRatchet.Proofs.Curve25519.Primality
import Mathlib.NumberTheory.LegendreSymbol.Basic

/-!
# Arithmetic modulo the field's prime

The operations on numbers are those of the field of residues: division by Fermat's little theorem, and
square roots since the prime is five more than a multiple of eight.
-/

namespace DoubleRatchet
namespace Curve25519

instance : Fact prime.Prime :=
  ⟨prime_prime⟩

/-- The field of coordinates. -/
abbrev Residue : Type :=
  ZMod prime

namespace Field

theorem power_eq (base exponent : Nat) : power base exponent = Primality.power prime base exponent := by
  induction exponent using Nat.strong_induction_on generalizing base with
  | h exponent ih =>
      unfold power Primality.power
      split
      next => rfl
      next => rw [ih (exponent / 2) (by omega)]

@[simp] theorem cast_power (base exponent : Nat) :
    (power base exponent : Residue) = (base : Residue) ^ exponent := by
  rw [power_eq, Primality.cast_power]

theorem power_lt (base exponent : Nat) : power base exponent < prime := by
  induction exponent using Nat.strong_induction_on generalizing base with
  | h exponent ih =>
      unfold power
      split
      next => decide
      next =>
        dsimp only
        split
        next => exact Nat.mod_lt _ (by decide)
        next => exact ih (exponent / 2) (by omega) _

@[simp] theorem cast_negate (value : Nat) : (negate value : Residue) = -(value : Residue) := by
  have below : value % prime ≤ prime := (Nat.mod_lt value (by decide)).le
  unfold negate
  rw [ZMod.natCast_mod, Nat.cast_sub below, ZMod.natCast_self, zero_sub, ZMod.natCast_mod]

@[simp] theorem cast_subtract (left right : Nat) :
    (subtract left right : Residue) = (left : Residue) - (right : Residue) := by
  unfold subtract
  rw [ZMod.natCast_mod, Nat.cast_add, cast_negate, sub_eq_add_neg]

@[simp] theorem cast_invert (value : Nat) : (invert value : Residue) = (value : Residue)⁻¹ := by
  unfold invert
  rw [cast_power]
  by_cases zero : (value : Residue) = 0
  · rw [zero, inv_zero]
    exact zero_pow (by decide)
  · refine eq_inv_of_mul_eq_one_left ?_
    rw [← pow_succ]
    exact ZMod.pow_card_sub_one_eq_one zero

/-- A number stands for the residue that it is reduced to. -/
theorem mod_eq_val {value : Nat} {residue : Residue} (stands : (value : Residue) = residue) :
    value % prime = residue.val := by
  rw [← stands, ZMod.val_natCast]

theorem cast_eq_iff {left right : Nat} :
    (left : Residue) = (right : Residue) ↔ left % prime = right % prime :=
  ZMod.natCast_eq_natCast_iff' left right prime

/-! ## Square roots -/

/-- The two roots of a square have different parities, as their sum is the prime. -/
theorem eq_of_sq_eq {left right : Nat} (left_lt : left < prime) (right_lt : right < prime)
    (left_even : left % 2 = 0) (right_even : right % 2 = 0)
    (squares : (left : Residue) ^ 2 = (right : Residue) ^ 2) : left = right := by
  have odd : prime % 2 = 1 := by decide
  rcases sq_eq_sq_iff_eq_or_eq_neg.mp squares with same | opposite
  · rw [cast_eq_iff, Nat.mod_eq_of_lt left_lt, Nat.mod_eq_of_lt right_lt] at same
    exact same
  · have sum : ((left + right : Nat) : Residue) = 0 := by
      rw [Nat.cast_add, opposite, neg_add_cancel]
    obtain ⟨count, sum_eq⟩ := (ZMod.natCast_eq_zero_iff _ _).mp sum
    have few : count < 2 := by
      apply Nat.lt_of_mul_lt_mul_left (a := prime)
      omega
    obtain rfl | rfl : count = 0 ∨ count = 1 := by omega
    · omega
    · omega

/-- The even one of a number and its negation. -/
def evenRoot (root : Nat) : Nat :=
  if root % 2 = 0 then root else negate root

theorem evenRoot_spec {root : Nat} (below : root < prime) :
    evenRoot root % 2 = 0 ∧ evenRoot root < prime ∧
      (evenRoot root : Residue) ^ 2 = (root : Residue) ^ 2 := by
  have odd : prime % 2 = 1 := by decide
  unfold evenRoot
  split
  next isEven => exact ⟨isEven, below, rfl⟩
  next isOdd =>
    refine ⟨?_, Nat.mod_lt _ (by decide), by rw [cast_negate, neg_sq]⟩
    have negated : negate root = prime - root := by
      unfold negate
      rw [Nat.mod_eq_of_lt below]
      exact Nat.mod_eq_of_lt (by omega)
    rw [negated]
    omega

theorem cast_imaginary_sq : (imaginary : Residue) ^ 2 = -1 := by
  have product : imaginary * imaginary % prime = negate 1 % prime := by decide +kernel
  rw [← cast_eq_iff, Nat.cast_mul, cast_negate, Nat.cast_one] at product
  rw [pow_two, product]

/-- A power of the square of a number is a root of that square up to a factor, which is a sign. -/
theorem candidate_sq (root : Residue) :
    ((root ^ 2) ^ ((prime + 3) / 8)) ^ 2 = root ^ 2 ∨
      ((root ^ 2) ^ ((prime + 3) / 8)) ^ 2 = -root ^ 2 := by
  have exponent : 2 * ((prime + 3) / 8 * 2) = prime / 2 + 2 := by decide
  have square : ((root ^ 2) ^ ((prime + 3) / 8)) ^ 2 = root ^ (prime / 2) * root ^ 2 := by
    rw [← pow_mul, ← pow_mul, exponent, pow_add]
  rw [square]
  by_cases zero : root = 0
  · left
    simp [zero]
  · rcases ZMod.pow_div_two_eq_neg_one_or_one prime zero with positive | negative
    · left
      rw [positive, one_mul]
    · right
      rw [negative, neg_one_mul]

/-- What is found is a root. -/
theorem squareRoot_sound {value root : Nat} (found : squareRoot value = some root) :
    root < prime ∧ (root : Residue) ^ 2 = (value : Residue) := by
  have isRoot {candidate : Nat} (candidate_lt : candidate < prime)
      (squares : candidate * candidate % prime = value % prime)
      (taken : some (evenRoot candidate) = some root) :
      root < prime ∧ (root : Residue) ^ 2 = (value : Residue) := by
    obtain ⟨_, even_lt, even_sq⟩ := evenRoot_spec candidate_lt
    rw [← cast_eq_iff, Nat.cast_mul, ← pow_two] at squares
    cases taken
    exact ⟨even_lt, even_sq.trans squares⟩
  unfold squareRoot at found
  dsimp only at found
  split at found
  next squares => exact isRoot (power_lt _ _) squares found
  next =>
    split at found
    next squares => exact isRoot (Nat.mod_lt _ (by decide)) squares found
    next => cases found

/-- The even root of a square is found. -/
theorem squareRoot_eq_some {value root : Nat} (below : root < prime) (isEven : root % 2 = 0)
    (isRoot : (root : Residue) ^ 2 = (value : Residue)) : squareRoot value = some root := by
  have found {candidate : Nat} (candidate_lt : candidate < prime)
      (squares : candidate * candidate % prime = value % prime) :
      some (evenRoot candidate) = some root := by
    obtain ⟨even, even_lt, even_sq⟩ := evenRoot_spec candidate_lt
    rw [← cast_eq_iff, Nat.cast_mul, ← pow_two] at squares
    rw [eq_of_sq_eq even_lt below even isEven (by rw [even_sq, squares, isRoot])]
  unfold squareRoot
  dsimp only
  split
  next squares => exact found (power_lt _ _) squares
  next notRoot =>
    split
    next squares => exact found (Nat.mod_lt _ (by decide)) squares
    next notOther =>
      exfalso
      rw [← cast_eq_iff, Nat.cast_mul, cast_power, ← pow_two, ← isRoot] at notRoot
      rw [← cast_eq_iff, Nat.cast_mul, ZMod.natCast_mod, Nat.cast_mul, cast_power, ← pow_two, mul_pow,
        cast_imaginary_sq, ← isRoot] at notOther
      rcases candidate_sq (root : Residue) with positive | negative
      · exact notRoot positive
      · rw [negative, mul_neg_one, neg_neg] at notOther
        exact notOther rfl

end Field
end Curve25519
end DoubleRatchet
