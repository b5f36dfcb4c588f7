import DoubleRatchet.Primitive.Curve25519
import Mathlib.Data.List.Prime
import Mathlib.NumberTheory.LucasPrimality

/-!
# The two primes of the curve

The field's prime and the order of the base point are shown prime by certificates. A certificate names a
number that has full order modulo the prime, and the prime factors of the predecessor, which is what
Lucas's test asks for; the factors are certified in turn, down to ones that a search for divisors settles.
-/

namespace DoubleRatchet
namespace Primality

/-- A power modulo a number, one squaring for each bit of the exponent. -/
def power (modulus base exponent : Nat) : Nat :=
  if _h : exponent = 0 then 1
  else
    let half := power modulus (base * base % modulus) (exponent / 2)
    if exponent % 2 = 1 then half * base % modulus else half
termination_by exponent

theorem cast_power (modulus base exponent : Nat) :
    (power modulus base exponent : ZMod modulus) = (base : ZMod modulus) ^ exponent := by
  induction exponent using Nat.strong_induction_on generalizing base with
  | h exponent ih =>
      have square (half : Nat) :
          ((base * base % modulus : Nat) : ZMod modulus) ^ half = (base : ZMod modulus) ^ (2 * half) := by
        rw [ZMod.natCast_mod, Nat.cast_mul, ← pow_two, pow_mul]
      unfold power
      split
      next isZero => rw [isZero, pow_zero, Nat.cast_one]
      next notZero =>
        have half_eq := ih (exponent / 2) (by omega) (base * base % modulus)
        rw [square] at half_eq
        dsimp only
        split
        next odd =>
          rw [ZMod.natCast_mod, Nat.cast_mul, half_eq, ← pow_succ]
          congr 1
          omega
        next even =>
          rw [half_eq]
          congr 1
          omega

structure Certificate where
  number : Nat
  /-- Generates all residues but zero. -/
  generator : Nat
  /-- The prime factors of the number before, each as often as it divides it. -/
  factors : List Nat

namespace Certificate

/-- The residue of the generator's power is one. -/
def IsOne (certificate : Certificate) (exponent : Nat) : Prop :=
  power certificate.number certificate.generator exponent % certificate.number =
    1 % certificate.number

instance (certificate : Certificate) (exponent : Nat) : Decidable (certificate.IsOne exponent) :=
  inferInstanceAs (Decidable (_ = _))

def Holds (certificate : Certificate) : Prop :=
  certificate.factors.prod = certificate.number - 1 ∧ certificate.IsOne (certificate.number - 1) ∧
    ∀ factor ∈ certificate.factors, ¬ certificate.IsOne ((certificate.number - 1) / factor)

instance (certificate : Certificate) : Decidable certificate.Holds :=
  inferInstanceAs (Decidable (_ ∧ _ ∧ _))

theorem isOne_iff (certificate : Certificate) (exponent : Nat) :
    certificate.IsOne exponent ↔
      (certificate.generator : ZMod certificate.number) ^ exponent = 1 := by
  rw [← cast_power, ← Nat.cast_one, ZMod.natCast_eq_natCast_iff']
  rfl

theorem Holds.prime {certificate : Certificate} (holds : certificate.Holds)
    (factors_prime : ∀ factor ∈ certificate.factors, factor.Prime) : certificate.number.Prime := by
  obtain ⟨product, full, proper⟩ := holds
  refine lucas_primality certificate.number certificate.generator
    ((certificate.isOne_iff _).mp full) fun factor isPrime divides => ?_
  rw [← product] at divides
  obtain ⟨known, isKnown, divides⟩ := (Prime.dvd_prod_iff isPrime.prime).mp divides
  have factor_eq : factor = known :=
    (Nat.prime_dvd_prime_iff_eq isPrime (factors_prime known isKnown)).mp divides
  rw [factor_eq, ne_eq, ← isOne_iff]
  exact proper known isKnown

end Certificate

/-- Every factor of a certificate has an earlier one, which stands further down, or is small. -/
def Chain : List Certificate → Prop
  | [] => True
  | certificate :: earlier =>
      Chain earlier ∧ certificate.Holds ∧
        ∀ factor ∈ certificate.factors,
          factor ∈ earlier.map Certificate.number ∨ (factor < 1000 ∧ factor.Prime)

instance Chain.decidable : (certificates : List Certificate) → Decidable (Chain certificates)
  | [] => .isTrue trivial
  | _ :: earlier =>
      have : Decidable (Chain earlier) := Chain.decidable earlier
      inferInstanceAs (Decidable (_ ∧ _ ∧ _))

theorem Chain.prime {certificates : List Certificate} (chain : Chain certificates) :
    ∀ number ∈ certificates.map Certificate.number, number.Prime := by
  induction certificates with
  | nil => simp
  | cons certificate earlier ih =>
      obtain ⟨chain, holds, known⟩ := chain
      have factors_prime : ∀ factor ∈ certificate.factors, factor.Prime := by
        intro factor isFactor
        rcases known factor isFactor with isEarlier | ⟨_, isPrime⟩
        · exact ih chain factor isEarlier
        · exact isPrime
      rw [List.map_cons, List.forall_mem_cons]
      exact ⟨holds.prime factors_prime, ih chain⟩

end Primality

namespace Curve25519

open Primality

def primeCertificates : List Certificate :=
  [⟨57896044618658097711785492504343953926634992332820282019728792003956564819949, 2,
     [2, 2, 3, 65147, 74058212732561358302231226437062788676166966415465897661863160754340907]⟩,
   ⟨74058212732561358302231226437062788676166966415465897661863160754340907, 2,
     [2, 3, 353, 57467, 132049, 1923133, 31757755568855353, 75445702479781427272750846543864801]⟩,
   ⟨75445702479781427272750846543864801, 7,
     [2, 2, 2, 2, 2, 3, 3, 5, 5, 75707, 72106336199, 1919519569386763]⟩,
   ⟨31757755568855353, 10, [2, 2, 2, 3, 31, 107, 223, 4153, 430751]⟩,
   ⟨1919519569386763, 2, [2, 3, 7, 19, 47, 47, 127, 8574133]⟩,
   ⟨72106336199, 7, [2, 13, 2773320623]⟩,
   ⟨2773320623, 5, [2, 2437, 569003]⟩,
   ⟨8574133, 2, [2, 2, 3, 7, 103, 991]⟩,
   ⟨1923133, 2, [2, 2, 3, 43, 3727]⟩,
   ⟨569003, 2, [2, 7, 97, 419]⟩,
   ⟨430751, 17, [2, 5, 5, 5, 1723]⟩,
   ⟨132049, 26, [2, 2, 2, 2, 3, 3, 7, 131]⟩,
   ⟨75707, 2, [2, 37853]⟩,
   ⟨65147, 2, [2, 32573]⟩,
   ⟨57467, 2, [2, 59, 487]⟩,
   ⟨37853, 2, [2, 2, 9463]⟩,
   ⟨32573, 2, [2, 2, 17, 479]⟩,
   ⟨9463, 3, [2, 3, 19, 83]⟩,
   ⟨4153, 5, [2, 2, 2, 3, 173]⟩,
   ⟨3727, 3, [2, 3, 3, 3, 3, 23]⟩,
   ⟨2437, 2, [2, 2, 3, 7, 29]⟩,
   ⟨1723, 3, [2, 3, 7, 41]⟩]

def orderCertificates : List Certificate :=
  [⟨7237005577332262213973186563042994240857116359379907606001950938285454250989, 2,
     [2, 2, 3, 11, 198211423230930754013084525763697, 276602624281642239937218680557139826668747]⟩,
   ⟨276602624281642239937218680557139826668747, 2, [2, 7, 19757330305831588566944191468367130476339]⟩,
   ⟨19757330305831588566944191468367130476339, 2, [2, 269, 213441916511, 172054593956031949258510691]⟩,
   ⟨198211423230930754013084525763697, 5, [2, 2, 2, 2, 3, 23, 58964693, 3044861653679985063343]⟩,
   ⟨172054593956031949258510691, 2, [2, 5, 1361, 2851, 4434155615661930479]⟩,
   ⟨3044861653679985063343, 5, [2, 3, 11, 30703, 82163, 132667, 137849]⟩,
   ⟨4434155615661930479, 17, [2, 41, 43, 1257559732178653]⟩,
   ⟨1257559732178653, 2, [2, 2, 3, 7, 23, 531581, 1224481]⟩,
   ⟨213441916511, 13, [2, 5, 73, 292386187]⟩,
   ⟨292386187, 2, [2, 3, 3, 3, 3, 307, 5879]⟩,
   ⟨58964693, 2, [2, 2, 14741173]⟩,
   ⟨14741173, 2, [2, 2, 3, 3, 409477]⟩,
   ⟨1224481, 13, [2, 2, 2, 2, 2, 3, 5, 2551]⟩,
   ⟨531581, 2, [2, 2, 5, 7, 3797]⟩,
   ⟨409477, 2, [2, 2, 3, 34123]⟩,
   ⟨137849, 3, [2, 2, 2, 17231]⟩,
   ⟨132667, 5, [2, 3, 22111]⟩,
   ⟨82163, 2, [2, 41081]⟩,
   ⟨41081, 3, [2, 2, 2, 5, 13, 79]⟩,
   ⟨34123, 2, [2, 3, 11, 11, 47]⟩,
   ⟨30703, 3, [2, 3, 7, 17, 43]⟩,
   ⟨22111, 6, [2, 3, 5, 11, 67]⟩,
   ⟨17231, 13, [2, 5, 1723]⟩,
   ⟨5879, 11, [2, 2939]⟩,
   ⟨3797, 2, [2, 2, 13, 73]⟩,
   ⟨2939, 2, [2, 13, 113]⟩,
   ⟨2851, 2, [2, 3, 5, 5, 19]⟩,
   ⟨2551, 6, [2, 3, 5, 5, 17]⟩,
   ⟨1723, 3, [2, 3, 7, 41]⟩,
   ⟨1361, 3, [2, 2, 2, 2, 5, 17]⟩]

theorem prime_prime : prime.Prime := by
  have chain : Chain primeCertificates := by decide +kernel
  exact chain.prime prime (by decide +kernel)

theorem order_prime : order.Prime := by
  have chain : Chain orderCertificates := by decide +kernel
  exact chain.prime order (by decide +kernel)

end Curve25519
end DoubleRatchet
