import Mathlib.Algebra.Order.Ring.Abs
import Mathlib.Data.Int.ModEq
import GameScript.Proofs.StoreLoadLaws

/-! Integer arithmetic, told by the numbers that 32 bits stand for, with a sign or without one. Each
function is defined as a relation of these numbers. One result meets the definition, and it is the one
that an instruction stores, wherever its operands come from. -/

namespace GameScript

def unsigned (x : Int32) : Int := x.toInt % 2 ^ 32

def shiftAmount (y : Int32) : Nat := (y.toInt % 32).toNat

variable {x y z other s : Int32}

theorem toNat_toUInt32 (x : Int32) : (x.toUInt32.toNat : Int) = unsigned x := by
  have small : x.toBitVec.toNat < 2 ^ 32 := x.toBitVec.isLt
  have wrapped : unsigned x = x.toBitVec.toNat % 2 ^ 32 := by
    change x.toBitVec.toInt % 2 ^ 32 = _
    rw [BitVec.toInt_eq_toNat_bmod]
    exact Int.bmod_emod
  rw [wrapped]
  exact (Int.emod_eq_of_lt (Int.natCast_nonneg _) (by exact_mod_cast small)).symm

theorem unsigned_toInt32 (x : UInt32) : unsigned x.toInt32 = x.toNat := by
  rw [← toNat_toUInt32, UInt32.toUInt32_toInt32]

theorem toUInt32_le_iff : x.toUInt32 ≤ y.toUInt32 ↔ unsigned x ≤ unsigned y := by
  rw [UInt32.le_iff_toNat_le, ← toNat_toUInt32, ← toNat_toUInt32, Int.ofNat_le]

theorem toUInt32_lt_iff : x.toUInt32 < y.toUInt32 ↔ unsigned x < unsigned y := by
  rw [UInt32.lt_iff_toNat_lt, ← toNat_toUInt32, ← toNat_toUInt32, Int.ofNat_lt]

/-- 32 bits are told by their number modulo `2 ^ 32`. -/
theorem eq_of_modEq (same : x.toInt ≡ y.toInt [ZMOD 2 ^ 32]) : x = y := by
  have := x.le_toInt
  have := x.toInt_lt
  have := y.le_toInt
  have := y.toInt_lt
  unfold Int.ModEq at same
  exact Int32.toInt_inj.1 (by omega)

theorem modEq_of_bmod {n : Int} (wrapped : z.toInt = n.bmod (2 ^ 32)) :
    z.toInt ≡ n [ZMOD 2 ^ 32] := by
  rw [wrapped]
  exact Int.bmod_emod

theorem unsigned_inj : unsigned x = unsigned y ↔ x = y :=
  ⟨eq_of_modEq, congrArg unsigned⟩

theorem unsigned_eq_zero : unsigned y = 0 ↔ y = 0 := @unsigned_inj y 0

/-- Quotient and remainder of numbers with a sign: the quotient is cut off toward zero. Only the quotient
of the lowest number by minus one does not fit. -/
structure SignedDivision (x y q r : Int) : Prop where
  wraps : x ≡ q * y + r [ZMOD 2 ^ 32]
  exact : ¬(x = -2 ^ 31 ∧ y = -1) → x = q * y + r
  lowest : x = -2 ^ 31 → y = -1 → q = -2 ^ 31 ∧ r = 0
  smaller : |r| < |y|
  sign : r = 0 ∨ r.sign = x.sign

structure UnsignedDivision (x y q r : Int) : Prop where
  exact : x = q * y + r
  nonneg : 0 ≤ r
  smaller : r < y

namespace SignedDivision

variable {x y q r q' r' : Int}

theorem side (division : SignedDivision x y q r) : (0 ≤ x → 0 ≤ r) ∧ (x ≤ 0 → r ≤ 0) := by
  rcases division.sign with rfl | sign
  · exact ⟨fun _ => le_rfl, fun _ => le_rfl⟩
  · exact ⟨fun nonneg => Int.sign_nonneg_iff.1 (sign ▸ Int.sign_nonneg_iff.2 nonneg),
      fun nonpos => Int.sign_nonpos_iff.1 (sign ▸ Int.sign_nonpos_iff.2 nonpos)⟩

/-- There is one quotient and one remainder: two remainders are on the same side of zero, so they differ
by less than the divisor, and by a multiple of it. -/
theorem unique (one : SignedDivision x y q r) (two : SignedDivision x y q' r') :
    q = q' ∧ r = r' := by
  by_cases lowest : x = -2 ^ 31 ∧ y = -1
  · obtain ⟨rfl, rfl⟩ := one.lowest lowest.1 lowest.2
    obtain ⟨rfl, rfl⟩ := two.lowest lowest.1 lowest.2
    exact ⟨rfl, rfl⟩
  · have apart : r' - r = (q - q') * y := by
      have first := one.exact lowest
      have second := two.exact lowest
      rw [Int.sub_mul]
      omega
    have close : |r' - r| < |y| := by
      have first := abs_lt.1 one.smaller
      have second := abs_lt.1 two.smaller
      have := one.side
      have := two.side
      rw [abs_lt]
      omega
    have same : r' - r = 0 := Int.eq_zero_of_abs_lt_dvd
      ((abs_dvd _ _).2 (apart ▸ Dvd.intro_left _ rfl)) close
    have divides : y ≠ 0 := fun zero => by
      have := one.smaller
      rw [zero, abs_zero] at this
      exact absurd (abs_nonneg r) (not_le.2 this)
    refine ⟨?_, by omega⟩
    rw [same, eq_comm, Int.mul_eq_zero] at apart
    exact Int.sub_eq_zero.1 (apart.resolve_right divides)

end SignedDivision

theorem UnsignedDivision.unique {x y q r q' r' : Int} (one : UnsignedDivision x y q r)
    (two : UnsignedDivision x y q' r') : q = q' ∧ r = r' := by
  have positive : 0 < y := one.nonneg.trans_lt one.smaller
  have found {q r : Int} (division : UnsignedDivision x y q r) : x / y = q ∧ x % y = r := by
    refine (Int.ediv_emod_unique positive).2 ⟨?_, division.nonneg, division.smaller⟩
    rw [division.exact, Int.mul_comm y, Int.add_comm]
  exact ⟨(found one).1.symm.trans (found two).1, (found one).2.symm.trans (found two).2⟩

theorem signedDivision_div_mod (x : Int32) (nonzero : y ≠ 0) :
    SignedDivision x.toInt y.toInt (x / y).toInt (x % y).toInt := by
  have divisor : y.toInt ≠ 0 := fun zero => nonzero (Int32.toInt_inj.1 zero)
  have whole : x.toInt = x.toInt.tdiv y.toInt * y.toInt + x.toInt.tmod y.toInt := by
    rw [Int.mul_comm, Int.mul_tdiv_add_tmod]
  have wrapped := modEq_of_bmod (Int32.toInt_div x y)
  rw [Int32.toInt_mod]
  refine ⟨?_, fun fits => ?_, fun low minus => ?_, ?_, ?_⟩
  · nth_rewrite 1 [whole]
    exact (wrapped.symm.mul_right _).add_right _
  · have kept : (x / y).toInt = x.toInt.tdiv y.toInt := by
      by_cases low : x = Int32.minValue
      · refine Int32.toInt_div_of_ne_right x y fun minus => fits ?_
        rw [low, minus]
        decide
      · exact Int32.toInt_div_of_ne_left x y low
    rw [kept]
    exact whole
  · rw [Int32.toInt_div, low, minus]
    decide
  · rw [Int.abs_eq_natAbs, Int.abs_eq_natAbs, Int.natAbs_tmod]
    exact_mod_cast Nat.mod_lt _ (Int.natAbs_pos.2 divisor)
  · rw [Int.sign_tmod]
    split
    next divides => exact .inl (Int.tmod_eq_zero_of_dvd divides)
    next => exact .inr rfl

theorem unsignedDivision_div_mod (x : Int32) (nonzero : y ≠ 0) :
    UnsignedDivision (unsigned x) (unsigned y) (unsigned (x.toUInt32 / y.toUInt32).toInt32)
      (unsigned (x.toUInt32 % y.toUInt32).toInt32) := by
  have positive : 0 < y.toUInt32.toNat := by
    have := toNat_toUInt32 y
    have := mt unsigned_eq_zero.1 nonzero
    omega
  rw [unsigned_toInt32, unsigned_toInt32, UInt32.toNat_div, UInt32.toNat_mod, ← toNat_toUInt32,
    ← toNat_toUInt32]
  refine ⟨?_, Int.natCast_nonneg _, by exact_mod_cast Nat.mod_lt _ positive⟩
  exact_mod_cast (Nat.div_add_mod' _ _).symm

section Shifts

variable {n : Nat}

theorem toNat_smod (small : n < 32) (same : s.toInt = n) : (s.toBitVec.smod 32).toNat = n := by
  have value : (s.toBitVec.smod 32).toInt = n := by
    rw [BitVec.toInt_smod]
    change s.toInt.fmod 32 = n
    rw [same, Int.fmod_eq_emod_of_nonneg _ (by decide)]
    omega
  have bounded := (s.toBitVec.smod 32).isLt
  rw [BitVec.toInt_eq_toNat_bmod, Int.bmod_def] at value
  split at value <;> omega

theorem shiftLeft_modEq (x : Int32) (small : n < 32) (same : s.toInt = n) :
    (x <<< s).toInt ≡ x.toInt * 2 ^ n [ZMOD 2 ^ 32] := by
  change (x <<< s).toBitVec.toInt ≡ x.toBitVec.toInt * 2 ^ n [ZMOD 2 ^ 32]
  rw [Int32.toBitVec_shiftLeft, BitVec.shiftLeft_eq', toNat_smod small same, BitVec.toInt_shiftLeft,
    Nat.shiftLeft_eq, x.toBitVec.toInt_eq_toNat_bmod]
  push_cast
  exact Int.ModEq.trans Int.bmod_emod (Int.ModEq.mul_right _ Int.bmod_emod.symm)

theorem toInt_shiftRight (x : Int32) (small : n < 32) (same : s.toInt = n) :
    (x >>> s).toInt = x.toInt / 2 ^ n := by
  change (x >>> s).toBitVec.toInt = x.toBitVec.toInt / 2 ^ n
  rw [Int32.toBitVec_shiftRight, BitVec.sshiftRight_eq', toNat_smod small same,
    BitVec.toInt_sshiftRight, Int.shiftRight_eq_div_pow]
  norm_cast

theorem toNat_low (y : Int32) : (y &&& 31).toBitVec.toNat = shiftAmount y := by
  have masked : (y &&& 31).toBitVec.toNat = y.toBitVec.toNat % 32 := by
    rw [Int32.toBitVec_and, BitVec.toNat_and]
    exact Nat.and_two_pow_sub_one_eq_mod _ 5
  change _ = (y.toBitVec.toInt % 32).toNat
  rw [masked, y.toBitVec.toInt_eq_toNat_bmod, Int.bmod_def]
  split <;> omega

theorem shiftAmount_lt (y : Int32) : shiftAmount y < 32 := by
  unfold shiftAmount
  omega

theorem toInt_low (y : Int32) : (y &&& 31).toInt = shiftAmount y := by
  have small := shiftAmount_lt y
  change (y &&& 31).toBitVec.toInt = _
  rw [BitVec.toInt_eq_toNat_bmod, toNat_low, Int.bmod_def]
  split <;> omega

theorem unsigned_shiftRight (x y : Int32) :
    unsigned (x.toUInt32 >>> (y.toUInt32 &&& 31)).toInt32 = unsigned x / 2 ^ shiftAmount y := by
  have low : (y.toUInt32 &&& 31).toNat = shiftAmount y := toNat_low y
  rw [unsigned_toInt32, UInt32.toNat_shiftRight, low, Nat.mod_eq_of_lt (shiftAmount_lt y),
    Nat.shiftRight_eq_div_pow, ← toNat_toUInt32]
  norm_cast

end Shifts

structure SignExtends (bits : Nat) (x z : Int) : Prop where
  least : -2 ^ (bits - 1) ≤ z
  greatest : z < 2 ^ (bits - 1)
  low : z ≡ x [ZMOD 2 ^ bits]

/-- What is shifted up by `k` and kept in `m + 1 + k` bits is the product of a number of `m + 1` bits, so
division by the same power of two gives that number. -/
theorem SignExtends.of_shifted {m k : Nat} {x t : Int} (width : m + k = 31)
    (shifted : t ≡ x * 2 ^ k [ZMOD 2 ^ 32]) (least : -2 ^ 31 ≤ t) (greatest : t < 2 ^ 31) :
    SignExtends (m + 1) x (t / 2 ^ k) := by
  have positive : (0 : Int) < 2 ^ k := Int.pow_pos (by decide)
  have half : (2 : Int) ^ 31 = 2 ^ m * 2 ^ k := by rw [← width, Int.pow_add]
  have whole : (2 : Int) ^ 32 = 2 ^ (m + 1) * 2 ^ k := by
    rw [← Int.pow_add, show m + 1 + k = 32 by omega]
  rw [whole] at shifted
  have divides : 2 ^ k ∣ t := by
    refine Int.modEq_zero_iff_dvd.1 ((shifted.of_mul_left _).trans ?_)
    exact Int.modEq_zero_iff_dvd.2 (Int.dvd_mul_left _ _)
  obtain ⟨z, rfl⟩ := exists_eq_mul_left_of_dvd divides
  rw [Int.mul_ediv_cancel _ positive.ne']
  refine ⟨?_, ?_, Int.ModEq.mul_right_cancel' positive.ne' shifted⟩
  · rw [half, ← Int.neg_mul] at least
    exact Int.le_of_mul_le_mul_right least positive
  · rw [half] at greatest
    exact Int.lt_of_mul_lt_mul_right greatest positive.le

theorem signExtends_signExtend {bits : UInt8} (some : 1 ≤ bits.toNat) (most : bits.toNat ≤ 32)
    (x : Int32) : SignExtends bits.toNat x.toInt (signExtend bits x).toInt := by
  have small : 32 - bits.toNat < 32 := by omega
  have shift : (Int32.ofNat (32 - bits.toNat)).toInt = (32 - bits.toNat : Nat) :=
    Int32.toInt_ofNat_of_lt (by omega)
  have extended := @SignExtends.of_shifted (bits.toNat - 1) _ _ _ (by omega)
    (shiftLeft_modEq x small shift) (Int32.le_toInt _) (Int32.toInt_lt _)
  rw [signExtend, toInt_shiftRight _ small shift]
  rwa [Nat.sub_add_cancel some] at extended

theorem SignExtends.unique {bits : Nat} {x z other : Int} (some : 1 ≤ bits)
    (one : SignExtends bits x z) (two : SignExtends bits x other) : z = other := by
  obtain ⟨m, rfl⟩ : ∃ m, bits = m + 1 := ⟨bits - 1, by omega⟩
  have whole : (2 : Int) ^ (m + 1) = 2 ^ m * 2 := Int.pow_succ 2 m
  have close : |z - other| < 2 ^ (m + 1) := by
    have := one.least
    have := one.greatest
    have := two.least
    have := two.greatest
    rw [Nat.add_sub_cancel] at *
    rw [abs_lt]
    omega
  have divides : 2 ^ (m + 1) ∣ z - other := (two.low.trans one.low.symm).dvd
  exact Int.sub_eq_zero.1 (Int.eq_zero_of_abs_lt_dvd divides close)

/-- What a function makes of two operands, as a relation of numbers. Sums and products are kept modulo
`2 ^ 32`, and a division is told with the other of its two results. -/
def IntFunction.Computes (x y z : Int32) : IntFunction → Prop
  | .shiftLeft => z.toInt ≡ x.toInt * 2 ^ shiftAmount y [ZMOD 2 ^ 32]
  | .shiftRight => unsigned z = unsigned x / 2 ^ shiftAmount y
  | .shiftRightSigned => z.toInt = x.toInt / 2 ^ shiftAmount y
  | .add => z.toInt ≡ x.toInt + y.toInt [ZMOD 2 ^ 32]
  | .sub => z.toInt ≡ x.toInt - y.toInt [ZMOD 2 ^ 32]
  | .mul => z.toInt ≡ x.toInt * y.toInt [ZMOD 2 ^ 32]
  | .div => ∃ r : Int32, SignedDivision x.toInt y.toInt z.toInt r.toInt
  | .divUnsigned => ∃ r : Int32, UnsignedDivision (unsigned x) (unsigned y) (unsigned z) (unsigned r)
  | .mod => ∃ q : Int32, SignedDivision x.toInt y.toInt q.toInt z.toInt
  | .modUnsigned => ∃ q : Int32, UnsignedDivision (unsigned x) (unsigned y) (unsigned q) (unsigned z)
  | .and => ∀ i, z.toBitVec.getLsbD i = (x.toBitVec.getLsbD i && y.toBitVec.getLsbD i)
  | .or => ∀ i, z.toBitVec.getLsbD i = (x.toBitVec.getLsbD i || y.toBitVec.getLsbD i)
  | .xor => ∀ i, z.toBitVec.getLsbD i = (x.toBitVec.getLsbD i ^^ y.toBitVec.getLsbD i)
  | .min => z.toInt = Min.min x.toInt y.toInt
  | .max => z.toInt = Max.max x.toInt y.toInt
  | .minUnsigned => unsigned z = Min.min (unsigned x) (unsigned y)
  | .maxUnsigned => unsigned z = Max.max (unsigned x) (unsigned y)

def IntFunction.divides : IntFunction → Bool
  | .div | .divUnsigned | .mod | .modUnsigned => true
  | _ => false

def IntUnary.Computes (x z : Int32) : IntUnary → Prop
  | .abs => z.toInt ≡ |x.toInt| [ZMOD 2 ^ 32]
  | .neg => z.toInt ≡ -x.toInt [ZMOD 2 ^ 32]
  | .not => z.toInt = -x.toInt - 1

def IntRelation.Orders (x y : Int32) : IntRelation → Prop
  | .eq => x.toInt = y.toInt
  | .lt => x.toInt < y.toInt
  | .le => x.toInt ≤ y.toInt
  | .ltUnsigned => unsigned x < unsigned y
  | .leUnsigned => unsigned x ≤ unsigned y

namespace IntFunction

variable {f : IntFunction}

theorem Computes.unique (one : f.Computes x y z) (two : f.Computes x y other) : z = other := by
  have numbers {n : Int} (one : z.toInt = n) (two : other.toInt = n) : z = other :=
    Int32.toInt_inj.1 (one.trans two.symm)
  have bits {g : Nat → Bool} (one : ∀ i, z.toBitVec.getLsbD i = g i)
      (two : ∀ i, other.toBitVec.getLsbD i = g i) : z = other :=
    Int32.toBitVec_inj.1 (BitVec.eq_of_getLsbD_eq fun i _ => (one i).trans (two i).symm)
  cases f with
  | shiftLeft | add | sub | mul => exact eq_of_modEq (Int.ModEq.trans one (Int.ModEq.symm two))
  | shiftRightSigned | min | max => exact numbers one two
  | shiftRight | minUnsigned | maxUnsigned => exact unsigned_inj.1 (Eq.trans one (Eq.symm two))
  | div =>
    obtain ⟨r, one⟩ := one
    obtain ⟨r', two⟩ := two
    exact Int32.toInt_inj.1 (one.unique two).1
  | mod =>
    obtain ⟨q, one⟩ := one
    obtain ⟨q', two⟩ := two
    exact Int32.toInt_inj.1 (one.unique two).2
  | divUnsigned =>
    obtain ⟨r, one⟩ := one
    obtain ⟨r', two⟩ := two
    exact unsigned_inj.1 (one.unique two).1
  | modUnsigned =>
    obtain ⟨q, one⟩ := one
    obtain ⟨q', two⟩ := two
    exact unsigned_inj.1 (one.unique two).2
  | and | or | xor => exact bits one two

theorem apply_zero (divides : f.divides = true) (x : Int32) :
    f.apply x 0 = .error (.of .divisionByZero) := by
  cases f <;> first | rfl | cases divides

/-- There is a result unless a zero is to divide. -/
theorem apply_computes (divisor : f.divides = true → y ≠ 0) (x : Int32) :
    ∃ z, f.apply x y = .ok z ∧ f.Computes x y z := by
  have divisor_ok (nonzero : y ≠ 0) : GameScript.divisor y = .ok y := if_neg nonzero
  cases f with
  | shiftLeft => exact ⟨_, rfl, shiftLeft_modEq x (shiftAmount_lt y) (toInt_low y)⟩
  | shiftRight => exact ⟨_, rfl, unsigned_shiftRight x y⟩
  | shiftRightSigned => exact ⟨_, rfl, toInt_shiftRight x (shiftAmount_lt y) (toInt_low y)⟩
  | add => exact ⟨_, rfl, modEq_of_bmod (Int32.toInt_add x y)⟩
  | sub => exact ⟨_, rfl, modEq_of_bmod (Int32.toInt_sub x y)⟩
  | mul => exact ⟨_, rfl, modEq_of_bmod (Int32.toInt_mul x y)⟩
  | div =>
    refine ⟨x / y, ?_, x % y, signedDivision_div_mod x (divisor rfl)⟩
    rw [apply, divisor_ok (divisor rfl)]
    rfl
  | divUnsigned =>
    refine ⟨(x.toUInt32 / y.toUInt32).toInt32, ?_, _, unsignedDivision_div_mod x (divisor rfl)⟩
    rw [apply, divisor_ok (divisor rfl)]
    rfl
  | mod =>
    refine ⟨x % y, ?_, x / y, signedDivision_div_mod x (divisor rfl)⟩
    rw [apply, divisor_ok (divisor rfl)]
    rfl
  | modUnsigned =>
    refine ⟨(x.toUInt32 % y.toUInt32).toInt32, ?_, _, unsignedDivision_div_mod x (divisor rfl)⟩
    rw [apply, divisor_ok (divisor rfl)]
    rfl
  | and => exact ⟨_, rfl, fun i => by rw [Int32.toBitVec_and, BitVec.getLsbD_and]⟩
  | or => exact ⟨_, rfl, fun i => by rw [Int32.toBitVec_or, BitVec.getLsbD_or]⟩
  | xor => exact ⟨_, rfl, fun i => by rw [Int32.toBitVec_xor, BitVec.getLsbD_xor]⟩
  | min =>
    refine ⟨_, rfl, ?_⟩
    rw [Computes, min_def, apply_ite Int32.toInt]
    exact if_congr Int32.le_iff_toInt_le rfl rfl
  | max =>
    refine ⟨_, rfl, ?_⟩
    rw [Computes, max_def, apply_ite Int32.toInt]
    exact if_congr Int32.le_iff_toInt_le rfl rfl
  | minUnsigned =>
    refine ⟨_, rfl, ?_⟩
    rw [Computes, min_def, apply_ite unsigned]
    exact if_congr toUInt32_le_iff rfl rfl
  | maxUnsigned =>
    refine ⟨_, rfl, ?_⟩
    rw [Computes, max_def, apply_ite unsigned]
    exact if_congr toUInt32_le_iff rfl rfl

end IntFunction

namespace IntUnary

variable {f : IntUnary}

theorem Computes.unique (one : f.Computes x z) (two : f.Computes x other) : z = other := by
  cases f with
  | abs | neg => exact eq_of_modEq (Int.ModEq.trans one (Int.ModEq.symm two))
  | not => exact Int32.toInt_inj.1 (Eq.trans one (Eq.symm two))

theorem computes_apply (f : IntUnary) (x : Int32) : f.Computes x (f.apply x) := by
  cases f with
  | neg => exact modEq_of_bmod (Int32.toInt_neg x)
  | abs =>
    rw [Computes, apply]
    split
    next negative =>
      rw [abs_of_neg (Int32.lt_iff_toInt_lt.1 negative)]
      exact modEq_of_bmod (Int32.toInt_neg x)
    next nonneg =>
      rw [abs_of_nonneg (Int.not_lt.1 fun negative => nonneg (Int32.lt_iff_toInt_lt.2 negative))]
  | not =>
    have := x.le_toInt
    have := x.toInt_lt
    rw [Computes, apply, Int32.toInt_not, Int.bmod_def]
    split <;> omega

end IntUnary

theorem IntRelation.holds_iff {relation : IntRelation} :
    relation.holds x y = true ↔ relation.Orders x y := by
  cases relation with
  | eq => exact beq_iff_eq.trans Int32.toInt_inj.symm
  | lt => exact decide_eq_true_iff.trans Int32.lt_iff_toInt_lt
  | le => exact decide_eq_true_iff.trans Int32.le_iff_toInt_le
  | ltUnsigned => exact decide_eq_true_iff.trans toUInt32_lt_iff
  | leUnsigned => exact decide_eq_true_iff.trans toUInt32_le_iff

namespace Action

variable {ν : Type} {setting : Setting ν} {instruction : Instruction} {w : Word} {state after : Local}

def stores (w : Word) (z : Int32) : Action (Next ν) := do
  setRegister .int w.a.toNat z
  return .proceed

theorem stores_fault {abort : Abort}
    (failed : (stores w z : Action (Next ν)) state = .error abort after) :
    abort.kind = .contractViolation := by
  rcases bind_eq_error.1 failed with refused | ⟨_, _, -, ⟨⟩⟩
  have failed : (Load.of .int32 .register).put w.a.toNat z state = .error abort after := refused
  exact (put_fault failed).1

theorem perform_intBinary {f : IntFunction} {left right : IntSource}
    (operation : instruction.operation = .intBinary f left right)
    (first : state.frame.intOperand left w.b.toUInt16 = .ok x)
    (second : state.frame.intOperand right w.c.toUInt16 = .ok y) :
    perform setting instruction w state = (ofAbort (f.apply x y) >>= stores w) state := by
  simp only [perform, operation, compute, intBinary, stores, bind_apply, fetchInt_apply, first,
    second, ofExcept_ok]
  cases f.apply x y <;> rfl

theorem perform_intUnary {f : IntUnary} (operation : instruction.operation = .intUnary f)
    (held : state.frame.registers.register .int w.b.toNat = .ok x) :
    perform setting instruction w state = stores w (f.apply x) state := by
  simp only [perform, operation, compute, stores, bind_apply, register_apply, held, ofExcept_ok]

theorem perform_signExtend (operation : instruction.operation = .signExtend)
    (some : 1 ≤ w.c.toNat) (most : w.c.toNat ≤ 32)
    (held : state.frame.registers.register .int w.b.toNat = .ok x) :
    perform setting instruction w state = stores w (signExtend w.c x) state := by
  have width : (0 < w.c && w.c ≤ 32) = true := by
    rw [Bool.and_eq_true, decide_eq_true_iff, decide_eq_true_iff, UInt8.lt_iff_toNat_lt,
      UInt8.le_iff_toNat_le]
    exact ⟨some, most⟩
  simp only [perform, operation, compute, width, if_true, stores, bind_apply, register_apply, held,
    ofExcept_ok]

theorem perform_signExtend_unknown (operation : instruction.operation = .signExtend)
    (outside : w.c.toNat = 0 ∨ 32 < w.c.toNat) :
    perform setting instruction w state =
      .error (.ofFault (.unknownSelector ⟨.signExtension, w.c⟩)) state := by
  have width : (0 < w.c && w.c ≤ 32) = false := by
    rw [Bool.and_eq_false_iff, decide_eq_false_iff_not, decide_eq_false_iff_not,
      UInt8.lt_iff_toNat_lt, UInt8.le_iff_toNat_le]
    exact outside.imp (fun zero => by rw [zero]; decide) Nat.not_le.2
  simp only [perform, operation, compute, width, bind_apply]
  rfl

theorem perform_intCompare {relation : IntRelation} {left right : IntSource}
    (operation : instruction.operation = .intCompare relation left right)
    (first : state.frame.intOperand left w.b.toUInt16 = .ok x)
    (second : state.frame.intOperand right w.c.toUInt16 = .ok y) :
    perform setting instruction w state =
      (branch instruction.mnemonic (relation.holds x y) (CompareField.mk w.a).check >>=
        fun _ => pure .proceed) state := by
  simp only [perform, operation, compute, intCompare, bind_apply, fetchInt_apply, first, second,
    ofExcept_ok]

/-- An instruction stores the one number that meets the definition of its function, and compares by the
order of the numbers. Only a division by zero aborts as one, and it stores nothing. -/
theorem integers_compute (setting : Setting ν) (instruction : Instruction) (w : Word)
    (state : Local) (x y : Int32) :
    (∀ f left right, instruction.operation = .intBinary f left right →
      state.frame.intOperand left w.b.toUInt16 = .ok x →
      state.frame.intOperand right w.c.toUInt16 = .ok y →
      ((∃ abort after, perform setting instruction w state = .error abort after ∧
        abort.kind = .divisionByZero) ↔ f.divides = true ∧ y = 0) ∧
      (f.divides = true → y = 0 → ∃ abort,
        perform setting instruction w state = .error abort state ∧
        abort.kind = .divisionByZero) ∧
      ((f.divides = true → y ≠ 0) → ∃ z, (∀ other, f.Computes x y other ↔ other = z) ∧
        perform setting instruction w state = stores w z state)) ∧
    (∀ f, instruction.operation = .intUnary f →
      state.frame.registers.register .int w.b.toNat = .ok x →
      ∃ z, (∀ other, f.Computes x other ↔ other = z) ∧
        perform setting instruction w state = stores w z state) ∧
    (instruction.operation = .signExtend →
      (1 ≤ w.c.toNat → w.c.toNat ≤ 32 →
        state.frame.registers.register .int w.b.toNat = .ok x →
        ∃ z, (∀ n, SignExtends w.c.toNat x.toInt n ↔ n = z.toInt) ∧
          perform setting instruction w state = stores w z state) ∧
      (w.c.toNat = 0 ∨ 32 < w.c.toNat → ∃ abort,
        perform setting instruction w state = .error abort state ∧
        abort.kind = .contractViolation)) ∧
    (∀ relation left right, instruction.operation = .intCompare relation left right →
      state.frame.intOperand left w.b.toUInt16 = .ok x →
      state.frame.intOperand right w.c.toUInt16 = .ok y →
      ∃ outcome, (outcome = true ↔ relation.Orders x y) ∧
        perform setting instruction w state =
          (branch instruction.mnemonic outcome (CompareField.mk w.a).check >>=
            fun _ => pure .proceed) state) ∧
    (∀ q r, IntFunction.div.Computes x y q → IntFunction.mod.Computes x y r →
      SignedDivision x.toInt y.toInt q.toInt r.toInt) ∧
    ∀ q r, IntFunction.divUnsigned.Computes x y q → IntFunction.modUnsigned.Computes x y r →
      UnsignedDivision (unsigned x) (unsigned y) (unsigned q) (unsigned r) := by
  refine ⟨fun f left right operation first second => ?_, fun f operation held => ?_,
    fun operation => ⟨fun some most held => ?_, fun outside => ?_⟩,
    fun relation left right operation first second => ?_, ?_, ?_⟩
  · have ends : perform setting instruction w state = (ofAbort (f.apply x y) >>= stores w) state :=
      perform_intBinary operation first second
    by_cases zero : f.divides = true ∧ y = 0
    · obtain ⟨divides, rfl⟩ := zero
      rw [f.apply_zero divides] at ends
      exact ⟨iff_of_true ⟨_, _, ends, rfl⟩ ⟨divides, rfl⟩, fun _ _ => ⟨_, ends, rfl⟩,
        fun nonzero => absurd rfl (nonzero divides)⟩
    · obtain ⟨z, applied, computes⟩ :=
        IntFunction.apply_computes (fun divides nonzero => zero ⟨divides, nonzero⟩) x
      rw [applied] at ends
      refine ⟨iff_of_false ?_ zero, fun divides nonzero => absurd ⟨divides, nonzero⟩ zero,
        fun _ => ⟨z, fun other => ⟨fun same => same.unique computes, fun same => same ▸ computes⟩,
          ends⟩⟩
      rintro ⟨abort, after, failed, kind⟩
      cases kind.symm.trans (stores_fault (ends.symm.trans failed))
  · have computes := f.computes_apply x
    exact ⟨_, fun other => ⟨fun same => same.unique computes, fun same => same ▸ computes⟩,
      perform_intUnary operation held⟩
  · have extends_ := signExtends_signExtend some most x
    exact ⟨_, fun n => ⟨fun same => same.unique some extends_, fun same => same ▸ extends_⟩,
      perform_signExtend operation some most held⟩
  · exact ⟨_, perform_signExtend_unknown operation outside, rfl⟩
  · exact ⟨_, IntRelation.holds_iff, perform_intCompare operation first second⟩
  · rintro q r ⟨r', one⟩ ⟨q', two⟩
    rwa [(one.unique two).2] at one
  · rintro q r ⟨r', one⟩ ⟨q', two⟩
    rwa [(one.unique two).2] at one

def dividing : Local where
  frame := {
    routine := ⟨"Main", "", #[], .blank fun _ => 0, ⟨4, 0, 0, 0, 0, 0⟩, .empty⟩
    registers := ⟨#[-2147483648, -1, 0, 255], #[], #[], #[]⟩
    pc := 0
    current := 0
    staged := []
    extra := none
    pending := none
    results := []
    returned := 0
    host := some [] }
  world := .empty

/-- The lowest number by minus one is the lowest number again, and a division by zero has no result.
The low 8 bits of 255 are those of minus one. -/
theorem integers_compute_dividing :
    let setting : Setting Unit := ⟨.standard, .empty, 1⟩
    let div : Instruction := ⟨0x81, "DIV_RR", .intBinary .div .register .register⟩
    perform setting div ⟨0x01000381⟩ dividing = stores ⟨0x01000381⟩ (-2147483648) dividing ∧
    (∃ abort, perform setting div ⟨0x02000381⟩ dividing = .error abort dividing ∧
      abort.kind = .divisionByZero) ∧
    perform setting ⟨0x9e, "SEXT", .signExtend⟩ ⟨0x0803029e⟩ dividing =
      stores ⟨0x0803029e⟩ (-1) dividing := by
  intro setting div
  refine ⟨?_, ?_, ?_⟩
  · obtain ⟨z, unique, ends⟩ := ((integers_compute setting div ⟨0x01000381⟩ dividing (-2147483648)
      (-1)).1 _ _ _ rfl rfl rfl).2.2 fun _ => by decide
    have lowest : SignedDivision (-2147483648) (-1) (-2147483648) 0 :=
      ⟨by decide, by decide, by decide, by decide, .inl rfl⟩
    rw [ends, ← (unique (-2147483648)).1 ⟨0, lowest⟩]
  · exact ((integers_compute setting div ⟨0x02000381⟩ dividing (-2147483648) 0).1 _ _ _ rfl rfl
      rfl).2.1 rfl rfl
  · obtain ⟨z, unique, ends⟩ := ((integers_compute setting ⟨0x9e, "SEXT", .signExtend⟩ ⟨0x0803029e⟩
      dividing 255 0).2.2.1 rfl).1 (by decide) (by decide) rfl
    have low : SignExtends 8 255 (-1) := ⟨by decide, by decide, by decide⟩
    have minus : z = -1 := Int32.toInt_inj.1 ((unique (-1)).1 low).symm
    rw [ends, minus]

end Action

end GameScript
