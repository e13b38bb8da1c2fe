import GameScript.Proofs.TokenSpelling

/-! Integers as tokens. The sign is taken off twice, once before the mark of the base and once with the
digits behind it, and every token spells one integer at most. The range is that of 64 bits for what is
read behind the first sign, so there is one number without an opposite: the least integer, which only
a second sign can lead to. There the negation overflows. -/

namespace GameScript.Assembly

open Text

variable {base : Nat} {chars : List Char} {token : String}

/-! ### What a token spells is determined -/

theorem SpellsNat.unique {n m : Nat} (one : SpellsNat base chars n) (other : SpellsNat base chars m) :
    n = m :=
  Option.some.inj (one.readNat?.symm.trans other.readNat?)

theorem SpellsSigned.unique {n m : Int} (one : SpellsSigned base chars n)
    (other : SpellsSigned base chars m) : n = m := by
  have left : Text.readInt? base (min n m) (max n m) chars = some n :=
    one.readInt? ⟨Int.min_le_left .., Int.le_max_left ..⟩
  have right : Text.readInt? base (min n m) (max n m) chars = some m :=
    other.readInt? ⟨Int.min_le_right .., Int.le_max_right ..⟩
  exact Option.some.inj (left.symm.trans right)

theorem SpellsMagnitude.unique {n m : Int} (one : SpellsMagnitude chars n)
    (other : SpellsMagnitude chars m) : n = m := by
  cases one with
  | decimal digits =>
    cases other with
    | decimal others => exact digits.unique others
    | hexadecimal marked => exact absurd digits (SpellsSigned.not_marked marked)
  | hexadecimal marked digits =>
    cases other with
    | decimal others => exact absurd others (SpellsSigned.not_marked marked)
    | hexadecimal _ others => exact digits.unique others

/-- A minus sign at the front may be taken for the first sign. -/
theorem SpellsMagnitude.of_minus {n : Int} (spelled : SpellsMagnitude ('-' :: chars) n) :
    SpellsMagnitude chars (-n) := by
  cases spelled with
  | decimal digits =>
    cases digits with
    | plain digits => exact absurd rfl (digits.no_sign chars).1
    | minus digits =>
      rw [Int.neg_neg]
      exact .decimal (.plain digits)

theorem spellsInt_minus_iff {n : Int} : SpellsInt ('-' :: chars) n ↔ SpellsMagnitude chars (-n) := by
  constructor
  · intro spelled
    cases spelled with
    | plain magnitude => exact magnitude.of_minus
    | minus magnitude => rwa [Int.neg_neg]
  · intro magnitude
    rw [← Int.neg_neg n]
    exact .minus magnitude

theorem spellsInt_unsigned_iff {n : Int} (unsigned : ∀ rest, chars ≠ '-' :: rest) :
    SpellsInt chars n ↔ SpellsMagnitude chars n := by
  constructor
  · intro spelled
    cases spelled with
    | plain magnitude => exact magnitude
    | minus => exact absurd rfl (unsigned _)
  · exact .plain

theorem SpellsInt.unique {n m : Int} (one : SpellsInt chars n) (other : SpellsInt chars m) : n = m := by
  by_cases signed : ∃ rest, chars = '-' :: rest
  · obtain ⟨rest, rfl⟩ := signed
    exact Int.neg_inj.1 ((spellsInt_minus_iff.1 one).unique (spellsInt_minus_iff.1 other))
  · have unsigned : ∀ rest, chars ≠ '-' :: rest := not_exists.1 signed
    exact ((spellsInt_unsigned_iff unsigned).1 one).unique ((spellsInt_unsigned_iff unsigned).1 other)

/-! ### What is read -/

theorem readInt?_eq_some_iff {low high n : Int} :
    readInt? base low high chars = some n ↔ SpellsSigned base chars n ∧ low ≤ n ∧ n ≤ high := by
  constructor
  · intro read
    exact ⟨readInt?_spells read, by simpa using (Option.filter_eq_some_iff.1 read).2⟩
  · rintro ⟨spelled, inside⟩
    exact spelled.readInt? inside

theorem magnitude?_eq_some_iff {n : Int} :
    magnitude? chars = some n ↔ SpellsMagnitude chars n ∧ leastInt ≤ n ∧ n ≤ greatestInt := by
  constructor
  · intro read
    refine ⟨magnitude?_spells read, ?_⟩
    unfold magnitude? at read
    split at read
    all_goals exact (readInt?_eq_some_iff.1 read).2
  · rintro ⟨spelled, inside⟩
    exact spelled.magnitude? inside

def NegatesLeast (chars : List Char) : Prop :=
  ∃ rest, chars = '-' :: rest ∧ SpellsMagnitude rest leastInt

theorem greatestInt_eq : greatestInt = -leastInt - 1 := rfl

theorem leastInt_le_greatestInt : leastInt ≤ greatestInt := by decide

theorem NegatesLeast.spells (negates : NegatesLeast chars) : SpellsInt chars (-leastInt) := by
  obtain ⟨rest, rfl, magnitude⟩ := negates
  exact .minus magnitude

theorem integer?_of_minus {rest : List Char} (split : token.toList = '-' :: rest) :
    integer? token = (magnitude? rest).mapM negate := by
  simp only [integer?, split]

theorem integer?_of_unsigned (unsigned : ∀ rest, token.toList ≠ '-' :: rest) :
    integer? token = .ok (magnitude? token.toList) := by
  unfold integer?
  split
  next rest split => exact absurd split (unsigned rest)
  next => rfl

theorem mapM_negate_eq_error_iff {magnitude : Option Int} {halt : Halt Cause} :
    magnitude.mapM negate = .error halt ↔ magnitude = some leastInt ∧ halt = .overflow := by
  cases magnitude with
  | none => simp [pure, Except.pure]
  | some value =>
    by_cases least : value = leastInt
    · simp [negate, least, Functor.map, Except.map, eq_comm]
    · simp [negate, least, Functor.map, Except.map]

/-- Reading an integer fails in no other way than by the overflow of its negation. -/
theorem integer?_eq_error_iff {halt : Halt Cause} :
    integer? token = .error halt ↔ halt = .overflow ∧ NegatesLeast token.toList := by
  by_cases signed : ∃ rest, token.toList = '-' :: rest
  · obtain ⟨rest, split⟩ := signed
    rw [integer?_of_minus split, mapM_negate_eq_error_iff, magnitude?_eq_some_iff, and_comm]
    refine and_congr_right fun _ => ?_
    constructor
    · rintro ⟨magnitude, -⟩
      exact ⟨rest, split, magnitude⟩
    · rintro ⟨other, again, magnitude⟩
      cases split.symm.trans again
      exact ⟨magnitude, le_refl _, leastInt_le_greatestInt⟩
  · have unsigned : ∀ rest, token.toList ≠ '-' :: rest := not_exists.1 signed
    rw [integer?_of_unsigned unsigned]
    constructor
    · rintro ⟨⟩
    · rintro ⟨-, rest, split, -⟩
      exact absurd split (unsigned rest)

/-- Behind a first sign, the range is the one of the opposite number. -/
theorem integer?_minus_eq_ok_iff {rest : List Char} {n : Int} (split : token.toList = '-' :: rest) :
    integer? token = .ok (some n) ↔ SpellsInt token.toList n ∧ leastInt < n ∧ n ≤ greatestInt := by
  have top := greatestInt_eq
  rw [integer?_of_minus split, split, spellsInt_minus_iff, mapM_negate_eq_ok_iff]
  constructor
  · rintro ⟨m, read, negated⟩
    obtain ⟨other, rfl⟩ := negate_eq_ok_iff.1 negated
    obtain ⟨magnitude, low, high⟩ := magnitude?_eq_some_iff.1 read
    rw [Int.neg_neg]
    exact ⟨magnitude, by omega, by omega⟩
  · rintro ⟨magnitude, low, high⟩
    exact ⟨-n, magnitude?_eq_some_iff.2 ⟨magnitude, by omega, by omega⟩,
      negate_eq_ok_iff.2 ⟨by omega, (Int.neg_neg n).symm⟩⟩

theorem integer?_unsigned_eq_ok_iff {n : Int} (unsigned : ∀ rest, token.toList ≠ '-' :: rest) :
    integer? token = .ok (some n) ↔ SpellsInt token.toList n ∧ leastInt ≤ n ∧ n ≤ greatestInt := by
  rw [integer?_of_unsigned unsigned, spellsInt_unsigned_iff unsigned, Except.ok.injEq,
    magnitude?_eq_some_iff]

theorem integer?_eq_ok_iff {n : Int} :
    integer? token = .ok (some n) ↔
      SpellsInt token.toList n ∧ leastInt ≤ n ∧ n ≤ greatestInt ∧
        (n = leastInt → token.toList.head? ≠ some '-') := by
  by_cases signed : ∃ rest, token.toList = '-' :: rest
  · obtain ⟨rest, split⟩ := signed
    rw [integer?_minus_eq_ok_iff split, split, List.head?_cons]
    refine and_congr_right fun _ => ?_
    constructor
    · rintro ⟨low, high⟩
      exact ⟨low.le, high, fun least => absurd least low.ne'⟩
    · rintro ⟨low, high, other⟩
      exact ⟨low.lt_of_ne fun least => other least.symm rfl, high⟩
  · have unsigned : ∀ rest, token.toList ≠ '-' :: rest := not_exists.1 signed
    have other : token.toList.head? ≠ some '-' := fun first =>
      signed (List.head?_eq_some_iff.1 first)
    rw [integer?_unsigned_eq_ok_iff unsigned]
    simp only [other, ne_eq, not_false_eq_true, implies_true, and_true]

theorem integer_eq_overflow_iff : integer token = .error .overflow ↔ NegatesLeast token.toList := by
  constructor
  · intro stopped
    unfold integer at stopped
    cases read : integer? token with
    | error halt => exact (integer?_eq_error_iff.1 read).2
    | ok found =>
      rw [read] at stopped
      cases found <;> cases stopped
  · intro negates
    rw [integer, integer?_eq_error_iff.2 ⟨rfl, negates⟩]
    rfl

/-- A token is read exactly when it spells an integer of 64 bits, the least one only without a sign in
front, and as no other integer, since it spells one at most. A minus sign before the least integer
is an overflow, and nothing else is: such a token spells the first integer above 64 bits. -/
theorem integers_read_as_spelled (token : String) (n : Int) :
    (integer token = .ok n ↔
      SpellsInt token.toList n ∧ leastInt ≤ n ∧ n ≤ greatestInt ∧
        (n = leastInt → token.toList.head? ≠ some '-')) ∧
    (integer token = .error .overflow ↔ NegatesLeast token.toList) ∧
    (NegatesLeast token.toList →
      SpellsInt token.toList (-leastInt) ∧ -leastInt = greatestInt + 1) ∧
    ∀ m, SpellsInt token.toList n → SpellsInt token.toList m → n = m :=
  ⟨integer_eq_ok_iff.trans integer?_eq_ok_iff, integer_eq_overflow_iff,
    fun negates => ⟨negates.spells, rfl⟩, fun _ => SpellsInt.unique⟩

/-- Signs before and behind the mark of the base, the least integer in a spelling that is read, and the
same under a second sign. -/
theorem integers_read_as_spelled_marked :
    SpellsInt "-0x-7F".toList 127 ∧ SpellsInt "0x-8000000000000000".toList leastInt ∧
      NegatesLeast "-0x-8000000000000000".toList ∧
      SpellsInt "-0x-8000000000000000".toList (2 ^ 63) := by
  have negates : NegatesLeast "-0x-8000000000000000".toList :=
    (integers_read_as_spelled "-0x-8000000000000000" 0).2.1.1 (by decide +kernel)
  exact ⟨((integers_read_as_spelled "-0x-7F" 127).1.1 (by decide +kernel)).1,
    ((integers_read_as_spelled "0x-8000000000000000" leastInt).1.1 (by decide +kernel)).1, negates,
    ((integers_read_as_spelled "-0x-8000000000000000" 0).2.2.1 negates).1⟩

/-- The least integer under a second minus sign overflows, also where a float is wanted. -/
theorem negated_least_overflows :
    SpellsInt "--9223372036854775808".toList (2 ^ 63) ∧
      integer "--9223372036854775808" = .error .overflow ∧
      float "--9223372036854775808" = .error .overflow := by
  have magnitude : magnitude? "-9223372036854775808".toList = some (-2 ^ 63) := by decide +kernel
  exact ⟨.minus (magnitude?_spells magnitude), by decide +kernel, by decide +kernel⟩

end GameScript.Assembly
