import Mathlib.Data.Int.ModEq
import Mathlib.Data.List.TakeWhile
import GameScript.Proofs.IntegerArithmetic

/-! The integer that a text starts with. White space and a sign may stand before its digits, and
anything that is no digit behind them. Reading stops counting at the largest number of 64 bits, and the
sign comes last, so a number that is too low stops one short of the lowest. -/

namespace GameScript.Text

variable {chars digits tail : List Char} {c : Char}

def frontNumber (chars : List Char) : Nat := Nat.ofDigitChars 10 (chars.takeWhile isDigit) 0

def signedNumber : List Char → Int
  | '-' :: rest => -(frontNumber rest : Int)
  | '+' :: rest => frontNumber rest
  | rest => frontNumber rest

theorem signedNumber_of_unsigned (noMinus : ∀ rest, chars ≠ '-' :: rest)
    (noPlus : ∀ rest, chars ≠ '+' :: rest) : signedNumber chars = frontNumber chars := by
  unfold signedNumber
  split
  next rest => exact absurd rfl (noMinus rest)
  next rest => exact absurd rfl (noPlus rest)
  next => rfl

/-- The integer at the front of a text, behind white space and a sign. -/
def frontInteger (text : String) : Int := signedNumber (trimStart text.toList)

theorem le_ofDigitChars (digits : List Char) (value : Nat) :
    value ≤ Nat.ofDigitChars 10 digits value := by
  rw [Nat.ofDigitChars_eq_ofDigitChars_zero]
  exact (Nat.le_mul_of_pos_left _ (Nat.pow_pos (by decide))).trans (Nat.le_add_right _ _)

/-- Once it has reached a limit, a number stays there whatever digits follow. -/
theorem min_ofDigitChars_min (digits : List Char) (value limit : Nat) :
    min (Nat.ofDigitChars 10 digits (min value limit)) limit =
      min (Nat.ofDigitChars 10 digits value) limit := by
  rcases Nat.le_total value limit with below | above
  · rw [Nat.min_eq_left below]
  · have capped := le_ofDigitChars digits limit
    have whole := le_ofDigitChars digits value
    rw [Nat.min_eq_right above, Nat.min_eq_right capped, Nat.min_eq_right (above.trans whole)]

theorem leadingDigits_eq (chars : List Char) {value : Nat} (below : value ≤ leadingLimit) :
    leadingDigits value chars =
      min (Nat.ofDigitChars 10 (chars.takeWhile isDigit) value) leadingLimit := by
  induction chars generalizing value with
  | nil => exact (Nat.min_eq_left below).symm
  | cons c rest ih =>
    rw [leadingDigits, List.takeWhile_cons]
    split
    next digit =>
      rw [ih (Nat.min_le_right _ _), min_ofDigitChars_min, Nat.ofDigitChars_cons, Nat.mul_comm]
      rfl
    next => exact (Nat.min_eq_left below).symm

theorem leadingDigits_zero (chars : List Char) :
    leadingDigits 0 chars = min (frontNumber chars) leadingLimit :=
  leadingDigits_eq chars (Nat.zero_le _)

def clamp (low high n : Int) : Int := max low (min n high)

theorem leading_eq (text : String) :
    leading text = Int32.ofInt (clamp (-(2 ^ 63 - 1)) (2 ^ 63 - 1) (frontInteger text)) := by
  have limit : (leadingLimit : Int) = 2 ^ 63 - 1 := rfl
  have plus (rest : List Char) : (leadingDigits 0 rest : Int) =
      clamp (-(2 ^ 63 - 1)) (2 ^ 63 - 1) (frontNumber rest) := by
    rw [leadingDigits_zero, clamp]
    omega
  have minus (rest : List Char) : -(leadingDigits 0 rest : Int) =
      clamp (-(2 ^ 63 - 1)) (2 ^ 63 - 1) (-(frontNumber rest : Int)) := by
    rw [leadingDigits_zero, clamp]
    omega
  unfold leading frontInteger
  generalize trimStart text.toList = chars
  split
  next rest => exact congrArg Int32.ofInt (minus rest)
  next rest => exact congrArg Int32.ofInt (plus rest)
  next noMinus noPlus =>
    rw [signedNumber_of_unsigned noMinus noPlus]
    exact congrArg Int32.ofInt (plus chars)

/-- The integer at the front of a text is cut off at the bounds of 64 bits, before its low 32 bits are
taken, but for the lower bound itself: whatever reaches it counts as the number behind it. -/
theorem leading_saturates (text : String) :
    (leading text).toInt =
        (clamp (-(2 ^ 63 - 1)) (2 ^ 63 - 1) (frontInteger text)).bmod (2 ^ 32) ∧
      ((leading text).toInt = (clamp (-2 ^ 63) (2 ^ 63 - 1) (frontInteger text)).bmod (2 ^ 32) ↔
        -2 ^ 63 < frontInteger text) := by
  have value : (leading text).toInt =
      (clamp (-(2 ^ 63 - 1)) (2 ^ 63 - 1) (frontInteger text)).bmod (2 ^ 32) := by
    rw [leading_eq, Int32.toInt_ofInt]
    rfl
  refine ⟨value, ?_⟩
  rw [value]
  unfold clamp
  constructor
  · intro same
    by_contra reached
    rw [max_eq_left (by omega), max_eq_left (by omega)] at same
    revert same
    decide
  · intro above
    congr 1
    omega

/-- The lowest number of 64 bits is one that its text is not read as. -/
theorem least_is_read_one_short :
    frontInteger "-9223372036854775808" = -2 ^ 63 ∧ leading "-9223372036854775808" = 1 ∧
      (clamp (-2 ^ 63) (2 ^ 63 - 1) (-2 ^ 63)).bmod (2 ^ 32) = 0 := by
  decide +kernel

/-! ### Printed integers -/

section Printed

variable {blanks : List Char}

theorem isDigit_iff : isDigit c = true ↔ 48 ≤ c.toNat ∧ c.toNat ≤ 57 := by
  rw [isDigit, Bool.and_eq_true, decide_eq_true_iff, decide_eq_true_iff]
  rfl

theorem not_blank_of_digit (digit : isDigit c = true) : isBlank c = false := by
  have range := isDigit_iff.1 digit
  simp only [isBlank, Bool.or_eq_false_iff, Bool.and_eq_false_iff, decide_eq_false_iff_not,
    beq_eq_false_iff_ne]
  omega

theorem trimStart_append (white : ∀ c ∈ blanks, isBlank c = true)
    (solid : ∀ c ∈ chars.head?, isBlank c = false) : trimStart (blanks ++ chars) = chars := by
  rw [trimStart, List.dropWhile_append_of_pos white]
  cases chars with
  | nil => rfl
  | cons c rest => exact List.dropWhile_cons_of_neg (by simp [solid c rfl])

/-- A text is white space and what is left when it is removed, which starts with none. -/
theorem trimStart_spec (chars : List Char) :
    ∃ blanks, chars = blanks ++ trimStart chars ∧ (∀ c ∈ blanks, isBlank c = true) ∧
      ∀ c ∈ (trimStart chars).head?, isBlank c = false := by
  refine ⟨chars.takeWhile isBlank, List.takeWhile_append_dropWhile.symm,
    fun c => List.mem_takeWhile_imp, fun c first => ?_⟩
  have solid := List.head?_dropWhile_not isBlank chars
  rwa [show (chars.dropWhile isBlank).head? = some c from first] at solid

/-- A run of digits is taken whole, and nothing behind it. -/
theorem span_digits (run : ∀ c ∈ digits, isDigit c = true)
    (ends : ∀ c ∈ tail.head?, isDigit c = false) :
    (digits ++ tail).takeWhile isDigit = digits ∧ (digits ++ tail).dropWhile isDigit = tail := by
  rw [List.takeWhile_append_of_pos run, List.dropWhile_append_of_pos run]
  cases tail with
  | nil => simp
  | cons c rest => simp [ends c rfl]

theorem frontNumber_append (run : ∀ c ∈ digits, isDigit c = true)
    (ends : ∀ c ∈ tail.head?, isDigit c = false) :
    frontNumber (digits ++ tail) = Nat.ofDigitChars 10 digits 0 := by
  rw [frontNumber, (span_digits run ends).1]

theorem frontNumber_toDigits (n : Nat) (ends : ∀ c ∈ tail.head?, isDigit c = false) :
    frontNumber (Nat.toDigits 10 n ++ tail) = n := by
  rw [frontNumber_append (fun c => Nat.isDigit_of_mem_toDigits (by decide) (by decide)) ends,
    Nat.ofDigitChars_toDigits (by decide) (by decide)]

theorem exists_toDigits_eq_cons (n : Nat) :
    ∃ first rest, Nat.toDigits 10 n = first :: rest ∧ isDigit first = true := by
  obtain ⟨first, rest, digits⟩ := List.exists_cons_of_ne_nil (@Nat.toDigits_ne_nil n 10)
  exact ⟨first, rest, digits,
    Nat.isDigit_of_mem_toDigits (b := 10) (by decide) (by decide) (digits ▸ List.mem_cons_self)⟩

theorem signedNumber_of_isDigit (digit : isDigit c = true) :
    signedNumber (c :: tail) = frontNumber (c :: tail) := by
  apply signedNumber_of_unsigned
  · rintro rest ⟨⟩
    cases digit
  · rintro rest ⟨⟩
    cases digit

/-- The text of an integer is read as the integer, whatever white space is before it and as long as no
digit follows. -/
theorem frontInteger_toString (n : Int) (white : ∀ c ∈ blanks, isBlank c = true)
    (ends : ∀ c ∈ tail.head?, isDigit c = false) :
    frontInteger (String.ofList (blanks ++ (toString n).toList ++ tail)) = n := by
  rw [frontInteger, String.toList_ofList, List.append_assoc, show toString n = n.repr from rfl,
    Int.repr_eq_if]
  split_ifs with nonneg
  · obtain ⟨first, rest, digits, digit⟩ := exists_toDigits_eq_cons n.toNat
    have value := frontNumber_toDigits n.toNat ends
    rw [digits, List.cons_append] at value
    rw [Nat.toList_repr, digits, List.cons_append,
      trimStart_append white fun c same => by cases same; exact not_blank_of_digit digit,
      signedNumber_of_isDigit digit, value, Int.toNat_of_nonneg nonneg]
  · rw [String.toList_append, Nat.toList_repr, List.append_assoc,
      trimStart_append white fun c same => by cases same; rfl]
    change -(frontNumber (Nat.toDigits 10 (-n).toNat ++ tail) : Int) = n
    rw [frontNumber_toDigits _ ends]
    omega

theorem leading_toString {n : Int} (small : -2 ^ 63 < n ∧ n < 2 ^ 63)
    (white : ∀ c ∈ blanks, isBlank c = true) (ends : ∀ c ∈ tail.head?, isDigit c = false) :
    leading (String.ofList (blanks ++ (toString n).toList ++ tail)) = Int32.ofInt n := by
  rw [leading_eq, frontInteger_toString n white ends, clamp, min_eq_left (by omega),
    max_eq_right (by omega)]

end Printed

end GameScript.Text

namespace GameScript.Action

open Text

variable {state : Local} {w : Word}

theorem cast_intToString {v : Int32} (coded : Conversion.ofCode w.c = .ok .intToString)
    (held : state.frame.registers.register .int w.b.toNat = .ok v) :
    cast w state = setRegister .string w.a.toNat (toString v.toInt) state := by
  simp only [cast, bind_apply, coded, Fault.ofSelector, Except.mapError, ofExcept_ok, register_apply,
    held]

theorem cast_uintToString {v : Int32} (coded : Conversion.ofCode w.c = .ok .uintToString)
    (held : state.frame.registers.register .int w.b.toNat = .ok v) :
    cast w state = setRegister .string w.a.toNat (toString (unsigned v)) state := by
  rw [← toNat_toUInt32]
  simp only [cast, bind_apply, coded, Fault.ofSelector, Except.mapError, ofExcept_ok, register_apply,
    held]
  rfl

theorem cast_stringToInt {text : String} (coded : Conversion.ofCode w.c = .ok .stringToInt)
    (held : state.frame.registers.register .string w.b.toNat = .ok text) :
    cast w state = setRegister .int w.a.toNat (leading text) state := by
  simp only [cast, bind_apply, coded, Fault.ofSelector, Except.mapError, ofExcept_ok, register_apply,
    held]

def printed (kind : Conversion) (v : Int32) : Int :=
  if kind = .uintToString then unsigned v else v.toInt

section Printed

variable {kind : Conversion} (prints : kind = .intToString ∨ kind = .uintToString)
include prints

theorem printed_modEq (v : Int32) : printed kind v ≡ v.toInt [ZMOD 2 ^ 32] := by
  rcases prints with rfl | rfl
  · exact Int.ModEq.refl _
  · exact Int.mod_modEq _ _

theorem printed_small (v : Int32) : -2 ^ 63 < printed kind v ∧ printed kind v < 2 ^ 63 := by
  have low := v.le_toInt
  have high := v.toInt_lt
  rcases prints with rfl | rfl
  · rw [printed, if_neg (by decide)]
    omega
  · rw [printed, if_pos rfl, unsigned]
    omega

theorem cast_prints {v : Int32} (coded : Conversion.ofCode w.c = .ok kind)
    (held : state.frame.registers.register .int w.b.toNat = .ok v) :
    cast w state = setRegister .string w.a.toNat (toString (printed kind v)) state := by
  rcases prints with rfl | rfl
  · exact cast_intToString coded held
  · exact cast_uintToString coded held

/-- An integer that was printed, with a sign or without one, is read back from its text, alone or with
white space before it and something that starts with no digit behind it. -/
theorem casts_round_trip (v : Int32) (coded : Conversion.ofCode w.c = .ok kind)
    (held : state.frame.registers.register .int w.b.toNat = .ok v) :
    let text := toString (printed kind v)
    cast w state = setRegister .string w.a.toNat text state ∧
      (∀ after u, cast w state = .ok () after → Conversion.ofCode u.c = .ok .stringToInt →
        u.b = w.a → cast u after = setRegister .int u.a.toNat v after) ∧
      ∀ blanks tail later u, (∀ c ∈ blanks, isBlank c = true) →
        (∀ c ∈ tail.head?, isDigit c = false) → Conversion.ofCode u.c = .ok .stringToInt →
        later.frame.registers.register .string u.b.toNat =
          .ok (String.ofList (blanks ++ text.toList ++ tail)) →
        cast u later = setRegister .int u.a.toNat v later := by
  intro text
  have ends : cast w state = setRegister .string w.a.toNat text state := cast_prints prints coded held
  have back : Int32.ofInt (printed kind v) = v :=
    eq_of_modEq ((modEq_of_bmod Int32.toInt_ofInt).trans (printed_modEq prints v))
  have surrounded : ∀ blanks tail later u, (∀ c ∈ blanks, isBlank c = true) →
      (∀ c ∈ tail.head?, isDigit c = false) → Conversion.ofCode u.c = .ok .stringToInt →
      later.frame.registers.register .string u.b.toNat =
        .ok (String.ofList (blanks ++ text.toList ++ tail)) →
      cast u later = setRegister .int u.a.toNat v later := by
    intro blanks tail later u white apart reads found
    rw [cast_stringToInt reads found, leading_toString (printed_small prints v) white apart, back]
  refine ⟨ends, fun after u done reads next => ?_, surrounded⟩
  have stored := (setRegister_eq_ok (ends.symm.trans done)).1
  refine surrounded [] [] after u (by simp) (by simp) reads ?_
  rw [next, stored]
  simp

end Printed

def lowest : Local where
  frame := .holding ⟨#[-2147483648], #[], #["\t 2147483648 points"], #[]⟩
  world := .empty

theorem casts_round_trip_lowest :
    cast ⟨0x05000000⟩ lowest = setRegister .string 0 "2147483648" lowest ∧
      cast ⟨0x0a000000⟩ lowest = setRegister .int 0 (-2147483648 : Int32) lowest := by
  obtain ⟨ends, -, surrounded⟩ := casts_round_trip (.inr rfl) (-2147483648)
    (show Conversion.ofCode (Word.mk 0x05000000).c = .ok .uintToString from rfl)
    (show lowest.frame.registers.register .int (Word.mk 0x05000000).b.toNat = .ok _ from rfl)
  exact ⟨ends, surrounded ['\t', ' '] " points".toList lowest ⟨0x0a000000⟩ (List.all_eq_true.1 rfl)
    (by rintro c ⟨⟩; rfl) rfl rfl⟩

end GameScript.Action
