import GameScript.Double.Reader
import GameScript.Proofs.LeadingIntegers

/-! The number that a text starts with. A sign, digits, a point with its digits and an exponent are
taken one after the other, each as far as it goes, and an exponent without digits is left where it is.
That gives the longest number at the front, since none of the parts can go on with what the next one
starts with, and every number is one that the reader accepts. -/

namespace GameScript.Double

open Text

def Digits (chars : List Char) : Prop := ∀ c ∈ chars, isDigit c = true

inductive Sign : List Char → Prop where
  | none : Sign []
  | one {c} (sign : c = '+' ∨ c = '-') : Sign [c]

inductive Mantissa : List Char → Prop where
  | whole {digits} (some : digits ≠ []) (run : Digits digits) : Mantissa digits
  | pointed {digits part} (some : digits ≠ []) (run : Digits digits) (after : Digits part) :
    Mantissa (digits ++ '.' :: part)
  | fraction {part} (some : part ≠ []) (after : Digits part) : Mantissa ('.' :: part)

inductive Exponent : List Char → Prop where
  | none : Exponent []
  | some {mark sign digits} (marked : mark = 'e' ∨ mark = 'E') (signed : Sign sign)
      (some : digits ≠ []) (run : Digits digits) : Exponent (mark :: (sign ++ digits))

/-- A decimal number: an optional sign, digits with at most one point, an optional exponent. -/
inductive Numeral : List Char → Prop where
  | mk {sign mantissa exponent} (signed : Sign sign) (digits : Mantissa mantissa)
      (scaled : Exponent exponent) : Numeral (sign ++ (mantissa ++ exponent))

structure LongestNumeral (chars number : List Char) : Prop where
  numeral : Numeral number
  front : number <+: chars
  longest : ∀ other, Numeral other → other <+: chars → other.length ≤ number.length

inductive Fraction : List Char → Prop where
  | none : Fraction []
  | point {part} (after : Digits part) : Fraction ('.' :: part)

/-! ### The parts of a number -/

variable {chars sign mantissa fraction exponent number front rest after run tail : List Char} {c : Char}

theorem mantissa_iff : Mantissa mantissa ↔ ∃ whole fraction, mantissa = whole ++ fraction ∧
    Digits whole ∧ Fraction fraction ∧ (whole ≠ [] ∨ fraction.drop 1 ≠ []) := by
  constructor
  · intro mantissa
    cases mantissa with
    | whole some run => exact ⟨_, [], by simp, run, .none, .inl some⟩
    | pointed some run after => exact ⟨_, _, rfl, run, .point after, .inl some⟩
    | fraction some after => exact ⟨[], _, rfl, by simp [Digits], .point after, .inr some⟩
  · rintro ⟨whole, fraction, rfl, run, fraction, some⟩
    cases fraction with
    | none => simpa using Mantissa.whole (by simpa using some) run
    | point after =>
      by_cases empty : whole = []
      · subst empty
        exact .fraction (by simpa using some) after
      · exact .pointed empty run after

/-- A number without its sign starts with a digit or with a point. -/
theorem Mantissa.opens (mantissa : Mantissa chars) :
    ∃ c rest, chars = c :: rest ∧ (isDigit c = true ∨ c = '.') := by
  cases mantissa with
  | whole some run =>
    obtain ⟨c, rest, rfl⟩ := List.exists_cons_of_ne_nil some
    exact ⟨c, rest, rfl, .inl (run c (by simp))⟩
  | pointed some run after =>
    obtain ⟨c, rest, rfl⟩ := List.exists_cons_of_ne_nil some
    exact ⟨c, _, rfl, .inl (run c (by simp))⟩
  | fraction some after => exact ⟨'.', _, rfl, .inr rfl⟩

theorem not_sign_of_opens (opens : isDigit c = true ∨ c = '.') : ¬(c = '+' ∨ c = '-') := by
  rintro (rfl | rfl) <;> simp [isDigit] at opens

theorem Exponent.ends (exponent : Exponent chars) : ∀ c ∈ chars.head?, isDigit c = false := by
  cases exponent with
  | none => simp
  | some marked =>
    rintro c ⟨⟩
    rcases marked with rfl | rfl <;> rfl

theorem point_ends (rest : List Char) : ∀ c ∈ ('.' :: rest).head?, isDigit c = false := by
  rintro c ⟨⟩
  rfl

theorem digits_takeWhile (chars : List Char) : Digits (chars.takeWhile isDigit) :=
  fun _ member => List.mem_takeWhile_imp member

theorem prefix_takeWhile (digits : Digits run) : run <+: (run ++ tail).takeWhile isDigit := by
  rw [List.takeWhile_append_of_pos digits]
  exact List.prefix_append ..

/-! ### What is taken is a number -/

theorem splitSign_spec (signs : splitSign chars = (sign, rest)) :
    Sign sign ∧ chars = sign ++ rest := by
  unfold splitSign at signs
  split at signs
  next c more =>
    split at signs
    next marked =>
      cases signs
      exact ⟨.one (by simpa using marked), rfl⟩
    next =>
      cases signs
      exact ⟨.none, rfl⟩
  next =>
    cases signs
    exact ⟨.none, rfl⟩

theorem splitFraction_spec (point : splitFraction chars = (fraction, rest)) :
    Fraction fraction ∧ chars = fraction ++ rest := by
  unfold splitFraction at point
  split at point
  next more =>
    cases point
    exact ⟨.point (digits_takeWhile more), by simp⟩
  next =>
    cases point
    exact ⟨.none, rfl⟩

theorem leadingExponent_marked (marked : c = 'e' ∨ c = 'E') (signs : splitSign chars = (sign, rest)) :
    leadingExponent (c :: chars) =
      if rest.takeWhile isDigit = [] then [] else c :: (sign ++ rest.takeWhile isDigit) := by
  simp only [leadingExponent, signs, List.isEmpty_iff, List.cons_append, Bool.or_eq_true, beq_iff_eq,
    if_pos marked]

theorem leadingExponent_unmarked (unmarked : ¬(c = 'e' ∨ c = 'E')) :
    leadingExponent (c :: chars) = [] := by
  simp only [leadingExponent, Bool.or_eq_true, beq_iff_eq, if_neg unmarked]

theorem leadingExponent_spec (chars : List Char) :
    Exponent (leadingExponent chars) ∧ leadingExponent chars <+: chars := by
  cases chars with
  | nil => exact ⟨.none, List.nil_prefix⟩
  | cons c more =>
    by_cases marked : c = 'e' ∨ c = 'E'
    · obtain ⟨⟨sign, rest⟩, signs⟩ : ∃ split, splitSign more = split := ⟨_, rfl⟩
      rw [leadingExponent_marked marked signs]
      split_ifs with empty
      · exact ⟨.none, List.nil_prefix⟩
      · obtain ⟨signed, rfl⟩ := splitSign_spec signs
        refine ⟨.some marked signed empty (digits_takeWhile rest), ?_⟩
        rw [List.cons_prefix_cons, List.prefix_append_right_inj]
        exact ⟨rfl, List.takeWhile_prefix _⟩
    · rw [leadingExponent_unmarked marked]
      exact ⟨.none, List.nil_prefix⟩

theorem leadingNumber?_eq (signs : splitSign chars = (sign, rest))
    (point : splitFraction (rest.dropWhile isDigit) = (fraction, after)) :
    leadingNumber? chars =
      if rest.takeWhile isDigit = [] ∧ fraction.drop 1 = [] then none
      else some (sign ++ (rest.takeWhile isDigit ++ fraction ++ leadingExponent after)) := by
  simp only [leadingNumber?, signs, point, Bool.and_eq_true, List.isEmpty_iff, List.append_assoc]

theorem leadingNumber?_sound (taken : leadingNumber? chars = some number) :
    Numeral number ∧ number <+: chars := by
  obtain ⟨⟨sign, rest⟩, signs⟩ : ∃ split, splitSign chars = split := ⟨_, rfl⟩
  obtain ⟨⟨fraction, after⟩, point⟩ : ∃ split, splitFraction (rest.dropWhile isDigit) = split :=
    ⟨_, rfl⟩
  rw [leadingNumber?_eq signs point] at taken
  split_ifs at taken with nothing
  cases taken
  obtain ⟨signed, rfl⟩ := splitSign_spec signs
  obtain ⟨pointed, behind⟩ := splitFraction_spec point
  obtain ⟨scaled, inside⟩ := leadingExponent_spec after
  have whole : rest.takeWhile isDigit ++ fraction ++ after = rest := by
    rw [List.append_assoc, ← behind, List.takeWhile_append_dropWhile]
  constructor
  · have some : rest.takeWhile isDigit ≠ [] ∨ fraction.drop 1 ≠ [] := not_and_or.1 nothing
    exact .mk signed (mantissa_iff.2 ⟨_, _, rfl, digits_takeWhile rest, pointed, some⟩) scaled
  · rw [List.prefix_append_right_inj]
    conv_rhs => rw [← whole]
    rwa [List.prefix_append_right_inj]

/-! ### What is taken is the longest number -/

theorem splitSign_append (signed : Sign sign) (opens : isDigit c = true ∨ c = '.') :
    splitSign (sign ++ c :: rest) = (sign, c :: rest) := by
  cases signed with
  | none =>
    have unsigned := not_sign_of_opens opens
    simp only [splitSign, List.nil_append, Bool.or_eq_true, beq_iff_eq, if_neg unsigned]
  | one sign => rcases sign with rfl | rfl <;> rfl

/-- An exponent that comes next is taken, with all the digits that follow. -/
theorem leadingExponent_append (scaled : Exponent exponent) (tail : List Char) :
    exponent <+: leadingExponent (exponent ++ tail) := by
  cases scaled with
  | none => exact List.nil_prefix
  | @some mark sign digits marked signed some run =>
    obtain ⟨c, more, rfl⟩ := List.exists_cons_of_ne_nil some
    have signs : splitSign (sign ++ (c :: more ++ tail)) = (sign, c :: more ++ tail) :=
      splitSign_append signed (.inl (run c List.mem_cons_self))
    have taken : c :: more <+: (c :: more ++ tail).takeWhile isDigit := prefix_takeWhile run
    rw [List.cons_append, List.append_assoc, leadingExponent_marked marked signs,
      if_neg (taken.ne_nil some), List.cons_prefix_cons, List.prefix_append_right_inj]
    exact ⟨rfl, taken⟩

theorem takeWhile_before_exponent (digits : Digits run) (scaled : Exponent exponent)
    (some : exponent ≠ []) (tail : List Char) :
    (run ++ (exponent ++ tail)).takeWhile isDigit = run ∧
      (run ++ (exponent ++ tail)).dropWhile isDigit = exponent ++ tail := by
  apply span_digits digits
  intro c first
  rw [List.head?_append_of_ne_nil _ some] at first
  exact scaled.ends c first

/-- Digits with an exponent behind them are taken as they are, those without one perhaps with more. -/
theorem digits_prefix (digits : Digits run) (scaled : Exponent exponent) (tail : List Char) :
    run ++ exponent <+: (run ++ (exponent ++ tail)).takeWhile isDigit ++
      leadingExponent ((run ++ (exponent ++ tail)).dropWhile isDigit) := by
  by_cases empty : exponent = []
  · subst empty
    rw [List.append_nil]
    exact (prefix_takeWhile digits).trans (List.prefix_append ..)
  · obtain ⟨taken, left⟩ := takeWhile_before_exponent digits scaled empty tail
    rw [taken, left, List.prefix_append_right_inj]
    exact leadingExponent_append scaled tail

theorem splitFraction_exponent (scaled : Exponent exponent) (some : exponent ≠ []) :
    splitFraction (exponent ++ tail) = ([], exponent ++ tail) := by
  cases scaled with
  | none => exact absurd rfl some
  | some marked => rcases marked with rfl | rfl <;> rfl

theorem splitFraction_point (rest : List Char) :
    splitFraction ('.' :: rest) = ('.' :: rest.takeWhile isDigit, rest.dropWhile isDigit) := rfl

/-- The digits and the point of a number at the front are taken, and then its exponent. -/
theorem mantissa_prefix {whole longer : List Char} (digits : Digits whole)
    (pointed : Fraction fraction) (some : whole ≠ [] ∨ fraction.drop 1 ≠ [])
    (scaled : Exponent exponent) (same : rest = whole ++ (fraction ++ (exponent ++ tail)))
    (point : splitFraction (rest.dropWhile isDigit) = (longer, after)) :
    (rest.takeWhile isDigit ≠ [] ∨ longer.drop 1 ≠ []) ∧
      whole ++ (fraction ++ exponent) <+:
        rest.takeWhile isDigit ++ (longer ++ leadingExponent after) := by
  subst same
  cases pointed with
  | none =>
    have some : whole ≠ [] := by simpa using some
    have taken : whole <+: (whole ++ (exponent ++ tail)).takeWhile isDigit := prefix_takeWhile digits
    refine ⟨.inl (taken.ne_nil some), ?_⟩
    -- with no exponent behind them more digits may follow, and then even a point
    by_cases empty : exponent = []
    · subst empty
      simpa using taken.trans (List.prefix_append ..)
    · obtain ⟨taken, left⟩ := takeWhile_before_exponent digits scaled empty tail
      rw [List.nil_append, left, splitFraction_exponent scaled empty] at point
      cases point
      rw [List.nil_append, List.nil_append, List.nil_append, taken, List.prefix_append_right_inj]
      exact leadingExponent_append scaled tail
  | @point part more =>
    obtain ⟨taken, left⟩ := span_digits digits (point_ends (part ++ (exponent ++ tail)))
    rw [List.cons_append, left, splitFraction_point] at point
    cases point
    rw [List.cons_append, taken]
    constructor
    · exact some.imp_right (prefix_takeWhile more).ne_nil
    · rw [List.prefix_append_right_inj, List.cons_append, List.cons_append, List.cons_prefix_cons]
      exact ⟨rfl, digits_prefix more scaled tail⟩

/-- Any number that a text starts with is the front of what is taken. -/
theorem leadingNumber?_complete (numeral : Numeral front) (start : front <+: chars) :
    ∃ number, leadingNumber? chars = some number ∧ front <+: number := by
  obtain ⟨tail, rfl⟩ := start
  cases numeral with
  | @mk sign mantissa exponent signed digits scaled =>
    obtain ⟨c, more, opened, opens⟩ := digits.opens
    obtain ⟨whole, fraction, rfl, digits, pointed, some⟩ := mantissa_iff.1 digits
    obtain ⟨⟨longer, after⟩, point⟩ : ∃ split, splitFraction
      ((whole ++ (fraction ++ (exponent ++ tail))).dropWhile isDigit) = split := ⟨_, rfl⟩
    obtain ⟨something, taken⟩ := mantissa_prefix digits pointed some scaled rfl point
    have signs : splitSign (sign ++ (whole ++ fraction ++ exponent) ++ tail) =
        (sign, whole ++ (fraction ++ (exponent ++ tail))) := by
      have front : whole ++ (fraction ++ (exponent ++ tail)) = c :: (more ++ (exponent ++ tail)) := by
        rw [← List.append_assoc, opened, List.cons_append]
      simp only [List.append_assoc]
      rw [front]
      exact splitSign_append signed opens
    refine ⟨_, (leadingNumber?_eq signs point).trans (if_neg (not_and_or.2 something)), ?_⟩
    rw [List.prefix_append_right_inj]
    simpa only [List.append_assoc] using taken

theorem leadingNumber?_eq_some_iff :
    leadingNumber? chars = some number ↔ LongestNumeral chars number := by
  constructor
  · intro taken
    obtain ⟨numeral, front⟩ := leadingNumber?_sound taken
    refine ⟨numeral, front, fun other again start => ?_⟩
    obtain ⟨longest, same, inside⟩ := leadingNumber?_complete again start
    cases taken.symm.trans same
    exact inside.length_le
  · intro longest
    obtain ⟨taken, same, inside⟩ := leadingNumber?_complete longest.numeral longest.front
    obtain ⟨numeral, front⟩ := leadingNumber?_sound same
    rw [same, inside.eq_of_length_le (longest.longest taken numeral front)]

theorem leadingNumber?_eq_none_iff :
    leadingNumber? chars = none ↔ ∀ front, Numeral front → ¬front <+: chars := by
  constructor
  · intro nothing front numeral start
    obtain ⟨taken, same, -⟩ := leadingNumber?_complete numeral start
    cases nothing.symm.trans same
  · intro nothing
    cases taken : leadingNumber? chars with
    | none => rfl
    | some number =>
      obtain ⟨numeral, front⟩ := leadingNumber?_sound taken
      exact absurd front (nothing number numeral)

/-! ### Every number is accepted -/

theorem exponent?_isSome (scaled : Exponent exponent) : (exponent? exponent).isSome := by
  cases scaled with
  | none => rfl
  | @some mark sign digits marked signed some run =>
    have mark : (mark == 'e' || mark == 'E') = true := by simpa using marked
    have all : (digits.isEmpty || !digits.all isDigit) = false := by
      simp only [Bool.or_eq_false_iff, List.isEmpty_eq_false_iff, Bool.not_eq_false', List.all_eq_true]
      exact ⟨some, run⟩
    simp only [exponent?, mark, if_true]
    cases signed with
    | one sign => rcases sign with rfl | rfl <;> simp [all]
    | none =>
      rw [List.nil_append]
      split
      next => simp [Digits, isDigit] at run
      next => simp [Digits, isDigit] at run
      next => simp [all]

theorem magnitude?_isSome (digits : Mantissa mantissa) (scaled : Exponent exponent) :
    (magnitude? (mantissa ++ exponent)).isSome := by
  obtain ⟨whole, fraction, rfl, run, pointed, some⟩ := mantissa_iff.1 digits
  have valued := exponent?_isSome scaled
  unfold magnitude?
  dsimp only
  split
  next => rfl
  split
  next => rfl
  cases pointed with
  | none =>
    obtain ⟨taken, left⟩ := span_digits run scaled.ends
    rw [List.append_nil, taken, left]
    have apart : ∀ after, exponent ≠ '.' :: after := by
      rintro after rfl
      cases scaled with
      | some marked => simp at marked
    split
    next => exact absurd rfl (apart _)
    next =>
      have some : whole ≠ [] := by simpa using some
      simpa [some] using valued
  | @point part more =>
    obtain ⟨taken, left⟩ := span_digits run (point_ends (part ++ exponent))
    obtain ⟨takenToo, leftToo⟩ := span_digits more scaled.ends
    rw [List.append_assoc, List.cons_append, taken, left]
    simp only [takenToo, leftToo]
    have some : (whole.isEmpty && part.isEmpty) = false := by
      rw [Bool.and_eq_false_iff, List.isEmpty_eq_false_iff, List.isEmpty_eq_false_iff]
      exact some
    simpa only [some, Bool.false_eq_true, if_false, Option.isSome_map] using valued

/-- Every number is one that the reader accepts. -/
theorem ofText?_isSome (numeral : Numeral number) : (ofText? number).isSome := by
  cases numeral with
  | @mk sign mantissa exponent signed digits scaled =>
    have valued := magnitude?_isSome digits scaled
    cases signed with
    | one sign => rcases sign with rfl | rfl <;> simpa [ofText?] using valued
    | none =>
      obtain ⟨c, more, opened, opens⟩ := digits.opens
      rw [opened, List.cons_append] at valued ⊢
      unfold ofText?
      split
      next same =>
        cases same
        exact absurd (.inr rfl) (not_sign_of_opens opens)
      next same =>
        cases same
        exact absurd (.inl rfl) (not_sign_of_opens opens)
      next => exact valued

/-- The number at the front of a text is read from the longest decimal number that it starts with
behind its white space, and is zero if it starts with none. Nothing stands in for a number that cannot
be read, since there is none. -/
theorem leading_reads_longest (text : String) :
    let chars := trimStart text.toList
    (∃ blanks, text.toList = blanks ++ chars ∧ (∀ c ∈ blanks, isBlank c = true) ∧
        ∀ c ∈ chars.head?, isBlank c = false) ∧
      (∀ number, leadingNumber? chars = some number ↔ LongestNumeral chars number) ∧
      (leadingNumber? chars = none ↔ ∀ front, Numeral front → ¬front <+: chars) ∧
      (∀ number, Numeral number → (ofText? number).isSome) ∧
      ∀ fallback, leading text =
        match leadingNumber? chars with
        | some number => (ofText? number).getD fallback
        | none => zero := by
  intro chars
  refine ⟨trimStart_spec text.toList, fun _ => leadingNumber?_eq_some_iff,
    leadingNumber?_eq_none_iff, fun _ => ofText?_isSome, fun fallback => ?_⟩
  unfold leading
  change (match leadingNumber? chars with
    | some number => (ofText? number).getD zero
    | none => zero) = _
  cases taken : leadingNumber? chars with
  | none => rfl
  | some number =>
    obtain ⟨value, read⟩ := Option.isSome_iff_exists.1 (ofText?_isSome (leadingNumber?_sound taken).1)
    simp only [read, Option.getD_some]

example : leadingNumber? "-.50e+3.2".toList = some "-.50e+3".toList ∧
    leadingNumber? "7e+".toList = some "7".toList ∧ leadingNumber? "+.e5".toList = none := by
  decide

end GameScript.Double
