import Mathlib.Data.String.Basic
import GameScript.Assembly.Token

/-! How a line falls into tokens. A line is laid out as tokens with gaps between them, up to its end
or a comment; inside a token, literals and groups are complete, and separators stand only in them.
The scan is followed over each piece of a layout, and on a line that has none it ends with a
literal or a group open, so tokenizing accepts exactly the lines that are laid out. -/

namespace GameScript.Assembly

inductive Quotable : List Char → Prop where
  | nil : Quotable []
  | plain {c rest} (notQuote : c ≠ '"') (notBackslash : c ≠ '\\') (tail : Quotable rest) :
    Quotable (c :: rest)
  | escaped {c rest} (tail : Quotable rest) : Quotable ('\\' :: c :: rest)

inductive Enclosed : List Char → Prop where
  | nil : Enclosed []
  | plain {c rest} (plain : c ∉ ['"', '#', '(', ')']) (tail : Enclosed rest) : Enclosed (c :: rest)
  | literal {body rest} (quoted : Quotable body) (tail : Enclosed rest) :
    Enclosed ('"' :: (body ++ '"' :: rest))
  | group {inner rest} (inside : Enclosed inner) (tail : Enclosed rest) :
    Enclosed ('(' :: (inner ++ ')' :: rest))

/-- Characters that stay together: no separator stands outside of literals and groups. -/
inductive Unbroken : List Char → Prop where
  | nil : Unbroken []
  | plain {c rest} (plain : c ∉ ['"', '#', '(']) (joined : Scan.isSeparator c = false)
    (tail : Unbroken rest) : Unbroken (c :: rest)
  | literal {body rest} (quoted : Quotable body) (tail : Unbroken rest) :
    Unbroken ('"' :: (body ++ '"' :: rest))
  | group {inner rest} (inside : Enclosed inner) (tail : Unbroken rest) :
    Unbroken ('(' :: (inner ++ ')' :: rest))

def EndsToken : List Char → Prop
  | [] => True
  | c :: _ => c = '#' ∨ Scan.isSeparator c = true

/-- A line from byte `place` on, as the tokens that start there and what stands between them. A closing
parenthesis between tokens is passed over as a separator is. -/
inductive Laid : Nat → List Char → List Token → Prop where
  | ended {place} : Laid place [] []
  | comment {place rest} : Laid place ('#' :: rest) []
  | gap {place c rest tokens} (passed : Scan.isSeparator c = true ∨ c = ')')
    (tail : Laid (place + c.utf8Size) rest tokens) : Laid place (c :: rest) tokens
  | token {place text rest tokens} (nonempty : text ≠ []) (opens : text.head? ≠ some ')')
    (unbroken : Unbroken text) (ends : EndsToken rest)
    (tail : Laid (place + String.utf8Len text) rest tokens) :
    Laid place (text ++ rest) (⟨String.ofList text, place + 1⟩ :: tokens)

namespace Scan

def between (offset : Nat) (done : List Token) : Scan := ⟨offset, none, false, false, 0, done⟩

/-- Inside the token that starts at byte `first`, after its characters `chars`. -/
def inside (first : Nat) (chars : List Char) (quoted escaped : Bool) (depth : Nat)
    (done : List Token) : Scan :=
  ⟨first + String.utf8Len chars, some (first, chars.reverse), quoted, escaped, depth, done⟩

variable {first depth : Nat} {chars rest : List Char} {done : List Token} {c : Char}

theorem run_quoted_cons (scan : Scan) (open' : scan.quoted = true) :
    scan.run (c :: rest) = (scan.step c).run rest := by
  simp [run, open']

theorem run_cons (scan : Scan) (code : c ≠ '#') : scan.run (c :: rest) = (scan.step c).run rest := by
  simp [run, code]

theorem step_quoted (notQuote : c ≠ '"') (notBackslash : c ≠ '\\') :
    (inside first chars true false depth done).step c =
      inside first (chars ++ [c]) true false depth done := by
  simp [step, inside, extend, String.utf8Len_append, Nat.add_assoc, notQuote, notBackslash]

theorem step_backslash : (inside first chars true false depth done).step '\\' =
    inside first (chars ++ ['\\']) true true depth done := by
  simp [step, inside, extend, String.utf8Len_append, Nat.add_assoc]

theorem step_escaped : (inside first chars true true depth done).step c =
    inside first (chars ++ [c]) true false depth done := by
  simp [step, inside, extend, String.utf8Len_append, Nat.add_assoc]

theorem step_unquote : (inside first chars true false depth done).step '"' =
    inside first (chars ++ ['"']) false false depth done := by
  simp [step, inside, extend, String.utf8Len_append, Nat.add_assoc]

theorem step_quote : (inside first chars false false depth done).step '"' =
    inside first (chars ++ ['"']) true false depth done := by
  simp [step, inside, extend, String.utf8Len_append, Nat.add_assoc]

theorem step_opening : (inside first chars false false depth done).step '(' =
    inside first (chars ++ ['(']) false false (depth + 1) done := by
  simp [step, inside, extend, String.utf8Len_append, Nat.add_assoc]

theorem step_closing : (inside first chars false false depth done).step ')' =
    inside first (chars ++ [')']) false false (depth - 1) done := by
  simp [step, inside, extend, extendOnly, String.utf8Len_append, Nat.add_assoc]

theorem step_plain (plain : c ∉ ['"', '(', ')']) (joined : isSeparator c = false ∨ 0 < depth) :
    (inside first chars false false depth done).step c =
      inside first (chars ++ [c]) false false depth done := by
  have joined : ¬(isSeparator c = true ∧ depth = 0) := by
    rcases joined with joined | deep
    · simp [joined]
    · omega
  simp only [List.mem_cons, List.not_mem_nil, or_false, not_or] at plain
  simp [step, inside, extend, String.utf8Len_append, Nat.add_assoc, plain, joined]

/-- Outside of groups a closing parenthesis closes nothing and is a character as others are. -/
theorem step_joined (plain : c ∉ ['"', '(']) (joined : isSeparator c = false) :
    (inside first chars false false 0 done).step c =
      inside first (chars ++ [c]) false false 0 done := by
  by_cases closing : c = ')'
  · rw [closing, step_closing]
  · exact step_plain (by simpa [closing] using plain) (.inl joined)

theorem plain_of_separator (separator : isSeparator c = true) : c ∉ ['"', '#', '(', ')'] := by
  intro special
  simp only [List.mem_cons, List.not_mem_nil, or_false] at special
  rcases special with rfl | rfl | rfl | rfl <;> cases separator

theorem passed_iff : isSeparator c = true ∨ c = ')' ↔ c ∈ [',', ' ', '\t', '\r', ')'] := by
  simp [isSeparator, or_assoc]

theorem step_separator (separator : isSeparator c = true) (scan : Scan) (code : scan.quoted = false)
    (flat : scan.depth = 0) :
    scan.step c = { scan.close with offset := scan.offset + c.utf8Size } := by
  have plain := plain_of_separator separator
  simp only [List.mem_cons, List.not_mem_nil, or_false, not_or] at plain
  simp [step, code, flat, plain, separator]

theorem step_passed (passed : isSeparator c = true ∨ c = ')') :
    (between first done).step c = between (first + c.utf8Size) done := by
  rcases passed with separator | rfl
  · exact step_separator separator _ rfl rfl
  · simp [step, between, extendOnly]

/-- A character that starts a token is taken in as one inside it is. -/
theorem step_begins (joined : isSeparator c = false) (opens : c ≠ ')') :
    (between first done).step c = (inside first [] false false 0 done).step c := by
  simp [step, between, inside, extend, joined, opens]

theorem run_begins (code : c ≠ '#') (joined : isSeparator c = false) (opens : c ≠ ')') :
    (between first done).run (c :: rest) = (inside first [] false false 0 done).run (c :: rest) := by
  rw [run_cons _ code, run_cons _ code, step_begins joined opens]

/-- The rest of a literal, its closing quote included. -/
theorem run_quotable {body : List Char} (quotable : Quotable body) :
    (inside first chars true false depth done).run (body ++ '"' :: rest) =
      (inside first (chars ++ (body ++ ['"'])) false false depth done).run rest := by
  induction quotable generalizing chars with
  | nil => rw [List.nil_append, run_quoted_cons _ rfl, step_unquote, List.nil_append]
  | plain notQuote notBackslash _ ih =>
    rw [List.cons_append, run_quoted_cons _ rfl, step_quoted notQuote notBackslash, ih]
    simp
  | escaped _ ih =>
    rw [List.cons_append, run_quoted_cons _ rfl, step_backslash, List.cons_append,
      run_quoted_cons _ rfl, step_escaped, ih]
    simp

/-- A literal inside a token. -/
theorem run_literal {body : List Char} (quotable : Quotable body) :
    (inside first chars false false depth done).run ('"' :: (body ++ '"' :: rest)) =
      (inside first (chars ++ '"' :: (body ++ ['"'])) false false depth done).run rest := by
  rw [run_cons _ (by decide), step_quote, run_quotable quotable]
  simp

theorem run_enclosed {inner : List Char} (enclosed : Enclosed inner) (deep : 0 < depth) :
    (inside first chars false false depth done).run (inner ++ rest) =
      (inside first (chars ++ inner) false false depth done).run rest := by
  induction enclosed generalizing chars depth rest with
  | nil => simp
  | @plain c _ plain _ ih =>
    simp only [List.mem_cons, List.not_mem_nil, or_false, not_or] at plain
    rw [List.cons_append, run_cons _ plain.2.1, step_plain (by simp [plain]) (.inr deep), ih deep]
    simp
  | @literal body tail quoted _ ih =>
    rw [List.cons_append, List.append_assoc, List.cons_append, run_literal quoted, ih deep]
    simp
  | @group inner tail _ _ inside_ih tail_ih =>
    rw [List.cons_append, List.append_assoc, List.cons_append, run_cons _ (by decide), step_opening,
      inside_ih (by omega), run_cons _ (by decide), step_closing, Nat.add_sub_cancel, tail_ih deep]
    simp

/-- A group inside a token, its closing parenthesis included. -/
theorem run_group {inner : List Char} (enclosed : Enclosed inner) :
    (inside first chars false false depth done).run ('(' :: (inner ++ ')' :: rest)) =
      (inside first (chars ++ '(' :: (inner ++ [')'])) false false depth done).run rest := by
  rw [run_cons _ (by decide), step_opening, run_enclosed enclosed (by omega),
    run_cons _ (by decide), step_closing, Nat.add_sub_cancel]
  simp

theorem run_unbroken {text : List Char} (unbroken : Unbroken text) :
    (inside first chars false false 0 done).run (text ++ rest) =
      (inside first (chars ++ text) false false 0 done).run rest := by
  induction unbroken generalizing chars with
  | nil => simp
  | @plain c _ plain joined _ ih =>
    simp only [List.mem_cons, List.not_mem_nil, or_false, not_or] at plain
    rw [List.cons_append, run_cons _ plain.2.1, step_joined (by simp [plain]) joined, ih]
    simp
  | @literal body tail quoted _ ih =>
    rw [List.cons_append, List.append_assoc, List.cons_append, run_literal quoted, ih]
    simp
  | @group inner tail enclosed _ ih =>
    rw [List.cons_append, List.append_assoc, List.cons_append, run_group enclosed, ih]
    simp

/-- A whole token. -/
theorem run_token {text : List Char} (nonempty : text ≠ []) (opens : text.head? ≠ some ')')
    (unbroken : Unbroken text) :
    (between first done).run (text ++ rest) = (inside first text false false 0 done).run rest := by
  cases text with
  | nil => exact absurd rfl nonempty
  | cons c text =>
    have joined : c ≠ '#' ∧ isSeparator c = false := by
      cases unbroken with
      | plain plain joined =>
        simp only [List.mem_cons, List.not_mem_nil, or_false, not_or] at plain
        exact ⟨plain.2.1, joined⟩
      | literal => decide
      | group => decide
    rw [List.cons_append, run_begins joined.1 joined.2 (by simpa using opens), ← List.cons_append,
      run_unbroken unbroken, List.nil_append]

def Unfinished (scan : Scan) : Prop := scan.quoted = true ∨ 0 < scan.depth

/-- From inside a literal, the text closes it or leaves it open. -/
theorem quotable_or_unfinished {depth : Nat} (text chars : List Char) :
    (∃ body rest, text = body ++ '"' :: rest ∧ Quotable body) ∨
      Unfinished ((inside first chars true false depth done).run text) := by
  match text with
  | [] => exact .inr (.inl rfl)
  | c :: text =>
    by_cases quote : c = '"'
    · exact .inl ⟨[], text, by simp [quote], .nil⟩
    rw [run_quoted_cons _ rfl]
    by_cases backslash : c = '\\'
    · subst backslash
      rw [step_backslash]
      match text with
      | [] => exact .inr (.inl rfl)
      | d :: text =>
        rw [run_quoted_cons _ rfl, step_escaped]
        refine (quotable_or_unfinished text _).imp_left ?_
        rintro ⟨body, rest, rfl, quotable⟩
        exact ⟨'\\' :: d :: body, rest, rfl, .escaped quotable⟩
    · rw [step_quoted quote backslash]
      refine (quotable_or_unfinished text _).imp_left ?_
      rintro ⟨body, rest, rfl, quotable⟩
      exact ⟨c :: body, rest, rfl, .plain quote backslash quotable⟩

/-- From inside a group, the text closes it or leaves something open. -/
theorem enclosed_or_unfinished {depth : Nat} (deep : 0 < depth) (text chars : List Char) :
    (∃ inner rest, text = inner ++ ')' :: rest ∧ Enclosed inner) ∨
      Unfinished ((inside first chars false false depth done).run text) := by
  match text with
  | [] => exact .inr (.inr deep)
  | c :: text =>
    by_cases comment : c = '#'
    · exact .inr (.inr (by simpa [comment, run, inside] using deep))
    by_cases closing : c = ')'
    · exact .inl ⟨[], text, by simp [closing], .nil⟩
    by_cases quote : c = '"'
    · subst quote
      rcases quotable_or_unfinished text (chars ++ ['"']) with ⟨body, tail, rfl, quotable⟩ | unfinished
      · rw [run_literal quotable]
        refine (enclosed_or_unfinished deep tail _).imp_left ?_
        rintro ⟨inner, rest, rfl, enclosed⟩
        exact ⟨'"' :: (body ++ '"' :: inner), rest, by simp, .literal quotable enclosed⟩
      · rw [run_cons _ comment, step_quote]
        exact .inr unfinished
    by_cases opening : c = '('
    · subst opening
      rcases enclosed_or_unfinished (Nat.succ_pos depth) text (chars ++ ['(']) with
        ⟨group, tail, rfl, grouped⟩ | unfinished
      · rw [run_group grouped]
        refine (enclosed_or_unfinished deep tail _).imp_left ?_
        rintro ⟨inner, rest, rfl, enclosed⟩
        exact ⟨'(' :: (group ++ ')' :: inner), rest, by simp, .group grouped enclosed⟩
      · rw [run_cons _ comment, step_opening]
        exact .inr unfinished
    · rw [run_cons _ comment, step_plain (by simp [quote, opening, closing]) (.inr deep)]
      refine (enclosed_or_unfinished deep text _).imp_left ?_
      rintro ⟨inner, rest, rfl, enclosed⟩
      exact ⟨c :: inner, rest, rfl, .plain (by simp [comment, quote, opening, closing]) enclosed⟩
termination_by text.length
decreasing_by all_goals simp_all; try omega

/-- From inside a token, the text ends it or leaves something open. -/
theorem unbroken_or_unfinished (text chars : List Char) :
    (∃ token rest, text = token ++ rest ∧ Unbroken token ∧ EndsToken rest) ∨
      Unfinished ((inside first chars false false 0 done).run text) := by
  match text with
  | [] => exact .inl ⟨[], [], rfl, .nil, trivial⟩
  | c :: text =>
    by_cases ends : EndsToken (c :: text)
    · exact .inl ⟨[], c :: text, rfl, .nil, ends⟩
    simp only [EndsToken, not_or, Bool.not_eq_true] at ends
    obtain ⟨comment, joined⟩ := ends
    by_cases quote : c = '"'
    · subst quote
      rcases quotable_or_unfinished text (chars ++ ['"']) with ⟨body, tail, rfl, quotable⟩ | unfinished
      · rw [run_literal quotable]
        refine (unbroken_or_unfinished tail _).imp_left ?_
        rintro ⟨token, rest, rfl, unbroken, ends⟩
        exact ⟨'"' :: (body ++ '"' :: token), rest, by simp, .literal quotable unbroken, ends⟩
      · rw [run_cons _ comment, step_quote]
        exact .inr unfinished
    by_cases opening : c = '('
    · subst opening
      rcases enclosed_or_unfinished (Nat.succ_pos 0) text (chars ++ ['(']) with
        ⟨group, tail, rfl, grouped⟩ | unfinished
      · rw [run_group grouped]
        refine (unbroken_or_unfinished tail _).imp_left ?_
        rintro ⟨token, rest, rfl, unbroken, ends⟩
        exact ⟨'(' :: (group ++ ')' :: token), rest, by simp, .group grouped unbroken, ends⟩
      · rw [run_cons _ comment, step_opening]
        exact .inr unfinished
    · rw [run_cons _ comment, step_joined (by simp [quote, opening]) joined]
      refine (unbroken_or_unfinished text _).imp_left ?_
      rintro ⟨token, rest, rfl, unbroken, ends⟩
      exact ⟨c :: token, rest, rfl, .plain (by simp [comment, quote, opening]) joined unbroken, ends⟩
termination_by text.length
decreasing_by all_goals simp_all; try omega

theorem unfinished_close (scan : Scan) : scan.close.Unfinished ↔ scan.Unfinished := by
  unfold Unfinished close
  cases scan.current <;> rfl

theorem close_inside : (inside first chars false false 0 done).close =
    between (first + String.utf8Len chars) (⟨String.ofList chars, first + 1⟩ :: done) := by
  simp [inside, close, between]

/-- Where a token ends, the scan may as well have closed it before it goes on. -/
theorem run_ends (ends : EndsToken rest) :
    ((inside first chars false false 0 done).run rest).close =
      ((between (first + String.utf8Len chars) (⟨String.ofList chars, first + 1⟩ :: done)).run
        rest).close := by
  match rest with
  | [] => exact close_inside
  | c :: rest =>
    rcases ends with rfl | separator
    · exact close_inside
    · have code : c ≠ '#' := List.ne_of_not_mem_cons (List.not_mem_of_not_mem_cons
        (plain_of_separator separator))
      rw [run_cons _ code, run_cons _ code, step_passed (.inl separator),
        step_separator separator _ rfl rfl, close_inside]
      rfl

/-- From between two tokens, the rest of a line is laid out or leaves something open. -/
theorem laid_or_unfinished (text : List Char) (place : Nat) (done : List Token) :
    (∃ tokens, Laid place text tokens) ∨ Unfinished ((between place done).run text) := by
  match text with
  | [] => exact .inl ⟨[], .ended⟩
  | c :: text =>
    by_cases comment : c = '#'
    · exact .inl ⟨[], comment ▸ .comment⟩
    by_cases passed : isSeparator c = true ∨ c = ')'
    · rw [run_cons _ comment, step_passed passed]
      refine (laid_or_unfinished text _ done).imp_left ?_
      rintro ⟨tokens, tail⟩
      exact ⟨tokens, .gap passed tail⟩
    have begins := passed
    simp only [not_or, Bool.not_eq_true] at begins
    rw [run_begins comment begins.1 begins.2]
    rcases unbroken_or_unfinished (c :: text) [] with ⟨token, rest, split, unbroken, ends⟩ | unfinished
    · cases token with
      | nil =>
        obtain rfl : c :: text = rest := split
        rcases ends with rfl | separator
        · exact absurd rfl comment
        · exact absurd (.inl separator) passed
      | cons d token =>
        obtain ⟨rfl, rfl⟩ : c = d ∧ text = token ++ rest := by simpa using split
        rw [← List.cons_append, run_unbroken unbroken, List.nil_append, ← unfinished_close,
          run_ends ends, unfinished_close]
        refine (laid_or_unfinished rest _ _).imp_left ?_
        rintro ⟨tokens, tail⟩
        exact ⟨_, .token (List.cons_ne_nil _ _) (by simp [begins.2]) unbroken ends tail⟩
    · exact .inr unfinished
termination_by text.length
decreasing_by all_goals simp_all; try omega

theorem run_laid {place : Nat} {text : List Char} {tokens : List Token}
    (laid : Laid place text tokens) (done : List Token) :
    ∃ last, ((between place done).run text).close = between last (tokens.reverse ++ done) := by
  induction laid generalizing done with
  | ended => exact ⟨_, rfl⟩
  | comment => exact ⟨_, rfl⟩
  | @gap place c rest tokens passed _ ih =>
    have code : c ≠ '#' := by
      rintro rfl
      rcases passed with passed | passed <;> cases passed
    rw [run_cons _ code, step_passed passed]
    exact ih done
  | @token place text rest tokens nonempty opens unbroken ends _ ih =>
    obtain ⟨last, closed⟩ := ih (⟨String.ofList text, place + 1⟩ :: done)
    refine ⟨last, ?_⟩
    rw [run_token nonempty opens unbroken, run_ends ends, closed]
    simp

end Scan

theorem Laid.tokenize_eq {text : String} {tokens : List Token} (laid : Laid 0 text.toList tokens)
    (line : Nat) : tokenize line text = .ok tokens := by
  obtain ⟨last, closed⟩ := Scan.run_laid laid []
  rw [List.append_nil] at closed
  change (Scan.start.run text.toList).close = _ at closed
  have finished : ¬(Scan.start.run text.toList).Unfinished := by
    rw [← Scan.unfinished_close, closed]
    simp [Scan.Unfinished, Scan.between]
  simp only [Scan.Unfinished, not_or, Bool.not_eq_true] at finished
  simp [tokenize, finished, closed, Scan.between]

theorem tokenize_eq_ok_iff {line : Nat} {text : String} {tokens : List Token} :
    tokenize line text = .ok tokens ↔ Laid 0 text.toList tokens := by
  constructor
  · intro split
    rcases Scan.laid_or_unfinished text.toList 0 [] with ⟨found, laid⟩ | unfinished
    · obtain rfl : found = tokens := Except.ok.inj ((laid.tokenize_eq line).symm.trans split)
      exact laid
    · change (Scan.start.run text.toList).Unfinished at unfinished
      unfold tokenize at split
      rcases unfinished with quoted | deep
      · simp only [quoted, if_true] at split
        cases split
      · simp only [deep, if_true] at split
        split at split <;> cases split
  · intro laid
    exact laid.tokenize_eq line

/-- What stands before a comment: every literal is complete and no `#` stands outside of literals. -/
inductive Uncommented : List Char → Prop where
  | nil : Uncommented []
  | plain {c rest} (plain : c ∉ ['"', '#']) (tail : Uncommented rest) : Uncommented (c :: rest)
  | literal {body rest} (quoted : Quotable body) (tail : Uncommented rest) :
    Uncommented ('"' :: (body ++ '"' :: rest))

theorem Uncommented.append {chars rest : List Char} (front : Uncommented chars)
    (tail : Uncommented rest) : Uncommented (chars ++ rest) := by
  induction front with
  | nil => exact tail
  | plain plain _ ih => exact .plain plain ih
  | literal quoted _ ih => simpa using .literal quoted ih

theorem Enclosed.uncommented {chars : List Char} (enclosed : Enclosed chars) : Uncommented chars := by
  induction enclosed with
  | nil => exact .nil
  | plain plain _ ih => exact .plain (by simp_all) ih
  | literal quoted _ ih => exact .literal quoted ih
  | group _ _ inside_ih tail_ih =>
    exact .plain (by decide) (inside_ih.append (.plain (by decide) tail_ih))

theorem Unbroken.uncommented {chars : List Char} (unbroken : Unbroken chars) : Uncommented chars := by
  induction unbroken with
  | nil => exact .nil
  | plain plain _ _ ih => exact .plain (by simp_all) ih
  | literal quoted _ ih => exact .literal quoted ih
  | group enclosed _ ih =>
    exact .plain (by decide) (enclosed.uncommented.append (.plain (by decide) ih))

def Token.Covers (token : Token) (offset : Nat) : Prop :=
  token.column ≤ offset + 1 ∧ offset + 1 < token.column + token.text.utf8ByteSize

instance (token : Token) (offset : Nat) : Decidable (token.Covers offset) :=
  inferInstanceAs (Decidable (_ ∧ _))

def Token.StandsIn (token : Token) (place : Nat) (code : List Char) : Prop :=
  ∃ before after, code = before ++ (token.text.toList ++ after) ∧
    token.column = place + String.utf8Len before + 1 ∧ EndsToken after

/-- The tokens account for code that starts at byte `place` of its line. -/
structure Account (place : Nat) (code : List Char) (tokens : List Token) : Prop where
  nonempty : ∀ token ∈ tokens, token.text ≠ ""
  unbroken : ∀ token ∈ tokens, Unbroken token.text.toList
  opens : ∀ token ∈ tokens, token.text.toList.head? ≠ some ')'
  placed : ∀ token ∈ tokens, token.StandsIn place code
  ordered : tokens.Pairwise fun earlier later =>
    earlier.column + earlier.text.utf8ByteSize ≤ later.column
  covered : ∀ before c after, code = before ++ c :: after →
    c ∉ [',', ' ', '\t', '\r', ')'] → ∃ token ∈ tokens, token.Covers (place + String.utf8Len before)

theorem Token.StandsIn.within {token : Token} {place : Nat} {code : List Char} (front : List Char)
    (stands : token.StandsIn (place + String.utf8Len front) code) :
    token.StandsIn place (front ++ code) := by
  obtain ⟨before, after, split, column, ends⟩ := stands
  refine ⟨front ++ before, after, by simp [split], ?_, ends⟩
  rw [column, String.utf8Len_append, Nat.add_assoc place]

theorem Account.pass {place : Nat} {c : Char} {code : List Char} {tokens : List Token}
    (passed : Scan.isSeparator c = true ∨ c = ')')
    (account : Account (place + c.utf8Size) code tokens) : Account place (c :: code) tokens where
  nonempty := account.nonempty
  unbroken := account.unbroken
  opens := account.opens
  placed token member := by
    have stands := account.placed token member
    rw [← Nat.zero_add c.utf8Size, ← String.utf8Len_nil, ← String.utf8Len_cons] at stands
    exact stands.within [c]
  ordered := account.ordered
  covered := by
    rintro (_ | ⟨d, before⟩) e after split plain
    · obtain ⟨rfl, -⟩ := List.cons.inj split
      exact absurd (Scan.passed_iff.1 passed) plain
    · obtain ⟨rfl, later⟩ := List.cons.inj split
      obtain ⟨token, member, covers⟩ := account.covered before e after later plain
      refine ⟨token, member, ?_⟩
      rwa [String.utf8Len_cons, Nat.add_comm (String.utf8Len before), ← Nat.add_assoc]

theorem Account.add {place : Nat} {text code : List Char} {tokens : List Token}
    (nonempty : text ≠ []) (opens : text.head? ≠ some ')') (unbroken : Unbroken text)
    (ends : EndsToken code) (account : Account (place + String.utf8Len text) code tokens) :
    Account place (text ++ code) (⟨String.ofList text, place + 1⟩ :: tokens) where
  nonempty := by
    intro token member
    rcases List.mem_cons.1 member with rfl | member
    · simpa using nonempty
    · exact account.nonempty token member
  unbroken := by
    intro token member
    rcases List.mem_cons.1 member with rfl | member
    · simpa using unbroken
    · exact account.unbroken token member
  opens := by
    intro token member
    rcases List.mem_cons.1 member with rfl | member
    · simpa using opens
    · exact account.opens token member
  placed := by
    intro token member
    rcases List.mem_cons.1 member with rfl | member
    · exact ⟨[], code, by simp, rfl, ends⟩
    · exact (account.placed token member).within text
  ordered := by
    refine List.pairwise_cons.2 ⟨?_, account.ordered⟩
    intro token member
    obtain ⟨before, after, -, column, -⟩ := account.placed token member
    simp only [String.utf8ByteSize_ofList, column]
    omega
  covered := by
    intro before c after split plain
    rcases List.append_eq_append_iff.1 split with ⟨rest, rfl, later⟩ | ⟨rest, rfl, here⟩
    · obtain ⟨token, member, covers⟩ := account.covered rest c after later plain
      refine ⟨token, List.mem_cons_of_mem _ member, ?_⟩
      rwa [String.utf8Len_append, ← Nat.add_assoc]
    · cases rest with
      | nil =>
        obtain ⟨token, member, covers⟩ := account.covered [] c after here.symm plain
        refine ⟨token, List.mem_cons_of_mem _ member, ?_⟩
        simpa using covers
      | cons d rest =>
        obtain ⟨rfl, rfl⟩ := List.cons.inj here
        refine ⟨_, List.mem_cons_self, ?_⟩
        have size := c.utf8Size_pos
        simp only [Token.Covers, String.utf8ByteSize_ofList, String.utf8Len_append,
          String.utf8Len_cons]
        omega

theorem Laid.account {place : Nat} {text : List Char} {tokens : List Token}
    (laid : Laid place text tokens) :
    ∃ code comment, text = code ++ comment ∧ (comment = [] ∨ comment.head? = some '#') ∧
      Uncommented code ∧ Account place code tokens := by
  induction laid with
  | ended =>
    exact ⟨[], [], rfl, .inl rfl, .nil, by simp, by simp, by simp, by simp, by simp, by simp⟩
  | @comment place rest =>
    exact ⟨[], '#' :: rest, rfl, .inr rfl, .nil, by simp, by simp, by simp, by simp, by simp, by simp⟩
  | @gap place c rest tokens passed _ ih =>
    obtain ⟨code, comment, rfl, ends, uncommented, account⟩ := ih
    have plain : c ∉ ['"', '#'] := by
      rcases passed with separator | rfl
      · have plain := Scan.plain_of_separator separator
        simp_all
      · decide
    exact ⟨c :: code, comment, rfl, ends, .plain plain uncommented, account.pass passed⟩
  | @token place text rest tokens nonempty opens unbroken ends _ ih =>
    obtain ⟨code, comment, rfl, ended, uncommented, account⟩ := ih
    have ends : EndsToken code := by
      cases code with
      | nil => trivial
      | cons c code => exact ends
    exact ⟨text ++ code, comment, by simp, ended, unbroken.uncommented.append uncommented,
      account.add nonempty opens unbroken ends⟩

/-- A line that falls into tokens is accounted for up to its comment, which the first `#` outside of
literals starts. Nothing but separators and closing parentheses is left out, and such a parenthesis
stands neither in a token nor directly after one. -/
theorem tokens_account_for_line {line : Nat} {text : String} {tokens : List Token}
    (split : tokenize line text = .ok tokens) :
    ∃ code comment, text.toList = code ++ comment ∧ (comment = [] ∨ comment.head? = some '#') ∧
      Uncommented code ∧ Account 0 code tokens :=
  (tokenize_eq_ok_iff.1 split).account

theorem tokens_account_for_line_quoting :
    tokenize 3 "LKS s0, \"a, #\" # b" = .ok [⟨"LKS", 1⟩, ⟨"s0", 5⟩, ⟨"\"a, #\"", 9⟩] ∧
      ∃ code comment, "LKS s0, \"a, #\" # b".toList = code ++ comment ∧
        (comment = [] ∨ comment.head? = some '#') ∧ Uncommented code ∧
        Account 0 code [⟨"LKS", 1⟩, ⟨"s0", 5⟩, ⟨"\"a, #\"", 9⟩] := by
  have split : tokenize 3 "LKS s0, \"a, #\" # b" =
      .ok [⟨"LKS", 1⟩, ⟨"s0", 5⟩, ⟨"\"a, #\"", 9⟩] := by decide +kernel
  exact ⟨split, tokens_account_for_line split⟩

/-- A closing parenthesis that stands alone before an instruction is neither a separator nor in a
token, and the line is accepted. -/
theorem stray_parenthesis_in_no_token :
    tokenize 2 ") RETI 0!, 0" = .ok [⟨"RETI", 3⟩, ⟨"0!", 8⟩, ⟨"0", 12⟩] ∧
      ") RETI 0!, 0".toList = [] ++ ')' :: " RETI 0!, 0".toList ∧ ')' ∉ [',', ' ', '\t', '\r'] ∧
      '#' ∉ ") RETI 0!, 0".toList ∧
      ∀ token ∈ [Token.mk "RETI" 3, ⟨"0!", 8⟩, ⟨"0", 12⟩], ¬token.Covers 0 := by
  decide +kernel

end GameScript.Assembly
