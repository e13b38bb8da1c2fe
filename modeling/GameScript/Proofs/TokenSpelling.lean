import Mathlib.Data.List.Forall2
import Mathlib.Data.Nat.Digits.Defs
import GameScript.Assembly.Pools
import GameScript.Proofs.HeapBlocks

/-! What the tokens of assembly text stand for, said without the readers: numbers by the value of
their digits, registers by letter and number, literals by what is between quotes, commas and
parentheses. Each reader gives what its token stands for. -/

namespace GameScript.Assembly

open Text

/-- The value of digits in a base, most significant first. -/
def SpellsNat (base : Nat) (chars : List Char) (n : Nat) : Prop :=
  chars ≠ [] ∧ ∃ digits : List Nat, chars.map (digitValue? base) = digits.map some ∧
    n = Nat.ofDigits base digits.reverse

inductive SpellsSigned (base : Nat) : List Char → Int → Prop where
  | plain {chars n} (digits : SpellsNat base chars n) : SpellsSigned base chars n
  | plus {chars n} (digits : SpellsNat base chars n) : SpellsSigned base ('+' :: chars) n
  | minus {chars} {n : Nat} (digits : SpellsNat base chars n) : SpellsSigned base ('-' :: chars) (-n)

inductive SpellsMagnitude : List Char → Int → Prop where
  | decimal {chars n} (digits : SpellsSigned 10 chars n) : SpellsMagnitude chars n
  | hexadecimal {mark chars n} (marked : mark = 'x' ∨ mark = 'X') (digits : SpellsSigned 16 chars n) :
    SpellsMagnitude ('0' :: mark :: chars) n

/-- An integer, with an optional minus sign before all else. -/
inductive SpellsInt : List Char → Int → Prop where
  | plain {chars n} (magnitude : SpellsMagnitude chars n) : SpellsInt chars n
  | minus {chars n} (magnitude : SpellsMagnitude chars n) : SpellsInt ('-' :: chars) (-n)

def SpellsRegister (chars : List Char) (bank : Bank) (index : Nat) : Prop :=
  ∃ digits, chars = bank.letter :: digits ∧ SpellsNat 10 digits index

/-- What stands between the quotes of a string literal, and the text that it means. -/
inductive Unescapes : List Char → List Char → Prop where
  | nil : Unescapes [] []
  | plain {c rest text} (ordinary : c ≠ '\\') (tail : Unescapes rest text) :
    Unescapes (c :: rest) (c :: text)
  | escaped {c meant rest text} (known : escape? c = some meant) (tail : Unescapes rest text) :
    Unescapes ('\\' :: c :: rest) (meant :: text)

def SpellsString (token text : String) : Prop :=
  ∃ body, token.toList = '"' :: (body ++ ['"']) ∧ Unescapes body text.toList

inductive SpellsSymbol (token : String) : Symbol → Prop where
  | null (named : sameFold token "null" = true) : SpellsSymbol token .null
  | function {name} (marked : token.toList = '@' :: name) (some : name ≠ []) :
    SpellsSymbol token (.function (String.ofList name))
  | class_ {name} (marked : token.toList = '%' :: name) (some : name ≠ []) :
    SpellsSymbol token (.class_ (String.ofList name))

inductive SpellsFloats (token : String) : List Double → Prop where
  | single {value} (read : float? token = .ok (some value)) : SpellsFloats token [value]
  | tuple {parts values} (enclosed : token.toList = '(' :: ([','].intercalate parts ++ [')']))
    (apart : ∀ part ∈ parts, ',' ∉ part) (few : values.length ≤ 3)
    (read : List.Forall₂ (fun part value => float? (trim (String.ofList part)) = .ok (some value))
      parts values) : SpellsFloats token values

/-- Compare flags by name: a relation and a colon, which may be missing for equality, the outcome, and
a tilde to compare approximately. -/
inductive SpellsFlags : List Char → Bool → Bool → CompareMode → Prop where
  | plain {name check approx} (outcome : truth? name = some check) :
    SpellsFlags (name ++ if approx then ['~'] else []) check approx .eq
  | related {relation name check approx mode} (related : compareMode? relation = some mode)
    (outcome : truth? name = some check) :
    SpellsFlags (relation ++ ':' :: (name ++ if approx then ['~'] else [])) check approx mode

/-- A selector by the name of an entry, or by its number when no entry has that name. -/
inductive SpellsSelector (name : α → String) (ofCode : UInt8 → Except UnknownSelector α)
    (token : String) (code : UInt8) : Prop where
  | named {entry} (known : ofCode code = .ok entry) (same : sameFold (name entry) token = true)
  | numbered (unnamed : ∀ other entry, ofCode other = .ok entry → sameFold (name entry) token = false)
    (number : SpellsInt token.toList code.toNat)

theorem readDigits?_eq_some {base value n : Nat} {chars : List Char}
    (read : readDigits? base value chars = some n) :
    ∃ digits : List Nat, chars.map (digitValue? base) = digits.map some ∧
      n = value * base ^ digits.length + Nat.ofDigits base digits.reverse := by
  induction chars generalizing value with
  | nil =>
    cases read
    exact ⟨[], rfl, by simp⟩
  | cons c rest ih =>
    obtain ⟨digit, first, read⟩ := Option.bind_eq_some_iff.1 read
    obtain ⟨digits, mapped, sum⟩ := ih read
    refine ⟨digit :: digits, by rw [List.map_cons, List.map_cons, first, mapped], ?_⟩
    rw [sum, List.reverse_cons, Nat.ofDigits_append, Nat.ofDigits_singleton, List.length_reverse,
      List.length_cons, Nat.pow_succ]
    ring

theorem readNat?_spells {base n : Nat} {chars : List Char} (read : readNat? base chars = some n) :
    SpellsNat base chars n := by
  unfold readNat? at read
  split at read
  next => cases read
  next some =>
    obtain ⟨digits, mapped, sum⟩ := readDigits?_eq_some read
    exact ⟨by simpa using some, digits, mapped, by simpa using sum⟩

theorem readInt?_spells {base : Nat} {low high n : Int} {chars : List Char}
    (read : readInt? base low high chars = some n) : SpellsSigned base chars n := by
  have value := (Option.filter_eq_some_iff.1 read).1
  split at value
  all_goals
    obtain ⟨magnitude, digits, rfl⟩ := Option.map_eq_some_iff.1 value
    have spelled := readNat?_spells digits
  · exact .minus spelled
  · exact .plus spelled
  · exact .plain spelled

theorem magnitude?_spells {chars : List Char} {n : Int} (read : magnitude? chars = some n) :
    SpellsMagnitude chars n := by
  unfold magnitude? at read
  split at read
  · exact .hexadecimal (.inl rfl) (readInt?_spells read)
  · exact .hexadecimal (.inr rfl) (readInt?_spells read)
  · exact .decimal (readInt?_spells read)

theorem negate_of_ne {value : Int} (other : value ≠ leastInt) : negate value = .ok (-value) :=
  if_neg other

theorem negate_eq_ok_iff {value n : Int} : negate value = .ok n ↔ value ≠ leastInt ∧ n = -value := by
  by_cases least : value = leastInt
  · simp [negate, least]
  · rw [negate_of_ne least, Except.ok.injEq, eq_comm]
    simp [least]

theorem mapM_negate_eq_ok_iff {magnitude : Option Int} {n : Int} :
    magnitude.mapM negate = .ok (some n) ↔ ∃ m, magnitude = some m ∧ negate m = .ok n := by
  cases magnitude with
  | none => simp [pure, Except.pure]
  | some m => cases result : negate m <;> simp [Functor.map, Except.map, result]

theorem integer?_spells {token : String} {n : Int} (read : integer? token = .ok (some n)) :
    SpellsInt token.toList n := by
  unfold integer? at read
  split at read
  next rest split =>
    obtain ⟨m, magnitude, negated⟩ := mapM_negate_eq_ok_iff.1 read
    obtain ⟨-, rfl⟩ := negate_eq_ok_iff.1 negated
    rw [split]
    exact .minus (magnitude?_spells magnitude)
  next => exact .plain (magnitude?_spells (Except.ok.inj read))

theorem readDigits?_of_digits {base value : Nat} {chars : List Char} {digits : List Nat}
    (mapped : chars.map (digitValue? base) = digits.map some) :
    readDigits? base value chars =
      some (value * base ^ digits.length + Nat.ofDigits base digits.reverse) := by
  induction chars generalizing value digits with
  | nil =>
    obtain rfl := List.map_eq_nil_iff.1 mapped.symm
    simp [readDigits?]
  | cons c rest ih =>
    cases digits with
    | nil => cases mapped
    | cons digit digits =>
      obtain ⟨first, tail⟩ := List.cons_eq_cons.1 mapped
      rw [readDigits?, first, Option.bind_some, ih tail, List.reverse_cons, Nat.ofDigits_append,
        Nat.ofDigits_singleton, List.length_reverse, List.length_cons, Nat.pow_succ]
      congr 1
      ring

theorem SpellsNat.readNat? {base n : Nat} {chars : List Char} (spelled : SpellsNat base chars n) :
    readNat? base chars = some n := by
  obtain ⟨some, digits, mapped, rfl⟩ := spelled
  rw [Text.readNat?, if_neg (by simpa using some), readDigits?_of_digits mapped]
  simp

theorem SpellsNat.no_sign {base n : Nat} {chars : List Char} (spelled : SpellsNat base chars n)
    (rest : List Char) : chars ≠ '-' :: rest ∧ chars ≠ '+' :: rest := by
  obtain ⟨-, digits, mapped, -⟩ := spelled
  constructor
  all_goals
    rintro rfl
    cases digits <;> cases mapped

theorem SpellsSigned.readInt? {base : Nat} {low high n : Int} {chars : List Char}
    (spelled : SpellsSigned base chars n) (inside : low ≤ n ∧ n ≤ high) :
    readInt? base low high chars = some n := by
  refine Option.filter_eq_some_iff.2 ⟨?_, by simpa using inside⟩
  cases spelled with
  | plain digits =>
    split
    next rest => exact absurd rfl (digits.no_sign rest).1
    next rest => exact absurd rfl (digits.no_sign rest).2
    next => rw [digits.readNat?, Option.map_some]
  | plus digits => simp only [digits.readNat?, Option.map_some]
  | minus digits => simp only [digits.readNat?, Option.map_some]

/-- The mark of the base is no decimal digit. -/
theorem SpellsSigned.not_marked {mark : Char} {rest : List Char} {n : Int}
    (marked : mark = 'x' ∨ mark = 'X') : ¬SpellsSigned 10 ('0' :: mark :: rest) n := by
  intro spelled
  obtain ⟨k, -, digits, mapped, -⟩ : ∃ k, SpellsNat 10 ('0' :: mark :: rest) k := by
    cases spelled with
    | plain digits => exact ⟨_, digits⟩
  have letter : digitValue? 10 mark = none := by
    rcases marked with rfl | rfl <;> rfl
  rw [List.map_cons, List.map_cons, letter] at mapped
  match digits with
  | [] | [_] | _ :: _ :: _ => simp at mapped

theorem SpellsMagnitude.magnitude? {chars : List Char} {n : Int}
    (spelled : SpellsMagnitude chars n) (inside : leastInt ≤ n ∧ n ≤ greatestInt) :
    magnitude? chars = some n := by
  cases spelled with
  | hexadecimal marked digits =>
    rcases marked with rfl | rfl
    · exact digits.readInt? inside
    · exact digits.readInt? inside
  | decimal digits =>
    unfold Assembly.magnitude?
    split
    · exact absurd digits (SpellsSigned.not_marked (.inl rfl))
    · exact absurd digits (SpellsSigned.not_marked (.inr rfl))
    · exact digits.readInt? inside

/-- An integer of fewer than 64 bits is read however it is spelled. -/
theorem SpellsInt.integer? {token : String} {n : Int} (spelled : SpellsInt token.toList n)
    (inside : leastInt < n ∧ n < -leastInt) : integer? token = .ok (some n) := by
  have opposite : leastInt = -greatestInt - 1 := rfl
  unfold Assembly.integer?
  generalize token.toList = chars at spelled
  cases spelled with
  | @minus chars n magnitude =>
    exact mapM_negate_eq_ok_iff.2 ⟨n, magnitude.magnitude? (by omega), negate_of_ne (by omega)⟩
  | plain magnitude =>
    split
    next rest =>
      -- The minus sign may as well belong to the digits.
      cases magnitude with
      | decimal digits =>
        cases digits with
        | plain digits => exact absurd rfl (digits.no_sign rest).1
        | minus digits =>
          have whole := SpellsMagnitude.decimal (.plain digits)
          exact mapM_negate_eq_ok_iff.2 ⟨_, whole.magnitude? (by omega), negate_of_ne (by omega)⟩
    next => exact congrArg Except.ok (magnitude.magnitude? (by omega))

theorem ofLetter?_eq_some {letter : Char} {bank : Bank} (found : Bank.ofLetter? letter = some bank) :
    letter = bank.letter := by
  unfold Bank.ofLetter? at found
  split at found <;> cases found <;> rfl

theorem anyRegister_spells {token : String} {bank : Bank} {index : Int}
    (read : anyRegister token = .ok (bank, index)) :
    ∃ number : Nat, index = number ∧ SpellsRegister token.toList bank number := by
  unfold anyRegister at read
  split at read
  next letter digits split =>
    split at read
    next found known =>
      split at read
      next => cases read
      next decimal =>
        split at read
        next value number =>
          cases read
          rw [split, ofLetter?_eq_some known]
          cases readInt?_spells number with
          | plain spelled => exact ⟨_, rfl, digits, rfl, spelled⟩
          | plus spelled => simp [isDigit] at decimal
          | minus spelled => simp [isDigit] at decimal
        next => cases read
    next => cases read
  next => cases read

theorem register_spells {token : String} {bank : Bank} {index : Int}
    (read : register bank token = .ok index) :
    ∃ number : Nat, index = number ∧ SpellsRegister token.toList bank number := by
  unfold register at read
  split at read
  next found other any =>
    split at read
    next same =>
      cases read
      subst same
      exact anyRegister_spells any
    next => cases read
  next => cases read

theorem unescape_spells {body text : List Char} (read : unescape body = some text) :
    Unescapes body text := by
  fun_induction unescape body generalizing text with
  | case1 =>
    cases read
    exact .nil
  | case2 => cases read
  | case3 c rest ih =>
    obtain ⟨meant, known, read⟩ := Option.bind_eq_some_iff.1 read
    obtain ⟨tail, parsed, rfl⟩ := Option.map_eq_some_iff.1 read
    exact .escaped known (ih parsed)
  | case4 c rest last ordinary ih =>
    obtain ⟨tail, parsed, rfl⟩ := Option.map_eq_some_iff.1 read
    refine .plain ?_ (ih parsed)
    rintro rfl
    cases rest with
    | nil => exact last rfl rfl
    | cons next after => exact ordinary next after rfl rfl

theorem string?_spells {token text : String} (read : string? token = some text) :
    SpellsString token text := by
  obtain ⟨chars, inner, rfl⟩ := Option.map_eq_some_iff.1 read
  obtain ⟨body, quoted, meant⟩ := Option.bind_eq_some_iff.1 inner
  refine ⟨body, ?_, by simpa using unescape_spells meant⟩
  unfold unquote? at quoted
  split at quoted
  next rest opened =>
    split at quoted
    next reversed closed =>
      cases quoted
      rw [opened, List.reverse_eq_cons_iff.1 closed]
    next => cases quoted
  next => cases quoted

theorem symbol?_spells {token : String} {symbol : Symbol} (read : symbol? token = some symbol) :
    SpellsSymbol token symbol := by
  unfold symbol? at read
  split at read
  next named =>
    cases read
    exact .null named
  next =>
    split at read
    next name marked =>
      split at read
      next => cases read
      next some =>
        cases read
        exact .function marked (by simpa using some)
    next name marked =>
      split at read
      next => cases read
      next some =>
        cases read
        exact .class_ marked (by simpa using some)
    next => cases read

theorem mapM_eq_ok {f : α → Except ε β} {values : List α} {results : List β}
    (mapped : values.mapM f = .ok results) :
    List.Forall₂ (fun value result => f value = .ok result) values results := by
  induction values generalizing results with
  | nil =>
    cases mapped
    exact .nil
  | cons value rest ih =>
    rw [List.mapM_cons] at mapped
    obtain ⟨first, head, mapped⟩ := bind_eq_ok.1 mapped
    obtain ⟨others, tail, mapped⟩ := bind_eq_ok.1 mapped
    cases mapped
    exact .cons head (ih tail)

theorem mapM_of_forall₂ {f : α → Except ε β} {values : List α} {results : List β}
    (each : List.Forall₂ (fun value result => f value = .ok result) values results) :
    values.mapM f = .ok results := by
  induction each with
  | nil => rfl
  | cons head _ ih =>
    rw [List.mapM_cons, head, ih]
    rfl

theorem exists_getElem?_of_forall₂ {relation : α → β → Prop} {left : List α} {right : List β}
    (related : List.Forall₂ relation left right) {index : Nat} {value : α}
    (found : left[index]? = some value) :
    ∃ result, right[index]? = some result ∧ relation value result := by
  induction related generalizing index with
  | nil => cases found
  | @cons first second _ _ head _ ih =>
    cases index with
    | zero =>
      cases found
      exact ⟨second, rfl, head⟩
    | succ index => exact ih found

theorem splitCommas_ne_nil (held chars : List Char) : splitCommas held chars ≠ [] := by
  induction chars generalizing held with
  | nil => simp [splitCommas]
  | cons c rest ih =>
    unfold splitCommas
    split
    · simp
    · exact ih _

theorem intercalate_splitCommas (held chars : List Char) :
    [','].intercalate (splitCommas held chars) = held.reverse ++ chars := by
  induction chars generalizing held with
  | nil => simp [splitCommas]
  | cons c rest ih =>
    unfold splitCommas
    split
    next comma =>
      rw [List.intercalate_cons_of_ne_nil (splitCommas_ne_nil _ _), ih, beq_iff_eq.1 comma]
      simp
    next =>
      rw [ih]
      simp

theorem comma_notMem_splitCommas {held chars : List Char} (clean : ',' ∉ held) :
    ∀ part ∈ splitCommas held chars, ',' ∉ part := by
  induction chars generalizing held with
  | nil => simpa [splitCommas] using clean
  | cons c rest ih =>
    unfold splitCommas
    split
    next comma =>
      intro part member
      cases member with
      | head => simpa using clean
      | tail _ later => exact ih (by simp) part later
    next other =>
      apply ih
      have apart : ',' ≠ c := by
        intro same
        simp [← same] at other
      simp [apart, clean]

theorem lift_ok (value : α) : (liftM (.ok value : Except ε α) : Except (Halt ε) α) = .ok value := rfl

theorem lift_eq_ok {result : Except ε α} {value : α} :
    (liftM result : Except (Halt ε) α) = .ok value ↔ result = .ok value := by
  cases result with
  | error _ => exact ⟨nofun, nofun⟩
  | ok found => rw [lift_ok, Except.ok.injEq, Except.ok.injEq]

theorem parenthesized?_eq_some {chars inner : List Char} (found : parenthesized? chars = some inner) :
    chars = '(' :: (inner ++ [')']) := by
  unfold parenthesized? at found
  split at found
  next rest =>
    split at found
    next reversed closed =>
      cases found
      rw [List.reverse_eq_cons_iff.1 closed]
    next => cases found
  next => cases found

theorem float_eq_ok {token : String} {value : Double} (read : float token = .ok value) :
    float? token = .ok (some value) := by
  obtain ⟨found, parsed, read⟩ := bind_eq_ok.1 read
  cases found with
  | some other =>
    cases read
    exact parsed
  | none => cases read

theorem float_of_read {token : String} {value : Double} (read : float? token = .ok (some value)) :
    float token = .ok value := by
  rw [float, read]
  rfl

theorem floatTuple_spells {token : String} {values : List Double}
    (read : floatTuple token = .ok values) : SpellsFloats token values := by
  unfold floatTuple at read
  split at read
  next =>
    obtain ⟨value, found, read⟩ := bind_eq_ok.1 read
    cases read
    exact .single (float_eq_ok found)
  next inner enclosed =>
    obtain ⟨results, mapped, read⟩ := bind_eq_ok.1 read
    split at read
    next => cases read
    next few =>
      cases read
      refine .tuple ?_ (comma_notMem_splitCommas List.not_mem_nil) (by omega)
        ((mapM_eq_ok mapped).imp fun _ _ => float_eq_ok)
      rw [intercalate_splitCommas]
      exact parenthesized?_eq_some enclosed

theorem splitCommas_of_clean (held : List Char) {part : List Char} (clean : ',' ∉ part) :
    splitCommas held part = [held.reverse ++ part] := by
  induction part generalizing held with
  | nil => simp [splitCommas]
  | cons c rest ih =>
    rw [List.mem_cons, not_or] at clean
    have other : (c == ',') = false := beq_false_of_ne (Ne.symm clean.1)
    rw [splitCommas, other, if_neg Bool.false_ne_true, ih _ clean.2]
    simp

theorem splitCommas_append {held part : List Char} (clean : ',' ∉ part) (rest : List Char) :
    splitCommas held (part ++ ',' :: rest) = (held.reverse ++ part) :: splitCommas [] rest := by
  induction part generalizing held with
  | nil => simp [splitCommas]
  | cons c others ih =>
    rw [List.mem_cons, not_or] at clean
    have other : (c == ',') = false := beq_false_of_ne (Ne.symm clean.1)
    rw [List.cons_append, splitCommas, other, if_neg Bool.false_ne_true, ih clean.2]
    simp

theorem splitCommas_intercalate {parts : List (List Char)} (some : parts ≠ [])
    (apart : ∀ part ∈ parts, ',' ∉ part) : splitCommas [] ([','].intercalate parts) = parts := by
  induction parts with
  | nil => exact absurd rfl some
  | cons part rest ih =>
    have clean := apart part List.mem_cons_self
    cases rest with
    | nil => simpa using splitCommas_of_clean [] clean
    | cons next others =>
      rw [List.intercalate_cons_of_ne_nil (List.cons_ne_nil _ _), List.append_assoc,
        List.singleton_append, splitCommas_append clean,
        ih (List.cons_ne_nil _ _) fun other member => apart other (List.mem_cons_of_mem _ member)]
      rfl

theorem float?_of_open {token : String} {rest : List Char} (opened : token.toList = '(' :: rest) :
    float? token = .ok none := by
  have numeric : integer? token = .ok none := by
    simp [integer?, opened, Assembly.magnitude?, readInt?, Text.readNat?, readDigits?, digitValue?,
      isDigit]
  have text : Double.ofText? ('(' :: rest) = none := by
    simp [Double.ofText?, Double.magnitude?, isDigit]
  rw [float?, numeric, opened, text]
  rfl

/-- The floats of a literal are those that it spells. -/
theorem SpellsFloats.floatTuple {token : String} {values : List Double}
    (spelled : SpellsFloats token values) (some : values ≠ []) :
    floatTuple token = .ok values := by
  unfold Assembly.floatTuple
  cases spelled with
  | single read =>
    have plain : parenthesized? token.toList = none := by
      unfold parenthesized?
      split
      next rest opened =>
        rw [float?_of_open opened] at read
        cases read
      next => rfl
    rw [plain]
    simp [float_of_read read]
  | @tuple parts _ enclosed apart few read =>
    have inner : parenthesized? token.toList = Option.some ([','].intercalate parts) := by
      simp [parenthesized?, enclosed]
    have parsed : parts.mapM (fun part => float (trim (String.ofList part))) = .ok values :=
      mapM_of_forall₂ (read.imp fun part value => float_of_read)
    have written : parts ≠ [] := by
      rintro rfl
      cases read
      exact some rfl
    rw [inner]
    simp only [splitCommas_intercalate written apart, parsed]
    exact if_neg (Nat.not_lt.2 few)

theorem outcome_spells {mode : CompareMode} {rest : List Char} {field : CompareField}
    (found : (let (approx, rest) := match rest.reverse with
      | '~' :: body => (true, body.reverse)
      | _ => (false, rest)
      (truth? rest).map fun check => CompareField.of check approx mode) = some field) :
    ∃ name check, ∃ approx : Bool, rest = name ++ (if approx then ['~'] else []) ∧
      truth? name = some check ∧ field = .of check approx mode := by
  dsimp only at found
  obtain ⟨check, known, rfl⟩ := Option.map_eq_some_iff.1 found
  split at known
  next body reversed => exact ⟨_, check, true, List.reverse_eq_cons_iff.1 reversed, known, rfl⟩
  next => exact ⟨rest, check, false, by simp, known, rfl⟩

theorem namedFlags?_spells {chars : List Char} {field : CompareField}
    (read : namedFlags? chars = some field) :
    ∃ check approx mode, SpellsFlags chars check approx mode ∧ field = .of check approx mode := by
  unfold namedFlags? at read
  dsimp only at read
  obtain ⟨mode, related, read⟩ := Option.bind_eq_some_iff.1 read
  split at related
  next colon after split =>
    rw [split] at read
    obtain ⟨name, check, approx, rfl, known, rfl⟩ := outcome_spells read
    have ends : colon = ':' := by
      have head := List.head?_dropWhile_not (· != ':') chars
      rw [split] at head
      simpa using head
    have joined := List.takeWhile_append_dropWhile (p := (· != ':')) (l := chars)
    rw [split, ends] at joined
    rw [← joined]
    exact ⟨check, approx, mode, .related related known, rfl⟩
  next plain =>
    cases related
    rw [plain] at read
    obtain ⟨name, check, approx, rfl, known, rfl⟩ := outcome_spells read
    exact ⟨check, approx, .eq, .plain known, rfl⟩

theorem integer_eq_ok_iff {token : String} {value : Int} :
    integer token = .ok value ↔ integer? token = .ok (some value) := by
  constructor
  · intro read
    obtain ⟨found, parsed, read⟩ := bind_eq_ok.1 read
    cases found with
    | some other =>
      cases read
      exact parsed
    | none => cases read
  · intro read
    rw [integer, read]
    rfl

theorem integer_spells {token : String} {value : Int} (read : integer token = .ok value) :
    SpellsInt token.toList value :=
  integer?_spells (integer_eq_ok_iff.1 read)

theorem compareFlags_of (check approx : Bool) (mode : CompareMode) :
    (CompareField.of check approx mode).check = check ∧
      (CompareField.of check approx mode).approx = approx ∧
      (CompareField.of check approx mode).mode = .ok mode := by
  cases check <;> cases approx <;> cases mode <;> decide

/-- What compare flags stand for: outcome, approximation and relation by name, or all of them as one
number. -/
def DenotesFlags (token : String) (field : CompareField) : Prop :=
  SpellsInt token.toList field.bits.toNat ∨
    ∃ check approx mode, SpellsFlags token.toList check approx mode ∧
      field.check = check ∧ field.approx = approx ∧ field.mode = .ok mode

theorem compareFlags_denotes {token : String} {value : Int} {field : CompareField}
    (read : compareFlags token = .ok value) (same : (field.bits.toNat : Int) = value) :
    DenotesFlags token field := by
  obtain ⟨found, parsed, read⟩ := bind_eq_ok.1 read
  cases found with
  | some number =>
    cases read
    rw [← same] at parsed
    exact .inl (integer?_spells parsed)
  | none =>
    dsimp only at read
    split at read
    next flags named =>
      cases read
      obtain ⟨check, approx, mode, spelled, rfl⟩ := namedFlags?_spells named
      have equal : field = .of check approx mode := by
        cases field
        exact congrArg CompareField.mk (UInt8.toNat_inj.1 (Int.ofNat.inj same))
      rw [equal]
      exact .inr ⟨check, approx, mode, spelled, compareFlags_of check approx mode⟩
    next => cases read

def DenotesReturn (token : String) (field : ReturnField) : Prop :=
  ∃ digits, token.toList = digits ++ (if field.isFinal then ['!'] else []) ∧
    SpellsInt digits field.slot

theorem returnField_of : ∀ slot < 128, ∀ final,
    (ReturnField.of (UInt8.ofNat slot) final).slot = slot ∧
      (ReturnField.of (UInt8.ofNat slot) final).isFinal = final := by
  decide

theorem returnSlot_denotes {token : String} {value : Int} {field : ReturnField}
    (read : returnSlot token = .ok value) (same : (field.bits.toNat : Int) = value) :
    DenotesReturn token field := by
  have slot {digits : String} {final : Bool}
      (parsed : (integer digits >>= fun slot =>
        if 0 ≤ slot ∧ slot < 128 then
          Except.ok ((ReturnField.of (UInt8.ofNat slot.toNat) final).bits.toNat : Int)
        else .error (.failed (.field (.outOfRange slot 7)))) = .ok value) :
      field.isFinal = final ∧ SpellsInt digits.toList field.slot := by
    obtain ⟨number, found, parsed⟩ := bind_eq_ok.1 parsed
    split at parsed
    next inside =>
      cases parsed
      have equal : field = .of (UInt8.ofNat number.toNat) final := by
        cases field
        exact congrArg ReturnField.mk (UInt8.toNat_inj.1 (Int.ofNat.inj same))
      obtain ⟨slot, ends⟩ := returnField_of number.toNat (by omega) final
      rw [equal, slot, ends, Int.toNat_of_nonneg inside.1]
      exact ⟨rfl, integer_spells found⟩
    next => cases parsed
  unfold returnSlot at read
  dsimp only at read
  split at read
  next body reversed =>
    obtain ⟨ends, spelled⟩ := slot read
    refine ⟨body.reverse, ?_, by simpa using spelled⟩
    rw [ends]
    exact List.reverse_eq_cons_iff.1 reversed
  next =>
    obtain ⟨ends, spelled⟩ := slot read
    exact ⟨token.toList, by simp [ends], spelled⟩

theorem selectNamed?_eq_some {name : α → String} {entries : List α} {wanted : String} {entry : α}
    {number : Nat} (found : selectNamed? name entries wanted = some (entry, number)) :
    entries[number]? = some entry ∧ sameFold (name entry) wanted = true := by
  constructor
  · exact List.mem_zipIdx_iff_getElem?.1 (List.mem_of_find?_eq_some found)
  · have named := List.find?_some found
    exact named

theorem selectNamed?_eq_none {name : α → String} {entries : List α} {wanted : String}
    (missing : selectNamed? name entries wanted = none) {number : Nat} {entry : α}
    (listed : entries[number]? = some entry) : sameFold (name entry) wanted = false := by
  have absent := List.find?_eq_none.1 missing (entry, number)
    (List.mem_zipIdx_iff_getElem?.2 listed)
  simpa using absent

theorem selectAt_eq_ok {table : SelectorTable} {entries : List α} {code : UInt8} {entry : α} :
    selectAt table entries code = .ok entry ↔ entries[code.toNat]? = some entry := by
  unfold selectAt
  split
  next other found => simp [found]
  next missing => simp [missing]

theorem selector_spells {name : α → String} {entries : List α} {literal : Literal} {token : String}
    {value : Int} {code : UInt8} (table : SelectorTable)
    (read : selector literal ((selectNamed? name entries token).map (·.2)) token = .ok value)
    (same : (code.toNat : Int) = value) :
    SpellsSelector name (selectAt table entries) token code := by
  cases found : selectNamed? name entries token with
  | some both =>
    obtain ⟨entry, number⟩ := both
    obtain ⟨listed, named⟩ := selectNamed?_eq_some found
    rw [found] at read
    cases read
    have position : code.toNat = number := Int.ofNat.inj same
    rw [← position] at listed
    exact .named (selectAt_eq_ok.2 listed) named
  | none =>
    rw [found] at read
    obtain ⟨number, parsed, read⟩ := bind_eq_ok.1 read
    cases number with
    | some number =>
      cases read
      rw [← same] at parsed
      refine .numbered (fun other entry known => ?_) (integer?_spells parsed)
      exact selectNamed?_eq_none found (selectAt_eq_ok.1 known)
    | none => cases read

theorem abortKind_named? (token : String) :
    AbortKind.named? (fold token) = selectNamed? AbortKind.name AbortKind.all token := by
  have lower (kind : AbortKind) : fold kind.name = kind.name := by
    cases kind <;> decide
  simp only [AbortKind.named?, selectNamed?, sameFold, lower]

theorem abortKind_ofCode : AbortKind.ofCode = selectAt .abort AbortKind.all := by
  funext value
  unfold AbortKind.ofCode selectAt
  cases AbortKind.all[value.toNat]? <;> rfl

structure TagReads (tag : OperandTag) (bank : Bank) (constant reference : Bool) (width : Nat) :
    Prop where
  given : tag.isNil = false
  sound : tag.wellFormed = true
  bank : tag.bank = bank
  constant : tag.isConstant = constant
  reference : tag.isReference = reference
  width : tag.width = width

end GameScript.Assembly
