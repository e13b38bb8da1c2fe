import GameScript.Proofs.OperandMeaning

/-! Casts whose selector is a number. The number goes into the word as the name would. But only a name
asks for registers: with a number, registers of every bank are taken, each for one. So the line with
the name is accepted for fewer registers, and counts all that the cast reads. -/

namespace GameScript.Assembly

open Text

variable {token : String}

/-- The letters have values from 10 on. -/
theorem isDigit_of_digitValue? {c : Char} {digit : Nat} (valued : digitValue? 10 c = some digit) :
    isDigit c = true := by
  obtain ⟨valued, small⟩ := Option.filter_eq_some_iff.1 valued
  have small : digit < 10 := of_decide_eq_true small
  split at valued
  next decimal => exact decimal
  next =>
    split at valued
    next lower =>
      have least : 'a'.toNat ≤ c.toNat := of_decide_eq_true (Bool.and_eq_true_iff.1 lower).1
      have value := Option.some.inj valued
      simp only [Char.reduceToNat] at least
      omega
    next =>
      split at valued
      next upper =>
        have least : 'A'.toNat ≤ c.toNat := of_decide_eq_true (Bool.and_eq_true_iff.1 upper).1
        have value := Option.some.inj valued
        simp only [Char.reduceToNat] at least
        omega
      next => cases valued

theorem SpellsNat.head {n : Nat} {chars : List Char} (spelled : SpellsNat 10 chars n) :
    ∃ c rest, chars = c :: rest ∧ c.toNat < 58 := by
  obtain ⟨some, digits, mapped, -⟩ := spelled
  obtain ⟨c, rest, rfl⟩ := List.exists_cons_of_ne_nil some
  refine ⟨c, rest, rfl, ?_⟩
  cases digits with
  | nil => cases mapped
  | cons digit digits =>
    have decimal := isDigit_of_digitValue? (List.cons_eq_cons.1 mapped).1
    have most : c ≤ '9' := of_decide_eq_true (Bool.and_eq_true_iff.1 decimal).2
    exact Nat.lt_succ_of_le most

/-- A number starts with a digit or a sign, never with a letter. -/
theorem SpellsInt.head {n : Int} {chars : List Char} (spelled : SpellsInt chars n) :
    ∃ c rest, chars = c :: rest ∧ c.toNat < 58 := by
  cases spelled with
  | minus magnitude => exact ⟨_, _, rfl, by decide⟩
  | plain magnitude =>
    cases magnitude with
    | hexadecimal marked digits => exact ⟨_, _, rfl, by decide⟩
    | decimal digits =>
      cases digits with
      | plain digits => exact digits.head
      | plus digits | minus digits => exact ⟨_, _, rfl, by decide⟩

/-- No entry of a table whose names start with letters has a number for its name. -/
theorem selectNamed?_of_integer {name : α → String} {entries : List α} {code : Nat}
    (lettered : ∀ entry ∈ entries,
      (name entry).toList.head?.any (fun c => 58 ≤ c.toLower.toNat) = true)
    (read : integer? token = .ok (some (code : Int))) : selectNamed? name entries token = none := by
  obtain ⟨c, rest, split, low⟩ := (integer?_spells read).head
  refine List.find?_eq_none.2 fun entry member same => ?_
  have listed : entry.1 ∈ entries := List.mem_of_getElem? (List.mem_zipIdx_iff_getElem?.1 member)
  have folded : (name entry.1).toList.map Char.toLower = token.toList.map Char.toLower := by
    have equal : fold (name entry.1) = fold token := beq_iff_eq.1 same
    exact String.ofList_injective equal
  have first := lettered entry.1 listed
  have caseless : c.toLower = c := by
    refine dif_neg fun capital => ?_
    have least : 65 ≤ c.toNat := capital.1
    omega
  rw [split, List.map_cons, caseless] at folded
  cases chars : (name entry.1).toList with
  | nil =>
    rw [chars] at first
    cases first
  | cons letter letters =>
    rw [chars] at first folded
    have least : 58 ≤ letter.toLower.toNat := of_decide_eq_true first
    rw [(List.cons_eq_cons.1 folded).1] at least
    omega

theorem register_eq_ok {bank : Bank} {index : Int} :
    register bank token = .ok index ↔ anyRegister token = .ok (bank, index) := by
  unfold register
  cases anyRegister token with
  | error cause => simp
  | ok found =>
    obtain ⟨other, number⟩ := found
    dsimp only
    split
    next same => simp [same]
    next differ => simp [differ]

theorem register_unique {bank other : Bank} {index number : Int}
    (one : register bank token = .ok index) (two : register other token = .ok number) :
    bank = other ∧ index = number := by
  have same := (register_eq_ok.1 one).symm.trans (register_eq_ok.1 two)
  cases same
  exact ⟨rfl, rfl⟩

/-- A register again behind as many or more from it on adds nothing. -/
theorem Pools.useRegister_twice (pools : Pools) (bank : Bank) (index : Int) {less width : Nat}
    (le : less ≤ width) :
    (pools.useRegister bank index less).useRegister bank index width =
      pools.useRegister bank index width := by
  have most (count : Nat) : max (max count (index.toNat + less)) (index.toNat + width) =
      max count (index.toNat + width) := by omega
  cases bank <;> simp only [Pools.useRegister, BankCounts.raise, most]

def Statement.selecting (statement : Statement) (x y selecting : Token) : Statement :=
  { statement with operands := [x, y, selecting] }

namespace Draft

variable {draft : Draft} {place : Nat} {field : Field} {word after : Word} {pools grown : Pools}
  {asked : Option (Bank × Nat)}

theorem placed_iff {result : Except FieldFault Word} :
    placed result = .ok after ↔ result = .ok after :=
  ⟨placed_eq_ok, fun same => by rw [same]; rfl⟩

/-- Registers of the bank and as many as are asked for; if nothing is asked, one of any bank. -/
def Meets (asked : Option (Bank × Nat)) (bank : Bank) (width : Nat) : Prop :=
  asked = some (bank, width) ∨ asked = none ∧ width = 1

def Counts (asked : Option (Bank × Nat)) (token : String) (field : Field) (word : Word) (pools : Pools)
    (after : Word) (grown : Pools) : Prop :=
  ∃ bank width index, Meets asked bank width ∧ register bank token = .ok index ∧
    word.withUnsigned field index = .ok after ∧ grown = pools.useRegister bank index width

theorem counts_asked {bank : Bank} {width : Nat} :
    Counts (some (bank, width)) token field word pools after grown ↔
      ∃ index, register bank token = .ok index ∧ word.withUnsigned field index = .ok after ∧
        grown = pools.useRegister bank index width := by
  constructor
  · rintro ⟨_, _, index, meets, read, written, rfl⟩
    obtain ⟨rfl, rfl⟩ : bank = _ ∧ width = _ := by simpa [Meets] using meets
    exact ⟨index, read, written, rfl⟩
  · rintro ⟨index, read, written, rfl⟩
    exact ⟨bank, width, index, .inl rfl, read, written, rfl⟩

theorem counts_unasked :
    Counts none token field word pools after grown ↔
      ∃ bank, Counts (some (bank, 1)) token field word pools after grown := by
  constructor
  · rintro ⟨bank, _, index, meets, read, written, rfl⟩
    obtain rfl := (meets.resolve_left nofun).2
    exact ⟨bank, counts_asked.2 ⟨index, read, written, rfl⟩⟩
  · rintro ⟨bank, counts⟩
    obtain ⟨index, read, written, rfl⟩ := counts_asked.1 counts
    exact ⟨bank, 1, index, .inr ⟨rfl, rfl⟩, read, written, rfl⟩

theorem counts_iff {bank : Bank} {width : Nat} :
    (do
      let index ← (register bank token : Except Cause Int)
      let word ← placed (word.withUnsigned field index)
      return (word, pools.useRegister bank index width) : Except (Halt Cause) (Word × Pools)) =
        .ok (after, grown) ↔
      Counts (some (bank, width)) token field word pools after grown := by
  rw [counts_asked]
  constructor
  · intro encoded
    obtain ⟨index, read, encoded⟩ := bind_eq_ok.1 encoded
    obtain ⟨next, written, encoded⟩ := bind_eq_ok.1 encoded
    cases encoded
    exact ⟨index, lift_eq_ok.1 read, placed_eq_ok written, rfl⟩
  · rintro ⟨index, read, written, rfl⟩
    exact bind_eq_ok.2 ⟨index, lift_eq_ok.2 read, bind_eq_ok.2 ⟨after, placed_iff.2 written, rfl⟩⟩

theorem encodeOperand_register {bank : Bank} :
    draft.encodeOperand place field (.register bank) asked token word pools = .ok (after, grown) ↔
      Counts (some (bank, 1)) token field word pools after grown :=
  counts_iff

theorem encodeOperand_anyRegister :
    draft.encodeOperand place field .anyRegister asked token word pools = .ok (after, grown) ↔
      Counts asked token field word pools after grown := by
  cases asked with
  | some given => exact counts_iff
  | none =>
    constructor
    · intro encoded
      obtain ⟨⟨bank, index⟩, read, encoded⟩ := bind_eq_ok.1 encoded
      obtain ⟨next, written, encoded⟩ := bind_eq_ok.1 encoded
      cases encoded
      exact ⟨bank, 1, index, .inr ⟨rfl, rfl⟩, register_eq_ok.2 (lift_eq_ok.1 read),
        placed_eq_ok written, rfl⟩
    · intro counts
      obtain ⟨bank, counts⟩ := counts_unasked.1 counts
      obtain ⟨index, read, written, rfl⟩ := counts_asked.1 counts
      exact bind_eq_ok.2 ⟨(bank, index), lift_eq_ok.2 (register_eq_ok.1 read),
        bind_eq_ok.2 ⟨after, placed_iff.2 written, rfl⟩⟩

/-- A selector is written as the number that it is read as. -/
theorem number_iff {value : Except (Halt Cause) Int} {n : Int} (read : value = .ok n) :
    (do
      let value ← value
      let word ← placed (word.withUnsigned field value)
      return (word, pools)) = .ok (after, grown) ↔
      word.withUnsigned field n = .ok after ∧ grown = pools := by
  constructor
  · intro encoded
    obtain ⟨number, same, encoded⟩ := bind_eq_ok.1 encoded
    cases read.symm.trans same
    obtain ⟨next, written, encoded⟩ := bind_eq_ok.1 encoded
    cases encoded
    exact ⟨placed_eq_ok written, rfl⟩
  · rintro ⟨written, rfl⟩
    exact bind_eq_ok.2 ⟨n, read, bind_eq_ok.2 ⟨after, placed_iff.2 written, rfl⟩⟩

theorem encodeOperands_cons {line : Nat} {kind : OperandKind} {operand : Token}
    {rest : List ((Field × OperandKind) × Token)} {expected : List (Option (Bank × Nat))} :
    draft.encodeOperands place line (((field, kind), operand) :: rest) expected word pools =
        .ok (after, grown) ↔
      ∃ next more,
        draft.encodeOperand place field kind expected.head?.join operand.text word pools =
          .ok (next, more) ∧
        draft.encodeOperands place line rest expected.tail next more = .ok (after, grown) := by
  rw [encodeOperands]
  cases draft.encodeOperand place field kind expected.head?.join operand.text word pools with
  | error cause => simp
  | ok both =>
    obtain ⟨next, more⟩ := both
    simp

section Casts

variable {statement : Statement} {x y z name number : Token} {code : Nat}
  {expected : List (Option (Bank × Nat))}

/-- A statement with three operands is encoded one operand after the other. -/
theorem encode_selecting {one two three : Field × OperandKind}
    (layout : statement.instruction.operands = [one, two, three])
    (asks : castBanks statement.instruction.operation z.text = expected) :
    draft.encode place (statement.selecting x y z) pools = .ok (word, grown) ↔
      ∃ first used second more,
        draft.encodeOperand place one.1 one.2 expected.head?.join x.text statement.instruction.word
          pools = .ok (first, used) ∧
        draft.encodeOperand place two.1 two.2 expected.tail.head?.join y.text first used =
          .ok (second, more) ∧
        draft.encodeOperand place three.1 three.2 expected.tail.tail.head?.join z.text second more =
          .ok (word, grown) := by
  have chain : draft.encode place (statement.selecting x y z) pools =
      draft.encodeOperands place statement.line [(one, x), (two, y), (three, z)] expected
        statement.instruction.word pools := by
    simp only [encode, Statement.selecting, layout, ← asks]
    rfl
  rw [chain]
  constructor
  · intro encoded
    obtain ⟨first, used, one, encoded⟩ := encodeOperands_cons.1 encoded
    obtain ⟨second, more, two, encoded⟩ := encodeOperands_cons.1 encoded
    obtain ⟨last, all, three, encoded⟩ := encodeOperands_cons.1 encoded
    cases encoded
    exact ⟨first, used, second, more, one, two, three⟩
  · rintro ⟨first, used, second, more, one, two, three⟩
    exact encodeOperands_cons.2 ⟨first, used, one, encodeOperands_cons.2 ⟨second, more, two,
      encodeOperands_cons.2 ⟨word, grown, three, rfl⟩⟩⟩

/-- A cast is accepted with the registers that its selector asks for. -/
theorem encode_counting {kind last : OperandKind} {target : Option (Bank × Nat)}
    (layout : statement.instruction.operands = [(.a, kind), (.b, .anyRegister), (.c, last)])
    (asks : castBanks statement.instruction.operation z.text = expected)
    (counts : ∀ {pools word after grown},
      draft.encodeOperand place .a kind expected.head?.join x.text word pools = .ok (after, grown) ↔
        Counts target x.text .a word pools after grown)
    (selects : ∀ {pools word after grown},
      draft.encodeOperand place .c last expected.tail.tail.head?.join z.text word pools =
        .ok (after, grown) ↔ word.withUnsigned .c code = .ok after ∧ grown = pools) :
    draft.encode place (statement.selecting x y z) pools = .ok (word, grown) ↔
      ∃ first used second, Counts target x.text .a statement.instruction.word pools first used ∧
        Counts expected.tail.head?.join y.text .b first used second grown ∧
        second.withUnsigned .c code = .ok word := by
  rw [encode_selecting layout asks]
  constructor
  · rintro ⟨first, used, second, more, one, two, three⟩
    obtain ⟨written, rfl⟩ := selects.1 three
    exact ⟨first, used, second, counts.1 one, encodeOperand_anyRegister.1 two, written⟩
  · rintro ⟨first, used, second, one, two, written⟩
    exact ⟨first, used, second, grown, counts.2 one, encodeOperand_anyRegister.2 two,
      selects.2 ⟨written, rfl⟩⟩

theorem encode_cast (operation : statement.instruction.operation = .cast)
    (asks : castBanks .cast z.text = expected)
    (selects : selector .cast ((Conversion.named? z.text).map (·.2)) z.text = .ok (code : Int)) :
    draft.encode place (statement.selecting x y z) pools = .ok (word, grown) ↔
      ∃ first used second,
        Counts expected.head?.join x.text .a statement.instruction.word pools first used ∧
        Counts expected.tail.head?.join y.text .b first used second grown ∧
        second.withUnsigned .c code = .ok word := by
  have layout : statement.instruction.operands =
      [(.a, .anyRegister), (.b, .anyRegister), (.c, .conversion)] := by
    rw [Instruction.operands, operation]
    rfl
  exact encode_counting layout (operation ▸ asks) encodeOperand_anyRegister (number_iff selects)

theorem encode_castBool (operation : statement.instruction.operation = .castBool)
    (asks : castBanks .castBool z.text = expected)
    (selects : selector .boolCast ((TruthTest.named? z.text).map (·.2)) z.text = .ok (code : Int)) :
    draft.encode place (statement.selecting x y z) pools = .ok (word, grown) ↔
      ∃ first used second,
        Counts (some (.int, 1)) x.text .a statement.instruction.word pools first used ∧
        Counts expected.tail.head?.join y.text .b first used second grown ∧
        second.withUnsigned .c code = .ok word := by
  have layout : statement.instruction.operands =
      [(.a, .register .int), (.b, .anyRegister), (.c, .truthTest)] := by
    rw [Instruction.operands, operation]
    rfl
  exact encode_counting layout (operation ▸ asks) encodeOperand_register (number_iff selects)

theorem encode_named_cast {conversion : Conversion}
    (named : Conversion.named? name.text = some (conversion, code))
    (operation : statement.instruction.operation = .cast) :
    draft.encode place (statement.selecting x y name) pools = .ok (word, grown) ↔
      ∃ first used second,
        Counts (some (conversion.target, 1)) x.text .a statement.instruction.word pools first used ∧
        Counts (some conversion.source) y.text .b first used second grown ∧
        second.withUnsigned .c code = .ok word := by
  have asks : castBanks .cast name.text = [some (conversion.target, 1), some conversion.source] := by
    simp only [castBanks, named]
  exact encode_cast operation asks (by rw [named]; rfl)

theorem encode_named_castBool {truth : TruthTest}
    (named : TruthTest.named? name.text = some (truth, code))
    (operation : statement.instruction.operation = .castBool) :
    draft.encode place (statement.selecting x y name) pools = .ok (word, grown) ↔
      ∃ first used second,
        Counts (some (.int, 1)) x.text .a statement.instruction.word pools first used ∧
        Counts (some (truth.source, 1)) y.text .b first used second grown ∧
        second.withUnsigned .c code = .ok word := by
  have asks : castBanks .castBool name.text = [none, some (truth.source, 1)] := by
    simp only [castBanks, named]
  exact encode_castBool operation asks (by rw [named]; rfl)

variable (spelled : integer? number.text = .ok (some (code : Int)))
include spelled

theorem encode_numbered_cast (operation : statement.instruction.operation = .cast) :
    draft.encode place (statement.selecting x y number) pools = .ok (word, grown) ↔
      ∃ first used second, Counts none x.text .a statement.instruction.word pools first used ∧
        Counts none y.text .b first used second grown ∧ second.withUnsigned .c code = .ok word := by
  have unnamed : Conversion.named? number.text = none := selectNamed?_of_integer (by decide) spelled
  have asks : castBanks .cast number.text = [] := by simp only [castBanks, unnamed]
  have selects : selector .cast ((Conversion.named? number.text).map (·.2)) number.text =
      .ok (code : Int) := by
    simp only [unnamed, selector, Option.map_none, spelled]
    rfl
  exact encode_cast operation asks selects

theorem encode_numbered_castBool (operation : statement.instruction.operation = .castBool) :
    draft.encode place (statement.selecting x y number) pools = .ok (word, grown) ↔
      ∃ first used second,
        Counts (some (.int, 1)) x.text .a statement.instruction.word pools first used ∧
        Counts none y.text .b first used second grown ∧ second.withUnsigned .c code = .ok word := by
  have unnamed : TruthTest.named? number.text = none := selectNamed?_of_integer (by decide) spelled
  have asks : castBanks .castBool number.text = [] := by simp only [castBanks, unnamed]
  have selects : selector .boolCast ((TruthTest.named? number.text).map (·.2)) number.text =
      .ok (code : Int) := by
    simp only [unnamed, selector, Option.map_none, spelled]
    rfl
  exact encode_castBool operation asks selects

/-- The line with the name is the line with the number on registers of the right banks; what it counts
more are the registers that the cast reads behind the first. -/
theorem encode_named_cast_iff {conversion : Conversion}
    (named : Conversion.named? name.text = some (conversion, code))
    (operation : statement.instruction.operation = .cast) :
    draft.encode place (statement.selecting x y name) pools = .ok (word, grown) ↔
      ∃ fewer index,
        draft.encode place (statement.selecting x y number) pools = .ok (word, fewer) ∧
        (∃ target, register conversion.target x.text = .ok target) ∧
        register conversion.source.1 y.text = .ok index ∧
        grown = fewer.useRegister conversion.source.1 index conversion.source.2 := by
  have wide : 1 ≤ conversion.source.2 := by cases conversion <;> decide
  rw [encode_named_cast named operation]
  constructor
  · rintro ⟨first, used, second, one, two, written⟩
    obtain ⟨target, reads, -, -⟩ := counts_asked.1 one
    obtain ⟨index, source, placed, rfl⟩ := counts_asked.1 two
    have single : Counts (some (conversion.source.1, 1)) y.text .b first used second
        (used.useRegister conversion.source.1 index 1) := counts_asked.2 ⟨index, source, placed, rfl⟩
    exact ⟨_, index, (encode_numbered_cast spelled operation).2 ⟨first, used, second,
      counts_unasked.2 ⟨_, one⟩, counts_unasked.2 ⟨_, single⟩, written⟩, ⟨target, reads⟩, source,
      (Pools.useRegister_twice _ _ _ wide).symm⟩
  · rintro ⟨fewer, index, encoded, ⟨target, reads⟩, source, rfl⟩
    obtain ⟨first, used, second, one, two, written⟩ :=
      (encode_numbered_cast spelled operation).1 encoded
    obtain ⟨bank, one⟩ := counts_unasked.1 one
    obtain ⟨_, read, -, -⟩ := counts_asked.1 one
    obtain ⟨rfl, -⟩ := register_unique reads read
    obtain ⟨_, two⟩ := counts_unasked.1 two
    obtain ⟨_, read, placed, rfl⟩ := counts_asked.1 two
    obtain ⟨rfl, rfl⟩ := register_unique source read
    exact ⟨first, used, second, one, counts_asked.2 ⟨index, source, placed,
      Pools.useRegister_twice _ _ _ wide⟩, written⟩

/-- A conversion of one register counts the same in both lines. -/
theorem encode_numbered_of_named {conversion : Conversion}
    (named : Conversion.named? name.text = some (conversion, code))
    (operation : statement.instruction.operation = .cast) (single : conversion.source.2 = 1)
    (encoded : draft.encode place (statement.selecting x y name) pools = .ok (word, grown)) :
    draft.encode place (statement.selecting x y number) pools = .ok (word, grown) := by
  obtain ⟨first, used, second, one, two, written⟩ := (encode_named_cast named operation).1 encoded
  have source : conversion.source = (conversion.source.1, 1) := Prod.ext rfl single
  rw [source] at two
  exact (encode_numbered_cast spelled operation).2 ⟨first, used, second, counts_unasked.2 ⟨_, one⟩,
    counts_unasked.2 ⟨_, two⟩, written⟩

theorem encode_named_castBool_iff {truth : TruthTest}
    (named : TruthTest.named? name.text = some (truth, code))
    (operation : statement.instruction.operation = .castBool) :
    draft.encode place (statement.selecting x y name) pools = .ok (word, grown) ↔
      draft.encode place (statement.selecting x y number) pools = .ok (word, grown) ∧
        ∃ index, register truth.source y.text = .ok index := by
  rw [encode_named_castBool named operation]
  constructor
  · rintro ⟨first, used, second, one, two, written⟩
    obtain ⟨index, source, -, -⟩ := counts_asked.1 two
    exact ⟨(encode_numbered_castBool spelled operation).2 ⟨first, used, second, one,
      counts_unasked.2 ⟨_, two⟩, written⟩, index, source⟩
  · rintro ⟨encoded, index, source⟩
    obtain ⟨first, used, second, one, two, written⟩ :=
      (encode_numbered_castBool spelled operation).1 encoded
    obtain ⟨_, two⟩ := counts_unasked.1 two
    obtain ⟨_, read, -, -⟩ := counts_asked.1 two
    obtain ⟨rfl, -⟩ := register_unique source read
    exact ⟨first, used, second, one, two, written⟩

end Casts

/-- With the name of its selector, a cast is accepted where it is with the number and its registers are
of the banks that it converts. The word is the same, and the registers are counted that it reads
behind the first; only the conversions of pairs and triples have any. -/
theorem named_casts_ask (draft : Draft) (place : Nat) (pools : Pools) (statement : Statement)
    (x y name number : Token) (code : Nat) (spelled : integer? number.text = .ok (some (code : Int))) :
    (∀ conversion, statement.instruction.operation = .cast →
      Conversion.named? name.text = some (conversion, code) →
      (∀ word grown,
        draft.encode place (statement.selecting x y name) pools = .ok (word, grown) ↔
          ∃ fewer index,
            draft.encode place (statement.selecting x y number) pools = .ok (word, fewer) ∧
            (∃ target, register conversion.target x.text = .ok target) ∧
            register conversion.source.1 y.text = .ok index ∧
            grown = fewer.useRegister conversion.source.1 index conversion.source.2) ∧
      (conversion.source.2 = 1 → ∀ word grown,
        draft.encode place (statement.selecting x y name) pools = .ok (word, grown) →
        draft.encode place (statement.selecting x y number) pools = .ok (word, grown))) ∧
    ∀ truth, statement.instruction.operation = .castBool →
      TruthTest.named? name.text = some (truth, code) → ∀ word grown,
        draft.encode place (statement.selecting x y name) pools = .ok (word, grown) ↔
          draft.encode place (statement.selecting x y number) pools = .ok (word, grown) ∧
            ∃ index, register truth.source y.text = .ok index :=
  ⟨fun _ operation named => ⟨fun _ _ => encode_named_cast_iff spelled named operation,
      fun single _ _ => encode_numbered_of_named spelled named operation single⟩,
    fun _ operation named _ _ => encode_named_castBool_iff spelled named operation⟩

def casting : Statement := ⟨2, 2, ⟨0x50, "CAST", .cast⟩, 1, []⟩

/-- The conversion of pairs has the number 7. By its name it takes two float registers, and it gives no
float. -/
theorem named_casts_ask_pair :
    let draft := Draft.start "Main" "" 1
    draft.encode 0 (casting.selecting ⟨"s0", 6⟩ ⟨"f0", 10⟩ ⟨"v22s", 14⟩) .empty =
      .ok (⟨0x07000050⟩, ⟨#[], #[], #[], #[], ⟨0, 2, 1, 0⟩⟩) ∧
    ¬∃ word grown, draft.encode 0 (casting.selecting ⟨"f1", 6⟩ ⟨"f0", 10⟩ ⟨"v22s", 14⟩) .empty =
      .ok (word, grown) := by
  intro draft
  have spelled : integer? "0x7" = .ok (some ((7 : Nat) : Int)) := rfl
  have named : Conversion.named? "v22s" = some (.pairToString, 7) := by decide +kernel
  have alike (x : Token) (word : Word) (grown : Pools) :=
    ((named_casts_ask draft 0 .empty casting x ⟨"f0", 10⟩ ⟨"v22s", 14⟩ ⟨"0x7", 14⟩ 7 spelled).1
      .pairToString rfl named).1 word grown
  constructor
  · exact (alike ⟨"s0", 6⟩ _ _).2 ⟨⟨#[], #[], #[], #[], ⟨0, 1, 1, 0⟩⟩, 0, rfl, ⟨0, rfl⟩, rfl, rfl⟩
  · rintro ⟨word, grown, encoded⟩
    obtain ⟨fewer, index, -, ⟨target, other⟩, -⟩ := (alike ⟨"f1", 6⟩ word grown).1 encoded
    cases (register_eq_ok.1 other).symm.trans (show anyRegister "f1" = .ok (.float, 1) from rfl)

/-- The number counts one float register where the name counts the two that the cast reads, and goes
with registers that the name refuses. -/
theorem numbered_cast_counts_less :
    let draft := Draft.start "Main" "" 1
    draft.encode 0 (casting.selecting ⟨"s0", 6⟩ ⟨"f0", 10⟩ ⟨"7", 14⟩) .empty =
      .ok (⟨0x07000050⟩, ⟨#[], #[], #[], #[], ⟨0, 1, 1, 0⟩⟩) ∧
    draft.encode 0 (casting.selecting ⟨"s0", 6⟩ ⟨"f0", 10⟩ ⟨"V22S", 14⟩) .empty =
      .ok (⟨0x07000050⟩, ⟨#[], #[], #[], #[], ⟨0, 2, 1, 0⟩⟩) ∧
    draft.encode 0 (casting.selecting ⟨"d0", 6⟩ ⟨"d1", 10⟩ ⟨"0", 14⟩) .empty =
      .ok (⟨0x00010050⟩, ⟨#[], #[], #[], #[], ⟨2, 0, 0, 0⟩⟩) ∧
    draft.encode 0 (casting.selecting ⟨"d0", 6⟩ ⟨"d1", 10⟩ ⟨"I2F", 14⟩) .empty =
      .error (.failed ⟨2, 6, .expectedRegister (some .float) "d0"⟩) :=
  ⟨rfl, rfl, rfl, rfl⟩

end Draft
end GameScript.Assembly
