import GameScript.Assembly.Draft
import GameScript.Library.Routine
import GameScript.Proofs.TokenSpelling
import GameScript.Proofs.WordFields

/-! What an encoded operand means: a register that the frame has, a constant that the pools hold, or
what its token spells. Pools only grow, so an operand keeps its meaning while later operands are
encoded. -/

namespace GameScript

/-- What the operands of a routine may refer to. -/
structure Resources where
  ints : Array Int32
  floats : Array Double
  strings : Array String
  pointers : Array Symbol
  /-- How many registers of a bank there are. -/
  registers : Bank → Nat

def Routine.resources (routine : Routine) : Resources :=
  ⟨routine.ints, routine.floats, routine.strings, routine.pointers, routine.layout.registers⟩

def Extends (later earlier : Array α) : Prop :=
  ∀ (place : Nat) value, earlier[place]? = some value → later[place]? = some value

structure Resources.Grow (earlier later : Resources) : Prop where
  ints : Extends later.ints earlier.ints
  floats : Extends later.floats earlier.floats
  strings : Extends later.strings earlier.strings
  pointers : Extends later.pointers earlier.pointers
  registers : ∀ bank, earlier.registers bank ≤ later.registers bank

theorem Extends.refl (row : Array α) : Extends row row := fun _ _ held => held

theorem Extends.trans {first second third : Array α} (later : Extends third second)
    (earlier : Extends second first) : Extends third first :=
  fun place value held => later place value (earlier place value held)

theorem extends_append (row more : Array α) : Extends (row ++ more) row := by
  intro place value held
  have inside := (Array.getElem?_eq_some_iff.1 held).1
  rw [Array.getElem?_append_left inside, held]

theorem Resources.Grow.refl (resources : Resources) : resources.Grow resources :=
  ⟨.refl _, .refl _, .refl _, .refl _, fun _ => Nat.le_refl _⟩

theorem Resources.Grow.trans {first second third : Resources} (earlier : first.Grow second)
    (later : second.Grow third) : first.Grow third where
  ints := later.ints.trans earlier.ints
  floats := later.floats.trans earlier.floats
  strings := later.strings.trans earlier.strings
  pointers := later.pointers.trans earlier.pointers
  registers bank := Nat.le_trans (earlier.registers bank) (later.registers bank)

namespace Assembly

open Text

inductive HoldsConstant (resources : Resources) (token : String) : Bank → Nat → Prop where
  | int {place value} (held : resources.ints[place]? = some value)
    (spelled : SpellsInt token.toList value.toInt) : HoldsConstant resources token .int place
  | float {place values}
    (held : ∀ (i : Nat) value, values[i]? = some value → resources.floats[place + i]? = some value)
    (spelled : SpellsFloats token values) : HoldsConstant resources token .float place
  | string {place text} (held : resources.strings[place]? = some text)
    (spelled : SpellsString token text) : HoldsConstant resources token .string place
  | pointer {place symbol} (held : resources.pointers[place]? = some symbol)
    (spelled : SpellsSymbol token symbol) : HoldsConstant resources token .pointer place

def literalBank (token : String) : Bank :=
  if token.toList.head? = some '"' then .string
  else if (symbol? token).isSome then .pointer
  else
    match integer? token with
    | .ok (some _) => .int
    | _ => .float

inductive DenotesTagged (resources : Resources) (token : String) (operand : TaggedOperand) : Prop where
  | nil (named : sameFold token "nil" = true) (tag : operand.tag = .nil)
  | reference {name bank} (marked : token.toList = '&' :: name)
    (spelled : SpellsRegister name bank operand.index.toNat)
    (reads : TagReads operand.tag bank false true 1)
    (there : operand.index.toNat < resources.registers bank)
  | vector {name} {dimension : Dimension} {mark}
    (dimensions : mark = '2' ∧ dimension = .two ∨ mark = '3' ∧ dimension = .three)
    (marked : token.toList = 'v' :: mark :: ':' :: name)
    (spelled : SpellsRegister name .float operand.index.toNat)
    (reads : TagReads operand.tag .float false false dimension.size)
    (there : operand.index.toNat + dimension.size ≤ resources.registers .float)
  | register {bank} (spelled : SpellsRegister token.toList bank operand.index.toNat)
    (reads : TagReads operand.tag bank false false 1)
    (there : operand.index.toNat < resources.registers bank)
  | constant (reads : TagReads operand.tag (literalBank token) true false 1)
    (held : HoldsConstant resources token (literalBank token) operand.index.toNat)

/-- What an operand of the instruction at `place` says is what its token says. `labelled` gives the
instructions that labels are for, `expected` what a cast asks of the operand. -/
inductive Denotes (resources : Resources) (labelled : String → Nat → Prop) (place : Nat)
    (expected : Option (Bank × Nat)) (token : String) : OperandKind → Operand → Prop where
  | register {bank} {index : Nat} (spelled : SpellsRegister token.toList bank index)
    (there : index < resources.registers bank) :
    Denotes resources labelled place expected token (.register bank) (.number index)
  | vector {dimension} {index : Nat} (spelled : SpellsRegister token.toList .float index)
    (there : index + dimension.size ≤ resources.registers .float) :
    Denotes resources labelled place expected token (.vector dimension) (.number index)
  | anyRegister {bank} {index : Nat} (free : expected = none)
    (spelled : SpellsRegister token.toList bank index) (there : index < resources.registers bank) :
    Denotes resources labelled place expected token .anyRegister (.number index)
  | expectedRegister {bank width} {index : Nat} (asked : expected = some (bank, width))
    (spelled : SpellsRegister token.toList bank index)
    (there : index + width ≤ resources.registers bank) :
    Denotes resources labelled place expected token .anyRegister (.number index)
  | constant {bank} {index : Nat} (held : HoldsConstant resources token bank index) :
    Denotes resources labelled place expected token (.constant bank) (.number index)
  | unsigned {value} (spelled : SpellsInt token.toList value) :
    Denotes resources labelled place expected token .unsigned (.number value)
  | signed {value} (spelled : SpellsInt token.toList value) :
    Denotes resources labelled place expected token .signed (.number value)
  | displacement {value} (spelled : SpellsInt token.toList value) :
    Denotes resources labelled place expected token .displacement (.number value)
  | label {target : Nat} (wordy : integer? token = .ok none) (defined : labelled token target) :
    Denotes resources labelled place expected token .displacement (.number (target - (place + 1)))
  | tagged {operand} (denoted : DenotesTagged resources token operand) :
    Denotes resources labelled place expected token .tagged (.tagged operand)
  | returnSlot {field} (denoted : DenotesReturn token field) :
    Denotes resources labelled place expected token .returnSlot (.returnSlot field)
  | compareFlags {field} (denoted : DenotesFlags token field) :
    Denotes resources labelled place expected token .compareFlags (.compareFlags field)
  | conversion {code} (spelled : SpellsSelector Conversion.name Conversion.ofCode token code) :
    Denotes resources labelled place expected token .conversion (.selector code)
  | truthTest {code} (spelled : SpellsSelector TruthTest.name TruthTest.ofCode token code) :
    Denotes resources labelled place expected token .truthTest (.selector code)
  | floatFunction {code}
    (spelled : SpellsSelector FloatFunction.name FloatFunction.ofCode token code) :
    Denotes resources labelled place expected token .floatFunction (.selector code)
  | abortKind {code} (spelled : SpellsSelector AbortKind.name AbortKind.ofCode token code) :
    Denotes resources labelled place expected token .abortKind (.selector code)

section Growth

variable {resources later : Resources} {token : String} (growth : resources.Grow later)
include growth

theorem HoldsConstant.mono {bank : Bank} {place : Nat} (holds : HoldsConstant resources token bank place) :
    HoldsConstant later token bank place := by
  cases holds with
  | int held spelled => exact .int (growth.ints _ _ held) spelled
  | float held spelled =>
    exact .float (fun i value listed => growth.floats _ _ (held i value listed)) spelled
  | string held spelled => exact .string (growth.strings _ _ held) spelled
  | pointer held spelled => exact .pointer (growth.pointers _ _ held) spelled

theorem DenotesTagged.mono {operand : TaggedOperand}
    (denoted : DenotesTagged resources token operand) : DenotesTagged later token operand := by
  cases denoted with
  | nil named tag => exact .nil named tag
  | reference marked spelled reads there =>
    exact .reference marked spelled reads (Nat.lt_of_lt_of_le there (growth.registers _))
  | vector dimensions marked spelled reads there =>
    exact .vector dimensions marked spelled reads (Nat.le_trans there (growth.registers _))
  | register spelled reads there =>
    exact .register spelled reads (Nat.lt_of_lt_of_le there (growth.registers _))
  | constant reads held => exact .constant reads (held.mono growth)

theorem Denotes.mono {labelled known : String → Nat → Prop} {place : Nat}
    {expected : Option (Bank × Nat)} {kind : OperandKind} {operand : Operand}
    (labels : ∀ name target, labelled name target → known name target)
    (denoted : Denotes resources labelled place expected token kind operand) :
    Denotes later known place expected token kind operand := by
  cases denoted with
  | register spelled there => exact .register spelled (Nat.lt_of_lt_of_le there (growth.registers _))
  | vector spelled there => exact .vector spelled (Nat.le_trans there (growth.registers _))
  | anyRegister free spelled there =>
    exact .anyRegister free spelled (Nat.lt_of_lt_of_le there (growth.registers _))
  | expectedRegister asked spelled there =>
    exact .expectedRegister asked spelled (Nat.le_trans there (growth.registers _))
  | constant held => exact .constant (held.mono growth)
  | unsigned spelled => exact .unsigned spelled
  | signed spelled => exact .signed spelled
  | displacement spelled => exact .displacement spelled
  | label wordy defined => exact .label wordy (labels _ _ defined)
  | tagged denoted => exact .tagged (denoted.mono growth)
  | returnSlot denoted => exact .returnSlot denoted
  | compareFlags denoted => exact .compareFlags denoted
  | conversion spelled => exact .conversion spelled
  | truthTest spelled => exact .truthTest spelled
  | floatFunction spelled => exact .floatFunction spelled
  | abortKind spelled => exact .abortKind spelled

end Growth

section Interning

variable [DecidableEq α]

theorem internIn_holds (pool : Array α) (value : α) :
    (internIn pool value).2[(internIn pool value).1]? = some value ∧
      Extends (internIn pool value).2 pool := by
  unfold internIn
  split
  next place found =>
    obtain ⟨inside, same, -⟩ := Array.findIdx?_eq_some_iff_getElem.1 found
    have equal : pool[place] = value := of_decide_eq_true same
    exact ⟨Array.getElem?_eq_some_iff.2 ⟨inside, equal⟩, .refl pool⟩
  next => exact ⟨by simp, extends_append pool #[value]⟩

theorem runFrom?_eq_some {values row : List α} {start found : Nat}
    (run : runFrom? values start row = some found) :
    ∃ offset, found = start + offset ∧ values <+: row.drop offset := by
  induction row generalizing start with
  | nil => cases run
  | cons head tail ih =>
    unfold runFrom? at run
    split at run
    next leading =>
      cases run
      exact ⟨0, rfl, List.isPrefixOf_iff_prefix.1 leading⟩
    next =>
      obtain ⟨offset, rfl, inside⟩ := ih run
      exact ⟨offset + 1, by omega, inside⟩

theorem internRun_holds (pool : Array α) (values : List α) :
    (∀ (i : Nat) value, values[i]? = some value →
      (internRun pool values).2[(internRun pool values).1 + i]? = some value) ∧
      Extends (internRun pool values).2 pool := by
  unfold internRun
  split
  next place found =>
    obtain ⟨offset, rfl, rest, joined⟩ := runFrom?_eq_some found
    refine ⟨fun i value listed => ?_, .refl pool⟩
    have inside := (List.getElem?_eq_some_iff.1 listed).1
    have behind : (pool.toList.drop offset)[i]? = some value := by
      rw [← joined, List.getElem?_append_left inside, listed]
    simpa using behind
  next =>
    have same : pool ++ values = pool ++ values.toArray := by
      apply Array.ext'
      simp
    rw [same]
    refine ⟨fun i value listed => ?_, extends_append pool values.toArray⟩
    rw [Array.getElem?_append_right (Nat.le_add_right _ _)]
    simpa using listed

end Interning

namespace BankCounts

theorem get_raise (counts : BankCounts) (bank : Bank) (count : Nat) :
    count ≤ (counts.raise bank count).get bank := by
  cases bank <;> exact Nat.le_max_right _ _

theorem get_le_raise (counts : BankCounts) (bank other : Bank) (count : Nat) :
    counts.get other ≤ (counts.raise bank count).get other := by
  cases bank <;> cases other <;> first | exact Nat.le_refl _ | exact Nat.le_max_left _ _

end BankCounts

namespace Pools

def resources (pools : Pools) : Resources :=
  ⟨pools.ints, pools.floats, pools.strings, pools.pointers, pools.used.get⟩

variable {pools grown : Pools} {token : String}

theorem grow_useRegister (pools : Pools) (bank : Bank) (index : Int) (width : Nat) :
    pools.resources.Grow (pools.useRegister bank index width).resources :=
  ⟨.refl _, .refl _, .refl _, .refl _, fun other => pools.used.get_le_raise bank other _⟩

theorem le_useRegister (pools : Pools) (bank : Bank) (index width : Nat) :
    index + width ≤ (pools.useRegister bank index width).resources.registers bank :=
  pools.used.get_raise bank (index + width)

theorem int32_eq_ok {number : Int} {value : Int32} (read : int32 number = .ok value) :
    value.toInt = number := by
  unfold int32 at read
  split at read
  next inside =>
    cases read
    exact Int32.toInt_ofInt_of_le inside.1 (Int.lt_add_one_of_le inside.2)
  next => cases read

theorem internInt_holds (pools : Pools) {value : Int32} (spelled : SpellsInt token.toList value.toInt) :
    pools.resources.Grow (pools.internInt value).2.resources ∧
      HoldsConstant (pools.internInt value).2.resources token .int (pools.internInt value).1 := by
  obtain ⟨held, extended⟩ := internIn_holds pools.ints value
  exact ⟨⟨extended, .refl _, .refl _, .refl _, fun _ => Nat.le_refl _⟩, .int held spelled⟩

theorem internFloats_holds (pools : Pools) {values : List Double} (spelled : SpellsFloats token values) :
    pools.resources.Grow (pools.internFloats values).2.resources ∧
      HoldsConstant (pools.internFloats values).2.resources token .float
        (pools.internFloats values).1 := by
  obtain ⟨held, extended⟩ := internRun_holds pools.floats values
  exact ⟨⟨.refl _, extended, .refl _, .refl _, fun _ => Nat.le_refl _⟩, .float held spelled⟩

theorem internString_holds (pools : Pools) {text : String} (spelled : SpellsString token text) :
    pools.resources.Grow (pools.internString text).2.resources ∧
      HoldsConstant (pools.internString text).2.resources token .string
        (pools.internString text).1 := by
  obtain ⟨held, extended⟩ := internIn_holds pools.strings text
  exact ⟨⟨.refl _, .refl _, extended, .refl _, fun _ => Nat.le_refl _⟩, .string held spelled⟩

theorem internSymbol_holds (pools : Pools) {symbol : Symbol} (spelled : SpellsSymbol token symbol) :
    pools.resources.Grow (pools.internSymbol symbol).2.resources ∧
      HoldsConstant (pools.internSymbol symbol).2.resources token .pointer
        (pools.internSymbol symbol).1 := by
  obtain ⟨held, extended⟩ := internIn_holds pools.pointers symbol
  exact ⟨⟨.refl _, .refl _, .refl _, extended, fun _ => Nat.le_refl _⟩, .pointer held spelled⟩

theorem int32_spells {number : Int} {value : Int32} (read : integer? token = .ok (some number))
    (fits : int32 number = .ok value) : SpellsInt token.toList value.toInt := by
  rw [int32_eq_ok fits]
  exact integer?_spells read

theorem string_eq_ok {text : String} (read : string token = .ok text) : string? token = some text := by
  unfold string at read
  split at read
  next other found =>
    cases read
    exact found
  next => cases read

theorem symbol_eq_ok {value : Symbol} (read : symbol token = .ok value) :
    symbol? token = some value := by
  unfold symbol at read
  split at read
  next other found =>
    cases read
    exact found
  next => cases read

theorem internConstant_holds {bank : Bank} {place : Nat}
    (interned : pools.internConstant bank token = .ok (place, grown)) :
    pools.resources.Grow grown.resources ∧ HoldsConstant grown.resources token bank place := by
  unfold internConstant at interned
  cases bank with
  | int =>
    obtain ⟨number, read, interned⟩ := bind_eq_ok.1 interned
    obtain ⟨value, fits, interned⟩ := bind_eq_ok.1 interned
    cases interned
    exact pools.internInt_holds (int32_spells (integer_eq_ok_iff.1 read) (lift_eq_ok.1 fits))
  | float =>
    obtain ⟨values, read, interned⟩ := bind_eq_ok.1 interned
    cases interned
    exact pools.internFloats_holds (floatTuple_spells read)
  | string =>
    obtain ⟨text, read, interned⟩ := bind_eq_ok.1 interned
    cases interned
    exact pools.internString_holds (string?_spells (string_eq_ok (lift_eq_ok.1 read)))
  | pointer =>
    obtain ⟨value, read, interned⟩ := bind_eq_ok.1 interned
    cases interned
    exact pools.internSymbol_holds (symbol?_spells (symbol_eq_ok (lift_eq_ok.1 read)))

theorem internLiteral_holds {bank : Bank} {place : Nat}
    (interned : pools.internLiteral token = .ok (bank, place, grown)) :
    bank = literalBank token ∧ pools.resources.Grow grown.resources ∧
      HoldsConstant grown.resources token bank place := by
  unfold internLiteral at interned
  unfold literalBank
  split at interned
  next quoted =>
    obtain ⟨text, read, interned⟩ := bind_eq_ok.1 interned
    cases interned
    exact ⟨(if_pos quoted).symm,
      pools.internString_holds (string?_spells (string_eq_ok (lift_eq_ok.1 read)))⟩
  next plain =>
    rw [if_neg plain]
    cases symbolic : symbol? token with
    | some value =>
      rw [symbolic] at interned
      cases interned
      exact ⟨rfl, pools.internSymbol_holds (symbol?_spells symbolic)⟩
    | none =>
      rw [symbolic] at interned
      obtain ⟨found, numeric, interned⟩ := bind_eq_ok.1 interned
      rw [numeric]
      cases found with
      | some number =>
        obtain ⟨value, fits, interned⟩ := bind_eq_ok.1 interned
        cases interned
        exact ⟨rfl, pools.internInt_holds (int32_spells numeric (lift_eq_ok.1 fits))⟩
      | none =>
        obtain ⟨value, read, interned⟩ := bind_eq_ok.1 interned
        cases interned
        exact ⟨rfl, pools.internFloats_holds (.single (float_eq_ok read))⟩

theorem tagReads_ofBank (bank : Bank) :
    TagReads (.ofBank bank 0) bank false false 1 ∧
      TagReads (.ofBank bank OperandTag.referenceFlag) bank false true 1 ∧
      TagReads (.ofBank bank OperandTag.constantFlag) bank true false 1 := by
  cases bank <;>
    exact ⟨⟨rfl, rfl, rfl, rfl, rfl, rfl⟩, ⟨rfl, rfl, rfl, rfl, rfl, rfl⟩, ⟨rfl, rfl, rfl, rfl, rfl, rfl⟩⟩

theorem tagged_denotes {tag : OperandTag} {index : Int} {operand : TaggedOperand}
    (read : pools.tagged token = .ok (tag, index, grown)) (tags : operand.tag = tag)
    (indices : (operand.index.toNat : Int) = index) :
    pools.resources.Grow grown.resources ∧ DenotesTagged grown.resources token operand := by
  unfold tagged at read
  split at read
  next named =>
    cases read
    exact ⟨.refl _, .nil named tags⟩
  next =>
    split at read
    next name marked =>
      obtain ⟨⟨bank, number⟩, register, read⟩ := bind_eq_ok.1 read
      cases read
      obtain ⟨number, rfl, spelled⟩ := anyRegister_spells (lift_eq_ok.1 register)
      cases Int.ofNat.inj indices
      rw [String.toList_ofList] at spelled
      exact ⟨pools.grow_useRegister bank _ 1, .reference marked spelled
        (tags ▸ (tagReads_ofBank bank).2.1) (pools.le_useRegister bank _ 1)⟩
    next name marked =>
      obtain ⟨number, register, read⟩ := bind_eq_ok.1 read
      cases read
      obtain ⟨number, rfl, spelled⟩ := register_spells (lift_eq_ok.1 register)
      cases Int.ofNat.inj indices
      rw [String.toList_ofList] at spelled
      exact ⟨pools.grow_useRegister .float _ 2, .vector (.inl ⟨rfl, rfl⟩) marked spelled
        (tags ▸ ⟨rfl, rfl, rfl, rfl, rfl, rfl⟩) (pools.le_useRegister .float _ 2)⟩
    next name marked =>
      obtain ⟨number, register, read⟩ := bind_eq_ok.1 read
      cases read
      obtain ⟨number, rfl, spelled⟩ := register_spells (lift_eq_ok.1 register)
      cases Int.ofNat.inj indices
      rw [String.toList_ofList] at spelled
      exact ⟨pools.grow_useRegister .float _ 3, .vector (.inr ⟨rfl, rfl⟩) marked spelled
        (tags ▸ ⟨rfl, rfl, rfl, rfl, rfl, rfl⟩) (pools.le_useRegister .float _ 3)⟩
    next =>
      split at read
      next bank number register =>
        cases read
        obtain ⟨number, rfl, spelled⟩ := anyRegister_spells register
        cases Int.ofNat.inj indices
        exact ⟨pools.grow_useRegister bank _ 1, .register spelled
          (tags ▸ (tagReads_ofBank bank).1) (pools.le_useRegister bank _ 1)⟩
      next =>
        obtain ⟨⟨bank, place, pools⟩, interned, read⟩ := bind_eq_ok.1 read
        cases read
        obtain ⟨rfl, growth, held⟩ := internLiteral_holds interned
        cases Int.ofNat.inj indices
        exact ⟨growth, .constant (tags ▸ (tagReads_ofBank _).2.2) held⟩

end Pools

namespace Draft

def Labelled (draft : Draft) (name : String) (target : Nat) : Prop := draft.label? name = some target

variable {draft : Draft} {place : Nat} {field : Field} {kind : OperandKind}
  {expected : Option (Bank × Nat)} {token : String} {word after : Word} {pools grown : Pools}

theorem placed_eq_ok {result : Except FieldFault Word} (written : placed result = .ok after) :
    result = .ok after := by
  cases result with
  | ok word =>
    cases written
    rfl
  | error fault => cases written

/-- A number in a field of at most 8 bits is the selector that is read there. -/
theorem selector_written {w : Word} (small : (field.split?.isNone && field.bits ≤ 8) = true) :
    ((UInt8.ofNat (w.numberAt field)).toNat : Int) = w.numberAt field := by
  have narrow : field.bits ≤ 8 := of_decide_eq_true (Bool.and_eq_true_iff.1 small).2
  have few : 2 ^ field.bits ≤ 2 ^ 8 := Nat.pow_le_pow_right (by decide) narrow
  rw [UInt8.toNat_ofNat_of_lt' (Nat.lt_of_lt_of_le (w.numberAt_lt field) few)]

section Written

variable (clear : word.Clear field)
include clear

/-- A number that is placed stands in its field as it is. -/
theorem unsigned_written {value : Int} {kept : Pools}
    (used : (placed (word.withUnsigned field value) >>= fun word => pure (word, kept)) =
      .ok (after, grown)) :
    word.Wrote after field ∧ kept = grown ∧ (after.numberAt field : Int) = value := by
  obtain ⟨next, written, used⟩ := bind_eq_ok.1 used
  cases used
  obtain ⟨wrote, same⟩ := Word.withUnsigned_eq_ok clear (placed_eq_ok written)
  exact ⟨wrote, rfl, same⟩

theorem signed_written {value : Int} {kept : Pools}
    (used : (placed (word.withSigned field value) >>= fun word => pure (word, kept)) =
      .ok (after, grown)) :
    word.Wrote after field ∧ kept = grown ∧ after.signedAt field = value := by
  obtain ⟨next, written, used⟩ := bind_eq_ok.1 used
  cases used
  obtain ⟨wrote, same⟩ := Word.withSigned_eq_ok clear (placed_eq_ok written)
  exact ⟨wrote, rfl, same⟩

theorem number_written {value : Except (Halt Cause) Int}
    (used : (do
      let value ← value
      let word ← placed (word.withUnsigned field value)
      return (word, pools)) = .ok (after, grown)) :
    word.Wrote after field ∧ pools.resources.Grow grown.resources ∧
      value = .ok (after.numberAt field : Int) := by
  obtain ⟨number, read, used⟩ := bind_eq_ok.1 used
  obtain ⟨wrote, rfl, rfl⟩ := unsigned_written clear used
  exact ⟨wrote, .refl _, read⟩

theorem register_written {bank : Bank} {width : Nat}
    (used : (do
      let index ← (register bank token : Except Cause Int)
      let word ← placed (word.withUnsigned field index)
      return (word, pools.useRegister bank index width) : Except (Halt Cause) (Word × Pools)) =
        .ok (after, grown)) :
    word.Wrote after field ∧ pools.resources.Grow grown.resources ∧
      SpellsRegister token.toList bank (after.numberAt field) ∧
      after.numberAt field + width ≤ grown.resources.registers bank := by
  obtain ⟨index, read, used⟩ := bind_eq_ok.1 used
  obtain ⟨number, rfl, spelled⟩ := register_spells (lift_eq_ok.1 read)
  obtain ⟨wrote, rfl, same⟩ := unsigned_written clear used
  cases Int.ofNat.inj same
  exact ⟨wrote, pools.grow_useRegister _ _ _, spelled, pools.le_useRegister _ _ _⟩

end Written

theorem distance_denotes {resources : Resources} {value : Int} (wordy : integer? token = .ok none)
    (measured : draft.distance place token = .ok value) :
    Denotes resources draft.Labelled place expected token .displacement (.number value) := by
  unfold distance at measured
  split at measured
  next target defined =>
    cases measured
    exact .label wordy defined
  next => cases measured

theorem displacement_denotes {resources : Resources} {value : Int}
    (read : draft.displacement place token = .ok value) :
    Denotes resources draft.Labelled place expected token .displacement (.number value) := by
  obtain ⟨found, numeric, read⟩ := bind_eq_ok.1 read
  cases found with
  | some number =>
    cases read
    exact .displacement (integer?_spells numeric)
  | none => exact distance_denotes numeric read

/-- Every kind of operand goes into a clear field and means there what its token says. -/
theorem encodeOperand_denotes (clear : word.Clear field) (suits : kind.suits field = true)
    (encoded : draft.encodeOperand place field kind expected token word pools =
      .ok (after, grown)) :
    word.Wrote after field ∧ pools.resources.Grow grown.resources ∧
      Denotes grown.resources draft.Labelled place expected token kind (after.operand field kind) := by
  cases kind with
  | register bank =>
    obtain ⟨wrote, growth, spelled, there⟩ := register_written clear encoded
    exact ⟨wrote, growth, .register spelled there⟩
  | vector dimension =>
    obtain ⟨wrote, growth, spelled, there⟩ := register_written clear encoded
    exact ⟨wrote, growth, .vector spelled there⟩
  | anyRegister =>
    cases expected with
    | some asked =>
      obtain ⟨bank, width⟩ := asked
      obtain ⟨wrote, growth, spelled, there⟩ := register_written clear encoded
      exact ⟨wrote, growth, .expectedRegister rfl spelled there⟩
    | none =>
      obtain ⟨⟨bank, index⟩, read, encoded⟩ := bind_eq_ok.1 encoded
      obtain ⟨index, rfl, spelled⟩ := anyRegister_spells (lift_eq_ok.1 read)
      obtain ⟨wrote, rfl, same⟩ := unsigned_written clear encoded
      cases Int.ofNat.inj same
      exact ⟨wrote, pools.grow_useRegister _ _ _,
        .anyRegister rfl spelled (pools.le_useRegister bank _ 1)⟩
  | constant bank =>
    obtain ⟨⟨index, next⟩, interned, encoded⟩ := bind_eq_ok.1 encoded
    obtain ⟨growth, held⟩ := Pools.internConstant_holds interned
    obtain ⟨wrote, rfl, same⟩ := unsigned_written clear encoded
    cases Int.ofNat.inj same
    exact ⟨wrote, growth, .constant held⟩
  | unsigned =>
    obtain ⟨wrote, growth, read⟩ := number_written clear encoded
    exact ⟨wrote, growth, .unsigned (integer_spells read)⟩
  | signed =>
    obtain ⟨value, read, encoded⟩ := bind_eq_ok.1 encoded
    obtain ⟨wrote, rfl, rfl⟩ := signed_written clear encoded
    exact ⟨wrote, .refl _, .signed (integer_spells read)⟩
  | displacement =>
    obtain ⟨value, read, encoded⟩ := bind_eq_ok.1 encoded
    obtain ⟨wrote, rfl, rfl⟩ := signed_written clear encoded
    exact ⟨wrote, .refl _, displacement_denotes read⟩
  | tagged =>
    obtain ⟨⟨tag, index, next⟩, read, encoded⟩ := bind_eq_ok.1 encoded
    obtain ⟨word, written, encoded⟩ := bind_eq_ok.1 encoded
    cases encoded
    obtain ⟨wrote, tags, indices⟩ := Word.withTagged_eq_ok clear (placed_eq_ok written)
    obtain ⟨growth, denoted⟩ := Pools.tagged_denotes read tags indices
    exact ⟨wrote, growth, .tagged denoted⟩
  | returnSlot =>
    obtain ⟨wrote, growth, read⟩ := number_written clear encoded
    exact ⟨wrote, growth, .returnSlot (returnSlot_denotes read (selector_written suits))⟩
  | compareFlags =>
    obtain ⟨wrote, growth, read⟩ := number_written clear encoded
    exact ⟨wrote, growth, .compareFlags (compareFlags_denotes read (selector_written suits))⟩
  | conversion =>
    obtain ⟨wrote, growth, read⟩ := number_written clear encoded
    exact ⟨wrote, growth, .conversion (selector_spells .cast read (selector_written suits))⟩
  | truthTest =>
    obtain ⟨wrote, growth, read⟩ := number_written clear encoded
    exact ⟨wrote, growth, .truthTest (selector_spells .boolCast read (selector_written suits))⟩
  | floatFunction =>
    obtain ⟨wrote, growth, read⟩ := number_written clear encoded
    exact ⟨wrote, growth,
      .floatFunction (selector_spells .floatFunction read (selector_written suits))⟩
  | abortKind =>
    obtain ⟨wrote, growth, read⟩ := number_written clear encoded
    rw [abortKind_named?] at read
    have spelled := selector_spells .abort read (selector_written suits)
    rw [← abortKind_ofCode] at spelled
    exact ⟨wrote, growth, .abortKind spelled⟩

def parts (items : List ((Field × OperandKind) × Token)) : List Field :=
  items.flatMap fun item => item.1.1.parts

theorem encodeOperands_denotes {line : Nat} {items : List ((Field × OperandKind) × Token)}
    {expected : List (Option (Bank × Nat))} (clear : ∀ item ∈ items, word.Clear item.1.1)
    (suits : ∀ item ∈ items, item.1.2.suits item.1.1 = true)
    (apart : (parts items).Pairwise Field.Apart)
    (encoded : draft.encodeOperands place line items expected word pools = .ok (after, grown)) :
    after.opcode = word.opcode ∧
      (∀ other, (∀ part ∈ parts items, part.Apart other) → after.numberAt other = word.numberAt other) ∧
      pools.resources.Grow grown.resources ∧
      ∀ (j : Nat) field kind token, items[j]? = some ((field, kind), token) →
        Denotes grown.resources draft.Labelled place expected[j]?.join token.text kind
          (after.operand field kind) := by
  induction items generalizing expected word pools with
  | nil =>
    cases encoded
    exact ⟨rfl, fun _ _ => rfl, .refl _, fun j field kind token listed => by cases listed⟩
  | cons item rest ih =>
    obtain ⟨⟨field, kind⟩, token⟩ := item
    unfold encodeOperands at encoded
    split at encoded
    next next more first =>
      obtain ⟨wrote, growth, denoted⟩ :=
        encodeOperand_denotes (clear _ List.mem_cons_self) (suits _ List.mem_cons_self) first
      have split : parts (((field, kind), token) :: rest) = field.parts ++ parts rest := rfl
      rw [split] at apart ⊢
      obtain ⟨-, apartRest, apartBoth⟩ := List.pairwise_append.1 apart
      have clearRest : ∀ item ∈ rest, next.Clear item.1.1 := by
        intro item member part inside
        have mine : part ∈ parts rest := List.mem_flatMap.2 ⟨item, member, inside⟩
        rw [wrote.others part fun other taken => apartBoth other taken part mine]
        exact clear item (List.mem_cons_of_mem _ member) part inside
      obtain ⟨opcodes, others, growthRest, denotedRest⟩ := ih clearRest
        (fun item member => suits item (List.mem_cons_of_mem _ member)) apartRest encoded
      have kept : after.operand field kind = next.operand field kind := by
        apply Word.operand_congr
        intro part inside
        exact others part fun other taken => (apartBoth part inside other taken).symm
      refine ⟨opcodes.trans wrote.opcode, ?_, growth.trans growthRest, ?_⟩
      · intro other away
        rw [others other fun part inside => away part (List.mem_append_right _ inside),
          wrote.others other fun part inside => away part (List.mem_append_left _ inside)]
      · intro j otherField otherKind otherToken listed
        cases j with
        | zero =>
          cases listed
          rw [kept]
          have same : expected[0]?.join = expected.head?.join := by cases expected <;> rfl
          rw [same]
          exact denoted.mono growthRest fun _ _ defined => defined
        | succ j =>
          have same : expected[j + 1]? = expected.tail[j]? := by cases expected <;> rfl
          rw [same]
          exact denotedRest j otherField otherKind otherToken listed
    next => cases encoded

end Draft

/-- A word is what an instruction with operands means at a place. A cast by name asks for registers
of certain banks. -/
structure EncodedAs (resources : Resources) (labelled : String → Nat → Prop) (place : Nat)
    (instruction : Instruction) (operands : List Token) (word : Word) : Prop where
  opcode : word.opcode = instruction.opcode
  arity : instruction.operands.length = operands.length
  operands : ∀ (j : Nat) field kind token, instruction.operands[j]? = some (field, kind) →
    operands[j]? = some token →
    Denotes resources labelled place
      (operands.getLast?.bind fun selector =>
        (Draft.castBanks instruction.operation selector.text)[j]?.join)
      token.text kind (word.operand field kind)

theorem EncodedAs.mono {resources later : Resources} {labelled known : String → Nat → Prop}
    {place : Nat} {instruction : Instruction} {operands : List Token} {word : Word}
    (growth : resources.Grow later) (labels : ∀ name target, labelled name target → known name target)
    (encoded : EncodedAs resources labelled place instruction operands word) :
    EncodedAs later known place instruction operands word where
  opcode := encoded.opcode
  arity := encoded.arity
  operands j field kind token listed given :=
    (encoded.operands j field kind token listed given).mono growth labels

namespace Draft

variable {draft : Draft} {place : Nat} {pools grown : Pools}

theorem encode_encodedAs {statement : Statement} {word : Word}
    (encoded : draft.encode place statement pools = .ok (word, grown)) :
    pools.resources.Grow grown.resources ∧
      EncodedAs grown.resources draft.Labelled place statement.instruction statement.operands
        word := by
  unfold encode at encoded
  dsimp only at encoded
  split at encoded
  next => cases encoded
  next arity =>
    have arity : statement.instruction.operands.length = statement.operands.length := by omega
    have fields : (statement.instruction.operands.zip statement.operands).map Prod.fst =
        statement.instruction.operands := List.map_fst_zip (Nat.le_of_eq arity)
    have listed {item} (member : item ∈ statement.instruction.operands.zip statement.operands) :
        item.1 ∈ statement.instruction.operands := (List.of_mem_zip member).1
    have taken : parts (statement.instruction.operands.zip statement.operands) =
        statement.instruction.operation.parts := by
      rw [Operation.parts, ← Instruction.operands, ← fields, List.flatMap_map, fields]
      rfl
    obtain ⟨opcode, -, growth, denoted⟩ := encodeOperands_denotes
      (fun item _ => statement.instruction.word_clear item.1.1)
      (fun item member => statement.instruction.operation.kinds_suit (listed member))
      (taken ▸ statement.instruction.operation.parts_apart) encoded
    refine ⟨growth, opcode.trans statement.instruction.word_opcode, arity, ?_⟩
    intro j field kind token inLayout given
    have both : (statement.instruction.operands.zip statement.operands)[j]? =
        some ((field, kind), token) := List.getElem?_zip_eq_some.2 ⟨inLayout, given⟩
    have meaning := denoted j field kind token both
    cases last : statement.operands.getLast? with
    | some selector =>
      rw [last] at meaning
      exact meaning
    | none =>
      rw [last] at meaning
      exact meaning

end Draft

end Assembly
end GameScript
