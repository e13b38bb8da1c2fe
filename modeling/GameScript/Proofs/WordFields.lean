import Mathlib.Algebra.Group.Int.Defs
import Mathlib.Algebra.Group.Nat.Defs
import Mathlib.Data.List.Chain
import GameScript.Instruction.Table
import GameScript.Proofs.HeapBlocks

/-! Operands in the fields of a word. Writing into a field that is still empty makes it read as what
was written and leaves the other fields of the instruction alone. -/

namespace GameScript

/-- An operand as its instruction finds it. -/
inductive Operand where
  /-- The number of a register or constant, or a number that stands for itself. -/
  | number (value : Int)
  | tagged (operand : TaggedOperand)
  | returnSlot (field : ReturnField)
  | compareFlags (field : CompareField)
  /-- The number of an entry in the table that the kind of operand selects from. -/
  | selector (code : UInt8)
deriving DecidableEq, Repr

namespace Field

def parts (field : Field) : List Field :=
  match field.split? with
  | some (tag, index) => [tag, index]
  | none => [field]

def index (field : Field) : Field :=
  match field.split? with
  | some (_, index) => index
  | none => field

theorem index_mem_parts (field : Field) : field.index ∈ field.parts := by
  cases field <;> decide

theorem parts_of_split {field tag index : Field} (split : field.split? = some (tag, index)) :
    field.parts = [tag, index] := by
  rw [parts, split]

def Apart (field other : Field) : Prop :=
  field.shift + field.bits ≤ other.shift ∨ other.shift + other.bits ≤ field.shift

instance (field other : Field) : Decidable (field.Apart other) :=
  inferInstanceAs (Decidable (_ ∨ _))

theorem Apart.symm {field other : Field} (apart : field.Apart other) : other.Apart field :=
  Or.symm apart

theorem parts_apart (field : Field) : field.parts.Pairwise Apart := by
  cases field <;> decide

end Field

namespace Word

/-- A field as an unsigned number; of a tagged operand, its index. -/
def numberAt (w : Word) : Field → Nat
  | .a => w.a.toNat
  | .b | .tagAIndexB => w.b.toNat
  | .c | .tagBIndexC => w.c.toNat
  | .bc | .tagAIndexBC => w.bc.toNat
  | .abc => (w.bits >>> 8).toNat

def signedAt (w : Word) : Field → Int
  | .a => w.a.toInt8.toInt
  | .b | .tagAIndexB => w.b.toInt8.toInt
  | .c | .tagBIndexC => w.c.toInt8.toInt
  | .bc | .tagAIndexBC => w.signedBC.toInt
  | .abc => w.abc.toInt

/-- The operand in a field with two parts; the other fields have none. -/
def taggedAt (w : Word) : Field → TaggedOperand
  | .tagAIndexBC => w.tagAIndexBC
  | .tagAIndexB => w.tagAIndexB
  | .tagBIndexC => w.tagBIndexC
  | _ => ⟨.nil, 0⟩

def operand (w : Word) (field : Field) : OperandKind → Operand
  | .register _ | .vector _ | .anyRegister | .constant _ | .unsigned => .number (w.numberAt field)
  | .signed | .displacement => .number (w.signedAt field)
  | .tagged => .tagged (w.taggedAt field)
  | .returnSlot => .returnSlot ⟨UInt8.ofNat (w.numberAt field)⟩
  | .compareFlags => .compareFlags ⟨UInt8.ofNat (w.numberAt field)⟩
  | .conversion | .truthTest | .floatFunction | .abortKind =>
    .selector (UInt8.ofNat (w.numberAt field))

theorem numberAt_eq (w : Word) (field : Field) :
    w.numberAt field = w.bits.toNat / 2 ^ field.shift % 2 ^ field.bits := by
  have bound := w.bits.toNat_lt
  cases field <;>
    simp [numberAt, a, b, c, bc, Field.shift, Field.bits, Nat.shiftRight_eq_div_pow]
  omega

theorem signedAt_eq (w : Word) (field : Field) :
    w.signedAt field = Int.bmod (w.numberAt field) (2 ^ field.bits) := by
  cases field with
  | abc =>
    have bound := w.bits.toNat_lt
    have shifted : w.abc.toInt = Int.bmod w.bits.toNat (2 ^ 32) / 2 ^ 8 := by
      have amount : ((8 : Int32).toBitVec.smod 32).toNat = 8 := by decide
      rw [abc, ← Int32.toInt_toBitVec, Int32.toBitVec_shiftRight, BitVec.sshiftRight_eq', amount,
        BitVec.toInt_sshiftRight, Int.shiftRight_eq_div_pow, BitVec.toInt_eq_toNat_bmod]
      simp
    have number : w.numberAt .abc = w.bits.toNat / 2 ^ 8 := by
      rw [numberAt_eq]
      simp only [Field.shift, Field.bits]
      omega
    rw [signedAt, shifted, number, Int.bmod_def, Int.bmod_def]
    simp only [Field.bits]
    omega
  | bc | tagAIndexBC => exact w.bc.toBitVec.toInt_eq_toNat_bmod
  | a => exact w.a.toBitVec.toInt_eq_toNat_bmod
  | b | tagAIndexB => exact w.b.toBitVec.toInt_eq_toNat_bmod
  | c | tagBIndexC => exact w.c.toBitVec.toInt_eq_toNat_bmod

theorem signedAt_bounds (w : Word) (field : Field) :
    -2 ^ (field.bits - 1) ≤ w.signedAt field ∧ w.signedAt field < 2 ^ (field.bits - 1) := by
  have low := Int.le_bmod (x := w.numberAt field) (Nat.two_pow_pos field.bits)
  have high := Int.bmod_lt (x := w.numberAt field) (Nat.two_pow_pos field.bits)
  rw [← signedAt_eq] at low high
  cases field <;> simp only [Field.bits] at low high ⊢ <;> omega

theorem part_or (x y low width : Nat) :
    (x ||| y) / 2 ^ low % 2 ^ width = x / 2 ^ low % 2 ^ width ||| y / 2 ^ low % 2 ^ width := by
  apply Nat.eq_of_testBit_eq
  intro i
  simp only [Nat.testBit_mod_two_pow, Nat.testBit_div_two_pow, Nat.testBit_or]
  cases decide (i < width) <;> simp

theorem toNat_place (w : Word) {field : Field} {value : Nat} (small : value < 2 ^ field.bits) :
    (w.place field value).bits.toNat = w.bits.toNat ||| value * 2 ^ field.shift := by
  have moved : (UInt32.ofNat value <<< UInt32.ofNat field.shift).toNat = value * 2 ^ field.shift := by
    cases field <;> simp [Field.shift, Field.bits, Nat.shiftLeft_eq] at small ⊢ <;> omega
  rw [← moved]
  exact UInt32.toNat_or ..

theorem numberAt_place (w : Word) {field : Field} {value : Nat} (small : value < 2 ^ field.bits)
    (other : Field) :
    (w.place field value).numberAt other =
      w.numberAt other ||| value * 2 ^ field.shift / 2 ^ other.shift % 2 ^ other.bits := by
  rw [numberAt_eq, toNat_place w small, part_or, ← numberAt_eq]

theorem numberAt_place_self (w : Word) {field : Field} {value : Nat}
    (small : value < 2 ^ field.bits) (clear : w.numberAt field = 0) :
    (w.place field value).numberAt field = value := by
  rw [numberAt_place w small, clear, Nat.mul_div_cancel _ (Nat.two_pow_pos _),
    Nat.mod_eq_of_lt small, Nat.zero_or]

theorem numberAt_place_apart (w : Word) {field other : Field} {value : Nat}
    (small : value < 2 ^ field.bits) (apart : field.Apart other) :
    (w.place field value).numberAt other = w.numberAt other := by
  have outside : value * 2 ^ field.shift / 2 ^ other.shift % 2 ^ other.bits = 0 := by
    rcases apart with below | above
    · have fits : value * 2 ^ field.shift < 2 ^ other.shift :=
        calc value * 2 ^ field.shift < 2 ^ field.bits * 2 ^ field.shift :=
              Nat.mul_lt_mul_of_pos_right small (Nat.two_pow_pos _)
          _ = 2 ^ (field.shift + field.bits) := by rw [Nat.mul_comm, Nat.pow_add]
          _ ≤ 2 ^ other.shift := Nat.pow_le_pow_right (by decide) below
      rw [Nat.div_eq_of_lt fits, Nat.zero_mod]
    · obtain ⟨gap, split⟩ := Nat.exists_eq_add_of_le above
      have factors : value * 2 ^ field.shift =
          2 ^ other.shift * (2 ^ other.bits * (value * 2 ^ gap)) := by
        rw [split, Nat.pow_add, Nat.pow_add]
        ac_rfl
      rw [factors, Nat.mul_div_cancel_left _ (Nat.two_pow_pos _), Nat.mul_mod_right]
  rw [numberAt_place w small, outside, Nat.or_zero]

def Clear (w : Word) (field : Field) : Prop := ∀ part ∈ field.parts, w.numberAt part = 0

structure Wrote (w after : Word) (field : Field) : Prop where
  opcode : after.opcode = w.opcode
  others : ∀ other, (∀ part ∈ field.parts, part.Apart other) →
    after.numberAt other = w.numberAt other

variable {w after : Word} {field other : Field}

theorem numberAt_index (w : Word) (field : Field) : w.numberAt field.index = w.numberAt field := by
  cases field <;> rfl

theorem Clear.numberAt (clear : w.Clear field) : w.numberAt field = 0 :=
  (numberAt_index w field).symm.trans (clear _ field.index_mem_parts)

theorem apart_of_parts (apart : ∀ part ∈ field.parts, part.Apart other) : field.Apart other := by
  have last := apart _ field.index_mem_parts
  cases field <;> exact last

theorem place_opcode (w : Word) (field : Field) (value : Nat) :
    (w.place field value).opcode = w.opcode := by
  apply UInt8.toBitVec_inj.1
  ext i inside
  cases field <;> simp [place, opcode, Field.shift]

theorem wrote_place {value : Nat} (small : value < 2 ^ field.bits) :
    w.Wrote (w.place field value) field :=
  ⟨place_opcode w field value, fun _ apart => numberAt_place_apart w small (apart_of_parts apart)⟩

theorem withUnsigned_eq_place {value : Int} (written : w.withUnsigned field value = .ok after) :
    ∃ number : Nat, value = number ∧ number < 2 ^ field.bits ∧ after = w.place field number := by
  unfold withUnsigned at written
  split at written
  next inside =>
    cases written
    have bound : value < (2 ^ field.bits : Nat) := inside.2
    exact ⟨value.toNat, by omega, by omega, rfl⟩
  next => cases written

theorem withUnsigned_eq_ok {value : Int} (clear : w.Clear field)
    (written : w.withUnsigned field value = .ok after) :
    w.Wrote after field ∧ (after.numberAt field : Int) = value := by
  obtain ⟨number, rfl, small, rfl⟩ := withUnsigned_eq_place written
  exact ⟨wrote_place small, congrArg _ (numberAt_place_self w small clear.numberAt)⟩

theorem withSigned_eq_ok {value : Int} (clear : w.Clear field)
    (written : w.withSigned field value = .ok after) :
    w.Wrote after field ∧ after.signedAt field = value := by
  unfold withSigned at written
  split at written
  next inside =>
    cases written
    have small : (value % Nat.pow 2 field.bits).toNat < 2 ^ field.bits := by
      cases field <;> simp only [Field.bits, Nat.pow_eq, Nat.reducePow] <;> omega
    refine ⟨wrote_place small, ?_⟩
    rw [signedAt_eq, numberAt_place_self w small clear.numberAt, Int.bmod_def]
    cases field <;> simp only [Field.bits, Nat.pow_eq, Nat.reducePow, Nat.reduceSub] at inside ⊢ <;>
      omega
  next => cases written

theorem taggedAt_of_split {tag index : Field} (split : field.split? = some (tag, index)) :
    w.taggedAt field = ⟨⟨UInt8.ofNat (w.numberAt tag)⟩, UInt16.ofNat (w.numberAt index)⟩ := by
  cases field <;> cases split <;> simp [taggedAt, numberAt, tagAIndexBC, tagAIndexB, tagBIndexC]

theorem withTagged_eq_ok {tag : OperandTag} {index : Int} (clear : w.Clear field)
    (written : w.withTagged field tag index = .ok after) :
    w.Wrote after field ∧ (after.taggedAt field).tag = tag ∧
      ((after.taggedAt field).index.toNat : Int) = index := by
  unfold withTagged at written
  split at written
  next => cases written
  next tagField indexField split =>
    have parts := Field.parts_of_split split
    rw [Clear, parts] at clear
    have apart : tagField.Apart indexField := by
      simpa [parts] using field.parts_apart
    have narrow : 2 ^ indexField.bits ≤ 2 ^ 16 := by
      cases field <;> cases split <;> decide
    obtain ⟨_, first, second⟩ := bind_eq_ok.1 written
    obtain ⟨code, same, few, rfl⟩ := withUnsigned_eq_place first
    obtain ⟨number, rfl, small, rfl⟩ := withUnsigned_eq_place second
    cases Int.ofNat.inj same
    have tagged : ((w.place tagField tag.bits.toNat).place indexField number).numberAt tagField =
        tag.bits.toNat := by
      rw [numberAt_place_apart _ small apart.symm, numberAt_place_self w few (clear _ (by simp))]
    have indexed : ((w.place tagField tag.bits.toNat).place indexField number).numberAt indexField =
        number := by
      refine numberAt_place_self _ small ?_
      rw [numberAt_place_apart w few apart, clear _ (by simp)]
    rw [taggedAt_of_split split, tagged, indexed]
    refine ⟨⟨?_, fun other away => ?_⟩, ?_, ?_⟩
    · rw [place_opcode, place_opcode]
    · rw [parts] at away
      rw [numberAt_place_apart _ small (away _ (by simp)),
        numberAt_place_apart w few (away _ (by simp))]
    · rw [UInt8.ofNat_toNat]
    · rw [UInt16.toNat_ofNat_of_lt' (Nat.lt_of_lt_of_le small narrow)]

theorem numberAt_congr (same : ∀ part ∈ field.parts, after.numberAt part = w.numberAt part) :
    after.numberAt field = w.numberAt field := by
  rw [← numberAt_index after, ← numberAt_index w, same _ field.index_mem_parts]

theorem taggedAt_congr (same : ∀ part ∈ field.parts, after.numberAt part = w.numberAt part) :
    after.taggedAt field = w.taggedAt field := by
  cases split : field.split? with
  | none => cases field <;> first | rfl | cases split
  | some both =>
    rw [Field.parts_of_split split] at same
    rw [taggedAt_of_split split, taggedAt_of_split split, same _ (by simp), same _ (by simp)]

theorem operand_congr (same : ∀ part ∈ field.parts, after.numberAt part = w.numberAt part)
    (kind : OperandKind) : after.operand field kind = w.operand field kind := by
  have number := numberAt_congr same
  have signed : after.signedAt field = w.signedAt field := by
    rw [signedAt_eq, signedAt_eq, number]
  have tagged := taggedAt_congr same
  cases kind <;> simp only [operand, number, signed, tagged]

theorem numberAt_lt (w : Word) (field : Field) : w.numberAt field < 2 ^ field.bits := by
  rw [numberAt_eq]
  exact Nat.mod_lt _ (Nat.two_pow_pos _)

end Word

def OperandKind.suits : OperandKind → Field → Bool
  | .tagged, field => field.split?.isSome
  | .returnSlot, field | .compareFlags, field | .conversion, field | .truthTest, field
  | .floatFunction, field | .abortKind, field => field.split?.isNone && field.bits ≤ 8
  | _, field => field.split?.isNone

theorem Operation.kinds_suit (operation : Operation) {field : Field} {kind : OperandKind}
    (member : (field, kind) ∈ operation.operands) : kind.suits field = true := by
  have all : operation.operands.all (fun entry => entry.2.suits entry.1) = true := by
    cases operation with
    | load kind offset => cases kind <;> cases offset <;> rfl
    | store kind offset => cases kind <;> cases offset <;> rfl
    | intBinary f left right => cases left <;> cases right <;> rfl
    | intCompare relation left right => cases left <;> cases right <;> rfl
    | floatBinary f left right => cases left <;> cases right <;> rfl
    | floatCompare relation left right => cases left <;> cases right <;> rfl
    | bound source | castObject source | castClass source | call source | vectorScale _ _ source
    | vectorEqual _ source | addressAdd source | pointerEqual source => cases source <;> rfl
    | _ => rfl
  exact List.all_eq_true.1 all _ member

/-- Equal operands come from equal fields. -/
theorem Word.numberAt_of_operand {w other : Word} {field : Field} {kind : OperandKind}
    (suits : kind.suits field = true) (same : w.operand field kind = other.operand field kind) :
    ∀ part ∈ field.parts, w.numberAt part = other.numberAt part := by
  have single (plain : field.split?.isNone = true) (number : w.numberAt field = other.numberAt field) :
      ∀ part ∈ field.parts, w.numberAt part = other.numberAt part := by
    rw [Field.parts, Option.isNone_iff_eq_none.1 plain]
    simpa using number
  have byte (small : (field.split?.isNone && field.bits ≤ 8) = true)
      (bytes : UInt8.ofNat (w.numberAt field) = UInt8.ofNat (other.numberAt field)) :
      ∀ part ∈ field.parts, w.numberAt part = other.numberAt part := by
    obtain ⟨plain, narrow⟩ := Bool.and_eq_true_iff.1 small
    have few : 2 ^ field.bits ≤ UInt8.size := Nat.pow_le_pow_right (by decide) (of_decide_eq_true narrow)
    have numbers := congrArg UInt8.toNat bytes
    rw [UInt8.toNat_ofNat_of_lt' (Nat.lt_of_lt_of_le (w.numberAt_lt field) few),
      UInt8.toNat_ofNat_of_lt' (Nat.lt_of_lt_of_le (other.numberAt_lt field) few)] at numbers
    exact single plain numbers
  have signed (plain : field.split?.isNone = true) (numbers : w.signedAt field = other.signedAt field) :
      ∀ part ∈ field.parts, w.numberAt part = other.numberAt part := by
    rw [signedAt_eq, signedAt_eq] at numbers
    have rests := congrArg (· % (2 ^ field.bits : Nat) : Int → Int) numbers
    simp only [Int.bmod_emod] at rests
    refine single plain (Int.ofNat.inj ?_)
    rwa [Int.emod_eq_of_lt (by omega) (Int.ofNat_lt.2 (w.numberAt_lt field)),
      Int.emod_eq_of_lt (by omega) (Int.ofNat_lt.2 (other.numberAt_lt field))] at rests
  cases kind with
  | tagged =>
    have both := Operand.tagged.inj same
    cases field with
    | tagAIndexBC =>
      simp only [taggedAt, tagAIndexBC, TaggedOperand.mk.injEq, OperandTag.mk.injEq] at both
      simpa [Field.parts, Field.split?, numberAt, UInt8.toNat_inj, UInt16.toNat_inj] using both
    | tagAIndexB =>
      simp only [taggedAt, tagAIndexB, TaggedOperand.mk.injEq, OperandTag.mk.injEq,
        UInt8.toUInt16_inj] at both
      simpa [Field.parts, Field.split?, numberAt, UInt8.toNat_inj] using both
    | tagBIndexC =>
      simp only [taggedAt, tagBIndexC, TaggedOperand.mk.injEq, OperandTag.mk.injEq,
        UInt8.toUInt16_inj] at both
      simpa [Field.parts, Field.split?, numberAt, UInt8.toNat_inj] using both
    | _ => cases suits
  | returnSlot => exact byte suits (congrArg ReturnField.bits (Operand.returnSlot.inj same))
  | compareFlags => exact byte suits (congrArg CompareField.bits (Operand.compareFlags.inj same))
  | conversion | truthTest | floatFunction | abortKind => exact byte suits (Operand.selector.inj same)
  | signed | displacement => exact signed suits (Operand.number.inj same)
  | _ => exact single suits (Int.ofNat.inj (Operand.number.inj same))

def Operation.parts (operation : Operation) : List Field :=
  operation.operands.flatMap fun (field, _) => field.parts

theorem Operation.parts_apart (operation : Operation) : operation.parts.Pairwise Field.Apart := by
  cases operation with
  | bound limit => cases limit <;> exact of_decide_eq_true rfl
  | vectorEqual dimension right => cases right <;> exact of_decide_eq_true rfl
  | _ => exact of_decide_eq_true rfl

namespace Instruction

theorem word_opcode (instruction : Instruction) : instruction.word.opcode = instruction.opcode := by
  simp [word, Word.opcode]

theorem word_clear (instruction : Instruction) (field : Field) : instruction.word.Clear field := by
  intro part _
  have small := instruction.opcode.toNat_lt
  have high : 2 ^ 8 ≤ 2 ^ part.shift := by cases part <;> decide
  rw [Word.numberAt_eq, word, UInt8.toNat_toUInt32, Nat.div_eq_of_lt (by omega), Nat.zero_mod]

theorem opcodes_ascend : (table.map Instruction.opcode).IsChain (· < ·) := by
  decide +kernel

theorem ofOpcode?_opcode {instruction : Instruction} (member : instruction ∈ table) :
    ofOpcode? instruction.opcode = some instruction := by
  have ascending : table.Pairwise (fun earlier later => earlier.opcode < later.opcode) :=
    List.pairwise_map.1 (List.isChain_iff_pairwise.1 opcodes_ascend)
  obtain ⟨before, after, split⟩ := List.append_of_mem member
  rw [split] at ascending
  refine List.find?_eq_some_iff_append.2 ⟨by simp, before, after, split, fun other earlier => ?_⟩
  have less := (List.pairwise_append.1 ascending).2.2 other earlier instruction (by simp)
  simpa using UInt8.ne_of_lt less

theorem ofOpcode?_of_ofMnemonic? {mnemonic : String} {instruction : Instruction}
    (found : ofMnemonic? mnemonic = some instruction) :
    ofOpcode? instruction.opcode = some instruction :=
  ofOpcode?_opcode (List.mem_of_find?_eq_some found)

end Instruction

end GameScript
