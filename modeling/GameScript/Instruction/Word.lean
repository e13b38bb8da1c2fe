import GameScript.Instruction.Operand

/-! An instruction is one 32-bit word: the opcode in the low byte, above it the fields A, B and C of
eight bits each. B and C together are the field BC, all three the field ABC. A tagged operand takes
two neighbouring fields, one for the tag and one for the index. -/

namespace GameScript

inductive Field where
  | a | b | c | bc | abc
  | tagAIndexBC | tagAIndexB | tagBIndexC
deriving DecidableEq, Repr

namespace Field

def name : Field → String
  | .a => "A"
  | .b => "B"
  | .c => "C"
  | .bc => "BC"
  | .abc => "ABC"
  | .tagAIndexBC => "TypeAIndexBC"
  | .tagAIndexB => "TypeAIndexB"
  | .tagBIndexC => "TypeBIndexC"

/-- Width in bits; of a tagged operand, of its index. -/
def bits : Field → Nat
  | .a | .b | .c | .tagAIndexB | .tagBIndexC => 8
  | .bc | .tagAIndexBC => 16
  | .abc => 24

/-- The lowest bit; of a tagged operand, of its index. -/
def shift : Field → Nat
  | .a | .abc => 8
  | .b | .bc | .tagAIndexB | .tagAIndexBC => 16
  | .c | .tagBIndexC => 24

def split? : Field → Option (Field × Field)
  | .tagAIndexBC => some (.a, .bc)
  | .tagAIndexB => some (.a, .b)
  | .tagBIndexC => some (.b, .c)
  | _ => none

end Field

/-- Why a value cannot be written into a field. -/
inductive FieldFault where
  | outOfRange (value : Int) (bits : Nat)
  | untagged (field : Field)
deriving DecidableEq, Repr

def FieldFault.message : FieldFault → String
  | .outOfRange value bits => s!"operand {value} does not fit in a {bits}-bit field"
  | .untagged field => field.name ++ " cannot hold a typed operand"

structure Word where
  bits : UInt32
deriving DecidableEq, Repr, Inhabited

namespace Word

def opcode (w : Word) : UInt8 := w.bits.toUInt8
def a (w : Word) : UInt8 := (w.bits >>> 8).toUInt8
def b (w : Word) : UInt8 := (w.bits >>> 16).toUInt8
def c (w : Word) : UInt8 := (w.bits >>> 24).toUInt8
def bc (w : Word) : UInt16 := (w.bits >>> 16).toUInt16

/-- A, B and C as one signed number. -/
def abc (w : Word) : Int32 := w.bits.toInt32 >>> 8

def signedBC (w : Word) : Int16 := w.bc.toInt16

def tagAIndexBC (w : Word) : TaggedOperand := ⟨⟨w.a⟩, w.bc⟩

def tagAIndexB (w : Word) : TaggedOperand := ⟨⟨w.a⟩, w.b.toUInt16⟩

def tagBIndexC (w : Word) : TaggedOperand := ⟨⟨w.b⟩, w.c.toUInt16⟩

/-- Sets bits of a field; bits already set stay. -/
def place (w : Word) (field : Field) (value : Nat) : Word :=
  ⟨w.bits ||| (UInt32.ofNat value <<< UInt32.ofNat field.shift)⟩

/-- Writes a number from `0` to `2 ^ bits - 1`. -/
def withUnsigned (w : Word) (field : Field) (value : Int) : Except FieldFault Word :=
  if 0 ≤ value ∧ value < Nat.pow 2 field.bits then .ok (w.place field value.toNat)
  else .error (.outOfRange value field.bits)

/-- Writes a number from `-2 ^ (bits - 1)` to `2 ^ (bits - 1) - 1` in two's complement. -/
def withSigned (w : Word) (field : Field) (value : Int) : Except FieldFault Word :=
  if -Nat.pow 2 (field.bits - 1) ≤ value ∧ value < Nat.pow 2 (field.bits - 1) then
    .ok (w.place field (value % Nat.pow 2 field.bits).toNat)
  else .error (.outOfRange value field.bits)

def withTagged (w : Word) (field : Field) (tag : OperandTag) (index : Int) :
    Except FieldFault Word :=
  match field.split? with
  | none => .error (.untagged field)
  | some (tagField, indexField) => do
    let w ← w.withUnsigned tagField tag.bits.toNat
    w.withUnsigned indexField index

end Word
end GameScript
