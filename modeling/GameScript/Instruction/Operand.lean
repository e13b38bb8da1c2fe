/-! What small operand fields say besides numbers: the register banks, the tag that tells where a
parameter or result lives, the return slot and the comparison flags. -/

namespace GameScript

inductive Bank where
  | int | float | string | pointer
deriving DecidableEq, Repr, Inhabited

namespace Bank

def all : List Bank := [.int, .float, .string, .pointer]

def name : Bank → String
  | .int => "int"
  | .float => "float"
  | .string => "string"
  | .pointer => "pointer"

def letter : Bank → Char
  | .int => 'd'
  | .float => 'f'
  | .string => 's'
  | .pointer => 'a'

def ofLetter? : Char → Option Bank
  | 'd' => some .int
  | 'f' => some .float
  | 's' => some .string
  | 'a' => some .pointer
  | _ => none

def code : Bank → UInt8
  | .int => 0
  | .float => 1
  | .string => 2
  | .pointer => 3

end Bank

/-- The tables a selector number is looked up in, for messages. -/
inductive SelectorTable where
  | operandTag | compareMode | cast | boolCast | floatFunction | abort | signExtension
deriving DecidableEq, Repr

def SelectorTable.name : SelectorTable → String
  | .operandTag => "register type"
  | .compareMode => "compare mode"
  | .cast => "cast"
  | .boolCast => "bool cast"
  | .floatFunction => "float function"
  | .abort => "abort"
  | .signExtension => "sign-extension width"

structure UnknownSelector where
  table : SelectorTable
  value : UInt8
deriving DecidableEq, Repr

/-- Where a parameter or result lives: a bank in the two low bits, and flags. -/
structure OperandTag where
  bits : UInt8
deriving DecidableEq, Repr, Inhabited

namespace OperandTag

/-- No value at all. -/
def nil : OperandTag := ⟨255⟩

/-- The index names a constant and not a register. -/
def constantFlag : UInt8 := 4
def pairFlag : UInt8 := 8
def tripleFlag : UInt8 := 16

/-- The register is passed by reference. -/
def referenceFlag : UInt8 := 32

def ofBank (bank : Bank) (flags : UInt8) : OperandTag := ⟨bank.code ||| flags⟩

def bank (tag : OperandTag) : Bank :=
  if tag.bits &&& 3 = 0 then .int
  else if tag.bits &&& 3 = 1 then .float
  else if tag.bits &&& 3 = 2 then .string
  else .pointer

def isNil (tag : OperandTag) : Bool := tag.bits == 255
def isConstant (tag : OperandTag) : Bool := tag.bits &&& constantFlag != 0
def isReference (tag : OperandTag) : Bool := tag.bits &&& referenceFlag != 0

def width (tag : OperandTag) : Nat :=
  if tag.bits &&& tripleFlag != 0 then 3 else if tag.bits &&& pairFlag != 0 then 2 else 1

def plain (tag : OperandTag) : OperandTag := ⟨tag.bits &&& 3⟩

/-- No unknown flag, no two flags that contradict each other, and vectors of floats only. -/
def wellFormed (tag : OperandTag) : Bool :=
  tag.isNil ||
    (tag.bits &&& 0xc0 == 0 &&
      !(tag.bits &&& pairFlag != 0 && tag.bits &&& tripleFlag != 0) &&
      !(1 < tag.width && tag.bank != .float) &&
      !(tag.isConstant && (1 < tag.width || tag.isReference)))

def validate (tag : OperandTag) : Except UnknownSelector OperandTag :=
  if tag.wellFormed then .ok tag else .error ⟨.operandTag, tag.bits⟩

def text (tag : OperandTag) : String :=
  if tag.isNil then "nil"
  else
    (if tag.isReference then "&" else "") ++ (if tag.isConstant then "#" else "") ++
      (if 1 < tag.width then "v" ++ toString tag.width ++ ":" else "") ++ tag.bank.name

end OperandTag

/-- A tag and the register or constant number it is about. -/
structure TaggedOperand where
  tag : OperandTag
  index : UInt16
deriving DecidableEq, Repr

/-- A return slot, with the top bit set when the return ends the frame. -/
structure ReturnField where
  bits : UInt8
deriving DecidableEq, Repr

namespace ReturnField

def of (slot : UInt8) (final : Bool) : ReturnField :=
  ⟨(slot &&& 0x7f) ||| (if final then 0x80 else 0)⟩

def slot (field : ReturnField) : Nat := (field.bits &&& 0x7f).toNat
def isFinal (field : ReturnField) : Bool := field.bits &&& 0x80 != 0

end ReturnField

/-- The relation a string comparison tests. -/
inductive CompareMode where
  | eq | lt | le
deriving DecidableEq, Repr

/-- The outcome for which the following jump is taken, whether to compare approximately, and for
strings the relation. -/
structure CompareField where
  bits : UInt8
deriving DecidableEq, Repr

namespace CompareField

def of (check approx : Bool) (mode : CompareMode) : CompareField :=
  let relation : UInt8 := match mode with
    | .eq => 0
    | .lt => 4
    | .le => 8
  ⟨(if check then 1 else 0) ||| (if approx then 2 else 0) ||| relation⟩

def check (field : CompareField) : Bool := field.bits &&& 1 != 0
def approx (field : CompareField) : Bool := field.bits &&& 2 != 0

def mode (field : CompareField) : Except UnknownSelector CompareMode :=
  let relation := (field.bits >>> 2) &&& 3
  if relation = 0 then .ok .eq
  else if relation = 1 then .ok .lt
  else if relation = 2 then .ok .le
  else .error ⟨.compareMode, field.bits⟩

end CompareField
end GameScript
