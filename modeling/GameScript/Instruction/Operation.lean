import GameScript.Instruction.Word

/-! What instructions do, apart from which registers they name. Instructions that differ only in
where an operand comes from, a register, the constant pool or the word itself, are one operation
with different sources. The operands of an operation, the field and the kind of each in the order
of the source text, follow from it. -/

namespace GameScript

/-- Where an operand comes from: the register or the constant with the number in the field. -/
inductive Source where
  | register | constant
deriving DecidableEq, Repr

/-- Where an integer operand comes from; the last three are the field itself. -/
inductive IntSource where
  | register | constant | byte | signedByte | half
deriving DecidableEq, Repr

/-- How many consecutive float registers a vector takes. -/
inductive Dimension where
  | two | three
deriving DecidableEq, Repr

def Dimension.size : Dimension → Nat
  | .two => 2
  | .three => 3

inductive LoadKind where
  | int8 | uint8 | int16 | uint16 | int32 | single | double | string | indirectText | pointer
  | vector (dimension : Dimension)
deriving DecidableEq, Repr

/-- What a store writes to memory; an object store notifies the collector. -/
inductive StoreKind where
  | int8 | int16 | int32 | single | double | string | object | pointer
  | vector (dimension : Dimension)
deriving DecidableEq, Repr

inductive IntFunction where
  | shiftLeft | shiftRight | shiftRightSigned
  | add | sub | mul | div | divUnsigned | mod | modUnsigned
  | and | or | xor | min | max | minUnsigned | maxUnsigned
deriving DecidableEq, Repr

inductive IntUnary where
  | abs | neg | not
deriving DecidableEq, Repr

inductive IntRelation where
  | eq | lt | le | ltUnsigned | leUnsigned
deriving DecidableEq, Repr

inductive FloatBinary where
  | add | sub | mul | div | mod | pow | min | max | atan2
deriving DecidableEq, Repr

inductive FloatRelation where
  | eq | lt | le
deriving DecidableEq, Repr

inductive VectorFunction where
  | add | sub
deriving DecidableEq, Repr

inductive Operation where
  | nop
  /-- An integer given in the word. -/
  | loadImmediate
  | loadConstant (bank : Bank)
  /-- A constant whose number is a register plus a byte. -/
  | loadConstantAt (bank : Bank)
  /-- The address of the frame's own memory. -/
  | frameAddress
  /-- The class of an object. -/
  | objectClass
  | move (bank : Bank)
  | moveVector (dimension : Dimension)
  | load (kind : LoadKind) (offset : Source)
  /-- Whether some bit of a mask is set in a byte. -/
  | loadBits
  | store (kind : StoreKind) (offset : Source)
  /-- Sets or clears the bits of a mask in a byte. -/
  | storeBits
  | cast
  | castBool
  | castObject (target : Source)
  | castClass (target : Source)
  | test
  | testNegated
  | jump
  /-- Follows an entry of a list of jumps. -/
  | jumpTable
  | param
  | paramImmediate
  | call (target : Source)
  /-- A function of the virtual table of an object's class. -/
  | virtual
  /-- Names the register of one result of the call before it. -/
  | result
  | ret
  | retImmediate
  | throw
  | bound (limit : IntSource)
  | concat
  | stringLength
  | compareStrings
  | intBinary (f : IntFunction) (left right : IntSource)
  | intUnary (f : IntUnary)
  | signExtend
  | intCompare (relation : IntRelation) (left right : IntSource)
  | floatBinary (f : FloatBinary) (left right : Source)
  | floatFunction
  | floatCompare (relation : FloatRelation) (left right : Source)
  | vectorNegate (dimension : Dimension)
  | vectorBinary (f : VectorFunction) (dimension : Dimension)
  | vectorDot (dimension : Dimension)
  | vectorCross
  | vectorScale (divide : Bool) (dimension : Dimension) (scalar : Source)
  | vectorLength (dimension : Dimension)
  | vectorEqual (dimension : Dimension) (right : Source)
  | addressAdd (offset : Source)
  | addressDistance
  | pointerEqual (right : Source)
deriving DecidableEq, Repr

/-- How the text of an operand is read. -/
inductive OperandKind where
  | register (bank : Bank)
  | vector (dimension : Dimension)
  /-- A register whose bank another operand decides. -/
  | anyRegister
  | constant (bank : Bank)
  | unsigned
  | signed
  /-- A signed number, or a label as the distance to it. -/
  | displacement
  | tagged
  | returnSlot
  | compareFlags
  | conversion
  | truthTest
  | floatFunction
  | abortKind
deriving DecidableEq, Repr

def Source.operand (source : Source) (bank : Bank) : OperandKind :=
  match source with
  | .register => .register bank
  | .constant => .constant bank

def IntSource.operand : IntSource → OperandKind
  | .register => .register .int
  | .constant => .constant .int
  | .byte | .half => .unsigned
  | .signedByte => .signed

def LoadKind.operand : LoadKind → OperandKind
  | .int8 | .uint8 | .int16 | .uint16 | .int32 => .register .int
  | .single | .double => .register .float
  | .string | .indirectText => .register .string
  | .pointer => .register .pointer
  | .vector dimension => .vector dimension

def StoreKind.operand : StoreKind → OperandKind
  | .int8 | .int16 | .int32 => .register .int
  | .single | .double => .register .float
  | .string => .register .string
  | .object | .pointer => .register .pointer
  | .vector dimension => .vector dimension

def Operation.operands : Operation → List (Field × OperandKind)
  | .nop => []
  | .loadImmediate => [(.a, .register .int), (.bc, .displacement)]
  | .loadConstant bank => [(.a, .register bank), (.bc, .constant bank)]
  | .loadConstantAt bank => [(.a, .register bank), (.b, .register .int), (.c, .unsigned)]
  | .frameAddress => [(.a, .register .pointer)]
  | .objectClass => [(.a, .register .pointer), (.b, .register .pointer)]
  | .move bank => [(.a, .register bank), (.b, .register bank)]
  | .moveVector dimension => [(.a, .vector dimension), (.b, .vector dimension)]
  | .load kind offset => [(.a, kind.operand), (.b, .register .pointer), (.c, offset.operand .int)]
  | .loadBits => [(.a, .register .int), (.b, .register .pointer), (.c, .unsigned)]
  | .store kind offset => [(.a, .register .pointer), (.b, kind.operand), (.c, offset.operand .int)]
  | .storeBits => [(.a, .register .pointer), (.b, .register .int), (.c, .unsigned)]
  | .cast => [(.a, .anyRegister), (.b, .anyRegister), (.c, .conversion)]
  | .castBool => [(.a, .register .int), (.b, .anyRegister), (.c, .truthTest)]
  | .castObject target | .castClass target =>
    [(.a, .register .pointer), (.b, .register .pointer), (.c, target.operand .pointer)]
  | .test | .testNegated => [(.a, .register .int), (.bc, .unsigned)]
  | .jump => [(.abc, .displacement)]
  | .jumpTable => [(.a, .register .int), (.bc, .displacement)]
  | .param => [(.tagAIndexBC, .tagged)]
  | .paramImmediate => [(.abc, .displacement)]
  | .call target => [(.a, target.operand .pointer), (.b, .unsigned), (.c, .unsigned)]
  | .virtual => [(.a, .register .pointer), (.b, .register .pointer), (.c, .unsigned)]
  | .result => [(.tagAIndexB, .tagged)]
  | .ret => [(.a, .returnSlot), (.tagBIndexC, .tagged)]
  | .retImmediate => [(.a, .returnSlot), (.bc, .displacement)]
  | .throw => [(.a, .abortKind), (.bc, .constant .string)]
  | .bound .register => [(.a, .register .int), (.b, .register .int)]
  | .bound limit => [(.a, .register .int), (.bc, limit.operand)]
  | .concat => [(.a, .register .string), (.b, .register .string), (.c, .register .string)]
  | .stringLength => [(.a, .register .int), (.b, .register .string)]
  | .compareStrings => [(.a, .compareFlags), (.b, .register .string), (.c, .register .string)]
  | .intBinary _ left right => [(.a, .register .int), (.b, left.operand), (.c, right.operand)]
  | .intUnary _ => [(.a, .register .int), (.b, .register .int)]
  | .signExtend => [(.a, .register .int), (.b, .register .int), (.c, .unsigned)]
  | .intCompare _ left right => [(.a, .compareFlags), (.b, left.operand), (.c, right.operand)]
  | .floatBinary _ left right =>
    [(.a, .register .float), (.b, left.operand .float), (.c, right.operand .float)]
  | .floatFunction => [(.a, .register .float), (.b, .register .float), (.c, .floatFunction)]
  | .floatCompare _ left right =>
    [(.a, .compareFlags), (.b, left.operand .float), (.c, right.operand .float)]
  | .vectorNegate dimension => [(.a, .vector dimension), (.b, .vector dimension)]
  | .vectorBinary _ dimension =>
    [(.a, .vector dimension), (.b, .vector dimension), (.c, .vector dimension)]
  | .vectorDot dimension => [(.a, .register .float), (.b, .vector dimension), (.c, .vector dimension)]
  | .vectorCross => [(.a, .vector .three), (.b, .vector .three), (.c, .vector .three)]
  | .vectorScale _ dimension scalar =>
    [(.a, .vector dimension), (.b, .vector dimension), (.c, scalar.operand .float)]
  | .vectorLength dimension => [(.a, .register .float), (.b, .vector dimension)]
  | .vectorEqual dimension .register =>
    [(.a, .compareFlags), (.b, .vector dimension), (.c, .vector dimension)]
  | .vectorEqual dimension .constant =>
    [(.a, .compareFlags), (.b, .vector dimension), (.c, .constant .float)]
  | .addressAdd offset =>
    [(.a, .register .pointer), (.b, .register .pointer), (.c, offset.operand .int)]
  | .addressDistance => [(.a, .register .int), (.b, .register .pointer), (.c, .register .pointer)]
  | .pointerEqual right =>
    [(.a, .compareFlags), (.b, .register .pointer), (.c, right.operand .pointer)]

end GameScript
