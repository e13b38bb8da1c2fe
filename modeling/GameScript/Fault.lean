import GameScript.Instruction.Table
import GameScript.Pointer

/-! Violations of the contract between a program and the machine: registers and constants that are
not there, malformed code, pointers of the wrong kind, memory out of range, names that nothing
has. -/

namespace GameScript

inductive Referent where
  | block | object | class_
deriving DecidableEq, Repr

def Referent.name : Referent → String
  | .block => "block"
  | .object => "object"
  | .class_ => "class"

inductive Fault where
  | invalidOpcode (invalid : InvalidOpcode)
  | registerOutOfRange (bank : Bank) (index available : Nat)
  | constantOutOfRange (bank : Bank) (index available : Nat)
  | codeOutOfRange (pc length : Nat)
  | expectedJump (mnemonic : String) (offset : Nat)
  | expectedResult (offset : Nat)
  | strayResult (offset : Nat)
  | unknownSelector (selector : UnknownSelector)
  | stagingOverflow (capacity : Nat)
  | stagingUnderflow (requested available : Nat)
  | argumentsExceedFrame (function : String) (bank : Bank)
  | returnMismatch (slot : Nat) (expected actual : Bank)
  | unsupportedOperand (mnemonic : String) (tag : OperandTag)
  | notAFunction (pointer : Pointer)
  | notAnObject (pointer : Pointer)
  | notAClass (pointer : Pointer)
  | notAddressable (pointer : Pointer)
  | unrelatedPointers (left right : Pointer)
  | addressOutOfRange (offset : Int) (width length : Nat)
  /-- A pointer where a string is wanted (`expected` is the string bank), or a string where a
  pointer is. -/
  | slotMismatch (offset : UInt32) (expected : Bank)
  | dangling (what : Referent) (index : UInt32)
  | unknownName (id : Int32)
  | undefinedFunction (name : String)
  | undefinedFunctionId (id : FunctionId)
  | undefinedClass (name : String)
  | virtualOutOfRange (className : String) (slot : Nat)
  | noActiveFrame
  | fellOffEnd (function : String)
  | duplicateFunction (name : String)
deriving DecidableEq, Repr

def UnknownSelector.message (selector : UnknownSelector) : String :=
  "unknown " ++ selector.table.name ++ " selector " ++ toString selector.value.toNat

def InvalidOpcode.message (invalid : InvalidOpcode) : String :=
  "invalid opcode 0x" ++ Text.hexByte invalid.opcode ++ " at instruction " ++
    toString invalid.offset

def Fault.message : Fault → String
  | .invalidOpcode invalid => invalid.message
  | .registerOutOfRange bank index available =>
    bank.name ++ s!" register {index} out of range ({available} declared)"
  | .constantOutOfRange bank index available =>
    bank.name ++ s!" constant {index} out of range ({available} in pool)"
  | .codeOutOfRange pc length => s!"instruction pointer {pc} outside code of {length} words"
  | .expectedJump mnemonic offset => s!"instruction after {mnemonic} at {offset} must be JMP"
  | .expectedResult offset => s!"expected RESULT marker at {offset}"
  | .strayResult offset => s!"RESULT marker at {offset} executed outside a call"
  | .unknownSelector selector => selector.message
  | .stagingOverflow capacity => s!"parameter staging overflow ({capacity} slots declared)"
  | .stagingUnderflow requested available =>
    s!"call consumes {requested} parameters but {available} are staged"
  | .argumentsExceedFrame function bank =>
    "arguments overflow the " ++ bank.name ++ " registers of " ++ function
  | .returnMismatch slot expected actual =>
    s!"return slot {slot} expects " ++ expected.name ++ ", got " ++ actual.name
  | .unsupportedOperand mnemonic tag =>
    mnemonic ++ " does not accept operand type 0x" ++ Text.hexByte tag.bits
  | .notAFunction pointer => "pointer " ++ pointer.text ++ " is not a function"
  | .notAnObject pointer => "pointer " ++ pointer.text ++ " is not a managed object"
  | .notAClass pointer => "pointer " ++ pointer.text ++ " is not a class"
  | .notAddressable pointer => "pointer " ++ pointer.text ++ " is not addressable"
  | .unrelatedPointers left right =>
    "pointers " ++ left.text ++ " and " ++ right.text ++ " are in different blocks"
  | .addressOutOfRange offset width length =>
    s!"access of {width} bytes at offset {offset} outside block of {length} bytes"
  | .slotMismatch offset expected =>
    "offset " ++ toString offset.toNat ++ " does not hold a " ++ expected.name
  | .dangling what index => "dangling " ++ what.name ++ " reference #" ++ toString index.toNat
  | .unknownName id => "unknown name index " ++ toString id.toInt
  | .undefinedFunction name => "undefined function: " ++ name
  | .undefinedFunctionId id => "undefined function id " ++ toString id.index.toNat
  | .undefinedClass name => "undefined class: " ++ name
  | .virtualOutOfRange className slot => s!"class {className} has no virtual slot {slot}"
  | .noActiveFrame => "no active frame"
  | .fellOffEnd function => "execution ran past the end of " ++ function
  | .duplicateFunction name => "duplicate function: " ++ name

def Fault.ofSelector : Except UnknownSelector α → Except Fault α :=
  Except.mapError Fault.unknownSelector

end GameScript
