import GameScript.Instruction.Word

/-! What can be wrong with assembly text, and the line and column it is reported at. -/

namespace GameScript.Assembly

inductive TokenFault where
  | unterminatedString
  | unbalancedParenthesis
deriving DecidableEq, Repr

def TokenFault.message : TokenFault → String
  | .unterminatedString => "unterminated string literal (missing closing quote)"
  | .unbalancedParenthesis => "unbalanced parenthesis"

inductive Literal where
  | integer | float | string | register | pointer | compareFlags | vector
  | cast | boolCast | floatFunction | abortKind
deriving DecidableEq, Repr

def Literal.name : Literal → String
  | .integer => "integer"
  | .float => "float"
  | .string => "string"
  | .register => "register"
  | .pointer => "pointer"
  | .compareFlags => "compare flags"
  | .vector => "vector"
  | .cast => "cast"
  | .boolCast => "bool cast"
  | .floatFunction => "float function"
  | .abortKind => "abort kind"

inductive Cause where
  | tokens (fault : TokenFault)
  | unknownMnemonic (name : String)
  | arity (mnemonic : String) (expected actual : Nat)
  | expectedRegister (bank : Option Bank) (token : String)
  | invalidOperand (literal : Literal) (token : String)
  | field (fault : FieldFault)
  | duplicateLabel (label : String)
  | undefinedLabel (label : String)
  | duplicateFunction (name : String)
  | missingEnd (function : String)
  | functionName
  | endOutside
  | directiveOutside (name : String)
  | filePath
  | directiveNumber (name : String)
  | unknownDirective (name : String)
  | codeOutside
  | registerCount (function : String) (count : Nat) (bank : Bank)
  | unfinished (function : String)
deriving DecidableEq, Repr

def Cause.message : Cause → String
  | .tokens fault => fault.message
  | .unknownMnemonic name => "invalid instruction name: " ++ name
  | .arity mnemonic expected actual => s!"{mnemonic} takes {expected} operands, got {actual}"
  | .expectedRegister (some bank) token => "expected " ++ bank.name ++ s!" register, got `{token}`"
  | .expectedRegister none token => s!"expected any register, got `{token}`"
  | .invalidOperand literal token => "invalid " ++ literal.name ++ s!" operand `{token}`"
  | .field fault => fault.message
  | .duplicateLabel label => "duplicate label: " ++ label
  | .undefinedLabel label => "undefined label: " ++ label
  | .duplicateFunction name => "duplicate function: " ++ name
  | .missingEnd function => s!"missing .end before .func (in {function})"
  | .functionName => ".func expects a name"
  | .endOutside => ".end outside of a function"
  | .directiveOutside name => s!".{name} outside of a function"
  | .filePath => ".file expects a path"
  | .directiveNumber name => s!".{name} expects one non-negative number"
  | .unknownDirective name => s!"unknown directive .{name}"
  | .codeOutside => "code outside of a function (missing .func)"
  | .registerCount function count bank => s!"{function} uses {count} " ++ bank.name ++ " registers"
  | .unfinished function => s!"function {function} has no .end"

/-- How assembling stops short: at an error, which is reported, or at a 64-bit integer that overflows,
which ends the program that assembles. -/
inductive Halt (ε : Type) where
  | failed (error : ε)
  | overflow
deriving DecidableEq, Repr

def Halt.map (f : ε → δ) : Halt ε → Halt δ
  | .failed error => .failed (f error)
  | .overflow => .overflow

instance : MonadLift (Except ε) (Except (Halt ε)) := ⟨Except.mapError .failed⟩

/-- A cause at a line, counted from 1, and a column, counted in bytes from 1. -/
structure Failure where
  line : Nat
  column : Nat
  cause : Cause
deriving DecidableEq, Repr

def Failure.message (failure : Failure) : String :=
  "line " ++ toString failure.line ++ ": " ++ failure.cause.message

end GameScript.Assembly
