import GameScript.Double.Fixed
import GameScript.Instruction.Operand
import GameScript.Pointer

/-! A register value with its bank, as it crosses a call. -/

namespace GameScript

inductive Value where
  | int (value : Int32)
  | float (value : Double)
  | string (value : String)
  | pointer (value : Pointer)
deriving DecidableEq, Repr

namespace Value

def bank : Value → Bank
  | .int _ => .int
  | .float _ => .float
  | .string _ => .string
  | .pointer _ => .pointer

def int? : Value → Option Int32
  | .int value => some value
  | _ => none

def float? : Value → Option Double
  | .float value => some value
  | _ => none

def string? : Value → Option String
  | .string value => some value
  | _ => none

def pointer? : Value → Option Pointer
  | .pointer value => some value
  | _ => none

def text : Value → String
  | .int value => toString value.toInt
  | .float value => value.text
  | .string value => value
  | .pointer value => value.text

/-- Equality as scripts see it: of the same bank and equal there, floats as numbers. -/
def same : Value → Value → Bool
  | .int x, .int y => x == y
  | .float x, .float y => x.same y
  | .string x, .string y => x == y
  | .pointer x, .pointer y => x == y
  | _, _ => false

end Value
end GameScript
