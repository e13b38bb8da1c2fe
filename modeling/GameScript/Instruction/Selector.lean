import GameScript.Double.Basic
import GameScript.Instruction.Operand
import GameScript.Text.Ascii

/-! The selectors an instruction may carry: which conversion a cast performs, which truth test a
truth cast makes and which function is applied to a float. Each table gives every entry a number,
its position, and a name that is looked up without regard to case. -/

namespace GameScript

def selectAt (table : SelectorTable) (entries : List α) (value : UInt8) :
    Except UnknownSelector α :=
  match entries[value.toNat]? with
  | some entry => .ok entry
  | none => .error ⟨table, value⟩

/-- The first entry with a name, and its number. -/
def selectNamed? (name : α → String) (entries : List α) (wanted : String) : Option (α × Nat) :=
  entries.zipIdx.find? fun entry => Text.sameFold (name entry.1) wanted

inductive Conversion where
  | intToFloat | uintToFloat | floatToInt | floatToUint | intToString | uintToString
  | floatToString | pairToString | tripleToString | pointerToString
  | stringToInt | stringToFloat | stringToName | nameToString
deriving DecidableEq, Repr

namespace Conversion

def all : List Conversion :=
  [.intToFloat, .uintToFloat, .floatToInt, .floatToUint, .intToString, .uintToString,
    .floatToString, .pairToString, .tripleToString, .pointerToString,
    .stringToInt, .stringToFloat, .stringToName, .nameToString]

def name : Conversion → String
  | .intToFloat => "I2F"
  | .uintToFloat => "U2F"
  | .floatToInt => "F2I"
  | .floatToUint => "F2U"
  | .intToString => "I2S"
  | .uintToString => "U2S"
  | .floatToString => "F2S"
  | .pairToString => "V22S"
  | .tripleToString => "V32S"
  | .pointerToString => "P2S"
  | .stringToInt => "S2I"
  | .stringToFloat => "S2F"
  | .stringToName => "S2N"
  | .nameToString => "N2S"

def ofCode (value : UInt8) : Except UnknownSelector Conversion := selectAt .cast all value
def named? (wanted : String) : Option (Conversion × Nat) := selectNamed? name all wanted

def target : Conversion → Bank
  | .intToFloat | .uintToFloat | .stringToFloat => .float
  | .floatToInt | .floatToUint | .stringToInt | .stringToName => .int
  | _ => .string

/-- Bank of the converted value and how many registers it takes. -/
def source : Conversion → Bank × Nat
  | .intToFloat | .uintToFloat | .intToString | .uintToString | .nameToString => (.int, 1)
  | .floatToInt | .floatToUint | .floatToString => (.float, 1)
  | .pairToString => (.float, 2)
  | .tripleToString => (.float, 3)
  | .pointerToString => (.pointer, 1)
  | .stringToInt | .stringToFloat | .stringToName => (.string, 1)

end Conversion

inductive TruthTest where
  | int | float | pointer | string
deriving DecidableEq, Repr

namespace TruthTest

def all : List TruthTest := [.int, .float, .pointer, .string]

def name : TruthTest → String
  | .int => "I2B"
  | .float => "F2B"
  | .pointer => "A2B"
  | .string => "S2B"

def ofCode (value : UInt8) : Except UnknownSelector TruthTest := selectAt .boolCast all value
def named? (wanted : String) : Option (TruthTest × Nat) := selectNamed? name all wanted

def source : TruthTest → Bank
  | .int => .int
  | .float => .float
  | .pointer => .pointer
  | .string => .string

end TruthTest

inductive FloatFunction where
  | abs | neg | exp | log | log10 | sqrt | ceil | floor
  | acos | asin | atan | cos | sin | tan
  | acosDegrees | asinDegrees | atanDegrees | cosDegrees | sinDegrees | tanDegrees
  | cosh | sinh | tanh | round
deriving DecidableEq, Repr

namespace FloatFunction

def all : List FloatFunction :=
  [.abs, .neg, .exp, .log, .log10, .sqrt, .ceil, .floor, .acos, .asin, .atan, .cos, .sin, .tan,
    .acosDegrees, .asinDegrees, .atanDegrees, .cosDegrees, .sinDegrees, .tanDegrees,
    .cosh, .sinh, .tanh, .round]

def name : FloatFunction → String
  | .abs => "abs"
  | .neg => "neg"
  | .exp => "exp"
  | .log => "log"
  | .log10 => "log10"
  | .sqrt => "sqrt"
  | .ceil => "ceil"
  | .floor => "floor"
  | .acos => "acos"
  | .asin => "asin"
  | .atan => "atan"
  | .cos => "cos"
  | .sin => "sin"
  | .tan => "tan"
  | .acosDegrees => "acos_deg"
  | .asinDegrees => "asin_deg"
  | .atanDegrees => "atan_deg"
  | .cosDegrees => "cos_deg"
  | .sinDegrees => "sin_deg"
  | .tanDegrees => "tan_deg"
  | .cosh => "cosh"
  | .sinh => "sinh"
  | .tanh => "tanh"
  | .round => "round"

def ofCode (value : UInt8) : Except UnknownSelector FloatFunction :=
  selectAt .floatFunction all value
def named? (wanted : String) : Option (FloatFunction × Nat) := selectNamed? name all wanted

/-- The function itself. The degree forms take or give angles in degrees. -/
def apply : FloatFunction → Double → Double
  | .abs => Double.abs
  | .neg => Double.neg
  | .exp => Double.lift Float.exp
  | .log => Double.lift Float.log
  | .log10 => Double.lift Float.log10
  | .sqrt => Double.sqrt
  | .ceil => Double.ceil
  | .floor => Double.floor
  | .acos => Double.lift Float.acos
  | .asin => Double.lift Float.asin
  | .atan => Double.lift Float.atan
  | .cos => Double.lift Float.cos
  | .sin => Double.lift Float.sin
  | .tan => Double.lift Float.tan
  | .acosDegrees => fun x => (Double.lift Float.acos x).toDegrees
  | .asinDegrees => fun x => (Double.lift Float.asin x).toDegrees
  | .atanDegrees => fun x => (Double.lift Float.atan x).toDegrees
  | .cosDegrees => fun x => Double.lift Float.cos x.toRadians
  | .sinDegrees => fun x => Double.lift Float.sin x.toRadians
  | .tanDegrees => fun x => Double.lift Float.tan x.toRadians
  | .cosh => Double.lift Float.cosh
  | .sinh => Double.lift Float.sinh
  | .tanh => Double.lift Float.tanh
  | .round => Double.round

end FloatFunction
end GameScript
