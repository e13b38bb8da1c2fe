/-! Double-precision numbers as scripts hold them. A number is its 64 bits, so that moving one
through registers, memory and images never changes it, not even a NaN. Arithmetic is that of
`Float`; where a result is a NaN, it is the first NaN among the operands made quiet, and the
default NaN when no operand is one. -/

namespace GameScript

structure Double where
  bits : UInt64
deriving DecidableEq, Repr, Inhabited

namespace Double

/-- What the bits stand for; a finite number is `± significand · 2 ^ exponent`. -/
inductive Parts where
  | nan
  | infinite (negative : Bool)
  | finite (negative : Bool) (significand : Nat) (exponent : Int)
deriving DecidableEq, Repr

def negative (x : Double) : Bool := x.bits >>> 63 == 1

def parts (x : Double) : Parts :=
  let biased := ((x.bits >>> 52) &&& 0x7ff).toNat
  let fraction := (x.bits &&& 0xfffffffffffff).toNat
  if biased = 0x7ff then
    if fraction = 0 then .infinite x.negative else .nan
  else if biased = 0 then .finite x.negative fraction (-1074)
  else .finite x.negative (fraction + 0x10000000000000) ((biased : Int) - 1075)

def isNaN (x : Double) : Bool := x.parts == .nan

def isFinite (x : Double) : Bool :=
  match x.parts with
  | .finite .. => true
  | _ => false

def zero : Double := ⟨0⟩
def negativeZero : Double := ⟨0x8000000000000000⟩
def nan : Double := ⟨0x7ff8000000000000⟩
def infinity : Double := ⟨0x7ff0000000000000⟩

/-- The NaN of an operation without a result, such as zero by zero. -/
def invalid : Double := ⟨0xfff8000000000000⟩

def toFloat (x : Double) : Float := Float.ofBits x.bits
def ofFloat (x : Float) : Double := ⟨x.toBits⟩

def quiet (x : Double) : Double := ⟨x.bits ||| 0x8000000000000⟩

/-- The result of an operation on `operands` that `Float` computes as `result`. -/
def settle (operands : List Double) (result : Float) : Double :=
  if result.isNaN then ((operands.find? isNaN).map quiet).getD invalid else ofFloat result

def lift (f : Float → Float) (x : Double) : Double := settle [x] (f x.toFloat)
def lift₂ (f : Float → Float → Float) (x y : Double) : Double :=
  settle [x, y] (f x.toFloat y.toFloat)

def add : Double → Double → Double := lift₂ (· + ·)
def sub : Double → Double → Double := lift₂ (· - ·)
def mul : Double → Double → Double := lift₂ (· * ·)
def div : Double → Double → Double := lift₂ (· / ·)

instance : Add Double := ⟨add⟩
instance : Sub Double := ⟨sub⟩
instance : Mul Double := ⟨mul⟩
instance : Div Double := ⟨div⟩

def neg (x : Double) : Double := ⟨x.bits ^^^ 0x8000000000000000⟩
instance : Neg Double := ⟨neg⟩

def abs (x : Double) : Double := ⟨x.bits &&& 0x7fffffffffffffff⟩

/-- Equality of numbers: the two zeros are equal and a NaN equals nothing. -/
def same (x y : Double) : Bool := x.toFloat == y.toFloat
def lt (x y : Double) : Bool := x.toFloat < y.toFloat
def le (x y : Double) : Bool := x.toFloat ≤ y.toFloat

/-- The smaller number, or the other one where one is a NaN. -/
def min (x y : Double) : Double :=
  if x.isNaN then y else if y.isNaN then x else if y.lt x then y else x

/-- The larger number, or the other one where one is a NaN. -/
def max (x y : Double) : Double :=
  if x.isNaN then y else if y.isNaN then x else if x.lt y then y else x

/-- The nearest number to an integer, the even one of two. -/
def ofInt (n : Int) : Double := ofFloat (Float.ofInt n)

/-- The integer part, brought into `[low, high]`; zero for a NaN. -/
def clamp (low high : Int) (x : Double) : Int :=
  match x.parts with
  | .nan => 0
  | .infinite negative => if negative then low else high
  | .finite negative significand exponent =>
    let magnitude : Int :=
      if 0 ≤ exponent then significand * Nat.pow 2 exponent.toNat
      else (significand / Nat.pow 2 (-exponent).toNat : Nat)
    let value := if negative then -magnitude else magnitude
    if value < low then low else if high < value then high else value

def toInt32 (x : Double) : Int32 := Int32.ofInt (x.clamp Int32.minValue.toInt Int32.maxValue.toInt)
def toUInt32 (x : Double) : UInt32 := UInt32.ofNat (x.clamp 0 (UInt32.size - 1)).toNat

def floor : Double → Double := lift Float.floor
def ceil : Double → Double := lift Float.ceil
def sqrt : Double → Double := lift Float.sqrt

/-- The nearest integer, the one farther from zero of two. -/
def round : Double → Double := lift Float.round

def pow : Double → Double → Double := lift₂ Float.pow
def atan2 : Double → Double → Double := lift₂ Float.atan2

def degreesPerRadian : Double := ⟨0x404ca5dc1a63c1f8⟩

def radiansPerDegree : Double := ⟨0x3f91df46a2529d39⟩

def toDegrees (x : Double) : Double := x * degreesPerRadian
def toRadians (x : Double) : Double := x * radiansPerDegree

/-- The sum from left to right, starting at negative zero, so that zeros keep their sign. -/
def sum (xs : List Double) : Double := xs.foldl (· + ·) negativeZero

end Double
end GameScript
