import GameScript.Machine.Action

/-! Integer, float and vector arithmetic and comparisons. -/

namespace GameScript

def divisor (value : Int32) : Except Abort Int32 :=
  if value = 0 then .error (.of .divisionByZero) else .ok value

def floatDivisor (value : Double) : Except Abort Double :=
  if value.same .zero then .error (.of .divisionByZero) else .ok value

/-- Shifts take the amount modulo 32, and division goes toward zero. -/
def IntFunction.apply (x y : Int32) : IntFunction → Except Abort Int32
  | .shiftLeft => .ok (x <<< (y &&& 31))
  | .shiftRight => .ok (x.toUInt32 >>> (y.toUInt32 &&& 31)).toInt32
  | .shiftRightSigned => .ok (x >>> (y &&& 31))
  | .add => .ok (x + y)
  | .sub => .ok (x - y)
  | .mul => .ok (x * y)
  | .div => do return x / (← divisor y)
  | .divUnsigned => do return (x.toUInt32 / (← divisor y).toUInt32).toInt32
  | .mod => do return x % (← divisor y)
  | .modUnsigned => do return (x.toUInt32 % (← divisor y).toUInt32).toInt32
  | .and => .ok (x &&& y)
  | .or => .ok (x ||| y)
  | .xor => .ok (x ^^^ y)
  | .min => .ok (if x ≤ y then x else y)
  | .max => .ok (if x ≤ y then y else x)
  | .minUnsigned => .ok (if x.toUInt32 ≤ y.toUInt32 then x else y)
  | .maxUnsigned => .ok (if x.toUInt32 ≤ y.toUInt32 then y else x)

def IntUnary.apply (x : Int32) : IntUnary → Int32
  | .abs => if x < 0 then -x else x
  | .neg => -x
  | .not => ~~~x

def IntRelation.holds (x y : Int32) : IntRelation → Bool
  | .eq => x == y
  | .lt => x < y
  | .le => x ≤ y
  | .ltUnsigned => x.toUInt32 < y.toUInt32
  | .leUnsigned => x.toUInt32 ≤ y.toUInt32

/-- The low `bits` bits, of which there are 1 to 32, as a signed number. -/
def signExtend (bits : UInt8) (x : Int32) : Int32 :=
  let shift := Int32.ofNat (32 - bits.toNat)
  (x <<< shift) >>> shift

/-- The remainder has the sign of the divisor, and angles are in degrees. -/
def FloatBinary.apply (x y : Double) : FloatBinary → Except Abort Double
  | .add => .ok (x + y)
  | .sub => .ok (x - y)
  | .mul => .ok (x * y)
  | .div => do return x / (← floatDivisor y)
  | .mod => do
    let y ← floatDivisor y
    return x - (x / y).floor * y
  | .pow => .ok (x.pow y)
  | .min => .ok (x.min y)
  | .max => .ok (x.max y)
  | .atan2 => .ok (x.atan2 y).toDegrees

def FloatRelation.holds (x y : Double) : FloatRelation → Bool
  | .eq => x.same y
  | .lt => x.lt y
  | .le => x.le y

/-- The relation up to `epsilon`. -/
def FloatRelation.nearly (epsilon x y : Double) : FloatRelation → Bool
  | .eq => (x - y).abs.lt epsilon
  | .lt => (x - y).lt (-epsilon)
  | .le => (x - y).le epsilon

def VectorFunction.apply : VectorFunction → Double → Double → Double
  | .add => (· + ·)
  | .sub => (· - ·)

def dotProduct (x y : Vector Double count) : Double := Double.sum (Vector.zipWith (· * ·) x y).toList

def crossProduct (x y : Vector Double 3) : Vector Double 3 :=
  #v[x[1] * y[2] - x[2] * y[1], x[2] * y[0] - x[0] * y[2], x[0] * y[1] - x[1] * y[0]]

/-- Whether all components are the same, or with `approx` closer than `epsilon`. -/
def vectorsEqual (approx : Bool) (epsilon : Double) (x y : Vector Double count) : Bool :=
  (Vector.zipWith (fun p q => if approx then FloatRelation.eq.nearly epsilon p q else p.same q)
    x y).all id

namespace Action

def ofAbort : Except Abort α → Action α
  | .ok value => pure value
  | .error abort => throw abort

def intBinary (w : Word) (f : IntFunction) (left right : IntSource) : Action Unit := do
  let x ← fetchInt left w.b.toUInt16
  let y ← fetchInt right w.c.toUInt16
  setRegister .int w.a.toNat (← ofAbort (f.apply x y))

def intCompare (mnemonic : String) (w : Word) (relation : IntRelation) (left right : IntSource) :
    Action Unit := do
  let x ← fetchInt left w.b.toUInt16
  let y ← fetchInt right w.c.toUInt16
  branch mnemonic (relation.holds x y) (CompareField.mk w.a).check

def floatBinary (w : Word) (f : FloatBinary) (left right : Source) : Action Unit := do
  let x ← fetch left .float w.b.toNat
  let y ← fetch right .float w.c.toNat
  setRegister .float w.a.toNat (← ofAbort (f.apply x y))

def floatCompare (mnemonic : String) (epsilon : Double) (w : Word) (relation : FloatRelation)
    (left right : Source) : Action Unit := do
  let x ← fetch left .float w.b.toNat
  let y ← fetch right .float w.c.toNat
  let flags := CompareField.mk w.a
  let outcome := if flags.approx then relation.nearly epsilon x y else relation.holds x y
  branch mnemonic outcome flags.check

def vectorScale (w : Word) (divide : Bool) (count : Nat) (scalar : Source) : Action Unit := do
  let factor ← fetch scalar .float w.c.toNat
  let components ← vector count w.b.toNat
  if divide then
    let factor ← ofAbort (floatDivisor factor)
    setVector w.a.toNat (components.map fun x => x / factor)
  else setVector w.a.toNat (components.map fun x => x * factor)

def vectorEqual (mnemonic : String) (epsilon : Double) (w : Word) (count : Nat) (right : Source) :
    Action Unit := do
  let x ← vector count w.b.toNat
  let y ← fetchVector right count w.c.toNat
  let flags := CompareField.mk w.a
  branch mnemonic (vectorsEqual flags.approx epsilon x y) flags.check

end Action
end GameScript
