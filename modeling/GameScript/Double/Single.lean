import GameScript.Double.Basic

/-! Single-precision numbers, which scripts only meet in memory: reading one widens it and storing
one rounds to the nearest. A NaN keeps its sign and its leading bits and becomes quiet. -/

namespace GameScript

structure Single where
  bits : UInt32
deriving DecidableEq, Repr, Inhabited

namespace Single

def isNaN (x : Single) : Bool := x.bits &&& 0x7fffffff > 0x7f800000

def widen (x : Single) : Double :=
  if x.isNaN then
    let bits := x.bits.toUInt64
    let sign : UInt64 := (bits >>> 31) <<< 63
    let payload : UInt64 := (bits &&& 0x7fffff) <<< 29
    { bits := sign ||| 0x7ff8000000000000 ||| payload }
  else .ofFloat (Float32.ofBits x.bits).toFloat

def narrow (x : Double) : Single :=
  if x.isNaN then
    let sign : UInt32 := ((x.bits >>> 63) <<< 31).toUInt32
    let payload : UInt32 := ((x.bits >>> 29) &&& 0x7fffff).toUInt32
    { bits := sign ||| 0x7fc00000 ||| payload }
  else ⟨x.toFloat.toFloat32.toBits⟩

end Single
end GameScript
