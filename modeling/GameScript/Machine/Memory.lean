import GameScript.Double.Single
import GameScript.Machine.Action

/-! Loads and stores. An access goes to a base, from a pointer register, plus an offset. A null base
aborts the script; an address outside its block is a fault. -/

namespace GameScript.Action

/-- The address `offset` bytes after what a pointer register points to; `nil` is the abort for a
null base. -/
def locate (base : Nat) (offset : Action Int32) (nil : AbortKind) : Action Address := do
  let pointer ← register .pointer base
  let offset ← offset
  match ← ofExcept ((← heap).resolve pointer) with
  | some position => ofExcept ((← heap).displace position offset.toInt)
  | none => abort nil

/-- The unsigned number in the next `width` bytes. -/
def readNat (position : Address) (width : Nat) : Action Nat := do
  return Codec.ofLittleEndian (← ofExcept ((← heap).readBytes position width))

def readDouble (position : Address) : Action Double := do
  return ⟨UInt64.ofNat (← readNat position 8)⟩

/-- The doubles that follow each other from an address on. -/
def readVector (position : Address) : (count : Nat) → Action (Vector Double count)
  | 0 => return #v[]
  | count + 1 => do
    let front ← readVector position count
    let next ← ofExcept ((← heap).displace position (count * 8))
    return front.push (← readDouble next)

def writeBytes (position : Address) (data : List UInt8) : Action Unit :=
  updateHeap (·.writeBytes position data)

def writeString (position : Address) (value : String) : Action Unit :=
  updateHeap (·.writeString position value)

def writePointer (position : Address) (value : Pointer) : Action Unit :=
  updateHeap (·.writePointer position value)

def notify (stored : Option ObjectRef) : Action Unit := do setWorld ((← get).world.notify stored)

/-- The text that a stored pointer leads to, empty for null. -/
def readIndirect (position : Address) : Action String := do
  let target ← ofExcept ((← heap).readPointer position)
  match ← ofExcept ((← heap).resolve target) with
  | some start => ofExcept ((← heap).readText start)
  | none => return ""

def load (w : Word) (kind : LoadKind) (offset : Source) : Action Unit := do
  let position ← locate w.b.toNat (fetch offset .int w.c.toNat) .readNil
  let target := w.a.toNat
  match kind with
  | .int8 => setRegister .int target (UInt8.ofNat (← readNat position 1)).toInt8.toInt32
  | .uint8 => setRegister .int target (Int32.ofNat (← readNat position 1))
  | .int16 => setRegister .int target (UInt16.ofNat (← readNat position 2)).toInt16.toInt32
  | .uint16 => setRegister .int target (Int32.ofNat (← readNat position 2))
  | .int32 => setRegister .int target (UInt32.ofNat (← readNat position 4)).toInt32
  | .single =>
    setRegister .float target (Single.mk (UInt32.ofNat (← readNat position 4))).widen
  | .double => setRegister .float target (← readDouble position)
  | .string => setRegister .string target (← ofExcept ((← heap).readString position))
  | .indirectText => setRegister .string target (← readIndirect position)
  | .pointer => setRegister .pointer target (← ofExcept ((← heap).readPointer position))
  | .vector dimension => setVector target (← readVector position dimension.size)

/-- Whether some bit of the mask in C is set in the byte at a pointer. -/
def loadBits (w : Word) : Action Unit := do
  let position ← locate w.b.toNat (pure 0) .readNil
  let byte := UInt8.ofNat (← readNat position 1)
  setRegister .int w.a.toNat (if byte &&& w.c ≠ 0 then (1 : Int32) else 0)

def store (w : Word) (kind : StoreKind) (offset : Source) : Action Unit := do
  let target := locate w.a.toNat (fetch offset .int w.c.toNat) .writeNil
  let integer (width : Nat) : Action Unit := do
    let value ← register .int w.b.toNat
    writeBytes (← target) (Codec.littleEndian width value.toUInt32.toNat)
  match kind with
  | .int8 => integer 1
  | .int16 => integer 2
  | .int32 => integer 4
  | .single =>
    let value ← register .float w.b.toNat
    writeBytes (← target) (Codec.littleEndian 4 (Single.narrow value).bits.toNat)
  | .double =>
    let value ← register .float w.b.toNat
    writeBytes (← target) (Codec.littleEndian 8 value.bits.toNat)
  | .string =>
    let value ← register .string w.b.toNat
    writeString (← target) value
  | .object =>
    let value ← register .pointer w.b.toNat
    unless value.isNull || value.object?.isSome do fault (.notAnObject value)
    writePointer (← target) value
    notify value.object?
  | .pointer =>
    let value ← register .pointer w.b.toNat
    writePointer (← target) value
  | .vector dimension =>
    let components ← vector dimension.size w.b.toNat
    writeBytes (← target)
      (components.toList.flatMap fun x => Codec.littleEndian 8 x.bits.toNat)

/-- Sets the bits of the mask in C in the byte at a pointer, or clears them for a zero. -/
def storeBits (w : Word) : Action Unit := do
  let value ← register .int w.b.toNat
  let position ← locate w.a.toNat (pure 0) .writeNil
  let byte := UInt8.ofNat (← readNat position 1)
  writeBytes position [if value ≠ 0 then byte ||| w.c else byte &&& ~~~w.c]

/-- Moves a pointer by an offset; null stays null. -/
def addressAdd (w : Word) (offset : Source) : Action Unit := do
  let base ← register .pointer w.b.toNat
  let delta ← fetch offset .int w.c.toNat
  match ← ofExcept ((← heap).resolve base) with
  | none => setRegister .pointer w.a.toNat .null
  | some position =>
    let moved ← ofExcept ((← heap).displace position (Int32.toInt delta))
    setRegister .pointer w.a.toNat (.address moved)

/-- The distance in bytes between two pointers into one block, zero between two nulls. -/
def addressDistance (w : Word) : Action Unit := do
  let left ← register .pointer w.b.toNat
  let right ← register .pointer w.c.toNat
  let leftPosition ← ofExcept ((← heap).resolve left)
  let rightPosition ← ofExcept ((← heap).resolve right)
  match leftPosition, rightPosition with
  | none, none => setRegister .int w.a.toNat (0 : Int32)
  | some x, some y =>
    if x.block = y.block then
      setRegister .int w.a.toNat (Int32.ofInt (x.offset.toNat - y.offset.toNat))
    else fault (.unrelatedPointers left right)
  | _, _ => fault (.unrelatedPointers left right)

end GameScript.Action
