import GameScript.Fault

/-! A block of memory: bytes, and beside them the strings and pointers stored there. A stored string
or pointer takes eight bytes; writing over any of them drops it. Blocks can be large and are zero at
first, so only the bytes up to the last one written are kept, and the zeros behind them counted. -/

namespace GameScript

inductive Stored where
  | string (value : String)
  | pointer (value : Pointer)
deriving DecidableEq, Repr

structure Block where
  /-- The bytes up to the last one written. -/
  front : List UInt8
  /-- How many zero bytes follow them. -/
  blank : Nat
  /-- What is stored at which offset. -/
  refs : List (UInt32 × Stored)
deriving DecidableEq, Repr, Inhabited

namespace Block

/-- Bytes a stored string or pointer takes. -/
def refSize : Nat := 8

def zeroed (size : UInt32) : Block := ⟨[], size.toNat, []⟩

def size (block : Block) : Nat := block.front.length + block.blank

def bytes (block : Block) : List UInt8 := block.front ++ List.replicate block.blank 0

@[simp] theorem length_bytes (block : Block) : block.bytes.length = block.size := by
  simp [bytes, size]

@[simp] theorem bytes_zeroed (size : UInt32) : (zeroed size).bytes = List.replicate size.toNat 0 := rfl

/-- Fails unless `width` bytes from `offset` on lie in the block. -/
def check (block : Block) (offset : UInt32) (width : Nat) : Except Fault Unit :=
  if offset.toNat + width ≤ block.size then .ok ()
  else .error (.addressOutOfRange offset.toNat width block.size)

/-- Whether what is stored at `start` is touched by a write of `width` bytes at `offset`. -/
def touches (offset width start : Nat) : Bool :=
  start < offset + width && offset < start + refSize

def slice (block : Block) (offset width : Nat) : List UInt8 :=
  let known := (block.front.drop offset).take width
  known ++ List.replicate (width - known.length) 0

theorem slice_eq {block : Block} {offset width : Nat} (inside : offset + width ≤ block.size) :
    block.slice offset width = (block.bytes.drop offset).take width := by
  unfold size at inside
  simp only [slice, bytes, List.drop_append, List.take_append, List.length_take, List.length_drop,
    List.drop_replicate, List.take_replicate]
  congr 2
  omega

def read (block : Block) (offset : UInt32) (width : Nat) : Except Fault (List UInt8) := do
  block.check offset width
  return block.slice offset.toNat width

theorem read_eq (block : Block) (offset : UInt32) (width : Nat) :
    block.read offset width = (do
      block.check offset width
      return (block.bytes.drop offset.toNat).take width) := by
  unfold read check
  split
  next inside => rw [slice_eq inside]
  next => rfl

/-- The bytes from an offset on up to the first zero. -/
def text (block : Block) (offset : Nat) : List UInt8 :=
  (block.front.drop offset).takeWhile (· != 0)

theorem text_eq (block : Block) (offset : Nat) :
    block.text offset = (block.bytes.drop offset).takeWhile (· != 0) := by
  unfold text bytes
  rw [List.drop_append, List.drop_replicate, List.takeWhile_append]
  split
  next whole =>
    rw [List.takeWhile_replicate, if_neg (by decide), List.append_nil,
      (List.takeWhile_prefix _).eq_of_length whole]
  next => rfl

/-- Replaces bytes from an offset on and drops what is stored over any of them. -/
def splice (block : Block) (offset : Nat) (data : List UInt8) : Block where
  front := block.front.take offset ++ List.replicate (offset - block.front.length) 0 ++ data ++
    block.front.drop (offset + data.length)
  blank := block.size - max block.front.length (offset + data.length)
  refs := block.refs.filter fun entry => !touches offset data.length entry.1.toNat

theorem bytes_splice {block : Block} {offset : Nat} {data : List UInt8}
    (inside : offset + data.length ≤ block.size) :
    (block.splice offset data).bytes =
      block.bytes.take offset ++ data ++ block.bytes.drop (offset + data.length) := by
  unfold size at inside
  have before : min (offset - block.front.length) block.blank = offset - block.front.length := by
    omega
  have behind : block.blank - (offset + data.length - block.front.length) =
      block.size - max block.front.length (offset + data.length) := by
    unfold size
    omega
  simp only [splice, bytes, List.take_append, List.drop_append, List.take_replicate,
    List.drop_replicate, before, behind, List.append_assoc]

def write (block : Block) (offset : UInt32) (data : List UInt8) : Except Fault Block := do
  block.check offset data.length
  return block.splice offset.toNat data

def stored? (block : Block) (offset : UInt32) : Option Stored := block.refs.lookup offset

/-- The string at an offset, empty where nothing is stored. -/
def readString (block : Block) (offset : UInt32) : Except Fault String := do
  block.check offset refSize
  match block.stored? offset with
  | some (.string value) => return value
  | none => return ""
  | some (.pointer _) => .error (.slotMismatch offset .string)

/-- The pointer at an offset, null where nothing is stored. -/
def readPointer (block : Block) (offset : UInt32) : Except Fault Pointer := do
  block.check offset refSize
  match block.stored? offset with
  | some (.pointer value) => return value
  | none => return .null
  | some (.string _) => .error (.slotMismatch offset .pointer)

/-- Stores a string or pointer over eight zero bytes. -/
def store (block : Block) (offset : UInt32) (value : Stored) : Except Fault Block := do
  let cleared ← block.write offset (List.replicate refSize 0)
  return { cleared with refs := (offset, value) :: cleared.refs }

def writeString (block : Block) (offset : UInt32) (value : String) : Except Fault Block :=
  block.store offset (.string value)

/-- Stores a pointer; null is stored as nothing. -/
def writePointer (block : Block) (offset : UInt32) (value : Pointer) : Except Fault Block :=
  if value.isNull then block.write offset (List.replicate refSize 0)
  else block.store offset (.pointer value)

def pointers (block : Block) : List Pointer :=
  block.refs.filterMap fun
    | (_, .pointer value) => some value
    | (_, .string _) => none

end Block
end GameScript
