import GameScript.Heap.Arena
import GameScript.Heap.Block
import GameScript.Heap.Classes
import GameScript.Text.Utf8

/-! The memory that scripts see: blocks, and objects, each of which pairs a class with a block of the
size of that class. -/

namespace GameScript

structure Object where
  ofClass : ClassId
  block : BlockId
deriving DecidableEq, Repr

structure Heap where
  blocks : Arena Block
  objects : Arena Object
  classes : Classes
deriving Repr

namespace Heap

def empty : Heap := ⟨.empty, .empty, .empty⟩

instance : Inhabited Heap := ⟨empty⟩

def alloc (heap : Heap) (size : UInt32) : BlockId × Heap :=
  let (handle, blocks) := heap.blocks.insert (.zeroed size)
  (⟨handle⟩, { heap with blocks })

def free (heap : Heap) (block : BlockId) : Except Fault Heap :=
  match heap.blocks.remove? block.handle with
  | some (_, blocks) => .ok { heap with blocks }
  | none => .error (.dangling .block block.handle.index)

def freeIfLive (heap : Heap) (block : BlockId) : Heap :=
  match heap.free block with
  | .ok freed => freed
  | .error _ => heap

def newObject (heap : Heap) (id : ClassId) : Except Fault (ObjectRef × Heap) :=
  match heap.classes.get? id with
  | none => .error (.dangling .class_ id.index)
  | some info =>
    let (block, heap) := heap.alloc info.size
    let (handle, objects) := heap.objects.insert ⟨id, block⟩
    .ok (⟨handle⟩, { heap with objects })

def object (heap : Heap) (ref : ObjectRef) : Except Fault Object :=
  match heap.objects.get? ref.handle with
  | some object => .ok object
  | none => .error (.dangling .object ref.handle.index)

def objectClass (heap : Heap) (ref : ObjectRef) : Except Fault ClassId :=
  (heap.object ref).map Object.ofClass

def isKindOf (heap : Heap) (ref : ObjectRef) (id : ClassId) : Bool :=
  match heap.object ref with
  | .ok object => heap.classes.descends object.ofClass id
  | .error _ => false

def liveBlocks (heap : Heap) : Nat := heap.blocks.live
def liveObjects (heap : Heap) : Nat := heap.objects.live

/-- The address a pointer stands for as the base of an access; none for null. -/
def resolve (heap : Heap) : Pointer → Except Fault (Option Address)
  | .null => .ok none
  | .address position => .ok (some position)
  | .object ref => (heap.object ref).map fun object => some ⟨object.block, 0⟩
  | pointer => .error (.notAddressable pointer)

def block (heap : Heap) (id : BlockId) : Except Fault Block :=
  match heap.blocks.get? id.handle with
  | some block => .ok block
  | none => .error (.dangling .block id.handle.index)

/-- Moves an address within its block, at most to just behind the last byte. -/
def displace (heap : Heap) (position : Address) (delta : Int) : Except Fault Address := do
  let block ← heap.block position.block
  let target := (position.offset.toNat : Int) + delta
  if 0 ≤ target ∧ target ≤ block.size then
    .ok { position with offset := UInt32.ofNat target.toNat }
  else .error (.addressOutOfRange target 0 block.size)

def update (heap : Heap) (position : Address)
    (change : Block → UInt32 → Except Fault Block) : Except Fault Heap := do
  let block ← heap.block position.block
  let block ← change block position.offset
  return { heap with blocks := heap.blocks.set position.block.handle block }

def readBytes (heap : Heap) (position : Address) (width : Nat) : Except Fault (List UInt8) := do
  let block ← heap.block position.block
  block.read position.offset width

def writeBytes (heap : Heap) (position : Address) (data : List UInt8) : Except Fault Heap :=
  heap.update position fun block offset => block.write offset data

def readString (heap : Heap) (position : Address) : Except Fault String := do
  let block ← heap.block position.block
  block.readString position.offset

def writeString (heap : Heap) (position : Address) (value : String) : Except Fault Heap :=
  heap.update position fun block offset => block.writeString offset value

def readPointer (heap : Heap) (position : Address) : Except Fault Pointer := do
  let block ← heap.block position.block
  block.readPointer position.offset

def writePointer (heap : Heap) (position : Address) (value : Pointer) : Except Fault Heap :=
  heap.update position fun block offset => block.writePointer offset value

/-- The text from an address up to a zero byte or the end of the block. -/
def readText (heap : Heap) (position : Address) : Except Fault String := do
  let block ← heap.block position.block
  block.check position.offset 0
  return Text.ofUtf8Lossy (block.text position.offset.toNat)

end Heap
end GameScript
