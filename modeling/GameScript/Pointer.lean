import GameScript.Text.Integer

/-! Pointers that scripts hold: nothing, a byte position in a block of memory, a managed object, a
class or a function. Blocks and objects are named by handles, which say which use of a slot is
meant. -/

namespace GameScript

/-- A slot of an arena and which of its uses is meant. -/
structure Handle where
  index : UInt32
  generation : UInt32
deriving DecidableEq, Repr, Inhabited

structure BlockId where
  handle : Handle
deriving DecidableEq, Repr, Inhabited

structure ObjectRef where
  handle : Handle
deriving DecidableEq, Repr, Inhabited

structure ClassId where
  index : UInt32
deriving DecidableEq, Repr, Inhabited

structure FunctionId where
  index : UInt32
deriving DecidableEq, Repr, Inhabited

/-- A byte position in a block. -/
structure Address where
  block : BlockId
  offset : UInt32
deriving DecidableEq, Repr, Inhabited

inductive Pointer where
  | null
  | address (position : Address)
  | object (ref : ObjectRef)
  | class_ (id : ClassId)
  | function (id : FunctionId)
deriving DecidableEq, Repr, Inhabited

namespace Pointer

def isNull : Pointer → Bool
  | .null => true
  | _ => false

def object? : Pointer → Option ObjectRef
  | .object ref => some ref
  | _ => none

/-- The number shown for a pointer. Addresses lie below `2 ^ 60` for as long as there are few
enough blocks, objects, classes and functions each in a range of their own above. -/
def number : Pointer → UInt64
  | .null => 0
  | .address position =>
    ((position.block.handle.index.toUInt64 + 1) <<< 32) ||| position.offset.toUInt64
  | .object ref => (0x1000000000000000 : UInt64) ||| ((ref.handle.index.toUInt64 + 1) <<< 16)
  | .class_ id => (0x2000000000000000 : UInt64) ||| id.index.toUInt64
  | .function id => (0x3000000000000000 : UInt64) ||| id.index.toUInt64

def text : Pointer → String
  | .null => "null"
  | pointer => "0x" ++ Text.hex pointer.number.toNat

end Pointer
end GameScript
