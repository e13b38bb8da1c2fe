import GameScript.Codec.Bytes
import GameScript.Machine.Frame

/-! Cells: memory that stands in for a register while a call may change it. -/

namespace GameScript

def Bank.cellSize : Bank → UInt32
  | .int => 4
  | .float => 8
  | .string => 8
  | .pointer => 8

namespace Heap

def writeValue (heap : Heap) (position : Address) : Value → Except Fault Heap
  | .int value => heap.writeBytes position (Codec.littleEndian 4 value.toUInt32.toNat)
  | .float value => heap.writeBytes position (Codec.littleEndian 8 value.bits.toNat)
  | .string value => heap.writeString position value
  | .pointer value => heap.writePointer position value

def readValue (heap : Heap) (bank : Bank) (position : Address) : Except Fault Value :=
  match bank with
  | .int => do
    let bytes ← heap.readBytes position 4
    return .int (UInt32.ofNat (Codec.ofLittleEndian bytes)).toInt32
  | .float => do
    let bytes ← heap.readBytes position 8
    return .float ⟨UInt64.ofNat (Codec.ofLittleEndian bytes)⟩
  | .string => do return .string (← heap.readString position)
  | .pointer => do return .pointer (← heap.readPointer position)

def box (heap : Heap) (value : Value) : Except Fault (BlockId × Heap) := do
  let (cell, heap) := heap.alloc value.bank.cellSize
  let heap ← heap.writeValue ⟨cell, 0⟩ value
  return (cell, heap)

def unbox (heap : Heap) (bank : Bank) (cell : BlockId) : Except Fault Value :=
  heap.readValue bank ⟨cell, 0⟩

end Heap

/-- Registers and memory after a call, with the first fault met. -/
structure Restored where
  registers : Banks
  heap : Heap
  fault : Option Fault

/-- Copies a cell back into its register and frees it. A fault that is known already stays. -/
def Restored.step (state : Restored) (writeback : Writeback) : Restored :=
  let copied := do
    state.registers.put writeback.register.toNat (← state.heap.unbox writeback.bank writeback.cell)
  let (registers, copyFault) := match copied with
    | .ok registers => (registers, none)
    | .error fault => (state.registers, some fault)
  let (heap, freeFault) := match state.heap.free writeback.cell with
    | .ok heap => (heap, none)
    | .error fault => (state.heap, some fault)
  ⟨registers, heap, state.fault <|> copyFault <|> freeFault⟩

/-- Copies all cells back and frees them, whatever fault one of them has. -/
def restore (registers : Banks) (heap : Heap) (writebacks : List Writeback) : Restored :=
  writebacks.foldl Restored.step ⟨registers, heap, none⟩

/-- Puts results into the registers they are for. Empty slots leave their register alone;
`position` is the number of the first slot. -/
def deliver (registers : Banks) (position : Nat) :
    List ResultTarget → List ResultSlot → Except Fault Banks
  | target :: targets, slot :: slots =>
    match slot.value with
    | none => deliver registers (position + 1) targets slots
    | some value =>
      if value.bank = target.bank then do
        let registers ← registers.put target.register.toNat value
        deliver registers (position + 1) targets slots
      else .error (.returnMismatch position target.bank value.bank)
  | _, _ => .ok registers

end GameScript
