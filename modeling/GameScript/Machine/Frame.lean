import GameScript.Heap.Basic
import GameScript.Library.Routine

/-! One activation of a routine: its registers, where it is, the parameters it has staged for the
next call and what it owes to whoever called it. Parameters passed by reference travel in cells of
memory, which belong to the frame that staged them until the call is over. -/

namespace GameScript

/-- A place for one result of a call, of the bank the caller asked for. -/
structure ResultSlot where
  bank : Bank
  value : Option Value
deriving DecidableEq, Repr

namespace ResultSlot

def empty (bank : Bank) : ResultSlot := ⟨bank, none⟩

/-- Stores a value of the right bank; `position` is the slot's number, for the message. -/
def set (slot : ResultSlot) (position : Nat) (value : Value) : Except Fault ResultSlot :=
  if value.bank = slot.bank then .ok { slot with value := some value }
  else .error (.returnMismatch position slot.bank value.bank)

/-- Takes over what another slot holds, if it holds anything. -/
def merge (slot update : ResultSlot) : ResultSlot :=
  match update.value with
  | some value => { slot with value := some value }
  | none => slot

end ResultSlot

/-- Slots updated by as many others as there are. -/
def mergeSlots : List ResultSlot → List ResultSlot → List ResultSlot
  | slot :: slots, update :: updates => slot.merge update :: mergeSlots slots updates
  | slots, _ => slots

/-- A register passed by reference and the cell that stands in for it. -/
structure Writeback where
  bank : Bank
  register : UInt16
  cell : BlockId
deriving DecidableEq, Repr

def Writeback.pointer (writeback : Writeback) : Pointer := .address ⟨writeback.cell, 0⟩

structure StagedParam where
  value : Value
  writeback : Option Writeback
deriving DecidableEq, Repr

structure ResultTarget where
  bank : Bank
  register : UInt16
deriving DecidableEq, Repr

structure PendingCall where
  targets : List ResultTarget
  writebacks : List Writeback
deriving DecidableEq, Repr

structure Frame where
  routine : LinkedRoutine
  registers : Banks
  /-- The next instruction. -/
  pc : Nat
  /-- The instruction fetched last. -/
  current : Nat
  staged : List StagedParam
  /-- The frame's own memory. -/
  extra : Option BlockId
  /-- Set while a routine called by this frame runs. -/
  pending : Option PendingCall
  results : List ResultSlot
  /-- One more than the highest result slot written. -/
  returned : Nat
  /-- The slots of a caller outside of scripts, as they were before the call; none when an
  instruction made the call. -/
  host : Option (List ResultSlot)
deriving DecidableEq, Repr

namespace Frame

/-- Puts arguments into registers, those of a bank from its first register on. `earlier` are the
arguments already placed. -/
def place (function : String) (registers : Banks) (earlier : List Value) :
    List Value → Except Fault Banks
  | [] => .ok registers
  | value :: rest =>
    let index := earlier.countP fun other => other.bank == value.bank
    if index < registers.size value.bank then do
      let registers ← registers.put index value
      place function registers (value :: earlier) rest
    else .error (.argumentsExceedFrame function value.bank)

/-- A frame about to run, with its own memory if its layout asks for any. -/
def fresh (routine : LinkedRoutine) (results : List Bank) (host : Option (List ResultSlot))
    (heap : Heap) (registers : Banks) : Frame × Heap :=
  let (extra, heap) :=
    if routine.layout.extraSpace = 0 then (none, heap)
    else
      let (block, heap) := heap.alloc routine.layout.extraSpace
      (some block, heap)
  ({
    routine, registers, pc := 0, current := 0, staged := [], extra, pending := none
    results := results.map ResultSlot.empty, returned := 0, host }, heap)

/-- A new frame with its arguments in place, and the heap that is left in either case. -/
def enter (routine : LinkedRoutine) (arguments : List Value) (results : List Bank)
    (host : Option (List ResultSlot)) (heap : Heap) : Except (Fault × Heap) (Frame × Heap) :=
  match place routine.name (.blank routine.layout.registers) [] arguments with
  | .error fault => .error (fault, heap)
  | .ok registers => .ok (fresh routine results host heap registers)

/-- The cells of the parameters that are staged or in use by a pending call. -/
def cells (frame : Frame) : List BlockId :=
  frame.staged.filterMap (fun param => param.writeback.map Writeback.cell) ++
    (match frame.pending with
      | some pending => pending.writebacks.map Writeback.cell
      | none => [])

/-- The blocks that end with the frame. -/
def owned (frame : Frame) : List BlockId := frame.extra.toList ++ frame.cells

def release (frame : Frame) (heap : Heap) : Heap := frame.owned.foldl Heap.freeIfLive heap

def extraPointer (frame : Frame) : Pointer :=
  match frame.extra with
  | some block => .address ⟨block, 0⟩
  | none => .null

/-- The pointers that keep objects alive on behalf of the frame. -/
def roots (frame : Frame) : List Pointer :=
  (frame.registers.pointers.toList ++
    frame.staged.filterMap (fun param => param.value.pointer?) ++
    (match frame.pending with
      | some pending => pending.writebacks.map Writeback.pointer
      | none => []) ++
    frame.routine.constants.pointers.toList ++ [frame.extraPointer]).filter fun p => !p.isNull

def site (frame : Frame) : Site := frame.routine.site frame.current

/-- Moves to an instruction `delta` words after `start`, at most to the end of the code. -/
def jump (frame : Frame) (start : Nat) (delta : Int) : Except Fault Frame :=
  let target := (start : Int) + delta
  if 0 ≤ target ∧ target ≤ frame.routine.code.size then .ok { frame with pc := target.toNat }
  else .error (.codeOutOfRange target.toNat frame.routine.code.size)

/-- The operation at an offset, if there is a word with a valid opcode. -/
def operationAt? (frame : Frame) (offset : Nat) : Option Operation :=
  (frame.routine.code[offset]?).bind fun word =>
    (Instruction.ofOpcode? word.opcode).map Instruction.operation

/-- Stores a returned value, if the caller asked for that many results. -/
def storeResult (frame : Frame) (position : Nat) (value : Value) : Except Fault Frame :=
  match frame.results[position]? with
  | none => .ok frame
  | some slot => do
    let slot ← slot.set position value
    return { frame with
      results := frame.results.set position slot
      returned := max frame.returned (position + 1) }

end Frame
end GameScript
