import GameScript.Config
import GameScript.Machine.Cell
import GameScript.Machine.World

/-! What an instruction does to the frame it runs in and to the world. An action that aborts keeps
what it has done to the world by then. -/

namespace GameScript

structure Local where
  frame : Frame
  world : World

abbrev Action := EStateM Abort Local

namespace Action

def ofExcept : Except Fault α → Action α
  | .ok value => pure value
  | .error fault => throw (.ofFault fault)

def abort (kind : AbortKind) : Action α := throw (.of kind)

def fault (fault : Fault) : Action α := throw (.ofFault fault)

def frame : Action Frame := do return (← get).frame

def heap : Action Heap := do return (← get).world.heap

def setFrame (frame : Frame) : Action Unit := modify fun state => { state with frame }

def setWorld (world : World) : Action Unit := modify fun state => { state with world }

def updateHeap (change : Heap → Except Fault Heap) : Action Unit := do
  let world := (← get).world
  setWorld { world with heap := ← ofExcept (change world.heap) }

def register (bank : Bank) (index : Nat) : Action bank.Content := do
  ofExcept ((← frame).registers.register bank index)

def setRegister (bank : Bank) (index : Nat) (content : bank.Content) : Action Unit := do
  let frame ← frame
  setFrame { frame with registers := ← ofExcept (frame.registers.setRegister bank index content) }

def constant (bank : Bank) (index : Nat) : Action bank.Content := do
  ofExcept ((← frame).routine.constants.constant bank index)

def vector (count start : Nat) : Action (Vector Double count) := do
  ofExcept ((← frame).registers.vector count start)

def setVector (start : Nat) (components : Vector Double count) : Action Unit := do
  let frame ← frame
  setFrame { frame with registers := ← ofExcept (frame.registers.setVector start components) }

def fetch (source : Source) (bank : Bank) (index : Nat) : Action bank.Content :=
  match source with
  | .register => register bank index
  | .constant => constant bank index

/-- An integer operand whose field holds `field`. -/
def fetchInt (source : IntSource) (field : UInt16) : Action Int32 :=
  match source with
  | .register => register .int field.toNat
  | .constant => constant .int field.toNat
  | .byte | .half => return Int32.ofNat field.toNat
  | .signedByte => return field.toUInt8.toInt8.toInt32

def fetchVector (source : Source) (count start : Nat) : Action (Vector Double count) :=
  match source with
  | .register => vector count start
  | .constant => do ofExcept ((← frame).routine.constants.constantVector count start)

/-- After a comparison: the following word must be a jump, which is taken when the outcome is the
one to check for and passed over otherwise. -/
def branch (mnemonic : String) (outcome check : Bool) : Action Unit := do
  let frame ← frame
  if frame.operationAt? frame.pc = some .jump then
    if outcome ≠ check then setFrame { frame with pc := frame.pc + 1 }
  else fault (.expectedJump mnemonic frame.pc)

end Action
end GameScript
