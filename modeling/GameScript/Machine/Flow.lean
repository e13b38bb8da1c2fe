import GameScript.Machine.Action
import GameScript.Library.Basic

/-! Jumps, checks, the staging of parameters, and the two ends of a call as the calling and the
called frame see them. -/

namespace GameScript.Action

def jump (w : Word) : Action Unit := do
  let frame ← frame
  setFrame (← ofExcept (frame.jump frame.pc w.abc.toInt))

/-- Follows entry A of the list of jumps that starts BC words after the next instruction. -/
def jumpTable (mnemonic : String) (w : Word) : Action Unit := do
  let frame ← frame
  let entry ← register .int w.a.toNat
  let slot : Int := frame.pc + w.signedBC.toInt + Int32.toInt entry
  let found := if 0 ≤ slot then frame.routine.code[slot.toNat]? else none
  match found with
  | some word =>
    if frame.operationAt? slot.toNat = some .jump then
      setFrame (← ofExcept (frame.jump (slot.toNat + 1) word.abc.toInt))
    else fault (.expectedJump mnemonic slot.toNat)
  | none => fault (.expectedJump mnemonic slot.toNat)

/-- Aborts unless the index in A is not negative and below the limit. -/
def bound (w : Word) (limit : IntSource) : Action Unit := do
  let index ← register .int w.a.toNat
  let field := match limit with
    | .register => w.b.toUInt16
    | _ => w.bc
  let limit ← fetchInt limit field
  let shown := toString (Int32.toInt index)
  if index < (0 : Int32) then throw (.withDetail .negativeIndex ("index = " ++ shown))
  else if limit ≤ index then
    throw (.withDetail .indexOutOfBounds
      ("max index = " ++ toString (limit.toInt - 1) ++ ", current index = " ++ shown))

/-- A constant whose number is a register plus the field C. -/
def constantAt (bank : Bank) (w : Word) : Action Unit := do
  let base ← register .int w.b.toNat
  let index : Int := Int32.toInt base + w.c.toNat
  if 0 ≤ index ∧ index < UInt16.size then
    setRegister bank w.a.toNat (← constant bank index.toNat)
  else fault (.constantOutOfRange bank index.toNat 0)

/-- Compares strings by their characters, with `approx` regardless of case. -/
def compareStrings (mnemonic : String) (w : Word) : Action Unit := do
  let left : String ← register .string w.b.toNat
  let right : String ← register .string w.c.toNat
  let flags := CompareField.mk w.a
  let left := if flags.approx then Text.fold left else left
  let right := if flags.approx then Text.fold right else right
  let mode ← ofExcept (Fault.ofSelector flags.mode)
  let outcome := match mode with
    | .eq => left == right
    | .lt => decide (left < right)
    | .le => !decide (right < left)
  branch mnemonic outcome flags.check

/-- Ends the routine with an abort; an empty constant gives no detail. -/
def raise (w : Word) : Action α := do
  let kind ← ofExcept (Fault.ofSelector (AbortKind.ofCode w.a))
  let detail : String ← constant .string w.bc.toNat
  throw (if detail.isEmpty then .of kind else .withDetail kind detail)

/-- Fails unless `count` more parameters may be staged. -/
def room (count : Nat) : Action Unit := do
  let frame ← frame
  let capacity := frame.routine.layout.maxParam.toNat
  if capacity < frame.staged.length + count then fault (.stagingOverflow capacity)

def stage (params : List StagedParam) : Action Unit := do
  let frame ← frame
  setFrame { frame with staged := frame.staged ++ params }

def valueOf (source : Source) (bank : Bank) (index : Nat) : Action Value := do
  return .of bank (← fetch source bank index)

/-- The registers of a float vector as parameters. -/
def vectorParams (index : UInt16) : Nat → Action (List StagedParam)
  | 0 => return []
  | count + 1 => do
    let value ← valueOf .register .float index.toNat
    return ⟨value, none⟩ :: (← vectorParams (index + 1) count)

/-- Stages the address of a new cell with a register's value. -/
def stageReference (bank : Bank) (index : UInt16) : Action Unit := do
  let value ← valueOf .register bank index.toNat
  let world := (← get).world
  let (cell, heap) ← ofExcept (world.heap.box value)
  setWorld { world with heap }
  stage [⟨.pointer (.address ⟨cell, 0⟩), some ⟨bank, index, cell⟩⟩]

/-- Stages what a tag and an index name: a constant, a register, the registers of a vector, or by
reference the address of a new cell with the register's value. The nil tag has all flags, so it is
refused as a vector by reference. -/
def param (mnemonic : String) (w : Word) : Action Unit := do
  let operand := w.tagAIndexBC
  let tag ← ofExcept (Fault.ofSelector operand.tag.validate)
  if 1 < tag.width && tag.isReference then fault (.unsupportedOperand mnemonic tag)
  room tag.width
  let index := operand.index.toNat
  if tag.isConstant then stage [⟨← valueOf .constant tag.bank index, none⟩]
  else if 1 < tag.width then stage (← vectorParams operand.index tag.width)
  else if tag.isReference then stageReference tag.bank operand.index
  else stage [⟨← valueOf .register tag.bank index, none⟩]

def paramImmediate (w : Word) : Action Unit := do
  room 1
  stage [⟨.int w.abc, none⟩]

/-- The register a result marker names. -/
def resultTarget (offset : Nat) : Action ResultTarget := do
  let frame ← frame
  match frame.routine.code[offset]? with
  | none => fault (.expectedResult offset)
  | some word =>
    if frame.operationAt? offset = some .result then
      let operand := word.tagAIndexB
      let tag ← ofExcept (Fault.ofSelector operand.tag.validate)
      if tag.isNil || tag.isConstant || tag.isReference || 1 < tag.width then
        fault (.unsupportedOperand "RESULT" tag)
      else return ⟨tag.bank, operand.index⟩
    else fault (.expectedResult offset)

/-- The registers named by the next result markers. -/
def resultTargets (offset : Nat) : Nat → Action (List ResultTarget)
  | 0 => return []
  | count + 1 => do
    let target ← resultTarget offset
    return target :: (← resultTargets (offset + 1) count)

structure CallRequest (ν : Type) where
  callee : Callable ν
  arguments : List Value
  pending : PendingCall

/-- The function that the pointer in A names. -/
def callee (library : Library ν) (w : Word) (target : Source) : Action (Callable ν) := do
  match ← fetch target .pointer w.a.toNat with
  | .function id => ofExcept (library.get id)
  | pointer => fault (.notAFunction pointer)

/-- Takes the last parameters off the staging area. `running` functions are active, of at most
`limit`. -/
def unstage (running limit taken : Nat) : Action (List StagedParam) := do
  let frame ← frame
  let available := frame.staged.length
  if available < taken then fault (.stagingUnderflow taken available)
  else if limit ≤ running then throw (.withDetail .other "call stack overflow")
  else
    setFrame { frame with staged := frame.staged.take (available - taken) }
    return frame.staged.drop (available - taken)

/-- The calling side of a call: finds the function, reads the result markers behind the instruction
and takes the parameters. -/
def call (library : Library ν) (running limit : Nat) (w : Word) (target : Source) :
    Action (CallRequest ν) := do
  let callee ← callee library w target
  let frame ← frame
  let targets ← resultTargets frame.pc w.c.toNat
  setFrame { frame with pc := frame.pc + w.c.toNat }
  let params ← unstage running limit w.b.toNat
  return ⟨callee, params.map StagedParam.value, targets, params.filterMap StagedParam.writeback⟩

def storeResult (position : Nat) (value : Value) : Action Unit := do
  setFrame (← ofExcept ((← frame).storeResult position value))

/-- Stores what a tag and an index name as a result; the nil tag stores nothing. -/
def ret (mnemonic : String) (w : Word) : Action Unit := do
  let operand := w.tagBIndexC
  let tag ← ofExcept (Fault.ofSelector operand.tag.validate)
  unless tag.isNil do
    if 1 < tag.width || tag.isReference then fault (.unsupportedOperand mnemonic tag)
    let source := if tag.isConstant then Source.constant else .register
    storeResult (ReturnField.mk w.a).slot (← valueOf source tag.bank operand.index.toNat)

def retImmediate (w : Word) : Action Unit :=
  storeResult (ReturnField.mk w.a).slot (.int w.signedBC.toInt32)

end GameScript.Action
