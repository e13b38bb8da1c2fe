import GameScript.Machine.Arithmetic
import GameScript.Machine.Cast
import GameScript.Machine.Flow
import GameScript.Machine.Memory

/-! Every instruction as an action. -/

namespace GameScript

/-- What is to happen after an instruction. -/
inductive Next (ν : Type) where
  /-- The frame goes on. -/
  | proceed
  /-- A function is called. -/
  | call (request : Action.CallRequest ν)
  /-- The frame has returned. -/
  | finish

/-- What an instruction may look at besides its frame and the world. -/
structure Setting (ν : Type) where
  config : Config
  library : Library ν
  /-- How many functions are running. -/
  depth : Nat

/-- After a return: the frame ends if the return field says so. -/
def Next.afterReturn (w : Word) : Next ν := if (ReturnField.mk w.a).isFinal then .finish else .proceed

namespace Action

/-- An operation that stays in its frame; the control transfers are left to `perform`. -/
def compute (epsilon : Double) (mnemonic : String) (w : Word) : Operation → Action Unit
  | .nop => return
  | .loadImmediate => setRegister .int w.a.toNat w.signedBC.toInt32
  | .loadConstant bank => do setRegister bank w.a.toNat (← constant bank w.bc.toNat)
  | .loadConstantAt bank => constantAt bank w
  | .frameAddress => do setRegister .pointer w.a.toNat (← frame).extraPointer
  | .objectClass => objectClass w
  | .move bank => do setRegister bank w.a.toNat (← register bank w.b.toNat)
  | .moveVector dimension => do setVector w.a.toNat (← vector dimension.size w.b.toNat)
  | .load kind offset => load w kind offset
  | .loadBits => loadBits w
  | .store kind offset => store w kind offset
  | .storeBits => storeBits w
  | .cast => cast w
  | .castBool => castBool w
  | .castObject target => castObject w target
  | .castClass target => castClass w target
  | .test => do
    let value : Int32 ← register .int w.a.toNat
    branch mnemonic (value == Int32.ofNat w.bc.toNat) true
  | .testNegated => do
    let value : Int32 ← register .int w.a.toNat
    branch mnemonic (-value == Int32.ofNat w.bc.toNat) true
  | .jump => jump w
  | .jumpTable => jumpTable mnemonic w
  | .param => param mnemonic w
  | .paramImmediate => paramImmediate w
  | .virtual => virtual w
  | .result => do fault (.strayResult (← frame).current)
  | .throw => raise w
  | .bound limit => bound w limit
  | .concat => do
    let left : String ← register .string w.b.toNat
    let right : String ← register .string w.c.toNat
    setRegister .string w.a.toNat (left ++ right)
  | .stringLength => do
    let text : String ← register .string w.b.toNat
    setRegister .int w.a.toNat (Int32.ofNat (Text.byteLength text))
  | .compareStrings => compareStrings mnemonic w
  | .intBinary f left right => intBinary w f left right
  | .intUnary f => do setRegister .int w.a.toNat (f.apply (← register .int w.b.toNat))
  | .signExtend => do
    unless 0 < w.c && w.c ≤ 32 do fault (.unknownSelector ⟨.signExtension, w.c⟩)
    setRegister .int w.a.toNat (signExtend w.c (← register .int w.b.toNat))
  | .intCompare relation left right => intCompare mnemonic w relation left right
  | .floatBinary f left right => floatBinary w f left right
  | .floatFunction => do
    let f ← ofExcept (Fault.ofSelector (FloatFunction.ofCode w.c))
    setRegister .float w.a.toNat (f.apply (← register .float w.b.toNat))
  | .floatCompare relation left right => floatCompare mnemonic epsilon w relation left right
  | .vectorNegate dimension => do
    setVector w.a.toNat ((← vector dimension.size w.b.toNat).map fun x => -x)
  | .vectorBinary f dimension => do
    let x ← vector dimension.size w.b.toNat
    let y ← vector dimension.size w.c.toNat
    setVector w.a.toNat (Vector.zipWith f.apply x y)
  | .vectorDot dimension => do
    let x ← vector dimension.size w.b.toNat
    let y ← vector dimension.size w.c.toNat
    setRegister .float w.a.toNat (dotProduct x y)
  | .vectorCross => do
    let x ← vector 3 w.b.toNat
    let y ← vector 3 w.c.toNat
    setVector w.a.toNat (crossProduct x y)
  | .vectorScale divide dimension scalar => vectorScale w divide dimension.size scalar
  | .vectorLength dimension => do
    let x ← vector dimension.size w.b.toNat
    setRegister .float w.a.toNat (dotProduct x x).sqrt
  | .vectorEqual dimension right => vectorEqual mnemonic epsilon w dimension.size right
  | .addressAdd offset => addressAdd w offset
  | .addressDistance => addressDistance w
  | .pointerEqual right => do
    let x : Pointer ← register .pointer w.b.toNat
    let y : Pointer ← fetch right .pointer w.c.toNat
    branch mnemonic (x == y) (CompareField.mk w.a).check
  | .call _ | .ret | .retImmediate => return

/-- One instruction, and what is to happen after it. -/
def perform (setting : Setting ν) (instruction : Instruction) (w : Word) : Action (Next ν) :=
  match instruction.operation with
  | .call target => do
    return .call (← call setting.library setting.depth setting.config.maxCallDepth w target)
  | .ret => do
    ret instruction.mnemonic w
    return .afterReturn w
  | .retImmediate => do
    retImmediate w
    return .afterReturn w
  | operation => do
    compute setting.config.floatEpsilon instruction.mnemonic w operation
    return .proceed

def advance (setting : Setting ν) : Action (Next ν) := do
  let frame ← frame
  let word ← ofExcept (frame.routine.word frame.pc)
  setFrame { frame with current := frame.pc, pc := frame.pc + 1 }
  match word.instruction frame.pc with
  | .ok instruction => perform setting instruction word
  | .error invalid => fault (.invalidOpcode invalid)

end Action
end GameScript
