import GameScript.Assembly.Pools
import GameScript.Assembly.Token
import GameScript.Instruction.Table

/-! A function between its first and its last line. Statements are kept until the end, when every
label is known; then they become words one after the other. -/

namespace GameScript.Assembly

structure Statement where
  /-- The line in the assembly text, for messages. -/
  line : Nat
  /-- The line recorded in the line table. -/
  sourceLine : UInt32
  instruction : Instruction
  column : Nat
  operands : List Token
deriving DecidableEq, Repr

structure Draft where
  name : String
  sourceFile : String
  /-- Where the function starts. -/
  line : Nat
  extraSpace : UInt32
  maxParam : Option UInt16
  /-- The line that instructions are recorded for, when the text sets one. -/
  sourceLine : Option UInt32
  /-- Labels with the number of the instruction after them. -/
  labels : List (String × Nat)
  body : Array Statement
deriving DecidableEq, Repr

namespace Draft

def start (name sourceFile : String) (line : Nat) : Draft :=
  ⟨name, sourceFile, line, 0, none, none, [], #[]⟩

def label? (draft : Draft) (name : String) : Option Nat := draft.labels.lookup name

def defineLabel (draft : Draft) (name : String) : Except (Halt Cause) Draft :=
  match draft.label? name with
  | some _ => .error (.failed (.duplicateLabel name))
  | none => .ok { draft with labels := (name, draft.body.size) :: draft.labels }

/-- The distance from the instruction after `place` to a label. -/
def distance (draft : Draft) (place : Nat) (name : String) : Except (Halt Cause) Int :=
  match draft.label? name with
  | some target => .ok ((target : Int) - (place + 1))
  | none => .error (.failed (.undefinedLabel name))

/-- A number, or a label as the distance to it. -/
def displacement (draft : Draft) (place : Nat) (token : String) : Except (Halt Cause) Int := do
  match ← integer? token with
  | some value => return value
  | none => draft.distance place token

/-- Bank and width that a cast's selector asks of the registers before it. Only selectors given by
name ask for anything. -/
def castBanks (operation : Operation) (selector : String) : List (Option (Bank × Nat)) :=
  match operation with
  | .cast =>
    match Conversion.named? selector with
    | some (conversion, _) => [some (conversion.target, 1), some conversion.source]
    | none => []
  | .castBool =>
    match TruthTest.named? selector with
    | some (test, _) => [none, some (test.source, 1)]
    | none => []
  | _ => []

/-- A field fault as the cause of a failure. -/
def placed (result : Except FieldFault Word) : Except (Halt Cause) Word :=
  result.mapError fun fault => .failed (.field fault)

/-- Adds one operand to a word. `expected` is what a cast asks of a register of any bank. -/
def encodeOperand (draft : Draft) (place : Nat) (field : Field) (kind : OperandKind)
    (expected : Option (Bank × Nat)) (token : String) (word : Word) (pools : Pools) :
    Except (Halt Cause) (Word × Pools) :=
  let useRegister (bank : Bank) (width : Nat) : Except (Halt Cause) (Word × Pools) := do
    let index ← register bank token
    let word ← placed (word.withUnsigned field index)
    return (word, pools.useRegister bank index width)
  let number (value : Except (Halt Cause) Int) : Except (Halt Cause) (Word × Pools) := do
    let value ← value
    let word ← placed (word.withUnsigned field value)
    return (word, pools)
  match kind with
  | .register bank => useRegister bank 1
  | .vector dimension => useRegister .float dimension.size
  | .anyRegister =>
    match expected with
    | some (bank, width) => useRegister bank width
    | none => do
      let (bank, index) ← anyRegister token
      let word ← placed (word.withUnsigned field index)
      return (word, pools.useRegister bank index 1)
  | .constant bank => do
    let (index, pools) ← pools.internConstant bank token
    let word ← placed (word.withUnsigned field index)
    return (word, pools)
  | .unsigned => number (integer token)
  | .signed => do
    let value ← integer token
    let word ← placed (word.withSigned field value)
    return (word, pools)
  | .displacement => do
    let value ← draft.displacement place token
    let word ← placed (word.withSigned field value)
    return (word, pools)
  | .tagged => do
    let (tag, index, pools) ← pools.tagged token
    let word ← placed (word.withTagged field tag index)
    return (word, pools)
  | .returnSlot => number (returnSlot token)
  | .compareFlags => number (compareFlags token)
  | .conversion => number (selector .cast ((Conversion.named? token).map (·.2)) token)
  | .truthTest => number (selector .boolCast ((TruthTest.named? token).map (·.2)) token)
  | .floatFunction => number (selector .floatFunction ((FloatFunction.named? token).map (·.2)) token)
  | .abortKind => number (selector .abortKind ((AbortKind.named? (Text.fold token)).map (·.2)) token)

/-- Adds operands from left to right; a failure is reported at its token. -/
def encodeOperands (draft : Draft) (place line : Nat) :
    List ((Field × OperandKind) × Token) → List (Option (Bank × Nat)) → Word → Pools →
      Except (Halt Failure) (Word × Pools)
  | [], _, word, pools => .ok (word, pools)
  | ((field, kind), token) :: rest, expected, word, pools =>
    match draft.encodeOperand place field kind expected.head?.join token.text word pools with
    | .ok (word, pools) => draft.encodeOperands place line rest expected.tail word pools
    | .error halt => .error (halt.map fun cause => ⟨line, token.column, cause⟩)

def encode (draft : Draft) (place : Nat) (statement : Statement) (pools : Pools) :
    Except (Halt Failure) (Word × Pools) :=
  let layout := statement.instruction.operands
  if layout.length ≠ statement.operands.length then
    .error (.failed ⟨statement.line, statement.column,
      .arity statement.instruction.mnemonic layout.length statement.operands.length⟩)
  else
    let expected := match statement.operands.getLast? with
      | some token => castBanks statement.instruction.operation token.text
      | none => []
    draft.encodeOperands place statement.line (layout.zip statement.operands) expected
      statement.instruction.word pools

/-- The words of the statements from `place` on, added to `code` and `lines`. -/
def encodeFrom (draft : Draft) (place : Nat) (code : Array Word) (lines : LineTable)
    (pools : Pools) : List Statement → Except (Halt Failure) (Array Word × LineTable × Pools)
  | [] => .ok (code, lines, pools)
  | statement :: rest =>
    match draft.encode place statement pools with
    | .error halt => .error halt
    | .ok (word, pools) =>
      draft.encodeFrom (place + 1) (code.push word)
        (lines.push (UInt32.ofNat place) statement.sourceLine) pools rest

def stagedAfter (staged : Nat) (word : Word) : Nat :=
  match (Instruction.ofOpcode? word.opcode).map Instruction.operation with
  | some .param =>
    let tag : OperandTag := ⟨word.a⟩
    staged + (if tag.isNil then 1 else tag.width)
  | some .paramImmediate => staged + 1
  | some (.call _) => staged - word.b.toNat
  | _ => staged

/-- The largest number of values staged at once, reading the code from first to last. -/
def stagedMost (staged most : Nat) : List Word → Nat
  | [] => most
  | word :: rest => stagedMost (stagedAfter staged word) (max most (stagedAfter staged word)) rest

def registerCount (draft : Draft) (pools : Pools) (bank : Bank) : Except (Halt Failure) UInt16 :=
  let count := pools.used.get bank
  if count < UInt16.size then .ok (UInt16.ofNat count)
  else .error (.failed ⟨draft.line, 1, .registerCount draft.name count bank⟩)

def finish (draft : Draft) : Except (Halt Failure) Routine := do
  let (code, lines, pools) ← draft.encodeFrom 0 #[] .empty .empty draft.body.toList
  let ints ← draft.registerCount pools .int
  let floats ← draft.registerCount pools .float
  let strings ← draft.registerCount pools .string
  let pointers ← draft.registerCount pools .pointer
  let inferred := UInt16.ofNat (min (stagedMost 0 0 code.toList) (UInt16.size - 1))
  return {
    name := draft.name
    sourceFile := draft.sourceFile
    code
    ints := pools.ints
    floats := pools.floats
    strings := pools.strings
    pointers := pools.pointers
    layout := ⟨ints, floats, strings, pointers, draft.maxParam.getD inferred, draft.extraSpace⟩
    lines }

end Draft
end GameScript.Assembly
