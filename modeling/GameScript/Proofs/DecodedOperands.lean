import GameScript.Proofs.MemoryAccess
import GameScript.Proofs.WordFields

/-! What instructions do, told by their operands. An operand is read as its kind says: from the register
or the constant with its number, as a signed or unsigned number that stands for itself, or as an entry
of the table it selects from. What the machine does with a word of the instruction set is what these
operands say. -/

namespace GameScript

/-- An operand that was read from a field, with the kind it was read as. -/
structure Decoded where
  kind : OperandKind
  operand : Operand

def Word.decode (w : Word) (layout : List (Field × OperandKind)) : List Decoded :=
  layout.map fun (field, kind) => ⟨kind, w.operand field kind⟩

namespace Action

/-- Stands where an instruction is given operands of other kinds than its own. -/
def misread : Action α := throw (.of .other)

end Action

namespace Decoded

open GameScript.Action

def read (bank : Bank) : Decoded → Action bank.Content
  | ⟨.register own, .number index⟩ => if own = bank then register bank index.toNat else misread
  | ⟨.constant own, .number index⟩ => if own = bank then constant bank index.toNat else misread
  | ⟨.unsigned, .number value⟩ | ⟨.signed, .number value⟩ | ⟨.displacement, .number value⟩ =>
    match bank with
    | .int => return Int32.ofInt value
    | _ => misread
  | _ => misread

def write (bank : Bank) (content : bank.Content) : Decoded → Action Unit
  | ⟨.register own, .number index⟩ =>
    if own = bank then setRegister bank index.toNat content else misread
  | _ => misread

def readVector (dimension : Dimension) : Decoded → Action (Vector Double dimension.size)
  | ⟨.vector own, .number start⟩ =>
    if own = dimension then vector dimension.size start.toNat else misread
  | ⟨.constant .float, .number start⟩ => do
    ofExcept ((← frame).routine.constants.constantVector dimension.size start.toNat)
  | _ => misread

def writeVector (dimension : Dimension) (components : Vector Double dimension.size) :
    Decoded → Action Unit
  | ⟨.vector own, .number start⟩ =>
    if own = dimension then setVector start.toNat components else misread
  | _ => misread

def number : Decoded → Action Int
  | ⟨.unsigned, .number value⟩ | ⟨.displacement, .number value⟩ => return value
  | _ => misread

def byte : Decoded → Action UInt8
  | ⟨.unsigned, .number value⟩ => return UInt8.ofNat value.toNat
  | _ => misread

def select (kind : OperandKind) (table : UInt8 → Except UnknownSelector α) : Decoded → Action α
  | ⟨own, .selector code⟩ =>
    if own = kind then ofExcept (Fault.ofSelector (table code)) else misread
  | _ => misread

def flags : Decoded → Action CompareField
  | ⟨.compareFlags, .compareFlags field⟩ => return field
  | _ => misread

def returnField : Decoded → Action ReturnField
  | ⟨.returnSlot, .returnSlot field⟩ => return field
  | _ => misread

def tagged : Decoded → Action TaggedOperand
  | ⟨.tagged, .tagged operand⟩ => return operand
  | _ => misread

/-- A register whose bank the instruction's selector decides. -/
def anyRegister : Decoded → Action Nat
  | ⟨.anyRegister, .number index⟩ => return index.toNat
  | _ => misread

/-- Where an access goes from a base and an offset; `nil` is the abort for a null base. -/
def reach (base : Decoded) (offset : Action Int32) (nil : AbortKind) : Action Address := do
  let pointer ← base.read .pointer
  let offset ← offset
  match ← ofExcept ((← heap).resolve pointer) with
  | some position => ofExcept ((← heap).displace position offset.toInt)
  | none => abort nil

def object (pointer : Decoded) : Action ObjectRef := do
  match ← pointer.read .pointer with
  | .null => abort .readNil
  | .object ref => return ref
  | other => fault (.notAnObject other)

def function (library : Library ν) (pointer : Decoded) : Action (Callable ν) := do
  match ← pointer.read .pointer with
  | .function id => ofExcept (library.get id)
  | other => fault (.notAFunction other)

def put (target : Decoded) : (kind : LoadKind) → kind.Result → Action Unit
  | .int8, value | .uint8, value | .int16, value | .uint16, value | .int32, value =>
    target.write .int value
  | .single, value | .double, value => target.write .float value
  | .string, value | .indirectText, value => target.write .string value
  | .pointer, value => target.write .pointer value
  | .vector dimension, components => target.writeVector dimension components

/-- What a store takes from its source; an object store takes nothing but objects and null. -/
def take (source : Decoded) : (kind : StoreKind) → Action kind.Held
  | .int8 | .int16 | .int32 => source.read .int
  | .single | .double => source.read .float
  | .string => source.read .string
  | .pointer => source.read .pointer
  | .object => do
    let value ← source.read .pointer
    if Pointer.isNull value || (Pointer.object? value).isSome then return value
    else fault (.notAnObject value)
  | .vector dimension => source.readVector dimension

end Decoded

namespace Action

def convert (source : Nat) :
    (conversion : Conversion) → (conversion.target.Content → Action Unit) → Action Unit
  | .intToFloat, store => do store (.ofInt (Int32.toInt (← register .int source)))
  | .uintToFloat, store => do store (.ofInt (Int32.toUInt32 (← register .int source)).toNat)
  | .floatToInt, store => do store (Double.toInt32 (← register .float source))
  | .floatToUint, store => do store (Double.toUInt32 (← register .float source)).toInt32
  | .intToString, store => do store (toString (Int32.toInt (← register .int source)))
  | .uintToString, store => do store (toString (Int32.toUInt32 (← register .int source)).toNat)
  | .floatToString, store => do store (Double.text (← register .float source))
  | .pairToString, store => do store (Double.vectorText (← vector 2 source).toList)
  | .tripleToString, store => do store (Double.vectorText (← vector 3 source).toList)
  | .pointerToString, store => do store (Pointer.text (← register .pointer source))
  | .stringToInt, store => do store (Text.leading (← register .string source))
  | .stringToFloat, store => do store (Double.leading (← register .string source))
  | .stringToName, store => do store (← intern (← register .string source))
  | .nameToString, store => do
    let id ← register .int source
    match (← get).world.names.get? id with
    | some name => store name
    | none => fault (.unknownName id)

def holds : (test : TruthTest) → test.source.Content → Bool
  | .int, (value : Int32) => value != 0
  | .float, value => !Double.same value .zero
  | .pointer, value => !Pointer.isNull value
  | .string, value => !String.isEmpty value

def stageTagged (mnemonic : String) (operand : TaggedOperand) : Action Unit := do
  let tag ← ofExcept (Fault.ofSelector operand.tag.validate)
  if 1 < tag.width && tag.isReference then fault (.unsupportedOperand mnemonic tag)
  room tag.width
  if tag.isConstant then stage [⟨← valueOf .constant tag.bank operand.index.toNat, none⟩]
  else if 1 < tag.width then stage (← vectorParams operand.index tag.width)
  else if tag.isReference then stageReference tag.bank operand.index
  else stage [⟨← valueOf .register tag.bank operand.index.toNat, none⟩]

def returnTagged (mnemonic : String) (slot : Nat) (operand : TaggedOperand) : Action Unit := do
  let tag ← ofExcept (Fault.ofSelector operand.tag.validate)
  unless tag.isNil do
    if 1 < tag.width || tag.isReference then fault (.unsupportedOperand mnemonic tag)
    storeResult slot
      (← valueOf (if tag.isConstant then .constant else .register) tag.bank operand.index.toNat)

def resultOf : List Decoded → Action ResultTarget
  | [source] => do
    let operand ← source.tagged
    let tag ← ofExcept (Fault.ofSelector operand.tag.validate)
    if tag.isNil || tag.isConstant || tag.isReference || 1 < tag.width then
      fault (.unsupportedOperand "RESULT" tag)
    else return ⟨tag.bank, operand.index⟩
  | _ => misread

def marked (offset : Nat) : Action ResultTarget := do
  let frame ← frame
  match frame.routine.code[offset]? with
  | none => fault (.expectedResult offset)
  | some word =>
    if frame.operationAt? offset = some .result then
      resultOf (word.decode Operation.result.operands)
    else fault (.expectedResult offset)

def markedTargets (offset : Nat) : Nat → Action (List ResultTarget)
  | 0 => return []
  | count + 1 => do
    let target ← marked offset
    return target :: (← markedTargets (offset + 1) count)

/-- What an operation that stays in its frame does with its operands. Where an operand comes from is
left to the operand. -/
def effect (epsilon : Double) (mnemonic : String) : Operation → List Decoded → Action Unit
  | .nop, [] => return
  | .loadImmediate, [target, value] => do target.write .int (← value.read .int)
  | .loadConstant bank, [target, value] => do target.write bank (← value.read bank)
  | .loadConstantAt bank, [target, base, offset] => do
    let base ← base.read .int
    let index := Int32.toInt base + (← offset.number)
    if 0 ≤ index ∧ index < UInt16.size then target.write bank (← constant bank index.toNat)
    else fault (.constantOutOfRange bank index.toNat 0)
  | .frameAddress, [target] => do target.write .pointer (← frame).extraPointer
  | .objectClass, [target, object] => do
    let ref ← object.object
    target.write .pointer (.class_ (← ofExcept ((← heap).objectClass ref)))
  | .move bank, [target, source] => do target.write bank (← source.read bank)
  | .moveVector dimension, [target, source] => do
    target.writeVector dimension (← source.readVector dimension)
  | .load kind _, [target, base, offset] => do
    let position ← base.reach (offset.read .int) .readNil
    target.put kind (← ofExcept (kind.read (← heap) position))
  | .loadBits, [target, base, mask] => do
    let position ← base.reach (return 0) .readNil
    let byte := UInt8.ofNat (← readNat position 1)
    let mask ← mask.byte
    target.write .int (if byte &&& mask ≠ 0 then (1 : Int32) else 0)
  | .store kind _, [base, source, offset] => do
    let value ← source.take kind
    let position ← base.reach (offset.read .int) .writeNil
    updateHeap (·.write position (kind.content value))
    setWorld (kind.note value (← get).world)
  | .storeBits, [base, source, mask] => do
    let value : Int32 ← source.read .int
    let position ← base.reach (return 0) .writeNil
    let byte := UInt8.ofNat (← readNat position 1)
    let mask ← mask.byte
    writeBytes position [if value ≠ 0 then byte ||| mask else byte &&& ~~~mask]
  | .cast, [target, source, selector] => do
    let conversion ← selector.select .conversion Conversion.ofCode
    convert (← source.anyRegister) conversion (setRegister conversion.target (← target.anyRegister))
  | .castBool, [target, source, selector] => do
    let test ← selector.select .truthTest TruthTest.ofCode
    let value ← register test.source (← source.anyRegister)
    target.write .int (if holds test value then (1 : Int32) else 0)
  | .castObject _, [target, pointer, wanted] => do
    let id ← classOf (← wanted.read .pointer)
    match ← pointer.read .pointer with
    | .null => target.write .pointer .null
    | .object ref =>
      let kept := (← heap).isKindOf ref id
      target.write .pointer (if kept then .object ref else .null)
    | other => fault (.notAnObject other)
  | .castClass _, [target, pointer, wanted] => do
    let ancestor ← classOf (← wanted.read .pointer)
    match ← pointer.read .pointer with
    | .null => target.write .pointer .null
    | other =>
      let id ← classOf other
      let kept := (← heap).classes.descends id ancestor
      target.write .pointer (if kept then other else .null)
  | .test, [value, wanted] => do
    let x : Int32 ← value.read .int
    let y : Int32 ← wanted.read .int
    branch mnemonic (x == y) true
  | .testNegated, [value, wanted] => do
    let x : Int32 ← value.read .int
    let y : Int32 ← wanted.read .int
    branch mnemonic (-x == y) true
  | .jump, [distance] => do
    let frame ← frame
    setFrame (← ofExcept (frame.jump frame.pc (← distance.number)))
  | .jumpTable, [entry, start] => do
    let frame ← frame
    let entry ← entry.read .int
    let slot : Int := frame.pc + (← start.number) + Int32.toInt entry
    let found := if 0 ≤ slot then frame.routine.code[slot.toNat]? else none
    match found with
    | some word =>
      if frame.operationAt? slot.toNat = some .jump then
        setFrame (← ofExcept (frame.jump (slot.toNat + 1) (word.signedAt .abc)))
      else fault (.expectedJump mnemonic slot.toNat)
    | none => fault (.expectedJump mnemonic slot.toNat)
  | .param, [source] => do stageTagged mnemonic (← source.tagged)
  | .paramImmediate, [value] => do
    room 1
    stage [⟨.int (← value.read .int), none⟩]
  | .virtual, [target, object, slot] => do
    let ref ← object.object
    let heap ← heap
    let id ← ofExcept (heap.objectClass ref)
    let slot := (← slot.number).toNat
    match heap.classes.get? id with
    | none => fault (.dangling .class_ id.index)
    | some info =>
      match info.virtuals[slot]? with
      | some function => target.write .pointer (.function function)
      | none => fault (.virtualOutOfRange info.name slot)
  | .result, [_] => do fault (.strayResult (← frame).current)
  | .throw, [kind, detail] => do
    let kind ← kind.select .abortKind AbortKind.ofCode
    let detail : String ← detail.read .string
    throw (if detail.isEmpty then .of kind else .withDetail kind detail)
  | .bound _, [index, limit] => do
    let index ← index.read .int
    let limit ← limit.read .int
    let shown := toString (Int32.toInt index)
    if index < (0 : Int32) then throw (.withDetail .negativeIndex ("index = " ++ shown))
    else if limit ≤ index then
      throw (.withDetail .indexOutOfBounds
        ("max index = " ++ toString (Int32.toInt limit - 1) ++ ", current index = " ++ shown))
  | .concat, [target, left, right] => do
    let x : String ← left.read .string
    let y : String ← right.read .string
    target.write .string (x ++ y)
  | .stringLength, [target, source] => do
    target.write .int (Int32.ofNat (Text.byteLength (← source.read .string)))
  | .compareStrings, [flags, left, right] => do
    let x : String ← left.read .string
    let y : String ← right.read .string
    let flags ← flags.flags
    let x := if flags.approx then Text.fold x else x
    let y := if flags.approx then Text.fold y else y
    let outcome := match ← ofExcept (Fault.ofSelector flags.mode) with
      | .eq => x == y
      | .lt => decide (x < y)
      | .le => !decide (y < x)
    branch mnemonic outcome flags.check
  | .intBinary f _ _, [target, left, right] => do
    let x ← left.read .int
    let y ← right.read .int
    target.write .int (← ofAbort (f.apply x y))
  | .intUnary f, [target, source] => do target.write .int (f.apply (← source.read .int))
  | .signExtend, [target, source, bits] => do
    let bits ← bits.byte
    unless 0 < bits && bits ≤ 32 do fault (.unknownSelector ⟨.signExtension, bits⟩)
    target.write .int (GameScript.signExtend bits (← source.read .int))
  | .intCompare relation _ _, [flags, left, right] => do
    let x ← left.read .int
    let y ← right.read .int
    branch mnemonic (relation.holds x y) (← flags.flags).check
  | .floatBinary f _ _, [target, left, right] => do
    let x ← left.read .float
    let y ← right.read .float
    target.write .float (← ofAbort (f.apply x y))
  | .floatFunction, [target, source, selector] => do
    let f ← selector.select .floatFunction FloatFunction.ofCode
    target.write .float (f.apply (← source.read .float))
  | .floatCompare relation _ _, [flags, left, right] => do
    let x ← left.read .float
    let y ← right.read .float
    let flags ← flags.flags
    let outcome := if flags.approx then relation.nearly epsilon x y else relation.holds x y
    branch mnemonic outcome flags.check
  | .vectorNegate dimension, [target, source] => do
    target.writeVector dimension ((← source.readVector dimension).map fun x => -x)
  | .vectorBinary f dimension, [target, left, right] => do
    let x ← left.readVector dimension
    let y ← right.readVector dimension
    target.writeVector dimension (Vector.zipWith f.apply x y)
  | .vectorDot dimension, [target, left, right] => do
    let x ← left.readVector dimension
    let y ← right.readVector dimension
    target.write .float (dotProduct x y)
  | .vectorCross, [target, left, right] => do
    let x ← left.readVector .three
    let y ← right.readVector .three
    target.writeVector .three (crossProduct x y)
  | .vectorScale divide dimension _, [target, components, scalar] => do
    let factor ← scalar.read .float
    let components ← components.readVector dimension
    if divide then
      let factor ← ofAbort (floatDivisor factor)
      target.writeVector dimension (components.map fun x => x / factor)
    else target.writeVector dimension (components.map fun x => x * factor)
  | .vectorLength dimension, [target, source] => do
    let x ← source.readVector dimension
    target.write .float (dotProduct x x).sqrt
  | .vectorEqual dimension _, [flags, left, right] => do
    let x ← left.readVector dimension
    let y ← right.readVector dimension
    let flags ← flags.flags
    branch mnemonic (vectorsEqual flags.approx epsilon x y) flags.check
  | .addressAdd _, [target, base, offset] => do
    let base ← base.read .pointer
    let delta ← offset.read .int
    match ← ofExcept ((← heap).resolve base) with
    | none => target.write .pointer .null
    | some position =>
      let moved ← ofExcept ((← heap).displace position (Int32.toInt delta))
      target.write .pointer (.address moved)
  | .addressDistance, [target, left, right] => do
    let x ← left.read .pointer
    let y ← right.read .pointer
    let first ← ofExcept ((← heap).resolve x)
    let second ← ofExcept ((← heap).resolve y)
    match first, second with
    | none, none => target.write .int (0 : Int32)
    | some p, some q =>
      if p.block = q.block then
        target.write .int (Int32.ofInt (p.offset.toNat - q.offset.toNat))
      else fault (.unrelatedPointers x y)
    | _, _ => fault (.unrelatedPointers x y)
  | .pointerEqual _, [flags, left, right] => do
    let x : Pointer ← left.read .pointer
    let y : Pointer ← right.read .pointer
    branch mnemonic (x == y) (← flags.flags).check
  | .call _, _ | .ret, _ | .retImmediate, _ => return
  | _, _ => misread

def request (setting : Setting ν) : List Decoded → Action (CallRequest ν)
  | [target, taken, results] => do
    let callee ← target.function setting.library
    let frame ← frame
    let results ← results.number
    let targets ← markedTargets frame.pc results.toNat
    setFrame { frame with pc := frame.pc + results.toNat }
    let taken ← taken.number
    let params ← unstage setting.depth setting.config.maxCallDepth taken.toNat
    return ⟨callee, params.map StagedParam.value, targets, params.filterMap StagedParam.writeback⟩
  | _ => misread

def afterReturn (field : ReturnField) : Next ν := if field.isFinal then .finish else .proceed

/-- What an operation does with its operands, and what is to happen after it. -/
def outcome (setting : Setting ν) (mnemonic : String) :
    Operation → List Decoded → Action (Next ν)
  | .call _, operands => do return .call (← request setting operands)
  | .ret, [slot, source] => do
    let field ← slot.returnField
    returnTagged mnemonic field.slot (← source.tagged)
    return afterReturn field
  | .retImmediate, [slot, value] => do
    let field ← slot.returnField
    storeResult field.slot (.int (← value.read .int))
    return afterReturn field
  | operation, operands => do
    effect setting.config.floatEpsilon mnemonic operation operands
    return .proceed

/-! The machine does with a word what its operands say. -/

theorem ofInt_signedBC (w : Word) : Int32.ofInt w.signedBC.toInt = w.signedBC.toInt32 := by
  rw [← Int16.toInt_toInt32, Int32.ofInt_toInt]

theorem ofInt_int8 (x : Int8) : Int32.ofInt x.toInt = x.toInt32 := by
  rw [← Int8.toInt_toInt32, Int32.ofInt_toInt]

theorem decode_flags (w : Word) (rest : List (Field × OperandKind)) :
    w.decode ((.a, .compareFlags) :: rest) =
      ⟨.compareFlags, .compareFlags ⟨w.a⟩⟩ :: w.decode rest :=
  congrArg (fun bits => Decoded.mk .compareFlags (.compareFlags ⟨bits⟩) :: w.decode rest)
    UInt8.ofNat_toNat

theorem decode_returnSlot (w : Word) (rest : List (Field × OperandKind)) :
    w.decode ((.a, .returnSlot) :: rest) = ⟨.returnSlot, .returnSlot ⟨w.a⟩⟩ :: w.decode rest :=
  congrArg (fun bits => Decoded.mk .returnSlot (.returnSlot ⟨bits⟩) :: w.decode rest)
    UInt8.ofNat_toNat

theorem select_apply {kind : OperandKind} {table : UInt8 → Except UnknownSelector α} (code : UInt8) :
    Decoded.select kind table ⟨kind, .selector (UInt8.ofNat code.toNat)⟩ =
      ofExcept (Fault.ofSelector (table code)) := by
  rw [Decoded.select, if_pos rfl, UInt8.ofNat_toNat]

theorem byte_apply (value : UInt8) :
    Decoded.byte ⟨.unsigned, .number value.toNat⟩ = pure value :=
  congrArg pure UInt8.ofNat_toNat

/-- An integer operand in a field of its width. -/
theorem read_intSource {w : Word} {source : IntSource} {field : Field} {number : UInt16}
    (unsigned : w.numberAt field = number.toNat)
    (signed : source = .signedByte → w.signedAt field = number.toUInt8.toInt8.toInt) :
    Decoded.read .int ⟨source.operand, w.operand field source.operand⟩ = fetchInt source number := by
  cases source with
  | register => exact congrArg (register .int) unsigned
  | constant => exact congrArg (constant .int) unsigned
  | byte | half =>
    refine congrArg pure ?_
    rw [unsigned, Int32.ofInt_eq_ofNat]
  | signedByte =>
    refine congrArg pure ?_
    rw [signed rfl, ofInt_int8]

theorem read_b (w : Word) (source : IntSource) :
    Decoded.read .int ⟨source.operand, w.operand .b source.operand⟩ =
      fetchInt source w.b.toUInt16 :=
  read_intSource (UInt8.toNat_toUInt16 w.b).symm fun _ => by
    rw [UInt8.toUInt8_toUInt16]
    rfl

theorem read_c (w : Word) (source : IntSource) :
    Decoded.read .int ⟨source.operand, w.operand .c source.operand⟩ =
      fetchInt source w.c.toUInt16 :=
  read_intSource (UInt8.toNat_toUInt16 w.c).symm fun _ => by
    rw [UInt8.toUInt8_toUInt16]
    rfl

variable (epsilon : Double) (mnemonic : String) (w : Word)

theorem read_source (source : Source) (bank : Bank) (field : Field) :
    Decoded.read bank ⟨source.operand bank, w.operand field (source.operand bank)⟩ =
      fetch source bank (w.numberAt field) := by
  cases source <;> exact if_pos rfl

theorem load_eq_effect (kind : LoadKind) (source : Source) :
    compute epsilon mnemonic w (.load kind source) =
      effect epsilon mnemonic (.load kind source) (w.decode (Operation.load kind source).operands) := by
  funext state
  refine (compute_load epsilon mnemonic w (.of kind source)).trans ?_
  have offset := read_source w source .int .c
  change _ = (locate w.b.toNat (Decoded.read .int _) .readNil >>= _) state
  rw [offset]
  refine .trans ?_ (locate_bind_apply .readNil (fetch_apply source .int w.c.toNat) _).symm
  refine ofExcept_bind_congr fun position => ?_
  cases position with
  | none => rfl
  | some position =>
    cases kind with
    | vector dimension => cases dimension <;> rfl
    | _ => rfl

theorem store_eq_effect (kind : StoreKind) (source : Source) :
    compute epsilon mnemonic w (.store kind source) =
      effect epsilon mnemonic (.store kind source) (w.decode (Operation.store kind source).operands) := by
  funext state
  refine (compute_store epsilon mnemonic w (.of kind source)).trans ?_
  have offset := read_source w source .int .c
  have taken : Decoded.take ⟨kind.operand, w.operand .b kind.operand⟩ kind state =
      ofExcept (kind.held state.frame w.b.toNat) state := by
    cases kind with
    | object =>
      change (ofExcept (state.frame.registers.register .pointer w.b.toNat) >>= _) state = _
      rw [StoreKind.held]
      cases state.frame.registers.register .pointer w.b.toNat with
      | error fault => rfl
      | ok value =>
        change (if Pointer.isNull value || (Pointer.object? value).isSome then _ else _ : Action _)
          state = ofExcept (if Pointer.isNull value || (Pointer.object? value).isSome then _ else _) state
        split <;> rfl
    | vector dimension => cases dimension <;> rfl
    | _ => rfl
  change _ = (Decoded.take _ kind >>= fun value =>
    locate w.a.toNat (Decoded.read .int _) .writeNil >>= _) state
  rw [offset]
  refine bind_congr rfl taken fun value => ?_
  refine .trans ?_ (locate_bind_apply .writeNil (fetch_apply source .int w.c.toNat) _).symm
  refine ofExcept_bind_congr fun position => ?_
  cases position with
  | none => rfl
  | some position =>
    change (ofExcept (state.world.heap.write position (kind.content value)) >>= _) state =
      ((ofExcept (state.world.heap.write position (kind.content value)) >>= _) >>= _) state
    cases state.world.heap.write position (kind.content value) <;> rfl

theorem compute_eq_effect {operation : Operation} (wide : operation ≠ .bound .signedByte) :
    compute epsilon mnemonic w operation =
      effect epsilon mnemonic operation (w.decode operation.operands) := by
  cases operation with
  | nop | frameAddress | result | vectorCross | jump | jumpTable | param | virtual | concat | stringLength
  | intUnary | addressDistance | objectClass | call | ret | retImmediate => rfl
  | loadImmediate => exact congrArg (setRegister .int w.a.toNat) (ofInt_signedBC w).symm
  | loadConstant bank | loadConstantAt bank | move bank => cases bank <;> rfl
  | moveVector dimension | vectorNegate dimension | vectorDot dimension | vectorLength dimension
  | vectorBinary _ dimension => cases dimension <;> rfl
  | vectorScale divide dimension source => cases dimension <;> cases source <;> rfl
  | castObject source | castClass source | addressAdd source => cases source <;> rfl
  | floatBinary f left right => cases left <;> cases right <;> rfl
  | load kind source => exact load_eq_effect epsilon mnemonic w kind source
  | loadBits =>
    change _ = locate w.b.toNat (pure 0) .readNil >>= fun position => readNat position 1 >>= fun n =>
      Decoded.byte ⟨.unsigned, .number w.c.toNat⟩ >>= _
    rw [byte_apply]
    rfl
  | store kind source => exact store_eq_effect epsilon mnemonic w kind source
  | storeBits =>
    change _ = register .int w.b.toNat >>= fun value => locate w.a.toNat (pure 0) .writeNil >>=
      fun position => readNat position 1 >>= fun n => Decoded.byte ⟨.unsigned, .number w.c.toNat⟩ >>= _
    rw [byte_apply]
    rfl
  | cast =>
    change cast w =
      Decoded.select .conversion Conversion.ofCode ⟨_, .selector (UInt8.ofNat w.c.toNat)⟩ >>= _
    rw [select_apply, cast]
    refine congrArg (ofExcept _ >>= ·) (funext fun conversion => ?_)
    cases conversion <;> rfl
  | castBool =>
    change castBool w =
      Decoded.select .truthTest TruthTest.ofCode ⟨_, .selector (UInt8.ofNat w.c.toNat)⟩ >>= _
    rw [select_apply, castBool]
    refine congrArg (ofExcept _ >>= ·) (funext fun test => ?_)
    cases test <;> rfl
  | floatFunction =>
    change _ =
      Decoded.select .floatFunction FloatFunction.ofCode ⟨_, .selector (UInt8.ofNat w.c.toNat)⟩ >>= _
    rw [select_apply]
    rfl
  | throw =>
    change raise w =
      Decoded.select .abortKind AbortKind.ofCode ⟨_, .selector (UInt8.ofNat w.a.toNat)⟩ >>= _
    rw [select_apply]
    rfl
  | test =>
    have wanted : Int32.ofInt w.bc.toNat = Int32.ofNat w.bc.toNat := Int32.ofInt_eq_ofNat
    change _ = register .int w.a.toNat >>= fun x => branch mnemonic (x == Int32.ofInt w.bc.toNat) true
    rw [wanted]
    rfl
  | testNegated =>
    have wanted : Int32.ofInt w.bc.toNat = Int32.ofNat w.bc.toNat := Int32.ofInt_eq_ofNat
    change _ = register .int w.a.toNat >>= fun x : Int32 =>
      branch mnemonic (-x == Int32.ofInt w.bc.toNat) true
    rw [wanted]
    rfl
  | paramImmediate =>
    have value : Int32.ofInt w.abc.toInt = w.abc := Int32.ofInt_toInt w.abc
    change _ = room 1 >>= fun _ => stage [⟨.int (Int32.ofInt w.abc.toInt), none⟩]
    rw [value]
    rfl
  | bound limit =>
    cases limit with
    | register => rfl
    | constant => rfl
    | signedByte => exact absurd rfl wide
    | byte | half =>
      have limit : Int32.ofInt w.bc.toNat = Int32.ofNat w.bc.toNat := Int32.ofInt_eq_ofNat
      change _ = register .int w.a.toNat >>= fun _ => (pure (Int32.ofInt w.bc.toNat) : Action Int32) >>= _
      rw [limit]
      rfl
  | compareStrings =>
    change _ = effect epsilon mnemonic .compareStrings (w.decode ((.a, .compareFlags) :: _))
    rw [decode_flags]
    rfl
  | vectorEqual dimension source =>
    cases source <;>
    · change _ = effect epsilon mnemonic _ (w.decode ((.a, .compareFlags) :: _))
      rw [decode_flags]
      cases dimension <;> rfl
  | intBinary f left right =>
    change _ = Decoded.read .int _ >>= fun x => Decoded.read .int _ >>= _
    rw [read_b, read_c]
    rfl
  | intCompare relation left right =>
    change _ = effect epsilon mnemonic _ (w.decode ((.a, .compareFlags) :: _))
    rw [decode_flags]
    change _ = Decoded.read .int _ >>= fun x => Decoded.read .int _ >>= _
    rw [read_b, read_c]
    rfl
  | floatCompare relation left right =>
    change _ = effect epsilon mnemonic _ (w.decode ((.a, .compareFlags) :: _))
    rw [decode_flags]
    cases left <;> cases right <;> rfl
  | pointerEqual source =>
    change _ = effect epsilon mnemonic _ (w.decode ((.a, .compareFlags) :: _))
    rw [decode_flags]
    cases source <;> rfl
  | signExtend =>
    change _ = Decoded.byte ⟨.unsigned, .number w.c.toNat⟩ >>= _
    rw [byte_apply]
    rfl

theorem marked_eq (offset : Nat) : marked offset = resultTarget offset := rfl

theorem markedTargets_eq (offset count : Nat) :
    markedTargets offset count = resultTargets offset count := by
  induction count generalizing offset with
  | zero => rfl
  | succ count ih =>
    unfold markedTargets resultTargets
    simp only [marked_eq, ih]

theorem request_eq (setting : Setting ν) (source : Source) :
    request setting (w.decode (Operation.call source).operands) =
      call setting.library setting.depth setting.config.maxCallDepth w source := by
  have targets := fun offset => markedTargets_eq offset w.c.toNat
  cases source <;>
  · change (Decoded.function _ _ >>= fun _ => frame >>= fun frame =>
      markedTargets frame.pc w.c.toNat >>= _) = _
    simp only [targets]
    rfl

/-- No check of an index takes its limit from a signed byte. -/
theorem bound_wide {instruction : Instruction} (known : instruction ∈ Instruction.table) :
    instruction.operation ≠ .bound .signedByte := by
  have all : ∀ entry ∈ Instruction.table, entry.operation ≠ .bound .signedByte := by decide +kernel
  exact all instruction known

/-- What the machine does with an instruction of the set is what the operands in its word say. -/
theorem perform_eq_outcome (setting : Setting ν) {instruction : Instruction}
    (known : instruction ∈ Instruction.table) (w : Word) :
    perform setting instruction w =
      outcome setting instruction.mnemonic instruction.operation (w.decode instruction.operands) := by
  have wide := bound_wide known
  obtain ⟨code, mnemonic, operation⟩ := instruction
  cases operation with
  | call source =>
    change _ = request setting (w.decode (Operation.call source).operands) >>= _
    rw [request_eq]
    rfl
  | ret =>
    change _ = outcome setting mnemonic .ret (w.decode ((.a, .returnSlot) :: _))
    rw [decode_returnSlot]
    rfl
  | retImmediate =>
    change _ = outcome setting mnemonic .retImmediate (w.decode ((.a, .returnSlot) :: _))
    rw [decode_returnSlot]
    exact congrArg (fun value => storeResult _ (.int value) >>= fun _ => pure (afterReturn ⟨w.a⟩))
      (ofInt_signedBC w).symm
  | _ => exact congrArg (· >>= fun _ => pure Next.proceed) (compute_eq_effect _ _ _ wide)

end Action

theorem Word.instruction_mem {w : Word} {offset : Nat} {instruction : Instruction}
    (decoded : w.instruction offset = .ok instruction) : instruction ∈ Instruction.table := by
  unfold Word.instruction at decoded
  split at decoded
  next other found =>
    cases decoded
    exact List.mem_of_find?_eq_some found
  next => cases decoded

end GameScript
