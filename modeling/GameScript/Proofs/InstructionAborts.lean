import GameScript.Proofs.BankFaults
import GameScript.Proofs.CallInstructions
import GameScript.Proofs.WordFields

/-! What instructions raise. Apart from a `THROW`, which says what it likes, an instruction raises
faults and the aborts of scripts; it lacks a constant only where one of its operands names a constant
that its pools have not, it leaves the code only if it is a jump, and it overflows the staging area
only if it stages more than there is room for. -/

namespace GameScript

/-- The aborts of a kind take in all that an instruction raises whose constants are there. -/
structure Allows (allowed : Abort → Prop) : Prop where
  kind : ∀ kind, allowed (.of kind)
  detail : ∀ kind detail, kind ≠ .contractViolation → allowed (.withDetail kind detail)
  fault : ∀ fault, fault.plain = true → allowed (.ofFault fault)

/-- Aborts that are due to faults which are not plain may be excused. -/
theorem allows_unless {marked : Abort → Prop}
    (faults : ∀ abort, marked abort → ∃ fault, abort = .ofFault fault)
    (special : ∀ fault, marked (.ofFault fault) → fault.plain = false) (excused : Abort → Prop) :
    Allows fun abort => marked abort → excused abort where
  kind kind mark := by
    obtain ⟨fault, same⟩ := faults _ mark
    cases congrArg Abort.detail same
  detail kind detail other mark := by
    obtain ⟨fault, same⟩ := faults _ mark
    exact absurd (congrArg Abort.kind same) other
  fault fault plain mark := by cases plain.symm.trans (special fault mark)

def Permits (allowed : Abort → Prop) (fault : Fault) : Prop := allowed (.ofFault fault)

attribute [grind =] Fault.plain

@[grind ←] theorem FailsOnly.permits {allowed : Abort → Prop} {result : Except Fault α}
    (allows : Allows allowed) (ordinary : FailsOnly Fault.Ordinary result) :
    FailsOnly (Permits allowed) result :=
  fun fault failed => allows.fault fault (ordinary fault failed).plain

namespace Word

/-- If the constant that an operand names is missing, that may be raised. -/
def Draws (w : Word) (pool : Banks) (allowed : Abort → Prop) (field : Field) : OperandKind → Prop
  | .constant bank => FailsOnly (Permits allowed) (pool.constant bank (w.numberAt field))
  | .tagged => (w.taggedAt field).tag.isNil = false → (w.taggedAt field).tag.isConstant = true →
    FailsOnly (Permits allowed)
      (pool.constant (w.taggedAt field).tag.bank (w.taggedAt field).index.toNat)
  | _ => True

/-- If a constant that the word asks for is missing, that may be raised. Some operations ask for more
than their operands name: a constant with a computed number, or several in a row. The same goes for
jumps that leave the code. -/
structure Supplied (w : Word) (pool : Banks) (allowed : Abort → Prop) (operation : Operation) :
    Prop where
  operands : ∀ (j : Nat) field kind, operation.operands[j]? = some (field, kind) →
    w.Draws pool allowed field kind
  indexed : ∀ bank, operation = .loadConstantAt bank →
    ∀ index available, allowed (.ofFault (.constantOutOfRange bank index available))
  row : ∀ dimension, operation = .vectorEqual dimension .constant →
    FailsOnly (Permits allowed) (pool.constantVector dimension.size w.c.toNat)
  thrown : operation = .throw →
    ∀ detail ∈ pool.strings, allowed (.withDetail .contractViolation detail)
  jumps : operation = .jump ∨ operation = .jumpTable →
    ∀ pc length, allowed (.ofFault (.codeOutOfRange pc length))

/-- Where missing constants may be raised anyway, texts and jumps are left. -/
theorem Supplied.of_missing {w : Word} {pool : Banks} {allowed : Abort → Prop} {operation : Operation}
    (missing : ∀ bank index available, allowed (.ofFault (.constantOutOfRange bank index available)))
    (thrown : operation = .throw →
      ∀ detail ∈ pool.strings, allowed (.withDetail .contractViolation detail))
    (jumps : operation = .jump ∨ operation = .jumpTable →
      ∀ pc length, allowed (.ofFault (.codeOutOfRange pc length))) :
    w.Supplied pool allowed operation := by
  have constant (bank : Bank) (index : Nat) :
      FailsOnly (Permits allowed) (pool.constant bank index) := by
    intro fault failed
    rw [(Banks.constant_eq_error failed).2]
    exact missing _ _ _
  refine ⟨fun j field kind _ => ?_, fun bank _ => missing bank, fun dimension _ fault failed => ?_,
    thrown, jumps⟩
  · cases kind with
    | constant bank => exact constant _ _
    | tagged => exact fun _ _ => constant _ _
    | _ => trivial
  · rw [(Banks.constantVector_eq_error failed).2]
    exact missing _ _ _

end Word

/-- How many values a word stages. The nil tag is refused. -/
def Operation.staging (w : Word) : Operation → Nat
  | .param => if w.tagAIndexBC.tag.isNil then 0 else w.tagAIndexBC.tag.width
  | .paramImmediate => 1
  | _ => 0

def Word.Roomy (w : Word) (frame : Frame) (allowed : Abort → Prop) (operation : Operation) : Prop :=
  operation.stages = true →
    frame.routine.layout.maxParam.toNat < frame.staged.length + operation.staging w →
    allowed (.ofFault (.stagingOverflow frame.routine.layout.maxParam.toNat))

theorem OperandTag.refused_of_isNil {tag : OperandTag} (nil : tag.isNil = true) :
    (decide (1 < tag.width) && tag.isReference) = true := by
  obtain rfl : tag = ⟨255⟩ := by
    cases tag
    exact congrArg OperandTag.mk (beq_iff_eq.1 nil)
  decide

namespace Action

def RaisesAt (allowed : Abort → Prop) (action : Action α) (state : Local) : Prop :=
  match action state with
  | .ok _ after => after.frame.routine = state.frame.routine
  | .error abort _ => allowed abort

def Raises (pool : Banks) (allowed : Abort → Prop) (action : Action α) : Prop :=
  ∀ state, state.frame.routine.constants = pool → RaisesAt allowed action state

variable {pool : Banks} {allowed : Abort → Prop} {w : Word}

theorem raisesAt_bind {first : Action α} {next : α → Action β} {state : Local}
    (raises : RaisesAt allowed first state)
    (rest : ∀ value after, first state = .ok value after →
      after.frame.routine = state.frame.routine → RaisesAt allowed (next value) after) :
    RaisesAt allowed (first >>= next) state := by
  unfold RaisesAt at raises ⊢
  rw [bind_apply]
  cases result : first state with
  | error abort after => simpa only [result] using raises
  | ok value middle =>
    rw [result] at raises
    have later := rest value middle result raises
    unfold RaisesAt at later
    dsimp only
    cases final : next value middle with
    | ok last after =>
      rw [final] at later
      exact later.trans raises
    | error abort after => simpa only [final] using later

@[grind ←] theorem raises_bind {first : Action α} {next : α → Action β}
    (raises : Raises pool allowed first) (rest : ∀ value, Raises pool allowed (next value)) :
    Raises pool allowed (first >>= next) := by
  intro state constants
  refine raisesAt_bind (raises state constants) fun value after _ same => ?_
  exact rest value after (by rw [same, constants])

theorem raises_frame_bind {next : Frame → Action α}
    (raises : ∀ state : Local, state.frame.routine.constants = pool →
      RaisesAt allowed (next state.frame) state) : Raises pool allowed (frame >>= next) := raises

@[grind ←] theorem raises_pure (value : α) : Raises pool allowed (pure value : Action α) :=
  fun _ _ => rfl

@[grind ←] theorem raises_get : Raises pool allowed (get : Action Local) := fun _ _ => rfl

@[grind ←] theorem raises_frame : Raises pool allowed frame := fun _ _ => rfl

@[grind ←] theorem raises_heap : Raises pool allowed heap := fun _ _ => rfl

@[grind ←] theorem raises_setWorld (world : World) : Raises pool allowed (setWorld world) :=
  fun _ _ => rfl

@[grind ←] theorem raises_intern (name : String) : Raises pool allowed (intern name) :=
  fun _ _ => rfl

@[grind ←] theorem raises_notify (stored : Option ObjectRef) : Raises pool allowed (notify stored) :=
  fun _ _ => rfl

@[grind ←] theorem raises_stage (params : List StagedParam) : Raises pool allowed (stage params) :=
  fun _ _ => rfl

theorem raises_throw {abort : Abort} (member : allowed abort) :
    Raises pool allowed (throw abort : Action α) := fun _ _ => member

theorem raisesAt_ofExcept {result : Except Fault α} (fails : FailsOnly (Permits allowed) result)
    (state : Local) : RaisesAt allowed (ofExcept result) state := by
  cases result with
  | ok value => exact (rfl : state.frame.routine = _)
  | error fault => exact fails fault rfl

@[grind ←] theorem raises_ofExcept {result : Except Fault α}
    (fails : FailsOnly (Permits allowed) result) : Raises pool allowed (ofExcept result) :=
  fun state _ => raisesAt_ofExcept fails state

@[grind ←] theorem raises_constant {bank : Bank} {index : Nat}
    (fails : FailsOnly (Permits allowed) (pool.constant bank index)) :
    Raises pool allowed (constant bank index) := by
  refine raises_frame_bind fun state constants => ?_
  rw [constants]
  exact raisesAt_ofExcept fails state

variable (allows : Allows allowed)
include allows

@[grind ←] theorem raises_throw_detail {kind : AbortKind} (detail : String)
    (other : kind ≠ .contractViolation) :
    Raises pool allowed (throw (Abort.withDetail kind detail) : Action α) :=
  raises_throw (allows.detail kind detail other)

@[grind ←] theorem raises_abort (kind : AbortKind) : Raises pool allowed (abort kind : Action α) :=
  raises_throw (allows.kind kind)

@[grind ←] theorem raises_fault {fault : Fault} (plain : fault.plain = true) :
    Raises pool allowed (Action.fault fault : Action α) :=
  raises_throw (allows.fault fault plain)

/-- After a fault nothing happens. -/
theorem raises_fault_bind {fault : Fault} (plain : fault.plain = true)
    (next : α → Action β) : Raises pool allowed (Action.fault fault >>= next) :=
  raises_throw (allows.fault fault plain)

@[grind ←] theorem raises_register (bank : Bank) (index : Nat) :
    Raises pool allowed (register bank index) := by
  refine raises_frame_bind fun state _ => ?_
  refine raisesAt_ofExcept (fun fault failed => allows.fault fault ?_) state
  unfold Banks.register at failed
  grind

@[grind ←] theorem raises_setRegister (bank : Bank) (index : Nat) (content : bank.Content) :
    Raises pool allowed (setRegister bank index content) := by
  refine raises_frame_bind fun state _ => ?_
  refine raisesAt_bind (raisesAt_ofExcept (fun fault failed => allows.fault fault ?_) state)
    fun _ after written _ => ?_
  · unfold Banks.setRegister at failed
    grind
  · obtain ⟨-, rfl⟩ := ofExcept_eq_ok.1 written
    exact (rfl : after.frame.routine = _)

@[grind ←] theorem raises_vector (count start : Nat) : Raises pool allowed (vector count start) := by
  refine raises_frame_bind fun state _ => ?_
  refine raisesAt_ofExcept (fun fault failed => allows.fault fault ?_) state
  unfold Banks.vector at failed
  grind

@[grind ←] theorem raises_setVector (start : Nat) (components : Vector Double count) :
    Raises pool allowed (setVector start components) := by
  refine raises_frame_bind fun state _ => ?_
  refine raisesAt_bind (raisesAt_ofExcept (fun fault failed => allows.fault fault ?_) state)
    fun _ after written _ => ?_
  · unfold Banks.setVector at failed
    grind
  · obtain ⟨-, rfl⟩ := ofExcept_eq_ok.1 written
    exact (rfl : after.frame.routine = _)

theorem raises_fetch (field : Field) {source : Source} {bank : Bank}
    (draws : w.Draws pool allowed field (source.operand bank)) :
    Raises pool allowed (fetch source bank (w.numberAt field)) := by
  cases source with
  | register => exact raises_register allows bank _
  | constant => exact raises_constant draws

theorem raises_fetchInt {field : Field} {source : IntSource} {number : UInt16}
    (draws : w.Draws pool allowed field source.operand) (same : number.toNat = w.numberAt field) :
    Raises pool allowed (fetchInt source number) := by
  cases source with
  | register => exact raises_register allows .int _
  | constant => exact raises_constant (same ▸ draws)
  | byte | half | signedByte => exact raises_pure _

@[grind ←] theorem raises_branch (mnemonic : String) (outcome check : Bool) :
    Raises pool allowed (branch mnemonic outcome check) := by
  refine raises_frame_bind fun state constants => ?_
  split
  next =>
    split
    next => exact (rfl : state.frame.routine = _)
    next => exact raises_pure () state constants
  next => exact raises_fault allows rfl state constants

omit allows in
theorem raisesAt_jump (leaves : ∀ pc length, allowed (.ofFault (.codeOutOfRange pc length)))
    (state : Local) (start : Nat) (delta : Int) :
    RaisesAt allowed (ofExcept (state.frame.jump start delta) >>= setFrame) state := by
  have fails : FailsOnly (Permits allowed) (state.frame.jump start delta) := by
    intro fault failed
    obtain ⟨target, rfl⟩ := Frame.jump_eq_error failed
    exact leaves _ _
  refine raisesAt_bind (raisesAt_ofExcept fails state) fun moved after jumped _ => ?_
  obtain ⟨jumped, rfl⟩ := ofExcept_eq_ok.1 jumped
  obtain ⟨target, -, -, rfl⟩ := Frame.jump_eq_ok jumped
  exact (rfl : after.frame.routine = _)

omit allows in
theorem raises_jump (supplied : w.Supplied pool allowed .jump) : Raises pool allowed (jump w) :=
  raises_frame_bind fun state _ => raisesAt_jump (supplied.jumps (.inl rfl)) state _ _

theorem raises_jumpTable (mnemonic : String) (supplied : w.Supplied pool allowed .jumpTable) :
    Raises pool allowed (jumpTable mnemonic w) := by
  refine raises_frame_bind fun state constants => ?_
  refine raisesAt_bind (raises_register allows _ _ state constants) fun entry after read _ => ?_
  rw [register_apply] at read
  obtain ⟨-, rfl⟩ := ofExcept_eq_ok.1 read
  dsimp only
  split
  next word found =>
    split
    next => exact raisesAt_jump (supplied.jumps (.inr rfl)) after _ _
    next => exact raises_fault allows rfl after constants
  next => exact raises_fault allows rfl after constants

theorem raises_updateHeap {change : Heap → Except Fault Heap}
    (ordinary : ∀ heap, FailsOnly Fault.Ordinary (change heap)) :
    Raises pool allowed (updateHeap change) := by
  refine raises_bind raises_get fun state => ?_
  exact raises_bind (raises_ofExcept ((ordinary _).permits allows)) fun _ => raises_setWorld _

@[grind ←] theorem raises_writeBytes (position : Address) (data : List UInt8) :
    Raises pool allowed (writeBytes position data) :=
  raises_updateHeap allows fun heap => heap.ordinary_writeBytes _ _

@[grind ←] theorem raises_writeString (position : Address) (value : String) :
    Raises pool allowed (writeString position value) :=
  raises_updateHeap allows fun heap => heap.ordinary_writeString _ _

@[grind ←] theorem raises_writePointer (position : Address) (value : Pointer) :
    Raises pool allowed (writePointer position value) :=
  raises_updateHeap allows fun heap => heap.ordinary_writePointer _ _

@[grind ←] theorem raises_locate {base : Nat} {offset : Action Int32} (nil : AbortKind)
    (raises : Raises pool allowed offset) : Raises pool allowed (locate base offset nil) := by
  refine raises_bind (raises_register allows _ _) fun pointer => ?_
  refine raises_bind raises fun offset => ?_
  refine raises_bind raises_heap fun heap => ?_
  refine raises_bind (raises_ofExcept ((heap.ordinary_resolve _).permits allows)) fun position => ?_
  cases position <;> grind

@[grind ←] theorem raises_readNat (position : Address) (width : Nat) :
    Raises pool allowed (readNat position width) := by
  unfold readNat
  grind

@[grind ←] theorem raises_readDouble (position : Address) :
    Raises pool allowed (readDouble position) := by
  unfold readDouble
  grind

@[grind ←] theorem raises_readVector (position : Address) (count : Nat) :
    Raises pool allowed (readVector position count) := by
  induction count with
  | zero => exact raises_pure _
  | succ count ih =>
    unfold readVector
    grind

@[grind ←] theorem raises_readIndirect (position : Address) :
    Raises pool allowed (readIndirect position) := by
  refine raises_bind raises_heap fun heap => ?_
  refine raises_bind (raises_ofExcept ((heap.ordinary_readPointer _).permits allows)) fun target => ?_
  refine raises_bind raises_heap fun heap => ?_
  refine raises_bind (raises_ofExcept ((heap.ordinary_resolve _).permits allows)) fun start => ?_
  cases start <;> grind

theorem raises_load {kind : LoadKind} {offset : Source}
    (supplied : w.Supplied pool allowed (.load kind offset)) :
    Raises pool allowed (load w kind offset) := by
  have distance : Raises pool allowed (fetch offset .int w.c.toNat) :=
    raises_fetch allows .c (supplied.operands 2 .c _ rfl)
  unfold load
  cases kind <;> grind

theorem raises_store {kind : StoreKind} {offset : Source}
    (supplied : w.Supplied pool allowed (.store kind offset)) :
    Raises pool allowed (store w kind offset) := by
  have distance : Raises pool allowed (fetch offset .int w.c.toNat) :=
    raises_fetch allows .c (supplied.operands 2 .c _ rfl)
  unfold store
  cases kind <;> grind

@[grind ←] theorem raises_loadBits (w : Word) : Raises pool allowed (loadBits w) := by
  unfold loadBits
  grind

@[grind ←] theorem raises_storeBits (w : Word) : Raises pool allowed (storeBits w) := by
  unfold storeBits
  grind

theorem raises_addressAdd {offset : Source} (supplied : w.Supplied pool allowed (.addressAdd offset)) :
    Raises pool allowed (addressAdd w offset) := by
  refine raises_bind (raises_register allows _ _) fun base => ?_
  refine raises_bind (raises_fetch allows .c (supplied.operands 2 .c _ rfl)) fun delta => ?_
  refine raises_bind raises_heap fun heap => ?_
  refine raises_bind (raises_ofExcept ((heap.ordinary_resolve _).permits allows)) fun position => ?_
  cases position <;> grind

@[grind ←] theorem raises_addressDistance (w : Word) : Raises pool allowed (addressDistance w) := by
  refine raises_bind (raises_register allows _ _) fun left => ?_
  refine raises_bind (raises_register allows _ _) fun right => ?_
  refine raises_bind raises_heap fun heap => ?_
  refine raises_bind (raises_ofExcept ((heap.ordinary_resolve _).permits allows)) fun leftPosition => ?_
  refine raises_bind raises_heap fun heap => ?_
  refine raises_bind (raises_ofExcept ((heap.ordinary_resolve _).permits allows)) fun rightPosition => ?_
  cases leftPosition <;> cases rightPosition <;> grind

@[grind ←] theorem raises_cast (w : Word) : Raises pool allowed (cast w) := by
  unfold cast
  refine raises_bind (raises_ofExcept ((ordinary_ofSelector _).permits allows)) fun kind => ?_
  cases kind <;> grind

@[grind ←] theorem raises_castBool (w : Word) : Raises pool allowed (castBool w) := by
  unfold castBool
  grind

@[grind ←] theorem raises_classOf (pointer : Pointer) : Raises pool allowed (classOf pointer) := by
  unfold classOf
  grind

theorem raises_castObject {target : Source}
    (supplied : w.Supplied pool allowed (.castObject target)) :
    Raises pool allowed (castObject w target) := by
  refine raises_bind (raises_fetch allows .c (supplied.operands 2 .c _ rfl)) fun pointer => ?_
  refine raises_bind (raises_classOf allows _) fun id => ?_
  refine raises_bind (raises_register allows _ _) fun pointer => ?_
  cases pointer <;> grind

theorem raises_castClass {target : Source}
    (supplied : w.Supplied pool allowed (.castClass target)) :
    Raises pool allowed (castClass w target) := by
  refine raises_bind (raises_fetch allows .c (supplied.operands 2 .c _ rfl)) fun pointer => ?_
  refine raises_bind (raises_classOf allows _) fun ancestor => ?_
  refine raises_bind (raises_register allows _ _) fun pointer => ?_
  cases pointer <;> grind

@[grind ←] theorem raises_objectAt (index : Nat) : Raises pool allowed (objectAt index) := by
  refine raises_bind (raises_register allows _ _) fun pointer => ?_
  cases pointer <;> grind

@[grind ←] theorem raises_objectClass (w : Word) : Raises pool allowed (objectClass w) := by
  unfold objectClass
  grind

@[grind ←] theorem raises_virtual (w : Word) : Raises pool allowed (virtual w) := by
  unfold virtual
  grind

@[grind ←] theorem raises_ofAbort {result : Except Abort α} (terse : Terse result) :
    Raises pool allowed (ofAbort result) := by
  cases result with
  | ok value => exact raises_pure value
  | error abort =>
    obtain ⟨kind, rfl⟩ := terse abort rfl
    exact raises_throw (allows.kind kind)

theorem raises_intBinary {f : IntFunction} {left right : IntSource}
    (supplied : w.Supplied pool allowed (.intBinary f left right)) :
    Raises pool allowed (intBinary w f left right) := by
  refine raises_bind (raises_fetchInt allows (supplied.operands 1 .b _ rfl)
    (UInt8.toNat_toUInt16 _)) fun x => ?_
  refine raises_bind (raises_fetchInt allows (supplied.operands 2 .c _ rfl)
    (UInt8.toNat_toUInt16 _)) fun y => ?_
  exact raises_bind (raises_ofAbort allows (f.terse_apply x y)) fun _ => raises_setRegister allows _ _ _

theorem raises_intCompare {relation : IntRelation} {left right : IntSource} (mnemonic : String)
    (supplied : w.Supplied pool allowed (.intCompare relation left right)) :
    Raises pool allowed (intCompare mnemonic w relation left right) := by
  refine raises_bind (raises_fetchInt allows (supplied.operands 1 .b _ rfl)
    (UInt8.toNat_toUInt16 _)) fun x => ?_
  refine raises_bind (raises_fetchInt allows (supplied.operands 2 .c _ rfl)
    (UInt8.toNat_toUInt16 _)) fun y => ?_
  exact raises_branch allows _ _ _

theorem raises_floatBinary {f : FloatBinary} {left right : Source}
    (supplied : w.Supplied pool allowed (.floatBinary f left right)) :
    Raises pool allowed (floatBinary w f left right) := by
  refine raises_bind (raises_fetch allows .b (supplied.operands 1 .b _ rfl)) fun x => ?_
  refine raises_bind (raises_fetch allows .c (supplied.operands 2 .c _ rfl)) fun y => ?_
  exact raises_bind (raises_ofAbort allows (f.terse_apply x y)) fun _ => raises_setRegister allows _ _ _

theorem raises_floatCompare {relation : FloatRelation} {left right : Source} (mnemonic : String)
    (epsilon : Double) (supplied : w.Supplied pool allowed (.floatCompare relation left right)) :
    Raises pool allowed (floatCompare mnemonic epsilon w relation left right) := by
  refine raises_bind (raises_fetch allows .b (supplied.operands 1 .b _ rfl)) fun x => ?_
  refine raises_bind (raises_fetch allows .c (supplied.operands 2 .c _ rfl)) fun y => ?_
  exact raises_branch allows _ _ _

theorem raises_vectorScale {divide : Bool} {dimension : Dimension} {scalar : Source}
    (supplied : w.Supplied pool allowed (.vectorScale divide dimension scalar)) :
    Raises pool allowed (vectorScale w divide dimension.size scalar) := by
  refine raises_bind (raises_fetch allows .c (supplied.operands 2 .c _ rfl)) fun factor => ?_
  grind

theorem raises_vectorEqual {dimension : Dimension} {right : Source} (mnemonic : String)
    (epsilon : Double) (supplied : w.Supplied pool allowed (.vectorEqual dimension right)) :
    Raises pool allowed (vectorEqual mnemonic epsilon w dimension.size right) := by
  refine raises_bind (raises_vector allows _ _) fun x => ?_
  refine raises_bind ?_ fun y => raises_branch allows _ _ _
  cases right with
  | register => exact raises_vector allows _ _
  | constant =>
    refine raises_frame_bind fun state constants => ?_
    rw [constants]
    exact raisesAt_ofExcept (supplied.row dimension rfl) state

theorem raises_bound {limit : IntSource} (supplied : w.Supplied pool allowed (.bound limit)) :
    Raises pool allowed (bound w limit) := by
  refine raises_bind (raises_register allows _ _) fun index => ?_
  refine raises_bind ?_ fun limit => by grind
  cases limit with
  | register => exact raises_register allows _ _
  | constant | byte | half | signedByte =>
    exact raises_fetchInt allows (supplied.operands 1 .bc _ rfl) rfl

theorem raises_constantAt {bank : Bank}
    (supplied : w.Supplied pool allowed (.loadConstantAt bank)) :
    Raises pool allowed (constantAt bank w) := by
  have missing := supplied.indexed bank rfl
  refine raises_bind (raises_register allows _ _) fun base => ?_
  dsimp only
  split
  next =>
    refine raises_bind (raises_constant fun fault failed => ?_) fun _ => raises_setRegister allows _ _ _
    obtain ⟨-, rfl⟩ := Banks.constant_eq_error failed
    exact missing _ _
  next => exact raises_throw (missing _ _)

@[grind ←] theorem raises_compareStrings (mnemonic : String) (w : Word) :
    Raises pool allowed (compareStrings mnemonic w) := by
  unfold compareStrings
  grind

/-- A `THROW` raises what its kind and its text say. -/
theorem raises_raise (supplied : w.Supplied pool allowed .throw) :
    Raises pool allowed (raise w : Action α) := by
  refine raises_bind (raises_ofExcept ((ordinary_ofSelector _).permits allows)) fun kind => ?_
  have fails : FailsOnly (Permits allowed) (pool.constant .string w.bc.toNat) :=
    supplied.operands 1 .bc _ rfl
  intro state constants
  refine raisesAt_bind (raises_constant fails state constants) fun detail after read _ => ?_
  rw [constant_apply, constants] at read
  obtain ⟨found, rfl⟩ := ofExcept_eq_ok.1 read
  have listed : detail ∈ pool.strings := Array.mem_of_getElem? (Banks.get?_of_constant found)
  refine raises_throw ?_ after constants
  split
  next => exact allows.kind kind
  next =>
    by_cases violation : kind = .contractViolation
    · exact violation ▸ supplied.thrown rfl detail listed
    · exact allows.detail kind detail violation

omit allows in
theorem raisesAt_room {state : Local} {count : Nat}
    (roomy : state.frame.routine.layout.maxParam.toNat < state.frame.staged.length + count →
      allowed (.ofFault (.stagingOverflow state.frame.routine.layout.maxParam.toNat))) :
    RaisesAt allowed (room count) state := by
  by_cases full : state.frame.routine.layout.maxParam.toNat < state.frame.staged.length + count
  · simp only [RaisesAt, room, bind_apply, frame_apply, if_pos full, fault_apply]
    exact roomy full
  · simp only [RaisesAt, room, bind_apply, frame_apply, if_neg full, pure_apply]

@[grind ←] theorem raises_valueOf_register (bank : Bank) (index : Nat) :
    Raises pool allowed (valueOf .register bank index) :=
  raises_bind (raises_register allows _ _) fun _ => raises_pure _

omit allows in
@[grind ←] theorem raises_valueOf_constant {bank : Bank} {index : Nat}
    (fails : FailsOnly (Permits allowed) (pool.constant bank index)) :
    Raises pool allowed (valueOf .constant bank index) :=
  raises_bind (raises_constant fails) fun _ => raises_pure _

@[grind ←] theorem raises_vectorParams (index : UInt16) (count : Nat) :
    Raises pool allowed (vectorParams index count) := by
  induction count generalizing index with
  | zero => exact raises_pure _
  | succ count ih =>
    refine raises_bind (raises_valueOf_register allows _ _) fun value => ?_
    exact raises_bind (ih (index + 1)) fun params => raises_pure _

omit allows in
theorem raisesAt_paramImmediate {state : Local}
    (roomy : w.Roomy state.frame allowed .paramImmediate) :
    RaisesAt allowed (paramImmediate w) state :=
  raisesAt_bind (raisesAt_room (roomy rfl)) fun _ after _ _ => raises_stage _ after rfl

@[grind ←] theorem raises_stageReference (bank : Bank) (index : UInt16) :
    Raises pool allowed (stageReference bank index) := by
  unfold stageReference
  grind

theorem raisesAt_param {state : Local} (mnemonic : String)
    (supplied : w.Supplied state.frame.routine.constants allowed .param)
    (roomy : w.Roomy state.frame allowed .param) : RaisesAt allowed (param mnemonic w) state := by
  refine raisesAt_bind (raisesAt_ofExcept ((ordinary_ofSelector _).permits allows) state)
    fun tag after checked _ => ?_
  obtain ⟨valid, rfl⟩ := ofExcept_eq_ok.1 checked
  obtain rfl := OperandTag.validate_eq_ok (Fault.ofSelector_eq_ok valid)
  dsimp only
  by_cases refused : (decide (1 < w.tagAIndexBC.tag.width) && w.tagAIndexBC.tag.isReference) = true
  · rw [if_pos refused]
    exact raises_fault_bind allows rfl _ after rfl
  rw [if_neg refused]
  have some : w.tagAIndexBC.tag.isNil = false :=
    Bool.eq_false_iff.2 fun nil => refused (OperandTag.refused_of_isNil nil)
  have drawn := supplied.operands 0 .tagAIndexBC _ rfl some
  rw [Word.Roomy, Operation.staging, if_neg (Bool.eq_false_iff.1 some)] at roomy
  refine raisesAt_bind (raisesAt_room (roomy rfl)) fun _ there _ same => ?_
  suffices raises : Raises after.frame.routine.constants allowed _ from raises there (by rw [same])
  split
  next constant =>
    exact raises_bind (raises_valueOf_constant (drawn constant)) fun _ => raises_stage _
  next => grind

/-- What an operation that stays in its frame raises. -/
theorem raisesAt_compute {operation : Operation} {state : Local} (epsilon : Double)
    (mnemonic : String) (supplied : w.Supplied state.frame.routine.constants allowed operation)
    (roomy : w.Roomy state.frame allowed operation) :
    RaisesAt allowed (compute epsilon mnemonic w operation) state := by
  suffices others : operation.stages = false →
      Raises state.frame.routine.constants allowed (compute epsilon mnemonic w operation) by
    cases operation with
    | param => exact raisesAt_param allows mnemonic supplied roomy
    | paramImmediate => exact raisesAt_paramImmediate roomy
    | _ => exact others rfl state rfl
  intro unstaged
  cases operation with
  | loadConstant bank =>
    have fails : FailsOnly (Permits allowed)
        (state.frame.routine.constants.constant bank w.bc.toNat) :=
      supplied.operands 1 .bc _ rfl
    exact raises_bind (raises_constant fails) fun _ => raises_setRegister allows _ _ _
  | loadConstantAt bank => exact raises_constantAt allows supplied
  | jump => exact raises_jump supplied
  | jumpTable => exact raises_jumpTable allows mnemonic supplied
  | load kind offset => exact raises_load allows supplied
  | store kind offset => exact raises_store allows supplied
  | castObject target => exact raises_castObject allows supplied
  | castClass target => exact raises_castClass allows supplied
  | param | paramImmediate => cases unstaged
  | throw => exact raises_raise allows supplied
  | bound limit => exact raises_bound allows supplied
  | intBinary f left right => exact raises_intBinary allows supplied
  | intCompare relation left right => exact raises_intCompare allows mnemonic supplied
  | floatBinary f left right => exact raises_floatBinary allows supplied
  | floatCompare relation left right => exact raises_floatCompare allows mnemonic epsilon supplied
  | vectorScale divide dimension scalar => exact raises_vectorScale allows supplied
  | vectorEqual dimension right => exact raises_vectorEqual allows mnemonic epsilon supplied
  | addressAdd offset => exact raises_addressAdd allows supplied
  | pointerEqual right =>
    refine raises_bind (raises_register allows _ _) fun _ => ?_
    refine raises_bind (raises_fetch allows .c (supplied.operands 2 .c _ rfl)) fun _ => ?_
    exact raises_branch allows _ _ _
  | _ =>
    unfold compute
    grind

theorem raises_callee (library : Library ν) {target : Source}
    (supplied : w.Supplied pool allowed (.call target)) :
    Raises pool allowed (callee library w target) := by
  refine raises_bind (raises_fetch allows .a (supplied.operands 0 .a _ rfl)) fun pointer => ?_
  cases pointer with
  | function id => exact raises_ofExcept ((library.ordinary_get id).permits allows)
  | _ => exact raises_fault allows rfl

@[grind ←] theorem raises_resultTarget (offset : Nat) : Raises pool allowed (resultTarget offset) := by
  unfold resultTarget
  grind

@[grind ←] theorem raises_resultTargets (offset count : Nat) :
    Raises pool allowed (resultTargets offset count) := by
  induction count generalizing offset with
  | zero => exact raises_pure _
  | succ count ih =>
    refine raises_bind (raises_resultTarget allows offset) fun target => ?_
    exact raises_bind (ih (offset + 1)) fun targets => raises_pure _

@[grind ←] theorem raises_unstage (running limit taken : Nat) :
    Raises pool allowed (unstage running limit taken) := by
  refine raises_frame_bind fun state constants => ?_
  dsimp only
  split
  next => exact raises_fault allows rfl state constants
  next =>
    split
    next => exact raises_throw_detail allows _ (by decide) state constants
    next => exact (rfl : state.frame.routine = _)

theorem raises_call {library : Library ν} {running limit : Nat} {target : Source}
    (supplied : w.Supplied pool allowed (.call target)) :
    Raises pool allowed (call library running limit w target) := by
  refine raises_bind (raises_callee allows library supplied) fun function => ?_
  refine raises_frame_bind fun state constants => ?_
  refine raisesAt_bind (raises_resultTargets allows _ _ state constants) fun targets after read _ => ?_
  obtain ⟨rfl, -⟩ := resultTargets_eq_ok read
  refine raisesAt_bind (rfl : after.frame.routine = _) fun _ moved _ same => ?_
  suffices raises : Raises pool allowed _ from raises moved (by rw [same, constants])
  exact raises_bind (raises_unstage allows _ _ _) fun _ => raises_pure _

@[grind ←] theorem raises_storeResult (position : Nat) (value : Value) :
    Raises pool allowed (storeResult position value) := by
  refine raises_frame_bind fun state constants => ?_
  refine raisesAt_bind (raisesAt_ofExcept ((Frame.ordinary_storeResult _ _ _).permits allows) state)
    fun frame after stored _ => ?_
  obtain ⟨kept, rfl⟩ := ofExcept_eq_ok.1 stored
  obtain ⟨results, returned, rfl⟩ := Frame.storeResult_eq_ok kept
  exact (rfl : after.frame.routine = _)

theorem raises_ret (mnemonic : String) (supplied : w.Supplied pool allowed .ret) :
    Raises pool allowed (ret mnemonic w) := by
  intro state constants
  refine raisesAt_bind (raisesAt_ofExcept ((ordinary_ofSelector _).permits allows) state)
    fun tag after checked _ => ?_
  obtain ⟨valid, rfl⟩ := ofExcept_eq_ok.1 checked
  obtain rfl := OperandTag.validate_eq_ok (Fault.ofSelector_eq_ok valid)
  suffices raises : Raises pool allowed _ from raises after constants
  dsimp only
  by_cases nil : w.tagBIndexC.tag.isNil
  · rw [if_pos nil]
    exact raises_pure _
  rw [if_neg nil]
  by_cases refused : 1 < w.tagBIndexC.tag.width || w.tagBIndexC.tag.isReference
  · rw [if_pos refused]
    exact raises_fault_bind allows rfl _
  rw [if_neg refused]
  have drawn := supplied.operands 1 .tagBIndexC _ rfl (Bool.eq_false_iff.2 nil)
  refine raises_bind ?_ fun value => raises_storeResult allows _ value
  split
  next constant => exact raises_valueOf_constant (drawn constant)
  next => exact raises_valueOf_register allows _ _

theorem raisesAt_perform (setting : Setting ν) {instruction : Instruction} {state : Local}
    (supplied : w.Supplied state.frame.routine.constants allowed instruction.operation)
    (roomy : w.Roomy state.frame allowed instruction.operation) :
    RaisesAt allowed (perform setting instruction w) state := by
  obtain ⟨target, operation, same⟩ | ⟨operation, same⟩ | ⟨operation, same⟩ | ⟨-, same⟩ :=
    perform_cases setting instruction w
  all_goals rw [same]
  · rw [operation] at supplied
    exact raises_bind (raises_call allows supplied) (fun _ => raises_pure _) state rfl
  · rw [operation] at supplied
    exact raises_bind (raises_ret allows _ supplied) (fun _ => raises_pure _) state rfl
  · exact raises_bind (raises_storeResult allows _ _) (fun _ => raises_pure _) state rfl
  · exact raisesAt_bind (raisesAt_compute allows _ _ supplied roomy) fun _ after _ _ =>
      raises_pure _ after rfl

/-- What the next instruction of a frame raises. -/
theorem allowed_of_advance {setting : Setting ν} {state after : Local} {abort : Abort}
    (fetching : FailsOnly (Permits allowed) (state.frame.routine.word state.frame.pc))
    (supplied : ∀ word instruction, state.frame.routine.code[state.frame.pc]? = some word →
      Instruction.ofOpcode? word.opcode = some instruction →
      word.Supplied state.frame.routine.constants allowed instruction.operation)
    (roomy : ∀ word instruction, state.frame.routine.code[state.frame.pc]? = some word →
      Instruction.ofOpcode? word.opcode = some instruction →
      word.Roomy state.frame allowed instruction.operation)
    (failed : advance setting state = .error abort after) : allowed abort := by
  cases found : state.frame.routine.word state.frame.pc with
  | error fault =>
    have raised : advance setting state = .error (.ofFault fault) state := by
      simp [advance, bind_apply, found]
    cases raised.symm.trans failed
    exact fetching fault found
  | ok word =>
    have located := LinkedRoutine.word_eq_ok_iff.1 found
    cases decoded : Instruction.ofOpcode? word.opcode with
    | some instruction =>
      rw [advance_of_word setting located decoded] at failed
      have raises : RaisesAt allowed (perform setting instruction word) state.fetched :=
        raisesAt_perform allows setting (supplied word instruction located decoded)
          (roomy word instruction located decoded)
      rwa [RaisesAt, failed] at raises
    | none =>
      have raised : ∃ invalid, advance setting state = .error (.ofFault (.invalidOpcode invalid))
          state.fetched :=
        ⟨_, by simp [advance, bind_apply, found, Word.instruction, decoded, Local.fetched]; rfl⟩
      obtain ⟨invalid, raised⟩ := raised
      cases raised.symm.trans failed
      exact allows.fault _ rfl

end Action
end GameScript
