import GameScript.Machine.Perform
import GameScript.Proofs.HeapBlocks

/-! The elementary effects of instructions. A relation between states that allows each of them holds
between the state before and the state after any instruction that stays in its frame, whether the
instruction completes or aborts. -/

namespace GameScript

namespace Banks

variable {registers after : Banks}

@[simp] theorem row_withRow (registers : Banks) (bank : Bank) (row : Array bank.Content) :
    (registers.withRow bank row).row bank = row := by
  cases bank <;> rfl

theorem row_withRow_ne (registers : Banks) {bank other : Bank} (row : Array bank.Content)
    (apart : other ≠ bank) : (registers.withRow bank row).row other = registers.row other := by
  cases bank <;> cases other <;> first | rfl | exact absurd rfl apart

theorem setRegister_size {bank : Bank} {index : Nat} {content : bank.Content}
    (written : registers.setRegister bank index content = .ok after) (other : Bank) :
    after.size other = registers.size other := by
  unfold setRegister at written
  split at written
  next =>
    cases written
    by_cases same : other = bank
    · subst same
      simp [size]
    · rw [size, row_withRow_ne _ _ same, size]
  next => cases written

theorem setVector_size {start : Nat} {components : Vector Double count}
    (written : registers.setVector start components = .ok after) (other : Bank) :
    after.size other = registers.size other := by
  have kept : ∀ (positions : List (Fin count)) (floats : Array Double),
      (positions.foldl (fun floats i => floats.setIfInBounds (start + i) components[i]) floats).size =
        floats.size := by
    intro positions
    induction positions with
    | nil => simp
    | cons i rest ih =>
      intro floats
      rw [List.foldl_cons, ih, Array.size_setIfInBounds]
  unfold setVector at written
  split at written
  next =>
    cases written
    cases other with
    | float => exact kept _ _
    | _ => rfl
  next => cases written

end Banks

theorem Frame.jump_eq_ok {frame moved : Frame} {start : Nat} {delta : Int}
    (jumped : frame.jump start delta = .ok moved) :
    ∃ target : Nat, (target : Int) = start + delta ∧ target ≤ frame.routine.code.size ∧
      moved = { frame with pc := target } := by
  unfold jump at jumped
  dsimp only at jumped
  split at jumped
  next inside =>
    cases jumped
    exact ⟨_, Int.toNat_of_nonneg inside.1, by omega, rfl⟩
  next => cases jumped

/-- Whether an operation chooses where its frame goes on: jumps, comparisons, tests and calls do. -/
def Operation.steers : Operation → Bool
  | .jump | .jumpTable | .test | .testNegated | .compareStrings | .intCompare .. | .floatCompare ..
  | .vectorEqual .. | .pointerEqual .. | .call .. => true
  | _ => false

def Operation.stages : Operation → Bool
  | .param | .paramImmediate => true
  | _ => false

namespace Action

/-- The state an action leaves, also when it aborts. -/
def final (action : Action α) (state : Local) : Local :=
  match action state with
  | .ok _ after => after
  | .error _ after => after

def Keeps (relation : Local → Local → Prop) (action : Action α) : Prop :=
  ∀ state, relation state (action.final state)

/-- The effects of operations that stage nothing and leave it to the machine where their frame goes
on. -/
structure PlainEffects (relation : Local → Local → Prop) : Prop where
  refl : ∀ state, relation state state
  trans : ∀ {first second third}, relation first second → relation second third →
    relation first third
  registers : ∀ state registers,
    (∀ bank, registers.size bank = state.frame.registers.size bank) →
    relation state { state with frame := { state.frame with registers } }
  names : ∀ state names, relation state { state with world := { state.world with names } }
  barrier : ∀ state stored, relation state { state with world := state.world.notify stored }
  heap : ∀ state position change heap, state.world.heap.update position change = .ok heap →
    relation state { state with world := { state.world with heap } }

structure StillEffects (relation : Local → Local → Prop) : Prop extends PlainEffects relation where
  staged : ∀ state params, params.filterMap StagedParam.writeback = [] →
    relation state { state with frame := { state.frame with staged := state.frame.staged ++ params } }
  boxed : ∀ state value cell heap bank index, state.world.heap.box value = .ok (cell, heap) →
    relation state
      ⟨{ state.frame with staged := state.frame.staged ++
          [⟨.pointer (.address ⟨cell, 0⟩), some ⟨bank, index, cell⟩⟩] },
        { state.world with heap }⟩

/-- The effects of operations other than calls and returns that stage nothing. -/
structure SteeringEffects (relation : Local → Local → Prop) : Prop extends
    PlainEffects relation where
  pc : ∀ state pc, pc ≤ state.frame.routine.code.size →
    relation state { state with frame := { state.frame with pc } }

structure Effects (relation : Local → Local → Prop) : Prop extends StillEffects relation,
    SteeringEffects relation

section Primitives

variable {state : Local}

theorem bind_apply (first : Action α) (next : α → Action β) (state : Local) :
    (first >>= next) state = match first state with
      | .ok value after => next value after
      | .error abort after => .error abort after := by
  simp only [bind, EStateM.bind]
  cases first state <;> rfl

@[simp] theorem pure_apply (value : α) : (pure value : Action α) state = .ok value state := rfl

@[simp] theorem get_apply : (get : Action Local) state = .ok state state := rfl

@[simp] theorem frame_apply : frame state = .ok state.frame state := rfl

@[simp] theorem heap_apply : heap state = .ok state.world.heap state := rfl

@[simp] theorem setFrame_apply (frame : Frame) :
    setFrame frame state = .ok () { state with frame } := rfl

@[simp] theorem setWorld_apply (world : World) :
    setWorld world state = .ok () { state with world } := rfl

@[simp] theorem ofExcept_ok (value : α) : (ofExcept (.ok value) : Action α) state = .ok value state :=
  rfl

@[simp] theorem ofExcept_error (fault : Fault) :
    (ofExcept (.error fault) : Action α) state = .error (.ofFault fault) state := rfl

@[simp] theorem fault_apply (fault : Fault) :
    (Action.fault fault : Action α) state = .error (.ofFault fault) state := rfl

@[simp] theorem throw_apply (abort : Abort) :
    (throw abort : Action α) state = .error abort state := rfl

theorem register_apply (bank : Bank) (index : Nat) :
    register bank index state = ofExcept (state.frame.registers.register bank index) state := rfl

theorem vector_apply (count start : Nat) :
    vector count start state = ofExcept (state.frame.registers.vector count start) state := rfl

theorem constant_apply (bank : Bank) (index : Nat) :
    constant bank index state = ofExcept (state.frame.routine.constants.constant bank index) state :=
  rfl

end Primitives

variable {relation : Local → Local → Prop}

/-- An action that reads its frame first may use what the frame says about the state. -/
theorem keeps_frame_bind {next : Frame → Action α}
    (kept : ∀ state, relation state ((next state.frame).final state)) :
    Keeps relation (frame >>= next) := kept

section Plain

variable (effects : PlainEffects relation)
include effects

@[grind ←] theorem keeps_bind {first : Action α} {next : α → Action β}
    (kept : Keeps relation first) (rest : ∀ value, Keeps relation (next value)) :
    Keeps relation (first >>= next) := by
  intro state
  have before := kept state
  unfold final at before ⊢
  rw [bind_apply]
  cases result : first state with
  | ok value after =>
    rw [result] at before
    exact effects.trans before (rest value after)
  | error abort after => simpa only [result] using before

@[grind ←] theorem keeps_pure (value : α) : Keeps relation (pure value : Action α) :=
  fun state => effects.refl state

@[grind ←] theorem keeps_throw (abort : Abort) : Keeps relation (throw abort : Action α) :=
  fun state => effects.refl state

@[grind ←] theorem keeps_fault (fault : Fault) : Keeps relation (Action.fault fault : Action α) :=
  fun state => effects.refl state

@[grind ←] theorem keeps_abort (kind : AbortKind) : Keeps relation (abort kind : Action α) :=
  fun state => effects.refl state

@[grind ←] theorem keeps_ofExcept (result : Except Fault α) : Keeps relation (ofExcept result) := by
  intro state
  cases result <;> exact effects.refl state

@[grind ←] theorem keeps_ofAbort (result : Except Abort α) : Keeps relation (ofAbort result) := by
  intro state
  cases result <;> exact effects.refl state

@[grind ←] theorem keeps_get : Keeps relation (get : Action Local) := fun state => effects.refl state

@[grind ←] theorem keeps_frame : Keeps relation frame := fun state => effects.refl state

@[grind ←] theorem keeps_heap : Keeps relation heap := fun state => effects.refl state

@[grind ←] theorem keeps_register (bank : Bank) (index : Nat) :
    Keeps relation (register bank index) :=
  keeps_bind effects (keeps_frame effects) fun _ => keeps_ofExcept effects _

@[grind ←] theorem keeps_constant (bank : Bank) (index : Nat) :
    Keeps relation (constant bank index) :=
  keeps_bind effects (keeps_frame effects) fun _ => keeps_ofExcept effects _

@[grind ←] theorem keeps_vector (count start : Nat) : Keeps relation (vector count start) :=
  keeps_bind effects (keeps_frame effects) fun _ => keeps_ofExcept effects _

@[grind ←] theorem keeps_fetch (source : Source) (bank : Bank) (index : Nat) :
    Keeps relation (fetch source bank index) := by
  cases source
  · exact keeps_register effects bank index
  · exact keeps_constant effects bank index

@[grind ←] theorem keeps_fetchInt (source : IntSource) (field : UInt16) :
    Keeps relation (fetchInt source field) := by
  cases source <;> unfold fetchInt <;> grind

@[grind ←] theorem keeps_fetchVector (source : Source) (count start : Nat) :
    Keeps relation (fetchVector source count start) := by
  cases source <;> unfold fetchVector <;> grind

@[grind ←] theorem keeps_setRegister (bank : Bank) (index : Nat) (content : bank.Content) :
    Keeps relation (setRegister bank index content) := by
  intro state
  simp only [final, setRegister, bind_apply, frame_apply]
  cases written : state.frame.registers.setRegister bank index content with
  | ok registers => exact effects.registers state registers (Banks.setRegister_size written)
  | error fault => exact effects.refl state

@[grind ←] theorem keeps_setVector (start : Nat) (components : Vector Double count) :
    Keeps relation (setVector start components) := by
  intro state
  simp only [final, setVector, bind_apply, frame_apply]
  cases written : state.frame.registers.setVector start components with
  | ok registers => exact effects.registers state registers (Banks.setVector_size written)
  | error fault => exact effects.refl state

theorem keeps_updateHeap (position : Address) (change : Block → UInt32 → Except Fault Block) :
    Keeps relation (updateHeap (·.update position change)) := by
  intro state
  simp only [final, updateHeap, bind_apply, get_apply]
  cases written : state.world.heap.update position change with
  | ok heap => exact effects.heap state position change heap written
  | error fault => exact effects.refl state

@[grind ←] theorem keeps_writeBytes (position : Address) (data : List UInt8) :
    Keeps relation (writeBytes position data) := keeps_updateHeap effects position _

@[grind ←] theorem keeps_writeString (position : Address) (value : String) :
    Keeps relation (writeString position value) := keeps_updateHeap effects position _

@[grind ←] theorem keeps_writePointer (position : Address) (value : Pointer) :
    Keeps relation (writePointer position value) := keeps_updateHeap effects position _

@[grind ←] theorem keeps_intern (name : String) : Keeps relation (intern name) :=
  fun state => effects.names state _

@[grind ←] theorem keeps_notify (stored : Option ObjectRef) : Keeps relation (notify stored) :=
  fun state => effects.barrier state stored

theorem final_ofExcept_bind {result : Except Fault α} {next : α → Action β} {state : Local}
    (kept : ∀ value, result = .ok value → relation state ((next value).final state)) :
    relation state ((ofExcept result >>= next).final state) := by
  cases result with
  | ok value => exact kept value rfl
  | error fault => exact effects.refl state

@[grind ←] theorem keeps_locate (base : Nat) (offset : Action Int32) (nil : AbortKind)
    (kept : Keeps relation offset) : Keeps relation (locate base offset nil) := by
  unfold locate
  grind

@[grind ←] theorem keeps_readNat (position : Address) (width : Nat) :
    Keeps relation (readNat position width) := by
  unfold readNat
  grind

@[grind ←] theorem keeps_readDouble (position : Address) : Keeps relation (readDouble position) := by
  unfold readDouble
  grind

@[grind ←] theorem keeps_readVector (position : Address) (count : Nat) :
    Keeps relation (readVector position count) := by
  induction count with
  | zero => exact keeps_pure effects _
  | succ count ih =>
    unfold readVector
    grind

@[grind ←] theorem keeps_readIndirect (position : Address) :
    Keeps relation (readIndirect position) := by
  unfold readIndirect
  grind

@[grind ←] theorem keeps_load (w : Word) (kind : LoadKind) (offset : Source) :
    Keeps relation (load w kind offset) := by
  unfold load
  cases kind <;> grind

@[grind ←] theorem keeps_store (w : Word) (kind : StoreKind) (offset : Source) :
    Keeps relation (store w kind offset) := by
  unfold store
  cases kind <;> grind

@[grind ←] theorem keeps_cast (w : Word) : Keeps relation (cast w) := by
  unfold cast
  refine keeps_bind effects (keeps_ofExcept effects _) fun kind => ?_
  cases kind <;> grind

@[grind ←] theorem keeps_castBool (w : Word) : Keeps relation (castBool w) := by
  unfold castBool
  grind

@[grind ←] theorem keeps_classOf (pointer : Pointer) : Keeps relation (classOf pointer) := by
  unfold classOf
  grind

@[grind ←] theorem keeps_castObject (w : Word) (target : Source) :
    Keeps relation (castObject w target) := by
  unfold castObject
  refine keeps_bind effects (keeps_fetch effects _ _ _) fun pointer => ?_
  refine keeps_bind effects (keeps_classOf effects _) fun id => ?_
  refine keeps_bind effects (keeps_register effects _ _) fun pointer => ?_
  cases pointer <;> grind

@[grind ←] theorem keeps_castClass (w : Word) (target : Source) :
    Keeps relation (castClass w target) := by
  unfold castClass
  refine keeps_bind effects (keeps_fetch effects _ _ _) fun pointer => ?_
  refine keeps_bind effects (keeps_classOf effects _) fun id => ?_
  refine keeps_bind effects (keeps_register effects _ _) fun pointer => ?_
  cases pointer <;> grind

@[grind ←] theorem keeps_objectAt (index : Nat) : Keeps relation (objectAt index) := by
  refine keeps_bind effects (keeps_register effects _ _) fun pointer => ?_
  cases pointer <;> grind

@[grind ←] theorem keeps_objectClass (w : Word) : Keeps relation (objectClass w) := by
  unfold objectClass
  grind

@[grind ←] theorem keeps_virtual (w : Word) : Keeps relation (virtual w) := by
  unfold virtual
  grind

@[grind ←] theorem keeps_loadBits (w : Word) : Keeps relation (loadBits w) := by
  unfold loadBits
  grind

@[grind ←] theorem keeps_storeBits (w : Word) : Keeps relation (storeBits w) := by
  unfold storeBits
  grind

@[grind ←] theorem keeps_addressAdd (w : Word) (offset : Source) :
    Keeps relation (addressAdd w offset) := by
  refine keeps_bind effects (keeps_register effects _ _) fun base => ?_
  refine keeps_bind effects (keeps_fetch effects _ _ _) fun delta => ?_
  refine keeps_bind effects (keeps_heap effects) fun heap => ?_
  refine keeps_bind effects (keeps_ofExcept effects _) fun position => ?_
  cases position <;> grind

@[grind ←] theorem keeps_addressDistance (w : Word) : Keeps relation (addressDistance w) := by
  unfold addressDistance
  refine keeps_bind effects (keeps_register effects _ _) fun left => ?_
  refine keeps_bind effects (keeps_register effects _ _) fun right => ?_
  refine keeps_bind effects (keeps_heap effects) fun heap => ?_
  refine keeps_bind effects (keeps_ofExcept effects _) fun leftPosition => ?_
  refine keeps_bind effects (keeps_heap effects) fun heap => ?_
  refine keeps_bind effects (keeps_ofExcept effects _) fun rightPosition => ?_
  cases leftPosition <;> cases rightPosition <;> grind

@[grind ←] theorem keeps_intBinary (w : Word) (f : IntFunction) (left right : IntSource) :
    Keeps relation (intBinary w f left right) := by
  unfold intBinary
  grind

@[grind ←] theorem keeps_floatBinary (w : Word) (f : FloatBinary) (left right : Source) :
    Keeps relation (floatBinary w f left right) := by
  unfold floatBinary
  grind

@[grind ←] theorem keeps_vectorScale (w : Word) (divide : Bool) (count : Nat) (scalar : Source) :
    Keeps relation (vectorScale w divide count scalar) := by
  unfold vectorScale
  grind

@[grind ←] theorem keeps_bound (w : Word) (limit : IntSource) : Keeps relation (bound w limit) := by
  unfold bound
  grind

@[grind ←] theorem keeps_constantAt (bank : Bank) (w : Word) :
    Keeps relation (constantAt bank w) := by
  unfold constantAt
  grind

@[grind ←] theorem keeps_raise (w : Word) : Keeps relation (raise w : Action α) := by
  unfold raise
  grind

@[grind ←] theorem keeps_valueOf (source : Source) (bank : Bank) (index : Nat) :
    Keeps relation (valueOf source bank index) := by
  unfold valueOf
  grind

@[grind ←] theorem keeps_room (count : Nat) : Keeps relation (room count) := by
  unfold room
  grind

/-- An operation that neither stages nor chooses where its frame goes on has the plain effects only. -/
theorem keeps_compute_plain (epsilon : Double) (mnemonic : String) (w : Word) {operation : Operation}
    (straight : operation.steers = false) (unstaged : operation.stages = false) :
    Keeps relation (compute epsilon mnemonic w operation) := by
  cases operation with
  | jump | jumpTable | test | testNegated | compareStrings | intCompare | floatCompare | vectorEqual
  | pointerEqual | call => cases straight
  | param | paramImmediate => cases unstaged
  | _ =>
    unfold compute
    grind

end Plain

section Still

variable (effects : StillEffects relation)
include effects

theorem final_stage (state : Local) (params : List StagedParam)
    (plain : params.filterMap StagedParam.writeback = []) :
    relation state ((stage params).final state) := effects.staged state params plain

@[grind ←] theorem keeps_stage_value (value : Value) : Keeps relation (stage [⟨value, none⟩]) :=
  fun state => final_stage effects state _ rfl

@[grind ←] theorem keeps_stageReference (bank : Bank) (index : UInt16) :
    Keeps relation (stageReference bank index) := by
  have plain := effects.toPlainEffects
  refine keeps_bind plain (keeps_valueOf plain _ _ _) fun value => ?_
  intro state
  refine final_ofExcept_bind plain fun (cell, heap) boxed => ?_
  exact effects.boxed state value cell heap bank index boxed

omit effects in
theorem valueOf_apply (source : Source) (bank : Bank) (index : Nat) (state : Local) :
    (∃ value, valueOf source bank index state = .ok value state) ∨
      ∃ abort, valueOf source bank index state = .error abort state := by
  cases source with
  | register =>
    cases read : state.frame.registers.register bank index with
    | ok content => exact .inl ⟨.of bank content, by simp [valueOf, bind_apply, fetch, register_apply, read]⟩
    | error fault => exact .inr ⟨.ofFault fault, by simp [valueOf, bind_apply, fetch, register_apply, read]⟩
  | constant =>
    cases read : state.frame.routine.constants.constant bank index with
    | ok content => exact .inl ⟨.of bank content, by simp [valueOf, bind_apply, fetch, constant_apply, read]⟩
    | error fault => exact .inr ⟨.ofFault fault, by simp [valueOf, bind_apply, fetch, constant_apply, read]⟩

omit effects in
theorem vectorParams_apply (index : UInt16) (count : Nat) (state : Local) :
    (∃ params, vectorParams index count state = .ok params state ∧
        params.filterMap StagedParam.writeback = [] ∧ params.length = count) ∨
      ∃ abort, vectorParams index count state = .error abort state := by
  induction count generalizing index with
  | zero => exact .inl ⟨[], rfl, rfl, rfl⟩
  | succ count ih =>
    simp only [vectorParams, bind_apply]
    rcases valueOf_apply .register .float index.toNat state with ⟨value, found⟩ | ⟨abort, failed⟩
    · rw [found]
      rcases ih (index + 1) with ⟨params, rest, plain, length⟩ | ⟨abort, failed⟩
      · exact .inl ⟨⟨value, none⟩ :: params, by simp [rest], by simpa using plain, by simp [length]⟩
      · exact .inr ⟨abort, by simp [failed]⟩
    · exact .inr ⟨abort, by simp [failed]⟩

@[grind ←] theorem keeps_vectorParams (index : UInt16) (count : Nat) :
    Keeps relation (vectorParams index count >>= stage) := by
  intro state
  unfold final
  rw [bind_apply]
  rcases vectorParams_apply index count state with ⟨params, read, plain, -⟩ | ⟨abort, failed⟩
  · rw [read]
    exact final_stage effects state params plain
  · rw [failed]
    exact effects.refl state

@[grind ←] theorem keeps_param (mnemonic : String) (w : Word) :
    Keeps relation (param mnemonic w) := by
  have plain := effects.toPlainEffects
  unfold param
  refine keeps_bind plain (keeps_ofExcept plain _) fun tag => ?_
  grind

@[grind ←] theorem keeps_paramImmediate (w : Word) : Keeps relation (paramImmediate w) := by
  have plain := effects.toPlainEffects
  unfold paramImmediate
  grind

/-- An operation that does not choose where its frame goes on leaves the instruction pointer alone. -/
theorem keeps_compute_straight (epsilon : Double) (mnemonic : String) (w : Word)
    {operation : Operation} (straight : operation.steers = false) :
    Keeps relation (compute epsilon mnemonic w operation) := by
  cases operation with
  | param => exact keeps_param effects mnemonic w
  | paramImmediate => exact keeps_paramImmediate effects w
  | _ => exact keeps_compute_plain effects.toPlainEffects epsilon mnemonic w straight rfl

end Still

section Steering

variable (effects : SteeringEffects relation)
include effects

@[grind ←] theorem keeps_branch (mnemonic : String) (outcome check : Bool) :
    Keeps relation (branch mnemonic outcome check) := by
  refine keeps_frame_bind fun state => ?_
  split
  next jump =>
    split
    next =>
      refine effects.pc state _ ?_
      obtain ⟨word, found, -⟩ := Option.bind_eq_some_iff.1 jump
      exact (Array.getElem?_eq_some_iff.1 found).1
    next => exact effects.refl state
  next => exact effects.refl state

theorem final_jump (state : Local) (start : Nat) (delta : Int) :
    relation state ((ofExcept (state.frame.jump start delta) >>= setFrame).final state) := by
  refine final_ofExcept_bind effects.toPlainEffects fun moved jumped => ?_
  obtain ⟨target, -, inside, rfl⟩ := Frame.jump_eq_ok jumped
  exact effects.pc state target inside

@[grind ←] theorem keeps_jump (w : Word) : Keeps relation (jump w) :=
  keeps_frame_bind fun state => final_jump effects state _ _

@[grind ←] theorem keeps_jumpTable (mnemonic : String) (w : Word) :
    Keeps relation (jumpTable mnemonic w) := by
  refine keeps_frame_bind fun state => ?_
  refine final_ofExcept_bind effects.toPlainEffects fun entry _ => ?_
  dsimp only
  split
  next word found =>
    split
    next => exact final_jump effects state _ _
    next => exact effects.refl state
  next => exact effects.refl state

@[grind ←] theorem keeps_intCompare (mnemonic : String) (w : Word) (relate : IntRelation)
    (left right : IntSource) : Keeps relation (intCompare mnemonic w relate left right) := by
  have plain := effects.toPlainEffects
  unfold intCompare
  grind

@[grind ←] theorem keeps_floatCompare (mnemonic : String) (epsilon : Double) (w : Word)
    (relate : FloatRelation) (left right : Source) :
    Keeps relation (floatCompare mnemonic epsilon w relate left right) := by
  have plain := effects.toPlainEffects
  unfold floatCompare
  grind

@[grind ←] theorem keeps_vectorEqual (mnemonic : String) (epsilon : Double) (w : Word) (count : Nat)
    (right : Source) : Keeps relation (vectorEqual mnemonic epsilon w count right) := by
  have plain := effects.toPlainEffects
  unfold vectorEqual
  grind

@[grind ←] theorem keeps_compareStrings (mnemonic : String) (w : Word) :
    Keeps relation (compareStrings mnemonic w) := by
  have plain := effects.toPlainEffects
  unfold compareStrings
  grind

/-- An operation that stages nothing may still choose where its frame goes on. -/
theorem keeps_compute_unstaged (epsilon : Double) (mnemonic : String) (w : Word)
    {operation : Operation} (unstaged : operation.stages = false) :
    Keeps relation (compute epsilon mnemonic w operation) := by
  have plain := effects.toPlainEffects
  cases operation with
  | jump | jumpTable | test | testNegated | compareStrings | intCompare | floatCompare | vectorEqual
  | pointerEqual | call =>
    unfold compute
    grind
  | _ => exact keeps_compute_plain plain epsilon mnemonic w rfl unstaged

end Steering

/-- Every operation that stays in its frame has the elementary effects only. -/
theorem keeps_compute (effects : Effects relation) (epsilon : Double) (mnemonic : String) (w : Word)
    (operation : Operation) : Keeps relation (compute epsilon mnemonic w operation) := by
  cases operation with
  | param | paramImmediate =>
    exact keeps_compute_straight effects.toStillEffects epsilon mnemonic w rfl
  | _ => exact keeps_compute_unstaged effects.toSteeringEffects epsilon mnemonic w rfl

end Action
end GameScript
