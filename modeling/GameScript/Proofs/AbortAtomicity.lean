import GameScript.Proofs.MachineSteps
import GameScript.Proofs.RegisterUse

/-! What an instruction has done when it ends. An instruction reads its operands, and only then makes
its one change, to its frame or to memory, which cannot fail half-way; so an instruction that aborts
has done nothing. Two operations do more: an object store is noted once it is made, and a conversion
of a string to a name interns the name, which it does before it looks for the register of the
result. -/

namespace GameScript

def Operation.transfers : Operation → Bool
  | .call _ | .ret | .retImmediate => true
  | _ => false

def World.interning (world : World) : Option String → World
  | some name => { world with names := (world.names.intern name).2 }
  | none => world

namespace Action

variable {state after : Local} {abort : Abort}

def Reads (action : Action α) : Prop := ∀ state, action.final state = state

/-- The action has done nothing if it aborts, and otherwise has left all but its frame and memory
alone. -/
structure Commits (action : Action α) : Prop where
  done : ∀ {state value after}, action state = .ok value after →
    ∃ heap, after.world = { state.world with heap }
  undone : ∀ {state abort after}, action state = .error abort after → after = state

theorem Reads.of_ok {action : Action α} {value : α} (reads : Reads action)
    (done : action state = .ok value after) : after = state := by
  simpa only [final, done] using reads state

theorem Reads.of_error {action : Action α} (reads : Reads action)
    (failed : action state = .error abort after) : after = state := by
  simpa only [final, failed] using reads state

section Reading

@[grind ←] theorem reads_bind {first : Action α} {next : α → Action β} (reads : Reads first)
    (rest : ∀ value, Reads (next value)) : Reads (first >>= next) := by
  intro state
  unfold final
  rw [bind_apply]
  cases done : first state with
  | ok value middle =>
    cases reads.of_ok done
    exact rest value state
  | error abort middle => exact reads.of_error done

@[grind ←] theorem reads_pure (value : α) : Reads (pure value : Action α) := fun _ => rfl

@[grind ←] theorem reads_throw (abort : Abort) : Reads (throw abort : Action α) := fun _ => rfl

@[grind ←] theorem reads_fault (fault : Fault) : Reads (Action.fault fault : Action α) := fun _ => rfl

@[grind ←] theorem reads_abort (kind : AbortKind) : Reads (Action.abort kind : Action α) :=
  fun _ => rfl

@[grind ←] theorem reads_ofExcept (result : Except Fault α) : Reads (ofExcept result) := by
  intro state
  cases result <;> rfl

@[grind ←] theorem reads_ofAbort (result : Except Abort α) : Reads (ofAbort result) := by
  intro state
  cases result <;> rfl

@[grind ←] theorem reads_get : Reads (get : Action Local) := fun _ => rfl

@[grind ←] theorem reads_frame : Reads frame := fun _ => rfl

@[grind ←] theorem reads_heap : Reads heap := fun _ => rfl

@[grind ←] theorem reads_register (bank : Bank) (index : Nat) : Reads (register bank index) :=
  reads_bind reads_frame fun _ => reads_ofExcept _

@[grind ←] theorem reads_constant (bank : Bank) (index : Nat) : Reads (constant bank index) :=
  reads_bind reads_frame fun _ => reads_ofExcept _

@[grind ←] theorem reads_vector (count start : Nat) : Reads (vector count start) :=
  reads_bind reads_frame fun _ => reads_ofExcept _

@[grind ←] theorem reads_fetch (source : Source) (bank : Bank) (index : Nat) :
    Reads (fetch source bank index) := by
  cases source
  · exact reads_register bank index
  · exact reads_constant bank index

@[grind ←] theorem reads_fetchInt (source : IntSource) (field : UInt16) :
    Reads (fetchInt source field) := by
  cases source <;> unfold fetchInt <;> grind

@[grind ←] theorem reads_fetchVector (source : Source) (count start : Nat) :
    Reads (fetchVector source count start) := by
  cases source <;> unfold fetchVector <;> grind

@[grind ←] theorem reads_locate (base : Nat) (offset : Action Int32) (nil : AbortKind)
    (reads : Reads offset) : Reads (locate base offset nil) := by
  unfold locate
  grind

@[grind ←] theorem reads_readNat (position : Address) (width : Nat) :
    Reads (readNat position width) := by
  unfold readNat
  grind

@[grind ←] theorem reads_readDouble (position : Address) : Reads (readDouble position) := by
  unfold readDouble
  grind

@[grind ←] theorem reads_readVector (position : Address) (count : Nat) :
    Reads (readVector position count) := by
  induction count with
  | zero => exact reads_pure _
  | succ count ih =>
    unfold readVector
    grind

@[grind ←] theorem reads_readIndirect (position : Address) : Reads (readIndirect position) := by
  unfold readIndirect
  grind

@[grind ←] theorem reads_classOf (pointer : Pointer) : Reads (classOf pointer) := by
  unfold classOf
  grind

@[grind ←] theorem reads_objectAt (index : Nat) : Reads (objectAt index) := by
  refine reads_bind (reads_register _ _) fun pointer => ?_
  cases pointer <;> grind

@[grind ←] theorem reads_valueOf (source : Source) (bank : Bank) (index : Nat) :
    Reads (valueOf source bank index) := by
  unfold valueOf
  grind

@[grind ←] theorem reads_vectorParams (index : UInt16) (count : Nat) :
    Reads (vectorParams index count) := by
  induction count generalizing index with
  | zero => exact reads_pure _
  | succ count ih =>
    unfold vectorParams
    grind

@[grind ←] theorem reads_room (count : Nat) : Reads (room count) := by
  unfold room
  grind

@[grind ←] theorem reads_raise (w : Word) : Reads (raise w : Action α) := by
  unfold raise
  grind

@[grind ←] theorem reads_bound (w : Word) (limit : IntSource) : Reads (bound w limit) := by
  unfold bound
  grind

end Reading

section Changing

@[grind ←] theorem Reads.commits {action : Action α} (reads : Reads action) : Commits action where
  done done := by
    cases reads.of_ok done
    exact ⟨_, rfl⟩
  undone := reads.of_error

/-- What is read before the change cannot have changed anything. -/
@[grind ←] theorem commits_bind {first : Action α} {next : α → Action β} (reads : Reads first)
    (rest : ∀ value, Commits (next value)) : Commits (first >>= next) := by
  constructor
  · intro state result after done
    obtain ⟨value, middle, read, made⟩ := bind_eq_ok.1 done
    cases reads.of_ok read
    exact (rest value).done made
  · intro state abort after failed
    rcases bind_eq_error.1 failed with early | ⟨value, middle, read, late⟩
    · exact reads.of_error early
    · cases reads.of_ok read
      exact (rest value).undone late

theorem commits_ofExcept_bind {result : Except Fault α} {next : α → Action β}
    (rest : ∀ value, result = .ok value → Commits (next value)) :
    Commits (ofExcept result >>= next) := by
  cases result with
  | ok value => exact rest value rfl
  | error fault => exact (reads_fault fault).commits

@[grind ←] theorem commits_setFrame (frame : Frame) : Commits (setFrame frame) := by
  constructor
  · rintro state value after ⟨⟩
    exact ⟨_, rfl⟩
  · rintro state abort after ⟨⟩

@[grind ←] theorem commits_setRegister (bank : Bank) (index : Nat) (content : bank.Content) :
    Commits (setRegister bank index content) := by
  unfold setRegister
  grind

@[grind ←] theorem commits_setVector (start : Nat) (components : Vector Double count) :
    Commits (setVector start components) := by
  unfold setVector
  grind

/-- A change of memory fails as a whole. -/
theorem updateHeap_eq_ok {change : Heap → Except Fault Heap}
    (done : updateHeap change state = .ok () after) :
    ∃ heap, change state.world.heap = .ok heap ∧
      after = { state with world := { state.world with heap } } := by
  obtain ⟨_, _, ⟨⟩, done⟩ := bind_eq_ok.1 done
  obtain ⟨heap, _, changed, done⟩ := bind_eq_ok.1 done
  obtain ⟨changed, rfl⟩ := ofExcept_eq_ok.1 changed
  cases done
  exact ⟨heap, changed, rfl⟩

theorem commits_updateHeap (change : Heap → Except Fault Heap) : Commits (updateHeap change) := by
  constructor
  · intro state value after done
    obtain ⟨heap, -, rfl⟩ := updateHeap_eq_ok done
    exact ⟨heap, rfl⟩
  · intro state abort after failed
    rcases bind_eq_error.1 failed with ⟨⟨⟩⟩ | ⟨_, _, ⟨⟩, failed⟩
    rcases bind_eq_error.1 failed with early | ⟨_, _, -, ⟨⟩⟩
    exact (ofExcept_eq_error.1 early).2

@[grind ←] theorem commits_writeBytes (position : Address) (data : List UInt8) :
    Commits (writeBytes position data) := commits_updateHeap _

@[grind ←] theorem commits_writeString (position : Address) (value : String) :
    Commits (writeString position value) := commits_updateHeap _

@[grind ←] theorem commits_writePointer (position : Address) (value : Pointer) :
    Commits (writePointer position value) := commits_updateHeap _

@[grind ←] theorem commits_load (w : Word) (kind : LoadKind) (offset : Source) :
    Commits (load w kind offset) := by
  unfold load
  cases kind <;> grind

/-- Every store but that of an object. -/
@[grind ←] theorem commits_store (w : Word) {kind : StoreKind} (offset : Source)
    (plain : kind ≠ .object) : Commits (store w kind offset) := by
  cases kind with
  | object => exact absurd rfl plain
  | _ =>
    unfold store
    grind

@[grind ←] theorem commits_castBool (w : Word) : Commits (castBool w) := by
  unfold castBool
  grind

@[grind ←] theorem commits_castObject (w : Word) (target : Source) :
    Commits (castObject w target) := by
  unfold castObject
  refine commits_bind (reads_fetch _ _ _) fun pointer => ?_
  refine commits_bind (reads_classOf _) fun id => ?_
  refine commits_bind (reads_register _ _) fun pointer => ?_
  cases pointer <;> grind

@[grind ←] theorem commits_castClass (w : Word) (target : Source) : Commits (castClass w target) := by
  unfold castClass
  refine commits_bind (reads_fetch _ _ _) fun pointer => ?_
  refine commits_bind (reads_classOf _) fun id => ?_
  refine commits_bind (reads_register _ _) fun pointer => ?_
  cases pointer <;> grind

@[grind ←] theorem commits_virtual (w : Word) : Commits (virtual w) := by
  unfold virtual
  grind

@[grind ←] theorem commits_addressAdd (w : Word) (offset : Source) :
    Commits (addressAdd w offset) := by
  refine commits_bind (reads_register _ _) fun base => ?_
  refine commits_bind (reads_fetch _ _ _) fun delta => ?_
  refine commits_bind reads_heap fun heap => ?_
  refine commits_bind (reads_ofExcept _) fun position => ?_
  cases position <;> grind

@[grind ←] theorem commits_addressDistance (w : Word) : Commits (addressDistance w) := by
  unfold addressDistance
  refine commits_bind (reads_register _ _) fun left => ?_
  refine commits_bind (reads_register _ _) fun right => ?_
  refine commits_bind reads_heap fun heap => ?_
  refine commits_bind (reads_ofExcept _) fun leftPosition => ?_
  refine commits_bind reads_heap fun heap => ?_
  refine commits_bind (reads_ofExcept _) fun rightPosition => ?_
  cases leftPosition <;> cases rightPosition <;> grind

@[grind ←] theorem commits_vectorScale (w : Word) (divide : Bool) (count : Nat) (scalar : Source) :
    Commits (vectorScale w divide count scalar) := by
  unfold vectorScale
  grind

@[grind ←] theorem commits_branch (mnemonic : String) (outcome check : Bool) :
    Commits (branch mnemonic outcome check) := by
  unfold branch
  grind

@[grind ←] theorem commits_jumpTable (mnemonic : String) (w : Word) :
    Commits (jumpTable mnemonic w) := by
  unfold jumpTable
  grind

@[grind ←] theorem commits_stage (params : List StagedParam) : Commits (stage params) := by
  unfold stage
  grind

/-- A cell is made and staged at once. -/
@[grind ←] theorem commits_stageReference (bank : Bank) (index : UInt16) :
    Commits (stageReference bank index) := by
  refine commits_bind (reads_valueOf _ _ _) fun value => ?_
  constructor
  · intro state result after done
    obtain ⟨_, _, ⟨⟩, done⟩ := bind_eq_ok.1 done
    obtain ⟨_, _, boxed, done⟩ := bind_eq_ok.1 done
    obtain ⟨-, rfl⟩ := ofExcept_eq_ok.1 boxed
    cases done
    exact ⟨_, rfl⟩
  · intro state abort after failed
    rcases bind_eq_error.1 failed with ⟨⟨⟩⟩ | ⟨_, _, ⟨⟩, failed⟩
    rcases bind_eq_error.1 failed with early | ⟨_, _, -, ⟨⟩⟩
    exact (ofExcept_eq_error.1 early).2

@[grind ←] theorem commits_param (mnemonic : String) (w : Word) : Commits (param mnemonic w) := by
  unfold param
  refine commits_bind (reads_ofExcept _) fun tag => ?_
  grind

end Changing

/-- Every operation but object stores and the conversions between banks. -/
theorem commits_compute (epsilon : Double) (mnemonic : String) (w : Word) {operation : Operation}
    (plain : operation ≠ .cast) (unnoted : ∀ offset, operation ≠ .store .object offset) :
    Commits (compute epsilon mnemonic w operation) := by
  cases operation with
  | cast => exact absurd rfl plain
  | store kind offset =>
    refine commits_store w offset fun object => unnoted offset ?_
    rw [object]
  | _ =>
    simp only [compute, objectClass, loadBits, storeBits, constantAt, jump, compareStrings, intBinary,
      intCompare, floatBinary, floatCompare, vectorEqual, paramImmediate]
    grind

/-- An object store that completes has written the reference, and then noted it. -/
theorem storeObject_eq_ok {w : Word} {offset : Source}
    (done : store w .object offset state = .ok () after) :
    ∃ value position heap, state.frame.registers.get? .pointer w.b.toNat = some value ∧
      (value = .null ∨ ∃ ref, value = .object ref) ∧
      locate w.a.toNat (fetch offset .int w.c.toNat) .writeNil state = .ok position state ∧
      state.world.heap.writePointer position value = .ok heap ∧
      after = { state with world := { state.world with heap }.notify value.object? } := by
  obtain ⟨value, _, read, checked⟩ := bind_eq_ok.1 done
  have fetched : fetch .register .pointer w.b.toNat state = .ok value _ := read
  obtain ⟨rfl, held⟩ := fetch_eq_ok fetched
  split at checked
  next allowed =>
    obtain ⟨position, _, located, stores⟩ := bind_eq_ok.1 checked
    cases (reads_locate _ _ _ (reads_fetch _ _ _)).of_ok located
    obtain ⟨_, _, stored, noted⟩ := bind_eq_ok.1 stores
    obtain ⟨heap, written, rfl⟩ := updateHeap_eq_ok stored
    cases noted
    refine ⟨value, position, heap, held, ?_, located, written, rfl⟩
    cases value with
    | null => exact .inl rfl
    | object ref => exact .inr ⟨ref, rfl⟩
    | _ => cases allowed
  next => cases checked

theorem storeObject_undone {w : Word} {offset : Source}
    (failed : store w .object offset state = .error abort after) : after = state := by
  rcases bind_eq_error.1 failed with unread | ⟨value, _, read, checked⟩
  · exact (reads_register _ _).of_error unread
  cases (reads_register _ _).of_ok read
  split at checked
  next =>
    rcases bind_eq_error.1 checked with lost | ⟨position, _, located, stores⟩
    · exact (reads_locate _ _ _ (reads_fetch _ _ _)).of_error lost
    cases (reads_locate _ _ _ (reads_fetch _ _ _)).of_ok located
    rcases bind_eq_error.1 stores with unstored | ⟨_, _, -, ⟨⟩⟩
    exact (commits_writePointer _ _).undone unstored
  next => cases checked; rfl

theorem setRegister_refused {bank : Bank} {index : Nat} {content : bank.Content}
    (failed : setRegister bank index content state = .error abort after) :
    state.frame.registers.size bank ≤ index := by
  rcases bind_eq_error.1 failed with ⟨⟨⟩⟩ | ⟨_, _, ⟨⟩, failed⟩
  rcases bind_eq_error.1 failed with refused | ⟨_, _, -, ⟨⟩⟩
  obtain ⟨⟨fault, outside, -⟩, -⟩ := ofExcept_eq_error.1 refused
  exact Banks.setRegister_eq_error outside

/-- The text that an instruction interns although there is no register for the number. -/
def strayName? (frame : Frame) (operation : Operation) (w : Word) : Option String :=
  match operation, Conversion.ofCode w.c with
  | .cast, .ok .stringToName =>
    if w.a.toNat < frame.registers.size .int then none
    else frame.registers.get? .string w.b.toNat
  | _, _ => none

theorem strayName?_of_ne {operation : Operation} (plain : operation ≠ .cast) (frame : Frame)
    (w : Word) : strayName? frame operation w = none := by
  cases operation with
  | cast => exact absurd rfl plain
  | _ => rfl

/-- Every conversion but that of a string to a name. -/
theorem commits_cast {w : Word} (plain : Conversion.ofCode w.c ≠ .ok .stringToName) :
    Commits (cast w) := by
  refine commits_ofExcept_bind fun kind selected => ?_
  have known := Fault.ofSelector_eq_ok selected
  cases kind with
  | stringToName => exact absurd known plain
  | _ => grind

theorem cast_stringToName {w : Word} (known : Conversion.ofCode w.c = .ok .stringToName) :
    cast w = (register .string w.b.toNat >>= fun text => intern text >>= fun number =>
      setRegister .int w.a.toNat number) := by
  unfold cast
  rw [known]
  rfl

/-- A conversion that aborts has interned its text if it has come that far, and done nothing else. -/
theorem cast_undone {w : Word} (failed : cast w state = .error abort after) :
    after = { state with world := state.world.interning (strayName? state.frame .cast w) } := by
  by_cases known : Conversion.ofCode w.c = .ok .stringToName
  · rw [cast_stringToName known] at failed
    simp only [strayName?, known]
    rcases bind_eq_error.1 failed with unread | ⟨text, _, read, interns⟩
    · obtain ⟨⟨fault, missing, -⟩, rfl⟩ := ofExcept_eq_error.1 unread
      have absent : after.frame.registers.get? .string w.b.toNat = none :=
        Array.getElem?_eq_none (Banks.register_eq_error missing)
      rw [absent, ite_self]
      rfl
    · have fetched : fetch .register .string w.b.toNat state = .ok text _ := read
      obtain ⟨rfl, held⟩ := fetch_eq_ok fetched
      rcases bind_eq_error.1 interns with ⟨⟨⟩⟩ | ⟨_, _, ⟨⟩, refused⟩
      have outside := setRegister_refused refused
      rw [if_neg (Nat.not_lt.2 outside), held]
      exact (commits_setRegister _ _ _).undone refused
  · have plain : strayName? state.frame .cast w = none := by
      unfold strayName?
      split
      next chosen => exact absurd chosen known
      next => rfl
    rw [plain]
    exact (commits_cast known).undone failed

/-- An operation that aborts has done nothing, but for a name that it may have interned. -/
theorem compute_undone {epsilon : Double} {mnemonic : String} {w : Word} {operation : Operation}
    (failed : compute epsilon mnemonic w operation state = .error abort after) :
    after = { state with
      world := state.world.interning (strayName? state.frame operation w) } := by
  by_cases conversion : operation = .cast
  · subst conversion
    exact cast_undone failed
  rw [strayName?_of_ne conversion]
  by_cases noted : ∃ offset, operation = .store .object offset
  · obtain ⟨offset, rfl⟩ := noted
    exact storeObject_undone failed
  · exact (commits_compute _ _ w conversion (not_exists.1 noted)).undone failed

theorem perform_undone {setting : Setting ν} {instruction : Instruction} {w : Word}
    (stays : instruction.operation.transfers = false)
    (failed : perform setting instruction w state = .error abort after) :
    after = { state with
      world := state.world.interning (strayName? state.frame instruction.operation w) } := by
  rcases perform_cases setting instruction w with
    ⟨target, transfer, -⟩ | ⟨transfer, -⟩ | ⟨transfer, -⟩ | ⟨-, same⟩
  · cases transfer ▸ stays
  · cases transfer ▸ stays
  · cases transfer ▸ stays
  · rw [same] at failed
    rcases bind_eq_error.1 failed with early | ⟨_, _, -, ⟨⟩⟩
    exact compute_undone early

end Action

def Frame.strayName? (frame : Frame) : Option String :=
  (frame.routine.code[frame.pc]?).bind fun word =>
    (Instruction.ofOpcode? word.opcode).bind fun instruction =>
      Action.strayName? frame instruction.operation word

theorem Frame.strayName?_eq_none {frame : Frame} (found : frame.operationAt? frame.pc = none) :
    frame.strayName? = none := by
  rw [operationAt?, Option.bind_eq_none_iff] at found
  refine Option.bind_eq_none_iff.2 fun word located => ?_
  rw [Option.map_eq_none_iff.1 (found word located), Option.bind_none]

namespace Action

variable {state after : Local} {abort : Abort}

theorem advance_undone {setting : Setting ν}
    (stays : ∀ operation, state.frame.operationAt? state.frame.pc = some operation →
      operation.transfers = false)
    (failed : advance setting state = .error abort after) :
    (∃ pc current, after.frame = { state.frame with pc, current }) ∧
      after.world = state.world.interning state.frame.strayName? := by
  cases found : state.frame.operationAt? state.frame.pc with
  | some operation =>
    obtain ⟨word, located, decoded⟩ := Option.bind_eq_some_iff.1 found
    obtain ⟨instruction, opcode, rfl⟩ := Option.map_eq_some_iff.1 decoded
    rw [advance_of_word setting located opcode] at failed
    cases perform_undone (stays _ found) failed
    refine ⟨⟨_, _, rfl⟩, ?_⟩
    simp only [Frame.strayName?, located, opcode, Option.bind_some]
    rfl
  | none =>
    rw [Frame.strayName?_eq_none found]
    rcases advance_cases setting state with
      ⟨word, instruction, located, opcode, -⟩ | ⟨-, _, same⟩ | ⟨-, _, same⟩
    · cases (Frame.operationAt?_of_word located opcode).symm.trans found
    · cases same.symm.trans failed
      exact ⟨⟨_, _, rfl⟩, rfl⟩
    · cases same.symm.trans failed
      exact ⟨⟨_, _, rfl⟩, rfl⟩

end Action

namespace Machine

/-- An instruction other than a call or a return that aborts leaves its frame as it was, but for the
place where it is, and the world as it was, but for the name that a conversion has interned and has no
register for. The frames below are not touched before the machine unwinds. -/
theorem aborted_instruction_undone (natives : Natives ν) (machine : Machine ν) (frame : Frame)
    (below : List (Activation ν)) (idle : machine.completed = none)
    (top : machine.stack = .script frame :: below)
    (stays : ∀ operation, frame.operationAt? frame.pc = some operation → operation.transfers = false)
    (abort : Abort) (state : Local)
    (aborted : Action.advance machine.setting ⟨frame, machine.world⟩ = .error abort state) :
    machine.step natives = some (unwind { machine with
      stack := .script state.frame :: below, world := state.world } abort) ∧
    (∃ pc current, state.frame = { frame with pc, current }) ∧
    state.world = machine.world.interning frame.strayName? := by
  refine ⟨?_, Action.advance_undone stays aborted⟩
  simp only [step, stepOr, idle, top, stepFrame, aborted]

def storingAtNull : Frame where
  routine := ⟨"Main", "", #[⟨0x00010045⟩], .blank fun _ => 0, ⟨1, 0, 0, 2, 1, 0⟩, .empty⟩
  registers := ⟨#[0], #[], #[], #[.null, .object ⟨⟨0, 0⟩⟩]⟩
  pc := 0
  current := 0
  staged := [⟨.int 5, none⟩]
  extra := none
  pending := none
  results := []
  returned := 0
  host := some []

theorem aborted_instruction_undone_storing :
    let machine : Machine Unit := ⟨.standard, .empty, .empty, [.script storingAtNull], none⟩
    ∃ abort state,
      Action.advance machine.setting ⟨storingAtNull, machine.world⟩ = .error abort state ∧
      abort.kind = .writeNil ∧
      storingAtNull.operationAt? storingAtNull.pc = some (.store .object .register) ∧
      (∃ pc current, state.frame = { storingAtNull with pc, current }) ∧
      state.world = machine.world := by
  intro machine
  have natives : Natives Unit := fun _ _ slots => .finish ⟨.ok 0, slots⟩
  have opcode : Instruction.ofOpcode? (Word.mk 0x00010045).opcode =
      some ⟨0x45, "SO_R", .store .object .register⟩ := by decide
  have located : storingAtNull.routine.code[storingAtNull.pc]? = some ⟨0x00010045⟩ := rfl
  have here : storingAtNull.operationAt? storingAtNull.pc = some (.store .object .register) :=
    Frame.operationAt?_of_word located opcode
  have aborted : Action.advance machine.setting ⟨storingAtNull, machine.world⟩ =
      .error (.of .writeNil) ⟨{ storingAtNull with pc := 1 }, machine.world⟩ :=
    (Action.advance_of_word machine.setting located opcode).trans rfl
  refine ⟨_, _, aborted, rfl, here, ?_⟩
  refine (aborted_instruction_undone natives machine storingAtNull [] rfl rfl ?_ _ _ aborted).2
  intro operation found
  cases here.symm.trans found
  rfl

def naming : Frame where
  routine := ⟨"Main", "raw.sc", #[⟨0x0c000050⟩], .blank fun _ => 0, ⟨0, 0, 1, 0, 0, 0⟩, .empty⟩
  registers := ⟨#[], #[], #["Fresh"], #[]⟩
  pc := 0
  current := 0
  staged := []
  extra := none
  pending := none
  results := []
  returned := 0
  host := some []

/-- The conversion aborts, and the name stays. -/
theorem aborted_conversion_keeps_name :
    let machine : Machine Unit := ⟨.standard, .empty, .empty, [.script naming], none⟩
    ∃ abort state,
      Action.advance machine.setting ⟨naming, machine.world⟩ = .error abort state ∧
      abort.kind = .contractViolation ∧ naming.operationAt? naming.pc = some .cast ∧
      machine.world.names.spellings = #["None"] ∧
      state.world.names.spellings = #["None", "Fresh"] :=
  ⟨_, _, rfl, by decide, by decide, by decide, by decide +kernel⟩

end Machine
end GameScript
