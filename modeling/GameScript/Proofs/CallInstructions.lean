import GameScript.Proofs.ActionEffects

/-! What calls and returns do to the frame that executes them, and what any instruction leaves
behind. -/

namespace GameScript

theorem OperandTag.validate_eq_ok {tag valid : OperandTag} (checked : tag.validate = .ok valid) :
    valid = tag := by
  unfold validate at checked
  split at checked
  next => exact (Except.ok.inj checked).symm
  next => cases checked

theorem Fault.ofSelector_eq_ok {result : Except UnknownSelector α} {value : α}
    (found : Fault.ofSelector result = .ok value) : result = .ok value := by
  cases result with
  | ok other => exact congrArg _ (Except.ok.inj found)
  | error unknown => cases found

def Banks.value? (banks : Banks) (bank : Bank) (index : Nat) : Option Value :=
  (banks.get? bank index).map (Value.of bank)

theorem LinkedRoutine.word_eq_ok_iff {routine : LinkedRoutine} {offset : Nat} {word : Word} :
    routine.word offset = .ok word ↔ routine.code[offset]? = some word := by
  unfold LinkedRoutine.word
  split
  next ended => simp [ended]
  next => cases routine.code[offset]? <;> simp

theorem Frame.operationAt?_of_word {frame : Frame} {offset : Nat} {word : Word}
    {instruction : Instruction} (located : frame.routine.code[offset]? = some word)
    (decoded : Instruction.ofOpcode? word.opcode = some instruction) :
    frame.operationAt? offset = some instruction.operation := by
  rw [operationAt?, located, Option.bind_some, decoded, Option.map_some]

def Local.fetched (state : Local) : Local :=
  { state with frame := { state.frame with current := state.frame.pc, pc := state.frame.pc + 1 } }

theorem Frame.storeResult_eq_ok {frame after : Frame} {position : Nat} {value : Value}
    (stored : frame.storeResult position value = .ok after) :
    ∃ results returned, after = { frame with results, returned } := by
  unfold storeResult at stored
  split at stored
  next =>
    cases stored
    exact ⟨frame.results, frame.returned, rfl⟩
  next =>
    obtain ⟨slot, -, stored⟩ := bind_eq_ok.1 stored
    cases stored
    exact ⟨_, _, rfl⟩

namespace Action

variable {state after : Local}

theorem bind_eq_ok {first : Action α} {next : α → Action β} {result : β} :
    (first >>= next) state = .ok result after ↔
      ∃ value middle, first state = .ok value middle ∧ next value middle = .ok result after := by
  rw [bind_apply]
  cases first state with
  | ok value middle =>
    refine ⟨fun done => ⟨value, middle, rfl, done⟩, ?_⟩
    rintro ⟨_, _, ⟨⟩, done⟩
    exact done
  | error abort middle => simp

theorem bind_eq_error {first : Action α} {next : α → Action β} {abort : Abort} :
    (first >>= next) state = .error abort after ↔ first state = .error abort after ∨
      ∃ value middle, first state = .ok value middle ∧ next value middle = .error abort after := by
  rw [bind_apply]
  cases first state with
  | ok value middle =>
    refine ⟨fun failed => .inr ⟨value, middle, rfl, failed⟩, ?_⟩
    rintro (⟨⟨⟩⟩ | ⟨_, _, ⟨⟩, failed⟩)
    exact failed
  | error other middle => simp

theorem ofExcept_eq_ok {result : Except Fault α} {value : α} :
    ofExcept result state = .ok value after ↔ result = .ok value ∧ after = state := by
  cases result <;> simp [eq_comm]

theorem ofExcept_eq_error {result : Except Fault α} {abort : Abort} :
    ofExcept result state = .error abort after ↔
      (∃ fault, result = .error fault ∧ abort = .ofFault fault) ∧ after = state := by
  cases result <;> simp [eq_comm]

theorem fetch_eq (source : Source) (bank : Bank) (index : Nat) (state : Local) :
    fetch source bank index state = ofExcept (match source with
      | .register => state.frame.registers.register bank index
      | .constant => state.frame.routine.constants.constant bank index) state := by
  cases source <;> rfl

theorem resultTarget_eq_ok {offset : Nat} {target : ResultTarget}
    (read : resultTarget offset state = .ok target after) :
    after = state ∧ ∃ word, state.frame.routine.code[offset]? = some word ∧
      state.frame.operationAt? offset = some .result ∧
      target = ⟨word.tagAIndexB.tag.bank, word.tagAIndexB.index⟩ := by
  simp only [resultTarget, bind_apply, frame_apply] at read
  cases found : state.frame.routine.code[offset]? with
  | none =>
    rw [found] at read
    cases read
  | some word =>
    rw [found] at read
    dsimp only at read
    split at read
    next marker =>
      obtain ⟨tag, _, checked, named⟩ := bind_eq_ok.1 read
      obtain ⟨valid, rfl⟩ := ofExcept_eq_ok.1 checked
      cases OperandTag.validate_eq_ok (Fault.ofSelector_eq_ok valid)
      split at named
      next => cases named
      next =>
        cases named
        exact ⟨rfl, word, rfl, marker, rfl⟩
    next => cases read

theorem resultTarget_eq_error {offset : Nat} {abort : Abort}
    (failed : resultTarget offset state = .error abort after) : after = state := by
  simp only [resultTarget, bind_apply, frame_apply] at failed
  cases found : state.frame.routine.code[offset]? with
  | none =>
    rw [found] at failed
    cases failed
    rfl
  | some word =>
    rw [found] at failed
    dsimp only at failed
    split at failed
    next marker =>
      rcases bind_eq_error.1 failed with early | ⟨tag, middle, checked, late⟩
      · exact (ofExcept_eq_error.1 early).2
      · obtain ⟨-, rfl⟩ := ofExcept_eq_ok.1 checked
        split at late
        next => cases late; rfl
        next => cases late
    next => cases failed; rfl

/-- The registers that the markers from `offset` on name. -/
structure Markers (frame : Frame) (offset : Nat) (targets : List ResultTarget) : Prop where
  inside : offset ≤ frame.routine.code.size → offset + targets.length ≤ frame.routine.code.size
  named : ∀ position target, targets[position]? = some target →
    ∃ word, frame.routine.code[offset + position]? = some word ∧
      frame.operationAt? (offset + position) = some .result ∧
      target = ⟨word.tagAIndexB.tag.bank, word.tagAIndexB.index⟩

theorem resultTargets_eq_ok {offset count : Nat} {targets : List ResultTarget}
    (read : resultTargets offset count state = .ok targets after) :
    after = state ∧ targets.length = count ∧ Markers state.frame offset targets := by
  induction count generalizing offset targets after with
  | zero =>
    cases read
    exact ⟨rfl, rfl, fun bound => by simpa using bound, by simp⟩
  | succ count ih =>
    unfold resultTargets at read
    obtain ⟨target, _, first, others⟩ := bind_eq_ok.1 read
    obtain ⟨rest, _, later, done⟩ := bind_eq_ok.1 others
    obtain ⟨rfl, word, found, marker, same⟩ := resultTarget_eq_ok first
    obtain ⟨rfl, length, markers⟩ := ih later
    cases done
    have bound := (Array.getElem?_eq_some_iff.1 found).1
    refine ⟨rfl, by simp [length], fun _ => ?_, fun position other listed => ?_⟩
    · have := markers.inside bound
      rw [List.length_cons]
      omega
    · cases position with
      | zero =>
        cases listed
        exact ⟨word, found, marker, same⟩
      | succ position =>
        have shifted : offset + (position + 1) = offset + 1 + position := by omega
        rw [shifted]
        exact markers.named position other (by simpa using listed)

theorem resultTargets_eq_error {offset count : Nat} {abort : Abort}
    (failed : resultTargets offset count state = .error abort after) : after = state := by
  induction count generalizing offset with
  | zero => cases failed
  | succ count ih =>
    unfold resultTargets at failed
    rcases bind_eq_error.1 failed with here | ⟨target, _, first, others⟩
    · exact resultTarget_eq_error here
    · obtain ⟨rfl, -⟩ := resultTarget_eq_ok first
      rcases bind_eq_error.1 others with later | ⟨rest, _, -, done⟩
      · exact ih later
      · cases done

theorem callee_eq_ok {library : Library ν} {w : Word} {target : Source} {function : Callable ν}
    (found : callee library w target state = .ok function after) : after = state := by
  unfold callee at found
  obtain ⟨pointer, _, fetched, looked⟩ := bind_eq_ok.1 found
  rw [fetch_eq] at fetched
  obtain ⟨-, rfl⟩ := ofExcept_eq_ok.1 fetched
  cases pointer with
  | function id => exact (ofExcept_eq_ok.1 looked).2
  | _ => cases looked

theorem callee_eq_error {library : Library ν} {w : Word} {target : Source} {abort : Abort}
    (failed : callee library w target state = .error abort after) : after = state := by
  unfold callee at failed
  rcases bind_eq_error.1 failed with early | ⟨pointer, _, fetched, late⟩
  · rw [fetch_eq] at early
    exact (ofExcept_eq_error.1 early).2
  · rw [fetch_eq] at fetched
    obtain ⟨-, rfl⟩ := ofExcept_eq_ok.1 fetched
    cases pointer with
    | function id => exact (ofExcept_eq_error.1 late).2
    | _ => cases late; rfl

theorem unstage_eq_ok {running limit taken : Nat} {params : List StagedParam}
    (unstaged : unstage running limit taken state = .ok params after) :
    taken ≤ state.frame.staged.length ∧ running < limit ∧
      params = state.frame.staged.drop (state.frame.staged.length - taken) ∧
      after = { state with frame := { state.frame with
        staged := state.frame.staged.take (state.frame.staged.length - taken) } } := by
  obtain ⟨_, _, ⟨⟩, unstaged⟩ := bind_eq_ok.1 unstaged
  split at unstaged
  next => cases unstaged
  next enough =>
    split at unstaged
    next => cases unstaged
    next room =>
      cases unstaged
      exact ⟨Nat.le_of_not_lt enough, Nat.lt_of_not_le room, rfl, rfl⟩

theorem unstage_eq_error {running limit taken : Nat} {abort : Abort}
    (failed : unstage running limit taken state = .error abort after) : after = state := by
  rcases bind_eq_error.1 failed with ⟨⟨⟩⟩ | ⟨_, _, ⟨⟩, failed⟩
  split at failed
  next => cases failed; rfl
  next =>
    split at failed
    next => cases failed; rfl
    next => cases failed

structure Called (running limit : Nat) (w : Word) (state : Local) (request : CallRequest ν)
    (after : Local) : Prop where
  available : w.b.toNat ≤ state.frame.staged.length
  room : running < limit
  markers : Markers state.frame state.frame.pc request.pending.targets
  wanted : request.pending.targets.length = w.c.toNat
  arguments : request.arguments =
    (state.frame.staged.drop (state.frame.staged.length - w.b.toNat)).map StagedParam.value
  writebacks : request.pending.writebacks =
    (state.frame.staged.drop (state.frame.staged.length - w.b.toNat)).filterMap StagedParam.writeback
  left : after = { state with
    frame := { state.frame with
      pc := state.frame.pc + w.c.toNat
      staged := state.frame.staged.take (state.frame.staged.length - w.b.toNat) } }

theorem call_eq_ok {library : Library ν} {running limit : Nat} {w : Word} {target : Source}
    {request : CallRequest ν}
    (called : call library running limit w target state = .ok request after) :
    Called running limit w state request after := by
  obtain ⟨function, _, found, marked⟩ := bind_eq_ok.1 called
  cases callee_eq_ok found
  obtain ⟨_, _, ⟨⟩, marked⟩ := bind_eq_ok.1 marked
  obtain ⟨targets, _, read, moved⟩ := bind_eq_ok.1 marked
  obtain ⟨rfl, length, markers⟩ := resultTargets_eq_ok read
  obtain ⟨_, _, ⟨⟩, moved⟩ := bind_eq_ok.1 moved
  obtain ⟨params, _, unstaged, done⟩ := bind_eq_ok.1 moved
  obtain ⟨available, room, rfl, rfl⟩ := unstage_eq_ok unstaged
  cases done
  exact ⟨available, room, markers, length, rfl, rfl, rfl⟩

/-- A call instruction that fails has taken nothing; it may have passed its markers. -/
theorem call_eq_error {library : Library ν} {running limit : Nat} {w : Word} {target : Source}
    {abort : Abort} (failed : call library running limit w target state = .error abort after)
    (inside : state.frame.pc ≤ state.frame.routine.code.size) :
    ∃ pc, pc ≤ state.frame.routine.code.size ∧
      after = { state with frame := { state.frame with pc } } := by
  rcases bind_eq_error.1 failed with early | ⟨function, _, found, late⟩
  · exact ⟨_, inside, callee_eq_error early⟩
  cases callee_eq_ok found
  rcases bind_eq_error.1 late with ⟨⟨⟩⟩ | ⟨_, _, ⟨⟩, late⟩
  rcases bind_eq_error.1 late with early | ⟨targets, _, read, late⟩
  · exact ⟨_, inside, resultTargets_eq_error early⟩
  obtain ⟨rfl, length, markers⟩ := resultTargets_eq_ok read
  rcases bind_eq_error.1 late with ⟨⟨⟩⟩ | ⟨_, _, ⟨⟩, late⟩
  rcases bind_eq_error.1 late with early | ⟨_, _, _, ⟨⟩⟩
  have bound := markers.inside inside
  rw [length] at bound
  exact ⟨_, bound, unstage_eq_error early⟩

def returned? (frame : Frame) (operation : Operation) (w : Word) : Option (Nat × Value) :=
  match operation with
  | .ret =>
    let operand := w.tagBIndexC
    let pool := if operand.tag.isConstant then frame.routine.constants else frame.registers
    if operand.tag.isNil then none
    else
      (pool.value? operand.tag.bank operand.index.toNat).map fun value =>
        ((ReturnField.mk w.a).slot, value)
  | .retImmediate => some ((ReturnField.mk w.a).slot, .int w.signedBC.toInt32)
  | _ => none

theorem perform_cases (setting : Setting ν) (instruction : Instruction) (w : Word) :
    (∃ target, instruction.operation = .call target ∧ perform setting instruction w = do
      return .call (← call setting.library setting.depth setting.config.maxCallDepth w target)) ∨
    (instruction.operation = .ret ∧ perform setting instruction w = do
      ret instruction.mnemonic w
      return .afterReturn w) ∨
    (instruction.operation = .retImmediate ∧ perform setting instruction w = do
      retImmediate w
      return .afterReturn w) ∨
    (((∀ frame, returned? frame instruction.operation w = none) ∧
        ∀ target, instruction.operation ≠ .call target) ∧ perform setting instruction w = do
      compute setting.config.floatEpsilon instruction.mnemonic w instruction.operation
      return .proceed) := by
  unfold perform
  cases instruction.operation <;> simp [returned?]

theorem afterReturn_ne_call (w : Word) (request : CallRequest ν) :
    Next.afterReturn w ≠ .call request := by
  unfold Next.afterReturn
  split <;> simp

theorem perform_call {setting : Setting ν} {instruction : Instruction} {w : Word}
    {request : CallRequest ν}
    (called : perform setting instruction w state = .ok (.call request) after) :
    ∃ target, instruction.operation = .call target ∧
      Called setting.depth setting.config.maxCallDepth w state request after := by
  rcases perform_cases setting instruction w with
    ⟨target, operation, same⟩ | ⟨-, same⟩ | ⟨-, same⟩ | ⟨-, same⟩
  all_goals
    rw [same] at called
    obtain ⟨_, _, done, last⟩ := bind_eq_ok.1 called
  · cases last
    exact ⟨target, operation, call_eq_ok done⟩
  · exact absurd (EStateM.Result.ok.inj last).1 (afterReturn_ne_call w request)
  · exact absurd (EStateM.Result.ok.inj last).1 (afterReturn_ne_call w request)
  · cases last

/-- The effects of operations that stage nothing and leave it to the machine where their frame goes
on, returns included. -/
structure ReturnEffects (relation : Local → Local → Prop) : Prop extends PlainEffects relation where
  stored : ∀ state results returned,
    relation state { state with frame := { state.frame with results, returned } }

structure InstructionEffects (relation : Local → Local → Prop) : Prop extends Effects relation,
    ReturnEffects relation

structure FrameEffects (relation : Local → Local → Prop) : Prop extends
    InstructionEffects relation where
  fetched : ∀ state, state.frame.pc < state.frame.routine.code.size → relation state state.fetched

section

variable {relation : Local → Local → Prop}

section

variable (effects : ReturnEffects relation)
include effects

@[grind ←] theorem keeps_storeResult (position : Nat) (value : Value) :
    Keeps relation (storeResult position value) := by
  refine keeps_frame_bind fun state => ?_
  refine final_ofExcept_bind effects.toPlainEffects fun frame stored => ?_
  obtain ⟨results, returned, rfl⟩ := Frame.storeResult_eq_ok stored
  exact effects.stored state results returned

@[grind ←] theorem keeps_ret (mnemonic : String) (w : Word) : Keeps relation (ret mnemonic w) := by
  have plain := effects.toPlainEffects
  unfold ret
  grind

end

theorem Keeps.of_ok {action : Action α} {value : α} (kept : Keeps relation action)
    (done : action state = .ok value after) : relation state after := by
  simpa only [final, done] using kept state

theorem Keeps.of_error {action : Action α} {abort : Abort} (kept : Keeps relation action)
    (failed : action state = .error abort after) : relation state after := by
  simpa only [final, failed] using kept state

variable (effects : InstructionEffects relation)
include effects

theorem keeps_perform_error {setting : Setting ν} {instruction : Instruction} {w : Word}
    {abort : Abort} (inside : state.frame.pc ≤ state.frame.routine.code.size)
    (failed : perform setting instruction w state = .error abort after) : relation state after := by
  rcases perform_cases setting instruction w with
    ⟨target, -, same⟩ | ⟨-, same⟩ | ⟨-, same⟩ | ⟨-, same⟩
  all_goals
    rw [same] at failed
    rcases bind_eq_error.1 failed with early | ⟨_, _, -, ⟨⟩⟩
  · obtain ⟨pc, bound, rfl⟩ := call_eq_error early inside
    exact effects.pc state pc bound
  · exact (keeps_ret effects.toReturnEffects _ w).of_error early
  · exact (keeps_storeResult effects.toReturnEffects _ _).of_error early
  · exact (keeps_compute effects.toEffects _ _ w _).of_error early

theorem keeps_perform_ok {setting : Setting ν} {instruction : Instruction} {w : Word}
    {next : Next ν} (stays : ∀ request, next ≠ .call request)
    (done : perform setting instruction w state = .ok next after) : relation state after := by
  rcases perform_cases setting instruction w with
    ⟨target, -, same⟩ | ⟨-, same⟩ | ⟨-, same⟩ | ⟨-, same⟩
  all_goals
    rw [same] at done
    obtain ⟨_, _, done, last⟩ := bind_eq_ok.1 done
    cases last
  · exact absurd rfl (stays _)
  · exact (keeps_ret effects.toReturnEffects _ w).of_ok done
  · exact (keeps_storeResult effects.toReturnEffects _ _).of_ok done
  · exact (keeps_compute effects.toEffects _ _ w _).of_ok done

end

theorem advance_of_word (setting : Setting ν) {word : Word} {instruction : Instruction}
    (located : state.frame.routine.code[state.frame.pc]? = some word)
    (decoded : Instruction.ofOpcode? word.opcode = some instruction) :
    advance setting state = perform setting instruction word state.fetched := by
  simp [advance, bind_apply, LinkedRoutine.word_eq_ok_iff.2 located, Word.instruction, decoded,
    Local.fetched]

/-- The instruction at the frame's position is performed, unless there is none. -/
theorem advance_cases (setting : Setting ν) (state : Local) :
    (∃ word instruction, state.frame.routine.code[state.frame.pc]? = some word ∧
      Instruction.ofOpcode? word.opcode = some instruction ∧
      advance setting state = perform setting instruction word state.fetched) ∨
    (state.frame.routine.code.size ≤ state.frame.pc ∧
      ∃ abort, advance setting state = .error abort state) ∨
    (state.frame.pc < state.frame.routine.code.size ∧
      ∃ abort, advance setting state = .error abort state.fetched) := by
  cases found : state.frame.routine.word state.frame.pc with
  | error fault =>
    have outside : state.frame.routine.code.size ≤ state.frame.pc := by
      refine Nat.le_of_not_lt fun inside => ?_
      have located := Array.getElem?_eq_getElem inside
      cases (LinkedRoutine.word_eq_ok_iff.2 located).symm.trans found
    exact .inr (.inl ⟨outside, .ofFault fault, by simp [advance, bind_apply, found]⟩)
  | ok word =>
    have located := LinkedRoutine.word_eq_ok_iff.1 found
    cases opcode : Instruction.ofOpcode? word.opcode with
    | some instruction =>
      exact .inl ⟨word, instruction, located, opcode, advance_of_word setting located opcode⟩
    | none =>
      refine .inr (.inr ⟨(Array.getElem?_eq_some_iff.1 located).1, ?_⟩)
      exact ⟨_, by simp [advance, bind_apply, found, Word.instruction, opcode, Local.fetched]; rfl⟩

theorem advance_call {setting : Setting ν} {request : CallRequest ν}
    (called : advance setting state = .ok (.call request) after) :
    ∃ word instruction target, state.frame.routine.code[state.frame.pc]? = some word ∧
      Instruction.ofOpcode? word.opcode = some instruction ∧
      instruction.operation = .call target ∧
      Called setting.depth setting.config.maxCallDepth word state.fetched request after := by
  rcases advance_cases setting state with
    ⟨word, instruction, located, opcode, same⟩ | ⟨-, _, same⟩ | ⟨-, _, same⟩
  · rw [same] at called
    obtain ⟨target, operation, done⟩ := perform_call called
    exact ⟨word, instruction, target, located, opcode, operation, done⟩
  · cases same.symm.trans called
  · cases same.symm.trans called

section

variable {relation : Local → Local → Prop} (effects : FrameEffects relation)
include effects

theorem keeps_advance_error {setting : Setting ν} {abort : Abort}
    (failed : advance setting state = .error abort after) : relation state after := by
  rcases advance_cases setting state with
    ⟨word, instruction, located, -, same⟩ | ⟨-, _, same⟩ | ⟨inside, _, same⟩
  all_goals rw [same] at failed
  · have inside := (Array.getElem?_eq_some_iff.1 located).1
    exact effects.trans (effects.fetched state inside)
      (keeps_perform_error effects.toInstructionEffects inside failed)
  · cases failed
    exact effects.refl state
  · cases failed
    exact effects.fetched state inside

theorem keeps_advance_ok {setting : Setting ν} {next : Next ν}
    (stays : ∀ request, next ≠ .call request)
    (done : advance setting state = .ok next after) : relation state after := by
  rcases advance_cases setting state with
    ⟨word, instruction, located, -, same⟩ | ⟨-, _, same⟩ | ⟨-, _, same⟩
  all_goals rw [same] at done
  · have inside := (Array.getElem?_eq_some_iff.1 located).1
    exact effects.trans (effects.fetched state inside)
      (keeps_perform_ok effects.toInstructionEffects stays done)
  · cases done
  · cases done

end

end Action

def Frame.handing (frame : Frame) : Option (Nat × Value) :=
  (frame.routine.code[frame.pc]?).bind fun word =>
    (Instruction.ofOpcode? word.opcode).bind fun instruction =>
      Action.returned? frame instruction.operation word

/-- Slots after a value was stored, if one was. A slot that nobody asked for changes nothing. -/
def handOver (results : List ResultSlot) : Option (Nat × Value) → List ResultSlot
  | some (slot, value) => results.modify slot fun held => { held with value := some value }
  | none => results

theorem Frame.storeResult_results {frame after : Frame} {position : Nat} {value : Value}
    (stored : frame.storeResult position value = .ok after) :
    after.results = handOver frame.results (some (position, value)) := by
  unfold storeResult at stored
  split at stored
  next none =>
    cases stored
    have outside : frame.results.length ≤ position := List.getElem?_eq_none_iff.1 none
    simp [handOver, List.modify_eq_self outside]
  next slot found =>
    obtain ⟨updated, set, stored⟩ := bind_eq_ok.1 stored
    cases stored
    unfold ResultSlot.set at set
    split at set
    next =>
      cases set
      refine List.ext_getElem? fun index => ?_
      rw [handOver, List.getElem?_modify, List.getElem?_set]
      split
      next here =>
        subst here
        obtain ⟨inside, same⟩ := List.getElem?_eq_some_iff.1 found
        simp [inside, same]
      next => simp
    next => cases set

inductive Frame.Handed (before : Frame) : Option (Nat × Value) → Frame → Prop where
  | nothing {after} (results : after.results = before.results)
      (returned : after.returned = before.returned) : Handed before none after
  | value {position value after} (stored : before.storeResult position value = .ok after) :
      Handed before (some (position, value)) after

theorem Frame.Handed.results {before after : Frame} {handed : Option (Nat × Value)}
    (stored : before.Handed handed after) : after.results = handOver before.results handed := by
  cases stored with
  | nothing results _ => exact results
  | value stored => exact storeResult_results stored

namespace Action

variable {state after : Local}

theorem handsNothing_effects :
    Effects fun before after => before.frame.Handed none after.frame where
  refl _ := .nothing rfl rfl
  trans first second := by
    cases first with
    | nothing results returned =>
      cases second with
      | nothing later last => exact .nothing (later.trans results) (last.trans returned)
  registers _ _ _ := .nothing rfl rfl
  pc _ _ _ := .nothing rfl rfl
  names _ _ := .nothing rfl rfl
  barrier _ _ := .nothing rfl rfl
  heap _ _ _ _ _ := .nothing rfl rfl
  staged _ _ _ := .nothing rfl rfl
  boxed _ _ _ _ _ _ _ := .nothing rfl rfl

theorem storeResult_eq_ok {position : Nat} {value : Value}
    (done : storeResult position value state = .ok () after) :
    ∃ frame, state.frame.storeResult position value = .ok frame ∧ after = { state with frame } := by
  obtain ⟨_, _, ⟨⟩, stores⟩ := bind_eq_ok.1 done
  obtain ⟨frame, _, stored, last⟩ := bind_eq_ok.1 stores
  obtain ⟨stored, rfl⟩ := ofExcept_eq_ok.1 stored
  cases last
  exact ⟨frame, stored, rfl⟩

theorem fetch_eq_ok {source : Source} {bank : Bank} {index : Nat} {content : bank.Content}
    (fetched : fetch source bank index state = .ok content after) :
    after = state ∧ (match source with
      | .register => state.frame.registers
      | .constant => state.frame.routine.constants).get? bank index = some content := by
  rw [fetch_eq] at fetched
  obtain ⟨found, rfl⟩ := ofExcept_eq_ok.1 fetched
  refine ⟨rfl, ?_⟩
  cases source with
  | register =>
    simp only [Banks.register] at found
    split at found
    next held => cases found; exact held
    next => cases found
  | constant =>
    simp only [Banks.constant] at found
    split at found
    next held => cases found; exact held
    next => cases found

/-- A return stores what it hands over and leaves all else alone. -/
theorem ret_eq_ok {mnemonic : String} {w : Word} (done : ret mnemonic w state = .ok () after) :
    state.frame.Handed (returned? state.frame .ret w) after.frame ∧ after.world = state.world := by
  obtain ⟨tag, other, checked, stores⟩ := bind_eq_ok.1 done
  obtain ⟨valid, same⟩ := ofExcept_eq_ok.1 checked
  rw [same, OperandTag.validate_eq_ok (Fault.ofSelector_eq_ok valid)] at stores
  dsimp only at stores
  by_cases nil : w.tagBIndexC.tag.isNil
  · rw [if_pos nil] at stores
    cases stores
    rw [returned?, if_pos nil]
    exact ⟨.nothing rfl rfl, rfl⟩
  rw [if_neg nil] at stores
  by_cases refused : 1 < w.tagBIndexC.tag.width || w.tagBIndexC.tag.isReference
  · rw [if_pos refused] at stores
    cases stores
  rw [if_neg refused] at stores
  obtain ⟨value, middle, taken, stored⟩ := bind_eq_ok.1 stores
  obtain ⟨content, third, fetched, given⟩ := bind_eq_ok.1 taken
  obtain ⟨unchanged, found⟩ := fetch_eq_ok fetched
  rw [unchanged] at given
  cases given
  obtain ⟨frame, kept, rfl⟩ := storeResult_eq_ok stored
  have handed : returned? state.frame .ret w =
      some ((ReturnField.mk w.a).slot, .of w.tagBIndexC.tag.bank content) := by
    by_cases constant : w.tagBIndexC.tag.isConstant <;>
      simp_all [returned?, Banks.value?]
  rw [handed]
  exact ⟨.value kept, rfl⟩

theorem retImmediate_eq_ok {w : Word} (done : retImmediate w state = .ok () after) :
    state.frame.Handed (returned? state.frame .retImmediate w) after.frame ∧
      after.world = state.world := by
  obtain ⟨frame, stored, rfl⟩ := storeResult_eq_ok done
  exact ⟨.value stored, rfl⟩

theorem returned?_fetched (state : Local) (operation : Operation) (w : Word) :
    returned? state.fetched.frame operation w = returned? state.frame operation w := by
  cases operation <;> rfl

/-- Only return instructions hand anything over. -/
theorem advance_handed {setting : Setting ν} {next : Next ν}
    (done : advance setting state = .ok next after) :
    state.fetched.frame.Handed state.frame.handing after.frame ∧
      (next = .finish → after.world = state.world) := by
  rcases advance_cases setting state with
    ⟨word, instruction, located, opcode, same⟩ | ⟨-, _, same⟩ | ⟨-, _, same⟩
  rotate_left
  · cases same.symm.trans done
  · cases same.symm.trans done
  have handing : state.frame.handing = returned? state.fetched.frame instruction.operation word := by
    simp only [Frame.handing, located, opcode, Option.bind_some, returned?_fetched]
  rw [same] at done
  rw [handing]
  rcases perform_cases setting instruction word with
    ⟨target, operation, perform⟩ | ⟨operation, perform⟩ | ⟨operation, perform⟩ | ⟨silent, perform⟩
  all_goals
    rw [perform] at done
    obtain ⟨_, _, first, last⟩ := bind_eq_ok.1 done
  · cases last
    rw [operation, (call_eq_ok first).left]
    exact ⟨.nothing rfl rfl, fun ends => nomatch ends⟩
  · rw [operation]
    cases last
    exact (ret_eq_ok first).imp_right fun world _ => world
  · rw [operation]
    cases last
    exact (retImmediate_eq_ok first).imp_right fun world _ => world
  · rw [silent.1]
    cases last
    have kept := (keeps_compute handsNothing_effects _ _ word _).of_ok first
    exact ⟨kept, fun ends => nomatch ends⟩

/-- The results of a frame change by what its return instructions hand over and by nothing else. -/
theorem advance_results {setting : Setting ν} {next : Next ν}
    (done : advance setting state = .ok next after) :
    after.frame.results = handOver state.frame.results state.frame.handing ∧
      (next = .finish → after.world = state.world) :=
  (advance_handed done).imp_left fun handed => handed.results

end Action

end GameScript
