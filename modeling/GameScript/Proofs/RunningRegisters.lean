import GameScript.Proofs.AssembledRegisters
import GameScript.Proofs.CallDelivery
import GameScript.Proofs.StackDiscipline

/-! No run of assembled code lacks a register. A frame keeps as many registers as its layout says;
what it has passed by reference and what it awaits from a call are registers that it has. So no
instruction, no delivery of results and no writing back fails for want of one. -/

namespace GameScript

namespace Banks

variable {registers after : Banks} {index : Nat} {value : Value}

@[simp] theorem size_blank (count : Bank → Nat) (bank : Bank) : (blank count).size bank = count bank := by
  cases bank <;> simp [blank, size, row]

theorem spares_put (inside : index < registers.size value.bank) : Spares (registers.put index value) := by
  rw [put, setRegister, if_pos inside]
  exact failsOnly_ok _

end Banks

structure PendingCall.Fits (pending : PendingCall) (count : Bank → Nat) : Prop where
  targets : ∀ target ∈ pending.targets, target.register.toNat < count target.bank
  writebacks : ∀ writeback ∈ pending.writebacks, writeback.register.toNat < count writeback.bank

section Delivery

variable {registers after : Banks} {position : Nat} {targets : List ResultTarget}
  {slots : List ResultSlot}

theorem deliver_size (done : deliver registers position targets slots = .ok after) (bank : Bank) :
    after.size bank = registers.size bank := by
  induction targets generalizing registers position slots with
  | nil =>
    cases done
    rfl
  | cons target targets ih =>
    cases slots with
    | nil =>
      cases done
      rfl
    | cons slot slots =>
      unfold deliver at done
      split at done
      next => exact ih done
      next =>
        split at done
        next =>
          obtain ⟨middle, written, rest⟩ := bind_eq_ok.1 done
          exact (ih rest).trans (Banks.setRegister_size written bank)
        next => cases done

theorem spares_deliver
    (there : ∀ target ∈ targets, target.register.toNat < registers.size target.bank) :
    Spares (deliver registers position targets slots) := by
  induction targets generalizing registers position slots with
  | nil => exact failsOnly_ok _
  | cons target targets ih =>
    have rest : ∀ other ∈ targets, other.register.toNat < registers.size other.bank :=
      fun other member => there other (List.mem_cons_of_mem _ member)
    cases slots with
    | nil => exact failsOnly_ok _
    | cons slot slots =>
      unfold deliver
      split
      next => exact ih rest
      next value _ =>
        split
        next bank =>
          have inside : target.register.toNat < registers.size value.bank :=
            bank ▸ there target List.mem_cons_self
          cases written : registers.put target.register.toNat value with
          | error fault => exact failsOnly_error (Banks.spares_put inside fault written)
          | ok middle =>
            refine ih fun other member => ?_
            rw [Banks.setRegister_size written]
            exact rest other member
        next => exact failsOnly_error rfl

theorem Restored.step_size (state : Restored) (writeback : Writeback) (bank : Bank) :
    (state.step writeback).registers.size bank = state.registers.size bank := by
  unfold Restored.step
  dsimp only
  split
  next written =>
    obtain ⟨value, -, put⟩ := bind_eq_ok.1 written
    exact Banks.setRegister_size put bank
  next => rfl

def Restored.Spares (state : Restored) : Prop :=
  ∀ fault, state.fault = some fault → fault.lacksRegister = false

theorem Restored.step_spares {state : Restored} {writeback : Writeback} (spares : state.Spares)
    (inside : writeback.register.toNat < state.registers.size writeback.bank) :
    (state.step writeback).Spares := by
  refine Restored.step_fails spares ?_ (state.heap.ordinary_free writeback.cell).spares
  cases read : state.heap.unbox writeback.bank writeback.cell with
  | error fault => exact failsOnly_error ((Heap.ordinary_unbox _ _ _).spares fault read)
  | ok value =>
    have bank := Heap.unbox_bank read
    exact Banks.spares_put (bank ▸ inside)

/-- Whatever cells hold, writing them back to registers that are there does not lack any. -/
theorem restore_spec {registers : Banks} (heap : Heap) {writebacks : List Writeback}
    (there : ∀ writeback ∈ writebacks, writeback.register.toNat < registers.size writeback.bank) :
    (∀ bank, (restore registers heap writebacks).registers.size bank = registers.size bank) ∧
      (restore registers heap writebacks).Spares := by
  have steps : ∀ state : Restored, state.Spares →
      (∀ writeback ∈ writebacks, writeback.register.toNat < state.registers.size writeback.bank) →
      (∀ bank, (writebacks.foldl Restored.step state).registers.size bank = state.registers.size bank) ∧
        (writebacks.foldl Restored.step state).Spares := by
    clear there
    induction writebacks with
    | nil => exact fun state spares _ => ⟨fun _ => rfl, spares⟩
    | cons writeback rest ih =>
      intro state spares there
      have after := ih (state.step writeback)
        (Restored.step_spares spares (there writeback List.mem_cons_self)) fun other member => by
          rw [Restored.step_size]
          exact there other (List.mem_cons_of_mem _ member)
      exact ⟨fun bank => (after.1 bank).trans (state.step_size writeback bank), after.2⟩
  exact steps ⟨registers, heap, none⟩ (fun fault found => by cases found) there

end Delivery

namespace Frame

theorem place_spec {function : String} {registers : Banks} {earlier arguments : List Value} :
    Spares (place function registers earlier arguments) ∧
      ∀ after, place function registers earlier arguments = .ok after →
        ∀ bank, after.size bank = registers.size bank := by
  induction arguments generalizing registers earlier with
  | nil =>
    refine ⟨failsOnly_ok _, fun after placed bank => ?_⟩
    cases placed
    rfl
  | cons value rest ih =>
    unfold place
    dsimp only
    split
    next inside =>
      refine ⟨failsOnly_bind (Banks.spares_put inside) fun _ => ih.1, fun after placed bank => ?_⟩
      obtain ⟨middle, written, placed⟩ := bind_eq_ok.1 placed
      exact (ih.2 after placed bank).trans (Banks.setRegister_size written bank)
    next => exact ⟨failsOnly_error rfl, fun after placed => by cases placed⟩

variable {routine : LinkedRoutine} {arguments : List Value} {results : List Bank}
  {host : Option (List ResultSlot)} {heap : Heap}

theorem lacksRegister_of_enter {fault : Fault} {left : Heap}
    (refused : enter routine arguments results host heap = .error (fault, left)) :
    fault.lacksRegister = false := place_spec.1 fault (enter_eq_error_iff.1 refused).1

theorem enter_registers {frame : Frame} {after : Heap}
    (entered : enter routine arguments results host heap = .ok (frame, after)) :
    frame.routine = routine ∧
      ∀ bank, frame.registers.size bank = routine.layout.registers bank := by
  obtain ⟨registers, placed, entered⟩ := enter_eq_ok_iff.1 entered
  have sizes (bank : Bank) : registers.size bank = routine.layout.registers bank := by
    rw [place_spec.2 registers placed bank, Banks.size_blank]
  cases entered
  exact ⟨rfl, sizes⟩

/-- The frame has the registers of its layout, and those that it has passed or that it awaits results
in are among them. -/
structure Fits (frame : Frame) : Prop where
  sizes : ∀ bank, frame.registers.size bank = frame.routine.layout.registers bank
  passed : ∀ writeback ∈ frame.passed,
    frame.routine.layout.Has writeback.bank writeback.register.toNat
  pending : ∀ pending, frame.pending = some pending →
    pending.Fits frame.routine.layout.registers

theorem fits_of_enter {frame : Frame} {after : Heap}
    (entered : enter routine arguments results host heap = .ok (frame, after)) : frame.Fits := by
  obtain ⟨same, sizes⟩ := enter_registers entered
  obtain ⟨-, idle, empty, -⟩ := enter_eq_ok entered
  refine ⟨same ▸ sizes, fun writeback member => ?_, fun pending waits => ?_⟩
  · rw [Frame.passed, empty] at member
    cases member
  · cases idle.symm.trans waits

end Frame

namespace Action

variable {named : Bank → Nat → Prop} {state after : Local}

theorem usesAt_advance (setting : Setting ν)
    (within : ∀ word instruction, state.frame.routine.code[state.frame.pc]? = some word →
      Instruction.ofOpcode? word.opcode = some instruction →
      word.Within named instruction.operation)
    (quiet : state.frame.operationAt? state.frame.pc ≠ some .throw) :
    UsesAt named (advance setting) state := by
  refine usesAt_bind (uses_frame state) fun frame same read => ?_
  cases read
  refine usesAt_bind (usesAt_ofExcept (LinkedRoutine.spares_word _ _) state)
    fun word same found => ?_
  obtain ⟨located, rfl⟩ := ofExcept_eq_ok.1 found
  have located := LinkedRoutine.word_eq_ok_iff.1 located
  refine usesAt_bind (.of_same rfl rfl fun _ old => old) fun _ fetched moved => ?_
  cases moved
  cases decoded : Instruction.ofOpcode? word.opcode with
  | none =>
    rw [Word.instruction, decoded]
    exact uses_fault rfl _
  | some instruction =>
    rw [Word.instruction, decoded]
    refine uses_perform setting (within word instruction located decoded) (fun throwing => quiet ?_) _
    rw [Frame.operationAt?_of_word located decoded, throwing]

/-- A `THROW` always fails, and for want of a register only in its own words. -/
theorem raise_eq_error (w : Word) (state : Local) :
    ∃ abort, (raise w : Action α) state = .error abort state ∧
      (abort.LacksRegister → ∃ detail ∈ state.frame.routine.constants.strings,
        abort = .withDetail .contractViolation detail) := by
  have other {fault : Fault} (spared : fault.lacksRegister = false)
      (lacks : (Abort.ofFault fault).LacksRegister) : False := by
    rw [Fault.lacksRegister_of_ofFault lacks] at spared
    cases spared
  simp only [raise, bind_apply, constant_apply]
  cases chosen : Fault.ofSelector (AbortKind.ofCode w.a) with
  | error fault =>
    exact ⟨_, rfl, fun lacks => (other ((ordinary_ofSelector _).spares fault chosen) lacks).elim⟩
  | ok kind =>
    cases read : state.frame.routine.constants.constant .string w.bc.toNat with
    | error fault =>
      refine ⟨.ofFault fault, by simp [read], fun lacks => ?_⟩
      exact (other (Banks.spares_constant _ _ _ fault read) lacks).elim
    | ok detail =>
      refine ⟨if detail.isEmpty then .of kind else .withDetail kind detail,
        by simp only [ofExcept_ok, read, throw_apply], fun lacks => ?_⟩
      split at lacks
      next => exact absurd lacks (Abort.not_lacksRegister_of kind)
      next full =>
        have violation : kind = .contractViolation := by
          by_contra differs
          exact Abort.not_lacksRegister_withDetail detail differs lacks
        rw [if_neg full, violation]
        exact ⟨detail, Array.mem_of_getElem? (Banks.get?_of_constant read), rfl⟩

theorem advance_throw (setting : Setting ν)
    (throwing : state.frame.operationAt? state.frame.pc = some .throw) :
    ∃ abort after, advance setting state = .error abort after ∧
      (abort.LacksRegister → state.frame.Throws abort) := by
  obtain ⟨word, located, decoded⟩ := Option.bind_eq_some_iff.1 throwing
  obtain ⟨instruction, decoded, operation⟩ := Option.map_eq_some_iff.1 decoded
  obtain ⟨abort, raised, own⟩ := raise_eq_error (α := Unit) word state.fetched
  refine ⟨abort, state.fetched, ?_, fun lacks => ⟨throwing, own lacks⟩⟩
  rw [advance_of_word setting located decoded, perform, operation]
  simp only [compute, bind_apply, raised]

theorem resultTarget_has {offset : Nat} {target : ResultTarget} (code : state.frame.routine.Fits)
    (read : resultTarget offset state = .ok target after) :
    state.frame.routine.layout.Has target.bank target.register.toNat := by
  obtain ⟨-, word, found, marker, rfl⟩ := resultTarget_eq_ok read
  have register : word.tagAIndexB.tag.isConstant = false := by
    by_contra flagged
    have constant : word.tagAIndexB.tag.isConstant = true := by simpa using flagged
    simp only [resultTarget, bind_apply, frame_apply, found, marker, if_true] at read
    cases checked : word.tagAIndexB.tag.validate with
    | error unknown =>
      rw [checked] at read
      cases read
    | ok tag =>
      have valid : Fault.ofSelector (.ok tag) = .ok tag := rfl
      rw [checked, valid, OperandTag.validate_eq_ok checked] at read
      simp [constant] at read
  obtain ⟨other, same, decoded⟩ := Option.bind_eq_some_iff.1 marker
  cases found.symm.trans same
  obtain ⟨instruction, decoded, operation⟩ := Option.map_eq_some_iff.1 decoded
  have within := code offset word instruction found decoded
  rw [operation] at within
  have first : state.frame.routine.layout.Has word.tagAIndexB.tag.bank
      (word.tagAIndexB.index + UInt16.ofNat 0).toNat :=
    within 0 .tagAIndexB _ rfl register 0 word.tagAIndexB.tag.width_pos
  simpa using first

theorem resultTargets_has {offset count : Nat} {targets : List ResultTarget}
    (code : state.frame.routine.Fits) (read : resultTargets offset count state = .ok targets after) :
    ∀ target ∈ targets, state.frame.routine.layout.Has target.bank target.register.toNat := by
  induction count generalizing offset targets after with
  | zero =>
    cases read
    exact fun _ member => by cases member
  | succ count ih =>
    obtain ⟨target, _, first, others⟩ := bind_eq_ok.1 read
    obtain ⟨rest, _, later, done⟩ := bind_eq_ok.1 others
    have here := resultTarget_has code first
    obtain ⟨rfl, -⟩ := resultTarget_eq_ok first
    cases done
    intro other member
    obtain rfl | below := List.mem_cons.1 member
    · exact here
    · exact ih later other below

/-- A call asks for results and for the return of references in registers that are there. -/
theorem call_fits {library : Library ν} {running limit : Nat} {w : Word} {target : Source}
    {request : CallRequest ν}
    (called : call library running limit w target state = .ok request after)
    (code : state.frame.routine.Fits) (fits : state.frame.Fits) :
    request.pending.Fits state.frame.routine.layout.registers := by
  have known := call_eq_ok called
  refine ⟨?_, fun writeback member => ?_⟩
  · obtain ⟨function, _, found, marked⟩ := bind_eq_ok.1 called
    cases callee_eq_ok found
    obtain ⟨_, _, ⟨⟩, marked⟩ := bind_eq_ok.1 marked
    obtain ⟨targets, _, read, moved⟩ := bind_eq_ok.1 marked
    have there := resultTargets_has code read
    obtain ⟨_, _, ⟨⟩, moved⟩ := bind_eq_ok.1 moved
    obtain ⟨params, _, -, done⟩ := bind_eq_ok.1 moved
    cases done
    exact there
  · rw [known.writebacks] at member
    exact fits.passed writeback (((List.drop_sublist _ _).filterMap _).subset member)

theorem perform_call_eq {setting : Setting ν} {instruction : Instruction} {w : Word}
    {request : CallRequest ν}
    (called : perform setting instruction w state = .ok (.call request) after) :
    ∃ target, call setting.library setting.depth setting.config.maxCallDepth w target state =
      .ok request after := by
  obtain ⟨target, -, same⟩ | ⟨-, same⟩ | ⟨-, same⟩ | ⟨-, same⟩ := perform_cases setting instruction w
  all_goals
    rw [same] at called
    obtain ⟨_, _, done, last⟩ := bind_eq_ok.1 called
  · cases last
    exact ⟨target, done⟩
  · exact absurd (EStateM.Result.ok.inj last).1 (afterReturn_ne_call w request)
  · exact absurd (EStateM.Result.ok.inj last).1 (afterReturn_ne_call w request)
  · cases last

/-- One instruction of code that fits keeps its frame fitting; a call asks for registers that are
there. -/
theorem advance_fits {setting : Setting ν} {next : Next ν} (code : state.frame.routine.Fits)
    (fits : state.frame.Fits) (done : advance setting state = .ok next after) :
    after.frame.Fits ∧ ∀ request, next = .call request →
      request.pending.Fits after.frame.routine.layout.registers := by
  have quiet : state.frame.operationAt? state.frame.pc ≠ some .throw := by
    intro throwing
    obtain ⟨abort, last, raised, -⟩ := advance_throw setting throwing
    cases done.symm.trans raised
  have touches : Touches state.frame.routine.layout.Has state.frame after.frame := by
    have uses := usesAt_advance setting (code state.frame.pc) quiet
    rwa [UsesAt, done] at uses
  have same := advance_sameActivation done
  refine ⟨⟨fun bank => ?_, fun writeback member => ?_, fun pending waits => ?_⟩, ?_⟩
  · rw [touches.sizes, fits.sizes, same.routine]
  · rw [same.routine]
    obtain old | new := touches.passed writeback member
    · exact fits.passed writeback old
    · exact new
  · rw [same.routine]
    exact fits.pending pending (same.pending.symm.trans waits)
  · rintro request rfl
    rw [same.routine]
    obtain ⟨word, instruction, -, -, performed⟩ | ⟨-, _, failed⟩ | ⟨-, _, failed⟩ :=
      advance_cases setting state
    · obtain ⟨target, called⟩ := perform_call_eq (performed.symm.trans done)
      have fetched : state.fetched.frame.Fits := ⟨fits.sizes, fits.passed, fits.pending⟩
      exact (call_fits called code fetched :)
    · cases done.symm.trans failed
    · cases done.symm.trans failed

/-- An instruction of code that fits fails for want of a register only in its own words. -/
theorem throws_of_advance {setting : Setting ν} {abort : Abort} (code : state.frame.routine.Fits)
    (fits : state.frame.Fits) (failed : advance setting state = .error abort after)
    (lacks : abort.LacksRegister) : state.frame.Throws abort := by
  by_cases throwing : state.frame.operationAt? state.frame.pc = some .throw
  · obtain ⟨other, last, raised, own⟩ := advance_throw setting throwing
    cases failed.symm.trans raised
    exact own lacks
  · have uses := usesAt_advance setting (code state.frame.pc) throwing
    rw [UsesAt, failed] at uses
    obtain ⟨bank, index, known, outside⟩ := uses lacks
    rw [fits.sizes] at outside
    exact absurd known (Nat.not_lt.2 outside)

end Action

namespace Machine

/-- Every frame of a stack fits, also what a native function is to hand to the frame below it. -/
def Fitting : List (Activation ν) → Prop
  | [] => True
  | .script frame :: below => frame.Fits ∧ Fitting below
  | .native call :: below =>
    (∀ pending frame rest, call.caller = some pending → below = .script frame :: rest →
      pending.Fits frame.routine.layout.registers) ∧ Fitting below

variable {machine next : Machine ν} {natives : Natives ν} {below : List (Activation ν)}

theorem Fitting.suffix {stack rest : List (Activation ν)} (fitting : Fitting stack)
    (left : rest <:+ stack) : Fitting rest := by
  obtain ⟨gone, rfl⟩ := left
  induction gone with
  | nil => exact fitting
  | cons activation gone ih =>
    cases activation with
    | script frame => exact ih fitting.2
    | native call => exact ih fitting.2

theorem fitting_unwind {frame : Frame} (fitting : Fitting below)
    (top : machine.stack = .script frame :: below) (abort : Abort) :
    Fitting (machine.unwind abort).stack := by
  rw [unwind_stack, top]
  exact fitting.suffix (unwound_script_suffix frame below)

theorem fitting_resumeFrame {frame : Frame} {pending : PendingCall} (fits : frame.Fits)
    (awaits : pending.Fits frame.routine.layout.registers) (fitting : Fitting below)
    (result : Except Abort (List ResultSlot)) :
    Fitting (machine.resumeFrame frame below pending result).stack := by
  obtain ⟨slots, registers, -, delivered, -, resumed⟩ | ⟨abort, start, -, aborted⟩ :=
    resumeFrame_cases machine frame below pending result
  · rw [resumed]
    have sizes (bank : Bank) : registers.size bank = frame.routine.layout.registers bank := by
      rw [deliver_size delivered, fits.sizes]
    have there : ∀ writeback ∈ pending.writebacks,
        writeback.register.toNat < registers.size writeback.bank := by
      intro writeback member
      rw [sizes]
      exact awaits.writebacks writeback member
    have restored := restore_spec machine.world.heap there
    exact ⟨⟨fun bank => (restored.1 bank).trans (sizes bank), fits.passed, fits.pending⟩, fitting⟩
  · rw [aborted]
    exact fitting_unwind fitting rfl abort

theorem fitting_enter (fitting : Fitting machine.stack) (id : FunctionId) (arguments : List Value)
    (slots : List ResultSlot) : Fitting (machine.enter natives id arguments slots).stack := by
  obtain ⟨abort, same⟩ | ⟨name, function, same⟩ | ⟨routine, frame, heap, entered, same⟩ :=
    enter_cases machine natives id arguments slots
  all_goals rw [same]
  · exact fitting
  · exact ⟨fun pending frame rest called => (by cases called), fitting⟩
  · exact ⟨Frame.fits_of_enter entered, fitting⟩

/-- A step keeps the stack fitting if the code of its frames fits. -/
theorem Fitting.step (fitting : Fitting machine.stack)
    (code : ∀ frame, .script frame ∈ machine.stack → frame.routine.Fits)
    (stepped : machine.step natives = some next) : Fitting next.stack := by
  have innermost {frame : Frame} {below : List (Activation ν)}
      (top : machine.stack = .script frame :: below) :
      frame.routine.Fits ∧ frame.Fits ∧ Fitting below := by
    rw [top] at fitting
    exact ⟨code frame (by rw [top]; exact List.mem_cons_self), fitting.1, fitting.2⟩
  cases step_transition stepped with
  | proceeded idle top advanced =>
    obtain ⟨loaded, fits, rest⟩ := innermost top
    exact ⟨(Action.advance_fits loaded fits advanced).1, rest⟩
  | aborted idle top advanced => exact fitting_unwind (innermost top).2.2 rfl _
  | returnedToHost idle top advanced host => exact (innermost top).2.2
  | @returnedToFrame frame caller below state pending idle top advanced host waiting =>
    obtain ⟨-, -, fits, rest⟩ := innermost top
    have resting : ({ caller with pending := none } : Frame).Fits :=
      ⟨fits.sizes, fits.passed, fun _ waits => by cases waits⟩
    exact fitting_resumeFrame resting (fits.pending pending waiting) rest _
  | calledNative idle top advanced callee =>
    obtain ⟨loaded, fits, rest⟩ := innermost top
    obtain ⟨after, asks⟩ := Action.advance_fits loaded fits advanced
    refine ⟨fun pending frame others called same => ?_, after, rest⟩
    cases called
    cases same
    exact asks _ rfl
  | calledScript idle top advanced script entered =>
    obtain ⟨loaded, fits, rest⟩ := innermost top
    obtain ⟨after, asks⟩ := Action.advance_fits loaded fits advanced
    refine ⟨Frame.fits_of_enter entered, ⟨after.sizes, after.passed, fun pending waits => ?_⟩, rest⟩
    cases waits
    exact asks _ rfl
  | refusedScript idle top advanced => exact fitting_unwind (innermost top).2.2 rfl _
  | finishedToHost idle top =>
    rw [top] at fitting
    exact fitting.2
  | finishedToFrame idle top =>
    rw [top] at fitting
    exact fitting_resumeFrame fitting.2.1 (fitting.1 _ _ _ rfl rfl) fitting.2.2 _
  | looked idle top | changed idle top =>
    rw [top] at fitting
    exact fitting
  | entered idle top => exact fitting_enter fitting _ _ _
  | took ended top =>
    rw [top] at fitting
    exact fitting
  | orphanedFrame idle top advanced host alone =>
    rw [unwind_stack]
    exact (innermost top).2.2.suffix (unwound_suffix _)
  | orphanedNative idle top alone =>
    rw [top] at fitting
    rw [unwind_stack]
    exact fitting.2.suffix (unwound_suffix _)

/-- A run keeps the stack fitting for as long as only code that fits is running. -/
theorem Fitting.run {count : Nat} (fitting : Fitting machine.stack)
    (code : ∀ steps < count, ∀ frame, .script frame ∈ (run natives steps machine).stack →
      frame.routine.Fits) : Fitting (run natives count machine).stack := by
  induction count with
  | zero => exact fitting
  | succ count ih =>
    have before := ih fun steps early => code steps (Nat.lt_succ_of_lt early)
    obtain stepped | ⟨-, same⟩ := run_succ_cases count machine
    · exact before.step (code count (Nat.lt_succ_self _)) stepped
    · rw [same]
      exact before

def Awaits (machine : Machine ν) (frame : Frame) (pending : PendingCall) : Prop :=
  ∃ above below, machine.stack = above ++ .script frame :: below ∧
    (frame.pending = some pending ∨
      ∃ call, above.getLast? = some (.native call) ∧ call.caller = some pending)

theorem Fitting.awaits {frame : Frame} {pending : PendingCall} (fitting : Fitting machine.stack)
    (awaits : machine.Awaits frame pending) :
    frame.Fits ∧ pending.Fits frame.routine.layout.registers := by
  obtain ⟨above, below, placed, waits⟩ := awaits
  rw [placed] at fitting
  have here := fitting.suffix (List.suffix_append _ _)
  refine ⟨here.1, ?_⟩
  obtain script | ⟨call, last, called⟩ := waits
  · exact here.1.pending pending script
  · obtain ⟨outer, rfl⟩ := List.getLast?_eq_some_iff.1 last
    rw [List.append_assoc] at fitting
    exact (fitting.suffix (List.suffix_append _ _)).1 pending frame below called rfl

/-- Nothing that the machine is about to do with registers lacks one: not its next instruction, apart
from the text of a `THROW`, not the arguments of a routine, not the results or the references that a
call hands back to a frame that waits for it. -/
structure LacksNoRegister (machine : Machine ν) : Prop where
  instruction : ∀ frame below abort after, machine.stack = .script frame :: below →
    Action.advance machine.setting ⟨frame, machine.world⟩ = .error abort after →
    abort.LacksRegister → frame.Throws abort
  entry : ∀ routine arguments results host fault left,
    Frame.enter routine arguments results host machine.world.heap = .error (fault, left) →
      fault.lacksRegister = false
  delivery : ∀ frame pending, machine.Awaits frame pending → ∀ slots,
    Spares (deliver frame.registers 0 pending.targets slots)
  writeback : ∀ frame pending, machine.Awaits frame pending → ∀ registers heap,
    (registers = frame.registers ∨
      ∃ slots, deliver frame.registers 0 pending.targets slots = .ok registers) →
    (restore registers heap pending.writebacks).Spares

theorem Fitting.lacksNoRegister (fitting : Fitting machine.stack)
    (code : ∀ frame, .script frame ∈ machine.stack → frame.routine.Fits) :
    machine.LacksNoRegister where
  instruction frame below abort after top failed lacks := by
    rw [top] at fitting
    have loaded := code frame (by rw [top]; exact List.mem_cons_self)
    exact (Action.throws_of_advance loaded fitting.1 failed lacks :)
  entry _ _ _ _ _ _ refused := Frame.lacksRegister_of_enter refused
  delivery frame pending awaits slots := by
    obtain ⟨fits, there⟩ := fitting.awaits awaits
    refine spares_deliver fun target member => ?_
    rw [fits.sizes]
    exact there.targets target member
  writeback frame pending awaits registers heap origin := by
    obtain ⟨fits, there⟩ := fitting.awaits awaits
    have sizes (bank : Bank) : registers.size bank = frame.routine.layout.registers bank := by
      obtain rfl | ⟨slots, delivered⟩ := origin
      · exact fits.sizes bank
      · exact (deliver_size delivered bank).trans (fits.sizes bank)
    refine (restore_spec heap fun writeback member => ?_).2
    rw [sizes]
    exact there.writebacks writeback member

end Machine

def LinkedRoutine.Assembled (routine : LinkedRoutine) : Prop :=
  ∃ sourceName source program, Assembly.assemble sourceName source = .ok program ∧
    Assembly.CastsNamed source ∧
    ∃ origin ∈ program.routines, ∃ resolve, origin.link resolve = .ok routine

theorem LinkedRoutine.Assembled.fits {routine : LinkedRoutine} (assembled : routine.Assembled) :
    routine.Fits := by
  obtain ⟨_, _, _, accepted, named, _, member, _, link⟩ := assembled
  exact Assembly.fits_of_assemble accepted named member link

theorem LinkedRoutine.assembled_of_ofSource? {source : String} {routine : LinkedRoutine}
    (named : Assembly.CastsNamed source) (found : ofSource? source = some routine) :
    routine.Assembled := by
  obtain ⟨program, accepted, found⟩ := Option.bind_eq_some_iff.1 found
  obtain ⟨origin, first, link⟩ := Option.bind_eq_some_iff.1 found
  exact ⟨"", source, program, eq_ok_of_toOption accepted, named, origin,
    List.mem_of_head? first, _, eq_ok_of_toOption link⟩

namespace Machine

/-- A call whose frames all run assembled code never lacks a register, whatever its arguments, the
native functions and the number of steps. -/
theorem assembled_lacks_no_register (natives : Natives ν) (machine : Machine ν)
    (idle : machine.stack = []) (id : FunctionId) (arguments : List Value)
    (slots : List ResultSlot) (count : Nat)
    (assembled : ∀ steps ≤ count, ∀ frame,
      .script frame ∈ (run natives steps (machine.enter natives id arguments slots)).stack →
      frame.routine.Assembled) :
    (run natives count (machine.enter natives id arguments slots)).LacksNoRegister := by
  have empty : Fitting machine.stack := by
    rw [idle]
    trivial
  have entered : Fitting (machine.enter natives id arguments slots).stack :=
    fitting_enter empty id arguments slots
  have fitting := entered.run fun steps early frame member =>
    (assembled steps (Nat.le_of_lt early) frame member).fits
  exact fitting.lacksNoRegister fun frame member =>
    (assembled count (Nat.le_refl _) frame member).fits

def showing : String :=
  ".func Show\nCAST s0, f0, V22S\nPARAM &d0\nCALL_K @Seen, 1, 1\nRESULT d1\nRET 0!, d1\n.end\n"

/-- After three steps the frame waits for a result and for a register that it has passed. -/
theorem assembled_lacks_no_register_showing :
    let natives : Natives Unit := fun _ _ slots => .finish ⟨.ok 0, slots⟩
    let entered := fun routine => Machine.enter
      ⟨.standard, ⟨#[.native "Seen" (), .script routine]⟩, .empty, [], none⟩ natives ⟨1⟩ [] []
    ∃ routine, LinkedRoutine.ofSource? showing = some routine ∧
      (run natives 3 (entered routine)).depth = 2 ∧
      (run natives 3 (entered routine)).LacksNoRegister := by
  intro natives entered
  have evaluated : ∃ routine ∈ LinkedRoutine.ofSource? showing,
      (run natives 3 (entered routine)).depth = 2 ∧ ∀ steps < 4,
        (run natives steps (entered routine)).stack.all (fun
          | .script frame => frame.routine == routine
          | .native _ => true) = true := by
    decide +kernel
  obtain ⟨routine, found, deep, same⟩ := evaluated
  refine ⟨routine, found, deep, assembled_lacks_no_register natives _ rfl ⟨1⟩ [] [] 3 ?_⟩
  intro steps bound frame member
  have own := List.all_eq_true.1 (same steps (Nat.lt_succ_of_le bound)) _ member
  rw [beq_iff_eq.1 own]
  exact LinkedRoutine.assembled_of_ofSource? (by decide +kernel) found

end Machine
end GameScript
