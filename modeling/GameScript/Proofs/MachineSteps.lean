import GameScript.Machine.Call
import GameScript.Proofs.CallInstructions

/-! Everything one step of the machine can do, case by case, and what follows for the stack: a step
changes what is innermost, and the functions further out only come back into play when all above
them are gone. -/

namespace GameScript

@[simp] theorem Fault.raise_ok (value : α) : Fault.raise (.ok value) = .ok value := rfl

@[simp] theorem Fault.raise_error (fault : Fault) :
    Fault.raise (.error fault : Except Fault α) = .error (.ofFault fault) := rfl

namespace Frame

variable {routine : LinkedRoutine} {arguments : List Value} {results : List Bank}
  {host : Option (List ResultSlot)} {heap after left : Heap} {frame : Frame} {fault : Fault}

theorem enter_eq_ok_iff : enter routine arguments results host heap = .ok (frame, after) ↔
    ∃ registers,
      place routine.name (.blank routine.layout.registers) [] arguments = .ok registers ∧
      fresh routine results host heap registers = (frame, after) := by
  unfold enter
  cases place routine.name (.blank routine.layout.registers) [] arguments with
  | error fault => simp
  | ok registers => simp

/-- Nothing is allocated for arguments that have no place. -/
theorem enter_eq_error_iff : enter routine arguments results host heap = .error (fault, left) ↔
    place routine.name (.blank routine.layout.registers) [] arguments = .error fault ∧
      left = heap := by
  unfold enter
  cases place routine.name (.blank routine.layout.registers) [] arguments with
  | error fault => simp [eq_comm]
  | ok registers => simp

/-- A new frame waits for nothing and owns at most a new block. -/
theorem enter_eq_ok (entered : enter routine arguments results host heap = .ok (frame, after)) :
    frame.host = host ∧ frame.pending = none ∧ frame.staged = [] ∧
      frame.results = results.map ResultSlot.empty ∧
      (frame.extra = none ∧ after = heap ∨
        ∃ size, frame.extra = some (heap.alloc size).1 ∧ after = (heap.alloc size).2) := by
  obtain ⟨registers, -, entered⟩ := enter_eq_ok_iff.1 entered
  unfold fresh at entered
  by_cases none : routine.layout.extraSpace = 0
  · rw [if_pos none] at entered
    cases entered
    exact ⟨rfl, rfl, rfl, rfl, .inl ⟨rfl, rfl⟩⟩
  · rw [if_neg none] at entered
    cases entered
    exact ⟨rfl, rfl, rfl, rfl, .inr ⟨_, rfl, rfl⟩⟩

end Frame

/-- The fault that a frame meets when it takes the results of a call, if any. -/
def Frame.misses? (frame : Frame) (heap : Heap) (pending : PendingCall) (slots : List ResultSlot) :
    Option Fault :=
  match deliver frame.registers 0 pending.targets slots with
  | .ok registers => (restore registers heap pending.writebacks).fault
  | .error fault => some fault

namespace Machine

def unwound : List (Activation ν) → List (Activation ν)
  | .script frame :: below => if frame.host.isSome then below else unwound below
  | stack => stack

theorem unwound_suffix (stack : List (Activation ν)) : unwound stack <:+ stack := by
  fun_induction unwound stack with
  | case1 frame below host => exact List.suffix_cons _ _
  | case2 frame below host ih => exact ih.trans (List.suffix_cons _ _)
  | case3 stack other => exact List.suffix_refl _

theorem unwound_script_suffix (frame : Frame) (below : List (Activation ν)) :
    unwound (.script frame :: below) <:+ below := by
  rw [unwound]
  split
  next => exact List.suffix_refl _
  next => exact unwound_suffix below

theorem unwindStack_fst (abort : Abort) (heap : Heap) (stack : List (Activation ν)) :
    (unwindStack abort heap stack).1 = unwound stack := by
  induction stack generalizing abort heap with
  | nil => rfl
  | cons activation below ih =>
    cases activation with
    | native call => rfl
    | script frame =>
      unfold unwindStack unwound
      cases frame.host with
      | some slots => rfl
      | none => exact ih _ _

variable {machine next : Machine ν} {natives : Natives ν}

@[simp] theorem unwind_stack (abort : Abort) : (machine.unwind abort).stack = unwound machine.stack :=
  unwindStack_fst abort machine.world.heap machine.stack

/-- What becomes of the frame that waited for a call. -/
theorem resumeFrame_cases (machine : Machine ν) (frame : Frame) (below : List (Activation ν))
    (pending : PendingCall) (result : Except Abort (List ResultSlot)) :
    (∃ slots registers, result = .ok slots ∧
      deliver frame.registers 0 pending.targets slots = .ok registers ∧
      (restore registers machine.world.heap pending.writebacks).fault = none ∧
      machine.resumeFrame frame below pending result =
        { machine with
          stack := .script { frame with
            registers := (restore registers machine.world.heap pending.writebacks).registers } :: below
          world := { machine.world with
            heap := (restore registers machine.world.heap pending.writebacks).heap } }) ∨
    ∃ abort start,
      (result = .error abort ∨ ∃ slots fault, result = .ok slots ∧ abort = .ofFault fault ∧
        frame.misses? machine.world.heap pending slots = some fault) ∧
      machine.resumeFrame frame below pending result =
        unwind { machine with
          stack := .script { frame with
            registers := (restore start machine.world.heap pending.writebacks).registers } :: below
          world := { machine.world with
            heap := (restore start machine.world.heap pending.writebacks).heap } } abort := by
  unfold resumeFrame
  cases result with
  | error abort => exact .inr ⟨abort, frame.registers, .inl rfl, rfl⟩
  | ok slots =>
    cases delivered : deliver frame.registers 0 pending.targets slots with
    | error fault =>
      refine .inr ⟨.ofFault fault, frame.registers, .inr ⟨slots, fault, rfl, rfl, ?_⟩, ?_⟩
      · simp only [Frame.misses?, delivered]
      · simp [Except.bind, delivered]
    | ok registers =>
      have misses : frame.misses? machine.world.heap pending slots =
          (restore registers machine.world.heap pending.writebacks).fault := by
        simp only [Frame.misses?, delivered]
      cases failed : (restore registers machine.world.heap pending.writebacks).fault with
      | some fault =>
        refine .inr ⟨.ofFault fault, registers, .inr ⟨slots, fault, rfl, rfl, ?_⟩, ?_⟩
        · exact misses.trans failed
        · simp [Except.bind, delivered, failed]
      | none =>
        refine .inl ⟨slots, registers, rfl, delivered, failed, ?_⟩
        simp [Except.bind, delivered, failed]

/-- How a call from outside of scripts begins. -/
theorem enter_cases (machine : Machine ν) (natives : Natives ν) (id : FunctionId)
    (arguments : List Value) (slots : List ResultSlot) :
    (∃ abort, machine.enter natives id arguments slots = machine.complete (.error abort) slots) ∨
    (∃ name function, machine.enter natives id arguments slots =
      { machine with
        stack := .native ⟨name, natives function arguments slots, none⟩ :: machine.stack }) ∨
    ∃ routine frame heap,
      Frame.enter routine arguments (slots.map ResultSlot.bank) (some slots) machine.world.heap =
        .ok (frame, heap) ∧
      machine.enter natives id arguments slots =
        { machine with
          stack := .script frame :: machine.stack
          world := { machine.world with heap } } := by
  unfold enter
  split
  next => exact .inl ⟨_, rfl⟩
  next =>
    split
    next => exact .inl ⟨_, rfl⟩
    next name function _ => exact .inr (.inl ⟨name, function, rfl⟩)
    next routine _ =>
      split
      next fault left refused =>
        obtain ⟨-, rfl⟩ := Frame.enter_eq_error_iff.1 refused
        exact .inl ⟨_, rfl⟩
      next frame heap entered => exact .inr (.inr ⟨routine, frame, heap, entered, rfl⟩)

def released (frame : Frame) (world : World) : World :=
  { world with heap := frame.release world.heap }

/-- The steps there are. In the last two a function returns to a frame that is not there. -/
inductive Transition (natives : Natives ν) (missing : Abort) (machine : Machine ν) :
    Machine ν → Prop where
  | proceeded {frame below state}
      (idle : machine.completed = none) (top : machine.stack = .script frame :: below)
      (advanced : Action.advance machine.setting ⟨frame, machine.world⟩ = .ok .proceed state) :
      Transition natives missing machine
        { machine with stack := .script state.frame :: below, world := state.world }
  | aborted {frame below state abort}
      (idle : machine.completed = none) (top : machine.stack = .script frame :: below)
      (advanced : Action.advance machine.setting ⟨frame, machine.world⟩ = .error abort state) :
      Transition natives missing machine
        (unwind { machine with stack := .script state.frame :: below, world := state.world } abort)
  | returnedToHost {frame below state slots}
      (idle : machine.completed = none) (top : machine.stack = .script frame :: below)
      (advanced : Action.advance machine.setting ⟨frame, machine.world⟩ = .ok .finish state)
      (host : state.frame.host = some slots) :
      Transition natives missing machine
        (complete { machine with stack := below, world := released state.frame state.world }
          (.ok state.frame.returned) (mergeSlots slots state.frame.results))
  | returnedToFrame {frame caller below state pending}
      (idle : machine.completed = none)
      (top : machine.stack = .script frame :: .script caller :: below)
      (advanced : Action.advance machine.setting ⟨frame, machine.world⟩ = .ok .finish state)
      (host : state.frame.host = none) (waiting : caller.pending = some pending) :
      Transition natives missing machine
        (resumeFrame
          { machine with
            stack := .script caller :: below
            world := released state.frame state.world }
          { caller with pending := none } below pending (.ok state.frame.results))
  | calledNative {frame below state request name function}
      (idle : machine.completed = none) (top : machine.stack = .script frame :: below)
      (advanced : Action.advance machine.setting ⟨frame, machine.world⟩ = .ok (.call request) state)
      (callee : request.callee = .native name function) :
      Transition natives missing machine
        { machine with
          stack := .native ⟨name, natives function request.arguments
              ((request.pending.targets.map ResultTarget.bank).map ResultSlot.empty),
              some request.pending⟩ :: .script state.frame :: below
          world := state.world }
  | calledScript {frame below state request routine callee heap}
      (idle : machine.completed = none) (top : machine.stack = .script frame :: below)
      (advanced : Action.advance machine.setting ⟨frame, machine.world⟩ = .ok (.call request) state)
      (script : request.callee = .script routine)
      (entered : Frame.enter routine request.arguments
        (request.pending.targets.map ResultTarget.bank) none state.world.heap = .ok (callee, heap)) :
      Transition natives missing machine
        { machine with
          stack := .script callee :: .script { state.frame with pending := some request.pending } ::
            below
          world := { state.world with heap } }
  | refusedScript {frame below state request routine fault}
      (idle : machine.completed = none) (top : machine.stack = .script frame :: below)
      (advanced : Action.advance machine.setting ⟨frame, machine.world⟩ = .ok (.call request) state)
      (script : request.callee = .script routine)
      (refused : Frame.enter routine request.arguments
        (request.pending.targets.map ResultTarget.bank) none state.world.heap =
          .error (fault, state.world.heap)) :
      Transition natives missing machine
        (unwind { machine with
          stack := .script { state.frame with pending := some request.pending } :: below
          world := state.world } (.ofFault fault))
  | finishedToHost {name outcome below}
      (idle : machine.completed = none)
      (top : machine.stack = .native ⟨name, .finish outcome, none⟩ :: below) :
      Transition natives missing machine
        (complete { machine with stack := below }
          (outcome.result.mapError fun abort => abort.leaving (.native name)) outcome.slots)
  | finishedToFrame {name outcome pending frame below}
      (idle : machine.completed = none)
      (top : machine.stack =
        .native ⟨name, .finish outcome, some pending⟩ :: .script frame :: below) :
      Transition natives missing machine
        (resumeFrame { machine with stack := .script frame :: below } frame below pending
          ((outcome.result.mapError fun abort => abort.leaving (.native name)).map
            fun _ => outcome.slots))
  | looked {name next caller below}
      (idle : machine.completed = none)
      (top : machine.stack = .native ⟨name, .look next, caller⟩ :: below) :
      Transition natives missing machine
        { machine with stack := .native ⟨name, next machine.view, caller⟩ :: below }
  | changed {name library world next caller below}
      (idle : machine.completed = none)
      (top : machine.stack = .native ⟨name, .change library world next, caller⟩ :: below) :
      Transition natives missing machine
        { machine with library, world, stack := .native ⟨name, next, caller⟩ :: below }
  | entered {name id arguments slots resume caller below}
      (idle : machine.completed = none)
      (top : machine.stack = .native ⟨name, .call id arguments slots resume, caller⟩ :: below) :
      Transition natives missing machine (machine.enter natives id arguments slots)
  | took {name id arguments slots resume caller below outcome}
      (ended : machine.completed = some outcome)
      (top : machine.stack = .native ⟨name, .call id arguments slots resume, caller⟩ :: below) :
      Transition natives missing machine
        { machine with
          stack := .native ⟨name, resume outcome, caller⟩ :: below
          completed := none }
  | orphanedFrame {frame below state}
      (idle : machine.completed = none) (top : machine.stack = .script frame :: below)
      (advanced : Action.advance machine.setting ⟨frame, machine.world⟩ = .ok .finish state)
      (host : state.frame.host = none)
      (alone : ∀ caller rest, below = .script caller :: rest → caller.pending = none) :
      Transition natives missing machine
        (unwind { machine with stack := below, world := released state.frame state.world } missing)
  | orphanedNative {name outcome pending below}
      (idle : machine.completed = none)
      (top : machine.stack = .native ⟨name, .finish outcome, some pending⟩ :: below)
      (alone : ∀ frame rest, below ≠ .script frame :: rest) :
      Transition natives missing machine (unwind { machine with stack := below } missing)

theorem stepFrame_transition {missing : Abort} {frame : Frame} {below : List (Activation ν)}
    (idle : machine.completed = none) (top : machine.stack = .script frame :: below) :
    Transition natives missing machine (machine.stepFrame natives missing frame below) := by
  unfold stepFrame
  split
  next abort state advanced => exact .aborted idle top advanced
  next following state advanced =>
    cases following with
    | proceed => exact .proceeded idle top advanced
    | finish =>
      simp only [finishFrame]
      split
      next slots host => exact .returnedToHost idle top advanced host
      next host =>
        split
        next caller rest =>
          split
          next pending waiting => exact .returnedToFrame idle top advanced host waiting
          next absent =>
            refine .orphanedFrame idle top advanced host fun other _ same => ?_
            cases same
            exact absent
        next notScript =>
          exact .orphanedFrame idle top advanced host fun caller rest same =>
            (notScript caller rest same).elim
    | call request =>
      simp only [callFromFrame]
      split
      next name function callee => exact .calledNative idle top advanced callee
      next routine script =>
        split
        next fault left refused =>
          obtain rfl := (Frame.enter_eq_error_iff.1 refused).2
          exact .refusedScript idle top advanced script refused
        next callee heap entered => exact .calledScript idle top advanced script entered

theorem stepNative_transition {missing : Abort} {call : NativeCall ν} {below : List (Activation ν)}
    (idle : machine.completed = none) (top : machine.stack = .native call :: below) :
    Transition natives missing machine (machine.stepNative natives missing call below) := by
  obtain ⟨name, behaviour, caller⟩ := call
  cases behaviour with
  | finish outcome =>
    cases caller with
    | none => exact .finishedToHost idle top
    | some pending =>
      simp only [stepNative, finishNative, resume]
      split
      next frame rest => exact .finishedToFrame idle top
      next notScript => exact .orphanedNative idle top fun frame rest same => notScript frame rest same
  | look next => exact .looked idle top
  | change library world next => exact .changed idle top
  | call id arguments slots resume => exact .entered idle top

/-- A call made while a function runs is not the outermost one, and its abort is not reported. -/
theorem endCall_nested {activation : Activation ν} {below : List (Activation ν)}
    (top : machine.stack = activation :: below) (outcome : Outcome) :
    machine.endCall machine.depth outcome = { machine with completed := none } := by
  have running : machine.depth ≠ 0 := by
    rw [depth, top]
    exact Nat.succ_ne_zero _
  unfold endCall
  split
  next => rw [if_neg fun outermost => running outermost.1]
  next => rfl

theorem stepOr_transition {missing : Abort} (stepped : machine.stepOr natives missing = some next) :
    Transition natives missing machine next := by
  unfold stepOr at stepped
  split at stepped
  next frame below idle top =>
    cases stepped
    exact stepFrame_transition idle top
  next call below idle top =>
    cases stepped
    exact stepNative_transition idle top
  next outcome name id arguments slots resume caller below ended top =>
    rw [endCall_nested top] at stepped
    cases stepped
    exact .took ended top
  next => cases stepped

theorem step_transition (stepped : machine.step natives = some next) :
    Transition natives (.ofFault .noActiveFrame) machine next := stepOr_transition stepped

@[simp] theorem run_zero (machine : Machine ν) : run natives 0 machine = machine := rfl

theorem run_step (stepped : machine.step natives = some next) (count : Nat) :
    run natives (count + 1) machine = run natives count next := by
  rw [run, stepped]

theorem run_stuck (stuck : machine.step natives = none) (count : Nat) :
    run natives count machine = machine := by
  cases count with
  | zero => rfl
  | succ count => rw [run, stuck]

theorem run_add (first second : Nat) (machine : Machine ν) :
    run natives (first + second) machine = run natives second (run natives first machine) := by
  induction first generalizing machine with
  | zero => rw [Nat.zero_add, run_zero]
  | succ first ih =>
    cases stepped : machine.step natives with
    | none => rw [run_stuck stepped, run_stuck stepped, run_stuck stepped]
    | some next => rw [Nat.succ_add, run_step stepped, run_step stepped, ih]

/-- The last of several steps, unless nothing was left to do. -/
theorem run_succ_cases (count : Nat) (machine : Machine ν) :
    (run natives count machine).step natives = some (run natives (count + 1) machine) ∨
      (run natives count machine).step natives = none ∧
        run natives (count + 1) machine = run natives count machine := by
  rw [run_add]
  cases stepped : (run natives count machine).step natives with
  | none => exact .inr ⟨rfl, run_stuck stepped 1⟩
  | some next => exact .inl (by rw [run_step stepped, run_zero])

end Machine
end GameScript
