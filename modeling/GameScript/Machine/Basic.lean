import GameScript.Heap.Collect
import GameScript.Machine.Behaviour
import GameScript.Machine.Perform

/-! The machine: a stack of active functions, routines and native functions alike, and one step of
it. A call from outside of scripts, by a native function or at the very bottom, ends by leaving its
outcome in `completed`, where the caller takes it. -/

namespace GameScript

structure NativeCall (ν : Type) where
  name : String
  /-- What it still has to do; while another function runs above it, that is to take the outcome. -/
  behaviour : Behaviour ν
  /-- What the calling frame expects; none when the call came from outside of scripts. -/
  caller : Option PendingCall

inductive Activation (ν : Type) where
  | script (frame : Frame)
  | native (call : NativeCall ν)

/-- The native functions: what each does with its arguments and the slots for its results. -/
abbrev Natives (ν : Type) := ν → List Value → List ResultSlot → Behaviour ν

structure Machine (ν : Type) where
  config : Config
  library : Library ν
  world : World
  /-- The active functions, innermost first. -/
  stack : List (Activation ν)
  /-- How the call that has just ended went, until its caller takes it. -/
  completed : Option Outcome

namespace Machine

def new (config : Config) : Machine ν := ⟨config, .empty, .empty, [], none⟩

def depth (machine : Machine ν) : Nat := machine.stack.length

/-- The pointers that keep objects alive: constants of routines, then the frames from the outermost
inwards. -/
def roots (machine : Machine ν) : List Pointer :=
  machine.library.roots ++ machine.stack.reverse.flatMap fun
    | .script frame => frame.roots
    | .native _ => []

def view (machine : Machine ν) : View ν :=
  ⟨machine.library, machine.world, machine.roots, machine.depth⟩

def setting (machine : Machine ν) : Setting ν :=
  ⟨machine.config, machine.library, machine.depth⟩

def complete (machine : Machine ν) (result : Except Abort Nat) (slots : List ResultSlot) :
    Machine ν :=
  { machine with completed := some ⟨result, slots⟩ }

/-- Takes frames off a stack down to the one that was entered from outside of scripts. Each of them
is noted in the abort and releases what it owns. -/
def unwindStack (abort : Abort) (heap : Heap) :
    List (Activation ν) → List (Activation ν) × Heap × Outcome
  | .script frame :: below =>
    let abort := abort.leaving frame.site
    let heap := frame.release heap
    match frame.host with
    | some slots => (below, heap, ⟨.error abort, slots⟩)
    | none => unwindStack abort heap below
  | stack => (stack, heap, ⟨.error abort, []⟩)

/-- Ends the innermost call from outside of scripts with an abort. -/
def unwind (machine : Machine ν) (abort : Abort) : Machine ν :=
  let (stack, heap, outcome) := unwindStack abort machine.world.heap machine.stack
  { machine with stack, world := { machine.world with heap }, completed := some outcome }

/-- Enters a function on behalf of a caller outside of scripts. -/
def enter (machine : Machine ν) (natives : Natives ν) (id : FunctionId) (arguments : List Value)
    (slots : List ResultSlot) : Machine ν :=
  if machine.config.maxCallDepth ≤ machine.depth then
    machine.complete (.error (.withDetail .other "call stack overflow")) slots
  else
    match machine.library.get id with
    | .error fault => machine.complete (.error (.ofFault fault)) slots
    | .ok (.native name function) =>
      let call := ⟨name, natives function arguments slots, none⟩
      { machine with stack := .native call :: machine.stack }
    | .ok (.script routine) =>
      match Frame.enter routine arguments (slots.map ResultSlot.bank) (some slots)
          machine.world.heap with
      | .error (fault, heap) =>
        { machine with world := { machine.world with heap } }.complete
          (.error (.ofFault fault)) slots
      | .ok (frame, heap) =>
        { machine with
          stack := .script frame :: machine.stack
          world := { machine.world with heap } }

/-- Gives `frame` above `below` the results of the call it was waiting for and takes its cells back.
Whatever goes wrong, all cells are freed. -/
def resumeFrame (machine : Machine ν) (frame : Frame) (below : List (Activation ν))
    (pending : PendingCall) (result : Except Abort (List ResultSlot)) : Machine ν :=
  let delivered := result.bind fun slots =>
    Fault.raise (deliver frame.registers 0 pending.targets slots)
  let registers := match delivered with
    | .ok registers => registers
    | .error _ => frame.registers
  let restored := restore registers machine.world.heap pending.writebacks
  let frame := { frame with registers := restored.registers }
  let machine := { machine with
    stack := .script frame :: below
    world := { machine.world with heap := restored.heap } }
  match delivered, restored.fault with
  | .error abort, _ => machine.unwind abort
  | .ok _, some fault => machine.unwind (.ofFault fault)
  | .ok _, none => machine

/-- Gives the innermost frame the results of its call; `missing` is the abort if there is none. -/
def resume (machine : Machine ν) (missing : Abort) (pending : PendingCall)
    (result : Except Abort (List ResultSlot)) : Machine ν :=
  match machine.stack with
  | .script frame :: below => machine.resumeFrame frame below pending result
  | _ => machine.unwind missing

/-- The innermost frame, which is `frame` above `below`, has returned. -/
def finishFrame (machine : Machine ν) (missing : Abort) (frame : Frame)
    (below : List (Activation ν)) : Machine ν :=
  let world := { machine.world with heap := frame.release machine.world.heap }
  let machine := { machine with stack := below, world }
  match frame.host with
  | some slots => machine.complete (.ok frame.returned) (mergeSlots slots frame.results)
  | none =>
    match below with
    | .script caller :: rest =>
      match caller.pending with
      | some pending =>
        machine.resumeFrame { caller with pending := none } rest pending (.ok frame.results)
      | none => machine.unwind missing
    | _ => machine.unwind missing

/-- The innermost frame, which is `frame` above `below`, calls a function. -/
def callFromFrame (machine : Machine ν) (natives : Natives ν) (frame : Frame)
    (below : List (Activation ν)) (request : Action.CallRequest ν) : Machine ν :=
  let banks := request.pending.targets.map ResultTarget.bank
  match request.callee with
  | .native name function =>
    let behaviour := natives function request.arguments (banks.map ResultSlot.empty)
    let call := ⟨name, behaviour, some request.pending⟩
    { machine with stack := .native call :: .script frame :: below }
  | .script routine =>
    let stack := .script { frame with pending := some request.pending } :: below
    match Frame.enter routine request.arguments banks none machine.world.heap with
    | .error (fault, heap) =>
      { machine with stack, world := { machine.world with heap } }.unwind (.ofFault fault)
    | .ok (callee, heap) =>
      { machine with stack := .script callee :: stack, world := { machine.world with heap } }

/-- One step of the innermost frame, which is `frame` above `below`. -/
def stepFrame (machine : Machine ν) (natives : Natives ν) (missing : Abort) (frame : Frame)
    (below : List (Activation ν)) : Machine ν :=
  match Action.advance machine.setting ⟨frame, machine.world⟩ with
  | .error abort state =>
    { machine with stack := .script state.frame :: below, world := state.world }.unwind abort
  | .ok next state =>
    let machine := { machine with stack := .script state.frame :: below, world := state.world }
    match next with
    | .proceed => machine
    | .finish => machine.finishFrame missing state.frame below
    | .call request => machine.callFromFrame natives state.frame below request

/-- A native function, which was above `below`, has returned. -/
def finishNative (machine : Machine ν) (missing : Abort) (call : NativeCall ν)
    (below : List (Activation ν)) (outcome : Outcome) : Machine ν :=
  let machine := { machine with stack := below }
  let result := outcome.result.mapError fun abort => abort.leaving (.native call.name)
  match call.caller with
  | none => machine.complete result outcome.slots
  | some pending => machine.resume missing pending (result.map fun _ => outcome.slots)

/-- One step of the innermost function, which is the native `call` above `below`. -/
def stepNative (machine : Machine ν) (natives : Natives ν) (missing : Abort) (call : NativeCall ν)
    (below : List (Activation ν)) : Machine ν :=
  match call.behaviour with
  | .finish outcome => machine.finishNative missing call below outcome
  | .look next =>
    { machine with stack := .native { call with behaviour := next machine.view } :: below }
  | .change library world next =>
    { machine with library, world, stack := .native { call with behaviour := next } :: below }
  | .call id arguments slots _ => machine.enter natives id arguments slots

/-- The end of a call from outside of scripts. Its abort is reported if nothing was running when the
call was made, and if the configuration asks for that. -/
def endCall (machine : Machine ν) (running : Nat) (outcome : Outcome) : Machine ν :=
  let machine := { machine with completed := none }
  match outcome.result with
  | .error abort =>
    if running = 0 ∧ machine.config.reportAborts then
      { machine with world := machine.world.report abort.text }
    else machine
  | .ok _ => machine

/-- One step, where `missing` is the abort of a call whose caller is not there; none once the
outermost call has ended. -/
def stepOr (machine : Machine ν) (natives : Natives ν) (missing : Abort) : Option (Machine ν) :=
  match machine.completed, machine.stack with
  | none, .script frame :: below => some (machine.stepFrame natives missing frame below)
  | none, .native call :: below => some (machine.stepNative natives missing call below)
  | some outcome, .native ⟨name, .call _ _ _ resume, caller⟩ :: below =>
    some { machine.endCall machine.depth outcome with
      stack := .native ⟨name, resume outcome, caller⟩ :: below }
  | _, _ => none

def step (machine : Machine ν) (natives : Natives ν) : Option (Machine ν) :=
  machine.stepOr natives (.ofFault .noActiveFrame)

/-- As many steps as there are, up to `fuel`. -/
def run (natives : Natives ν) : Nat → Machine ν → Machine ν
  | 0, machine => machine
  | fuel + 1, machine =>
    match machine.step natives with
    | some next => run natives fuel next
    | none => machine

end Machine
end GameScript
