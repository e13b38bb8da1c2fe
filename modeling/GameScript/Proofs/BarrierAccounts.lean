import GameScript.Proofs.AbortAtomicity
import GameScript.Proofs.AssembledCode
import GameScript.Proofs.StackChanges
import GameScript.Services

/-! The record of object stores. A run adds one entry to it for every object store that completes, in
the step in which it does, and for nothing else; what native functions do to the world is theirs to
answer for. -/

namespace GameScript

namespace Action

variable {state after : Local} {abort : Abort}

/-- The object that an instruction stores if it completes, none within for null; none if it is not an
object store. -/
def objectStored? (frame : Frame) (operation : Operation) (w : Word) : Option (Option ObjectRef) :=
  match operation with
  | .store .object _ => (frame.registers.get? .pointer w.b.toNat).map Pointer.object?
  | _ => none

theorem objectStored?_eq_none {operation : Operation}
    (other : ∀ offset, operation ≠ .store .object offset) (frame : Frame) (w : Word) :
    objectStored? frame operation w = none := by
  unfold objectStored?
  split
  next offset => exact absurd rfl (other offset)
  next => rfl

theorem Commits.barriers {action : Action α} {value : α} (commits : Commits action)
    (done : action state = .ok value after) : after.world.barriers = state.world.barriers := by
  obtain ⟨heap, same⟩ := commits.done done
  rw [same]

@[grind ←] theorem commits_storeResult (position : Nat) (value : Value) :
    Commits (storeResult position value) := by
  unfold storeResult
  grind

theorem commits_ret (mnemonic : String) (w : Word) : Commits (ret mnemonic w) := by
  unfold ret
  grind

theorem cast_barriers {w : Word} (done : cast w state = .ok () after) :
    after.world.barriers = state.world.barriers := by
  by_cases known : Conversion.ofCode w.c = .ok .stringToName
  · rw [cast_stringToName known] at done
    obtain ⟨text, _, read, interns⟩ := bind_eq_ok.1 done
    cases (reads_register _ _).of_ok read
    obtain ⟨number, _, ⟨⟩, written⟩ := bind_eq_ok.1 interns
    have kept := (commits_setRegister _ _ _).barriers written
    exact kept
  · exact (commits_cast known).barriers done

theorem compute_barriers {epsilon : Double} {mnemonic : String} {w : Word} {operation : Operation}
    (done : compute epsilon mnemonic w operation state = .ok () after) :
    after.world.barriers =
      (objectStored? state.frame operation w).toList ++ state.world.barriers := by
  by_cases noted : ∃ offset, operation = .store .object offset
  · obtain ⟨offset, rfl⟩ := noted
    obtain ⟨value, _, _, held, -, -, -, rfl⟩ := storeObject_eq_ok done
    rw [objectStored?, held]
    rfl
  rw [objectStored?_eq_none (not_exists.1 noted)]
  by_cases conversion : operation = .cast
  · subst conversion
    exact cast_barriers done
  · exact (commits_compute _ _ w conversion (not_exists.1 noted)).barriers done

theorem perform_barriers {setting : Setting ν} {instruction : Instruction} {w : Word} {next : Next ν}
    (done : perform setting instruction w state = .ok next after) :
    after.world.barriers =
      (objectStored? state.frame instruction.operation w).toList ++ state.world.barriers := by
  rcases perform_cases setting instruction w with
    ⟨target, operation, same⟩ | ⟨operation, same⟩ | ⟨operation, same⟩ | ⟨-, same⟩
  all_goals
    rw [same] at done
    obtain ⟨_, _, made, ⟨⟩⟩ := bind_eq_ok.1 done
  · rw [operation, (call_eq_ok made).left]
    rfl
  · rw [operation]
    exact (commits_ret _ w).barriers made
  · rw [operation]
    exact (commits_storeResult _ _).barriers made
  · exact compute_barriers made

theorem perform_barriers_error {setting : Setting ν} {instruction : Instruction} {w : Word}
    (inside : state.frame.pc ≤ state.frame.routine.code.size)
    (failed : perform setting instruction w state = .error abort after) :
    after.world.barriers = state.world.barriers := by
  rcases perform_cases setting instruction w with
    ⟨target, -, same⟩ | ⟨-, same⟩ | ⟨-, same⟩ | ⟨-, same⟩
  all_goals
    rw [same] at failed
    rcases bind_eq_error.1 failed with early | ⟨_, _, -, ⟨⟩⟩
  · obtain ⟨pc, -, rfl⟩ := call_eq_error early inside
    rfl
  · rw [(commits_ret _ w).undone early]
  · rw [(commits_storeResult _ _).undone early]
  · rw [compute_undone early]
    cases strayName? state.frame instruction.operation w <;> rfl

end Action

def Frame.objectStored? (frame : Frame) : Option (Option ObjectRef) :=
  (frame.routine.code[frame.pc]?).bind fun word =>
    (Instruction.ofOpcode? word.opcode).bind fun instruction =>
      Action.objectStored? frame instruction.operation word

namespace Action

variable {state after : Local} {abort : Abort}

theorem advance_barriers {setting : Setting ν} {next : Next ν}
    (done : advance setting state = .ok next after) :
    after.world.barriers = state.frame.objectStored?.toList ++ state.world.barriers := by
  rcases advance_cases setting state with
    ⟨word, instruction, located, opcode, same⟩ | ⟨-, _, same⟩ | ⟨-, _, same⟩
  · rw [same] at done
    simp only [Frame.objectStored?, located, opcode, Option.bind_some]
    have accounted := perform_barriers done
    exact accounted
  · cases same.symm.trans done
  · cases same.symm.trans done

theorem advance_barriers_error {setting : Setting ν}
    (failed : advance setting state = .error abort after) :
    after.world.barriers = state.world.barriers := by
  rcases advance_cases setting state with
    ⟨word, instruction, located, -, same⟩ | ⟨-, _, same⟩ | ⟨-, _, same⟩
  · rw [same] at failed
    have inside : state.fetched.frame.pc ≤ state.fetched.frame.routine.code.size :=
      (Array.getElem?_eq_some_iff.1 located).1
    have kept := perform_barriers_error inside failed
    exact kept
  · cases same.symm.trans failed
    rfl
  · cases same.symm.trans failed
    rfl

end Action

namespace Behaviour

/-- A native function leaves the record of object stores as it finds it, which is what the functions
that it calls have made of it. -/
def Silent : List (Option ObjectRef) → Behaviour ν → Prop
  | _, .finish _ => True
  | barriers, .look next => ∀ view, view.world.barriers = barriers → (next view).Silent barriers
  | barriers, .change _ world next => world.barriers = barriers ∧ next.Silent barriers
  | _, .call _ _ _ resume => ∀ outcome barriers, (resume outcome).Silent barriers

def Waits : Behaviour ν → Prop
  | .call _ _ _ resume => ∀ outcome barriers, (resume outcome).Silent barriers
  | _ => True

theorem Silent.waits {behaviour : Behaviour ν} {barriers : List (Option ObjectRef)}
    (silent : behaviour.Silent barriers) : behaviour.Waits := by
  cases behaviour with
  | call id arguments slots resume => exact silent
  | _ => trivial

end Behaviour

namespace Service

variable {barriers : List (Option ObjectRef)}

theorem silent_give (slots : List ResultSlot) (value : Value) : (give slots value).Silent barriers := by
  unfold give
  split
  next => trivial
  next => split <;> trivial

theorem silent_say {line : String} {next : Behaviour Service} (silent : next.Silent barriers) :
    (say line next).Silent barriers := fun _ same => ⟨same, silent⟩

theorem silent_changeHeap {view : View Service} {slots : List ResultSlot} {heap : Except Fault Heap}
    {next : Behaviour Service} (same : view.world.barriers = barriers)
    (silent : next.Silent barriers) : (changeHeap view slots heap next).Silent barriers := by
  unfold changeHeap
  split
  next => exact ⟨same, silent⟩
  next => trivial

theorem silent_forward {arguments : List Value} {slots : List ResultSlot}
    {resume : Outcome → Behaviour Service}
    (silent : ∀ outcome barriers, (resume outcome).Silent barriers) :
    (forward arguments slots resume).Silent barriers := by
  unfold forward
  split
  next =>
    intro view same
    dsimp only
    split
    next => exact silent
    next => exact silent _ _
  next => exact silent
  next => exact silent _ _

theorem silent_reloadFrom {view : View Service} {slots : List ResultSlot} {source : String}
    (same : view.world.barriers = barriers) : (reloadFrom view slots source).Silent barriers := by
  unfold reloadFrom
  split
  next => trivial
  next => trivial
  next =>
    split
    next => trivial
    next => exact ⟨same, silent_give _ _⟩

/-- The services never touch the record of object stores. -/
theorem silent (service : Service) (arguments : List Value) (slots : List ResultSlot) :
    (service.behaviour arguments slots).Silent barriers := by
  cases service with
  | print | banks => exact silent_say trivial
  | add | sumFloats => exact silent_give _ _
  | echo =>
    unfold behaviour
    dsimp only
    split <;> trivial
  | echoUnchecked => trivial
  | invoke => exact silent_forward fun _ _ => trivial
  | attempt =>
    refine silent_forward fun outcome barriers => ?_
    split
    next => trivial
    next => exact silent_say trivial
  | throw =>
    unfold behaviour
    dsimp only
    split
    next => trivial
    next => split <;> trivial
  | collect | alloc => exact fun view same => ⟨same, silent_give _ _⟩
  | roots => exact fun view _ => silent_say trivial
  | depth => exact fun view _ => silent_give _ _
  | reload => exact fun view same => silent_reloadFrom same
  | newObject =>
    intro view same
    dsimp only
    split
    next =>
      split
      next => exact ⟨same, silent_give _ _⟩
      next => trivial
    next => trivial
  | free =>
    intro view same
    dsimp only
    split
    next => exact silent_changeHeap same trivial
    next => trivial
  | double =>
    intro view same
    dsimp only
    split
    next =>
      split
      next => exact silent_changeHeap same trivial
      next => trivial
      next => trivial
    next => trivial

end Service

namespace Machine

variable {natives : Natives ν} {machine next : Machine ν}

/-- What the object store that completes in the next step stores, if one does. -/
def notice? (machine : Machine ν) : Option (Option ObjectRef) :=
  match machine.completed, machine.stack with
  | none, .script frame :: _ =>
    match Action.advance machine.setting ⟨frame, machine.world⟩ with
    | .ok _ _ => frame.objectStored?
    | .error _ _ => none
  | _, _ => none

def objectStores (natives : Natives ν) : Nat → Machine ν → List (Option ObjectRef)
  | 0, _ => []
  | fuel + 1, machine =>
    match machine.step natives with
    | some next => objectStores natives fuel next ++ machine.notice?.toList
    | none => []

def AllWait (stack : List (Activation ν)) : Prop :=
  ∀ call, .native call ∈ stack → call.behaviour.Waits

theorem AllWait.suffix {stack rest : List (Activation ν)} (all : AllWait stack)
    (left : rest <:+ stack) : AllWait rest :=
  fun call member => all call (left.mem member)

theorem allWait_script {frame : Frame} {below : List (Activation ν)} (all : AllWait below) :
    AllWait (.script frame :: below) := by
  intro call member
  obtain ⟨⟨⟩⟩ | later := List.mem_cons.1 member
  exact all call later

theorem allWait_native {call : NativeCall ν} {below : List (Activation ν)}
    (waits : call.behaviour.Waits) (all : AllWait below) : AllWait (.native call :: below) := by
  intro other member
  obtain ⟨⟨⟩⟩ | later := List.mem_cons.1 member
  · exact waits
  · exact all other later

structure Muted (machine : Machine ν) : Prop where
  waiting : AllWait machine.stack
  running : machine.completed = none → ∀ call below, machine.stack = .native call :: below →
    call.behaviour.Silent machine.world.barriers

theorem muted_of_completed {outcome : Outcome} (ended : machine.completed = some outcome)
    (all : AllWait machine.stack) : Muted machine :=
  ⟨all, fun idle => nomatch ended.symm.trans idle⟩

theorem muted_of_script {frame : Frame} {below : List (Activation ν)}
    (top : machine.stack = .script frame :: below) (all : AllWait below) : Muted machine := by
  refine ⟨top ▸ allWait_script all, fun _ call rest native => ?_⟩
  cases top.symm.trans native

theorem muted_of_native {call : NativeCall ν} {below : List (Activation ν)}
    (top : machine.stack = .native call :: below)
    (silent : call.behaviour.Silent machine.world.barriers) (all : AllWait below) :
    Muted machine := by
  refine ⟨top ▸ allWait_native silent.waits all, fun _ other rest native => ?_⟩
  cases top.symm.trans native
  exact silent

theorem muted_unwind {abort : Abort} {frame : Frame} {below : List (Activation ν)}
    (top : machine.stack = .script frame :: below) (all : AllWait below) :
    Muted (machine.unwind abort) := by
  refine muted_of_completed rfl ?_
  rw [unwind_stack, top]
  exact all.suffix (unwound_script_suffix frame below)

theorem muted_resumeFrame {frame : Frame} {below : List (Activation ν)} {pending : PendingCall}
    {result : Except Abort (List ResultSlot)} (all : AllWait below) :
    Muted (machine.resumeFrame frame below pending result) ∧
      (machine.resumeFrame frame below pending result).world.barriers = machine.world.barriers := by
  obtain ⟨_, _, -, -, -, same⟩ | ⟨_, _, -, same⟩ :=
    resumeFrame_cases machine frame below pending result
  · rw [same]
    exact ⟨muted_of_script rfl all, rfl⟩
  · rw [same]
    exact ⟨muted_unwind rfl all, rfl⟩

section Run

variable (silent : ∀ function arguments slots barriers,
  (natives function arguments slots).Silent barriers)
include silent

theorem muted_enter {id : FunctionId} {arguments : List Value} {slots : List ResultSlot}
    (all : AllWait machine.stack) :
    Muted (machine.enter natives id arguments slots) ∧
      (machine.enter natives id arguments slots).world.barriers = machine.world.barriers := by
  obtain ⟨_, same⟩ | ⟨_, _, same⟩ | ⟨_, _, _, -, same⟩ :=
    enter_cases machine natives id arguments slots
  · rw [same]
    exact ⟨muted_of_completed rfl all, rfl⟩
  · rw [same]
    exact ⟨muted_of_native rfl (silent _ _ _ _) all, rfl⟩
  · rw [same]
    exact ⟨muted_of_script rfl all, rfl⟩

/-- A step adds what the object store stores that completes in it, if one does. -/
theorem step_barriers (muted : Muted machine) (stepped : machine.step natives = some next) :
    Muted next ∧ next.world.barriers = machine.notice?.toList ++ machine.world.barriers := by
  have waiting {top : Activation ν} {below : List (Activation ν)}
      (stack : machine.stack = top :: below) : AllWait below :=
    muted.waiting.suffix (stack ▸ List.suffix_cons top below)
  have done {frame : Frame} {below : List (Activation ν)} {following : Next ν} {state : Local}
      (idle : machine.completed = none) (top : machine.stack = .script frame :: below)
      (advanced : Action.advance machine.setting ⟨frame, machine.world⟩ = .ok following state) :
      state.world.barriers = machine.notice?.toList ++ machine.world.barriers := by
    simp only [notice?, idle, top, advanced]
    exact Action.advance_barriers advanced
  have native {call : NativeCall ν} {below : List (Activation ν)}
      (top : machine.stack = .native call :: below) : machine.notice? = none := by
    cases ended : machine.completed <;> simp only [notice?, ended, top]
  cases step_transition stepped with
  | proceeded idle top advanced =>
    exact ⟨muted_of_script rfl (waiting top), done idle top advanced⟩
  | aborted idle top advanced =>
    refine ⟨muted_unwind rfl (waiting top), ?_⟩
    simp only [notice?, idle, top, advanced]
    exact Action.advance_barriers_error advanced
  | returnedToHost idle top advanced host =>
    exact ⟨muted_of_completed rfl (waiting top), done idle top advanced⟩
  | returnedToFrame idle top advanced host waits =>
    obtain ⟨resumed, same⟩ := muted_resumeFrame ((waiting top).suffix (List.suffix_cons _ _))
    exact ⟨resumed, same.trans (done idle top advanced)⟩
  | calledNative idle top advanced callee =>
    exact ⟨muted_of_native rfl (silent _ _ _ _) (allWait_script (waiting top)),
      done idle top advanced⟩
  | calledScript idle top advanced script entered =>
    exact ⟨muted_of_script rfl (allWait_script (waiting top)), done idle top advanced⟩
  | refusedScript idle top advanced script refused =>
    exact ⟨muted_unwind rfl (waiting top), done idle top advanced⟩
  | finishedToHost idle top =>
    rw [native top]
    exact ⟨muted_of_completed rfl (waiting top), rfl⟩
  | finishedToFrame idle top =>
    rw [native top]
    exact muted_resumeFrame ((waiting top).suffix (List.suffix_cons _ _))
  | looked idle top =>
    rw [native top]
    exact ⟨muted_of_native rfl (muted.running idle _ _ top _ rfl) (waiting top), rfl⟩
  | changed idle top =>
    rw [native top]
    obtain ⟨same, rest⟩ := muted.running idle _ _ top
    refine ⟨muted_of_native rfl ?_ (waiting top), same⟩
    rw [← same] at rest
    exact rest
  | entered idle top =>
    rw [native top]
    exact muted_enter silent muted.waiting
  | took ended top =>
    rw [native top]
    have waits := muted.waiting _ (top ▸ List.mem_cons_self)
    exact ⟨muted_of_native rfl (waits _ _) (waiting top), rfl⟩
  | orphanedFrame idle top advanced host alone =>
    refine ⟨muted_of_completed rfl ?_, done idle top advanced⟩
    rw [unwind_stack]
    exact (waiting top).suffix (unwound_suffix _)
  | orphanedNative idle top alone =>
    rw [native top]
    refine ⟨muted_of_completed rfl ?_, rfl⟩
    rw [unwind_stack]
    exact (waiting top).suffix (unwound_suffix _)

theorem run_barriers (muted : Muted machine) (fuel : Nat) :
    (run natives fuel machine).world.barriers =
      objectStores natives fuel machine ++ machine.world.barriers := by
  induction fuel generalizing machine with
  | zero => rfl
  | succ fuel ih =>
    rw [objectStores]
    cases stepped : machine.step natives with
    | none =>
      rw [run_stuck stepped]
      rfl
    | some next =>
      obtain ⟨later, added⟩ := step_barriers silent muted stepped
      rw [run_step stepped, ih later, added, List.append_assoc]

end Run

/-- In the next step a frame completes an object store: it writes the reference, and then the record of
the world that this makes gets one more entry. -/
inductive StoresObject (machine : Machine ν) : Option ObjectRef → Prop where
  | intro {frame below word offset value position heap}
      (idle : machine.completed = none) (top : machine.stack = .script frame :: below)
      (located : frame.routine.code[frame.pc]? = some word)
      (operation : frame.operationAt? frame.pc = some (.store .object offset))
      (held : frame.registers.get? .pointer word.b.toNat = some value)
      (object : value = .null ∨ ∃ ref, value = .object ref)
      (written : machine.world.heap.writePointer position value = .ok heap)
      (advanced : Action.advance machine.setting ⟨frame, machine.world⟩ =
        .ok .proceed ⟨{ frame with current := frame.pc, pc := frame.pc + 1 },
          { machine.world with heap }.notify value.object?⟩) :
      StoresObject machine value.object?

theorem notice?_eq_some_iff {stored : Option ObjectRef} :
    machine.notice? = some stored ↔ machine.StoresObject stored := by
  constructor
  · intro noticed
    unfold notice? at noticed
    split at noticed
    next frame below idle top =>
      split at noticed
      next following state advanced =>
        obtain ⟨word, located, decoded⟩ := Option.bind_eq_some_iff.1 noticed
        obtain ⟨instruction, opcode, stores⟩ := Option.bind_eq_some_iff.1 decoded
        unfold Action.objectStored? at stores
        split at stores
        next operation offset object =>
          have completes := advanced
          rw [Action.advance_of_word machine.setting located opcode] at advanced
          have found := Frame.operationAt?_of_word located opcode
          simp only [Action.perform, object] at advanced found
          obtain ⟨_, _, made, ⟨⟩⟩ := Action.bind_eq_ok.1 advanced
          obtain ⟨value, position, heap, held, reference, -, written, rfl⟩ :=
            Action.storeObject_eq_ok made
          have same : frame.registers.get? .pointer word.b.toNat = some value := held
          rw [same] at stores
          cases stores
          exact .intro idle top located found same reference written completes
        next => cases stores
      next => cases noticed
    next => cases noticed
  · rintro ⟨idle, top, located, operation, held, object, written, advanced⟩
    simp only [notice?, idle, top, advanced]
    obtain ⟨word, found, decoded⟩ := Option.bind_eq_some_iff.1 operation
    obtain ⟨instruction, opcode, stores⟩ := Option.map_eq_some_iff.1 decoded
    cases located.symm.trans found
    simp only [Frame.objectStored?, located, opcode, Option.bind_some, Action.objectStored?, stores,
      held, Option.map_some]

theorem endCall_barriers (machine : Machine ν) (running : Nat) (outcome : Outcome) :
    (machine.endCall running outcome).world.barriers = machine.world.barriers := by
  unfold endCall
  split
  next =>
    dsimp only
    split <;> rfl
  next => rfl

/-- In every run whose native functions leave the record of object stores alone, the record grows by
one entry for every object store that completes, which is made after the store and says what was
stored; no other instruction adds to it, nor does one that aborts. -/
theorem barriers_account_for_object_stores (natives : Natives ν)
    (silent : ∀ function arguments slots barriers,
      (natives function arguments slots).Silent barriers)
    (machine : Machine ν)
    (running : ∀ call, .native call ∈ machine.stack → ∀ barriers, call.behaviour.Silent barriers) :
    (∀ fuel, (run natives fuel machine).world.barriers =
      objectStores natives fuel machine ++ machine.world.barriers) ∧
    (∀ fuel id arguments slots outcome after,
      machine.call natives fuel id arguments slots = some (outcome, after) →
      after.world.barriers =
        objectStores natives fuel (machine.enter natives id arguments slots) ++
          machine.world.barriers) ∧
    ∀ now stored, (run natives now machine).notice? = some stored ↔
      (run natives now machine).StoresObject stored := by
  have all : AllWait machine.stack := fun call member => (running call member []).waits
  refine ⟨fun fuel => ?_, fun fuel id arguments slots outcome after called => ?_,
    fun now stored => notice?_eq_some_iff⟩
  · refine run_barriers silent ⟨all, fun _ call below top => ?_⟩ fuel
    exact running call (top ▸ List.mem_cons_self) _
  · obtain ⟨muted, same⟩ := muted_enter silent all
    rw [← same, ← run_barriers silent muted fuel]
    simp only [Machine.call] at called
    split at called
    next =>
      cases called
      exact endCall_barriers _ _ _
    next => cases called

/-- Stores an object, calls a native function, stores null, and fails to store at a null base. -/
def storingObjects : String :=
  ".func Main\nSO a0, a1, 0\nCALL_K @Print, 0, 0\nSO a0, a2, 8\nSO a2, a1, 0\n.end\n"

def withBlock (main : LinkedRoutine) : Machine Service where
  config := .standard
  library := ⟨#[.native "Print" .print, .script main]⟩
  world := { World.empty with heap := (Heap.empty.alloc 16).2 }
  stack := []
  completed := none

def blockAndObject : List Value :=
  [.pointer (.address ⟨⟨⟨0, 0⟩⟩, 0⟩), .pointer (.object ⟨⟨0, 0⟩⟩)]

theorem barriers_account_for_object_stores_failing :
    ∃ main outcome after, LinkedRoutine.ofSource? storingObjects = some main ∧
      (withBlock main).call Service.behaviour 9 ⟨1⟩ blockAndObject [] = some (outcome, after) ∧
      outcome.result = .error ⟨.writeNil, none, [.script "Main" "" (some 5)]⟩ ∧
      after.world.barriers = [none, some ⟨⟨0, 0⟩⟩] := by
  have evaluated : ∃ main ∈ LinkedRoutine.ofSource? storingObjects,
      ((withBlock main).call Service.behaviour 9 ⟨1⟩ blockAndObject []).map
          (fun ended => ended.1.result) =
        some (.error ⟨.writeNil, none, [.script "Main" "" (some 5)]⟩) ∧
      objectStores Service.behaviour 9
          ((withBlock main).enter Service.behaviour ⟨1⟩ blockAndObject []) =
        [none, some ⟨⟨0, 0⟩⟩] := by
    decide +kernel
  obtain ⟨main, found, ended, stores⟩ := evaluated
  obtain ⟨⟨outcome, after⟩, called, failed⟩ := Option.map_eq_some_iff.1 ended
  refine ⟨main, outcome, after, found, called, failed, ?_⟩
  obtain ⟨-, accounted, -⟩ := barriers_account_for_object_stores Service.behaviour
    (fun service arguments slots _ => service.silent arguments slots) (withBlock main)
    (fun call member => by cases member)
  rw [accounted _ _ _ _ _ _ called, stores]
  rfl

end Machine
end GameScript
