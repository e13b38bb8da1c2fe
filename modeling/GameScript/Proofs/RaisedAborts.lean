import GameScript.Proofs.InstructionAborts
import GameScript.Proofs.StackDiscipline

/-! Where aborts arise and how they travel. A step raises an abort when an instruction fails, when a
call is refused, when the results of a call do not fit and when a native function gives up. On its way
to the caller outside of scripts, the abort notes each function that it leaves. -/

namespace GameScript

def Activation.site : Activation ν → Site
  | .script frame => frame.site
  | .native call => .native call.name

namespace Abort

def passing (abort : Abort) (sites : List Site) : Abort :=
  { abort with trail := abort.trail ++ sites }

@[simp] theorem passing_nil (abort : Abort) : abort.passing [] = abort := by
  simp [passing]

@[simp] theorem passing_passing (abort : Abort) (first second : List Site) :
    (abort.passing first).passing second = abort.passing (first ++ second) := by
  simp [passing]

/-- The abort as it was before it left any function. -/
def bare (abort : Abort) : Abort := { abort with trail := [] }

theorem bare_of_trail {abort : Abort} (fresh : abort.trail = []) : abort.bare = abort := by
  rw [bare, ← fresh]

@[simp] theorem bare_passing (abort : Abort) (sites : List Site) :
    (abort.passing sites).bare = abort.bare := rfl

@[simp] theorem trail_passing (abort : Abort) (sites : List Site) :
    (abort.passing sites).trail = abort.trail ++ sites := rfl

theorem leaving_eq (abort : Abort) (site : Site) : abort.leaving site = abort.passing [site] := rfl

end Abort

/-- A check that never fails for want of a constant or by leaving the code. -/
def Provided (result : Except Fault α) : Prop := FailsOnly (fun fault => fault.plain = true) result

theorem FailsOnly.provided {result : Except Fault α} (ordinary : FailsOnly Fault.Ordinary result) :
    Provided result :=
  fun fault failed => (ordinary fault failed).plain

theorem Banks.provided_put (registers : Banks) (index : Nat) (value : Value) :
    Provided (registers.put index value) := by
  intro fault failed
  unfold put setRegister at failed
  split at failed
  next => cases failed
  next =>
    cases failed
    rfl

theorem provided_place {function : String} {registers : Banks} {earlier arguments : List Value} :
    Provided (Frame.place function registers earlier arguments) := by
  induction arguments generalizing registers earlier with
  | nil => exact failsOnly_ok _
  | cons value rest ih =>
    unfold Frame.place
    dsimp only
    split
    next => exact failsOnly_bind (registers.provided_put _ _) fun _ => ih
    next => exact failsOnly_error rfl

theorem Frame.plain_of_enter {routine : LinkedRoutine} {arguments : List Value} {results : List Bank}
    {host : Option (List ResultSlot)} {heap left : Heap} {fault : Fault}
    (refused : Frame.enter routine arguments results host heap = .error (fault, left)) :
    fault.plain = true := provided_place fault (enter_eq_error_iff.1 refused).1

theorem provided_deliver {registers : Banks} {position : Nat} {targets : List ResultTarget}
    {slots : List ResultSlot} : Provided (deliver registers position targets slots) := by
  fun_induction deliver registers position targets slots with
  | case1 registers position target targets slot slots empty ih => exact ih
  | case2 registers position target targets slot slots value full bank ih =>
    exact failsOnly_bind (registers.provided_put _ _) ih
  | case3 => exact failsOnly_error rfl
  | case4 => exact failsOnly_ok _

theorem provided_restore {registers : Banks} {heap : Heap} {writebacks : List Writeback} {fault : Fault}
    (failed : (restore registers heap writebacks).fault = some fault) : fault.plain = true := by
  have steps : ∀ state : Restored, (∀ fault, state.fault = some fault → fault.plain = true) →
      ∀ fault, (writebacks.foldl Restored.step state).fault = some fault → fault.plain = true := by
    clear failed
    induction writebacks with
    | nil => exact fun state known => known
    | cons writeback rest ih =>
      intro state known
      refine ih _ (Restored.step_fails known ?_ (state.heap.ordinary_free _).provided)
      exact failsOnly_bind (Heap.ordinary_unbox _ _ _).provided fun _ =>
        state.registers.provided_put _ _
  exact steps ⟨registers, heap, none⟩ (fun fault found => by cases found) fault failed

theorem Frame.plain_of_misses? {frame : Frame} {heap : Heap} {pending : PendingCall}
    {slots : List ResultSlot} {fault : Fault}
    (missed : frame.misses? heap pending slots = some fault) : fault.plain = true := by
  unfold misses? at missed
  split at missed
  next => exact provided_restore missed
  next failed =>
    cases missed
    exact provided_deliver fault failed

namespace Machine

/-- The next step raises an abort while certain functions are running, innermost first. -/
inductive Raises (natives : Natives ν) (machine : Machine ν) : Abort → List (Activation ν) → Prop where
  /-- An instruction fails. -/
  | instruction {frame below state abort}
      (idle : machine.completed = none) (top : machine.stack = .script frame :: below)
      (failed : Action.advance machine.setting ⟨frame, machine.world⟩ = .error abort state) :
      Raises natives machine abort (.script state.frame :: below)
  /-- The routine that an instruction calls does not take the arguments. -/
  | entry {frame below state request routine fault}
      (idle : machine.completed = none) (top : machine.stack = .script frame :: below)
      (called : Action.advance machine.setting ⟨frame, machine.world⟩ = .ok (.call request) state)
      (script : request.callee = .script routine)
      (refused : Frame.enter routine request.arguments
        (request.pending.targets.map ResultTarget.bank) none state.world.heap =
          .error (fault, state.world.heap)) :
      Raises natives machine (.ofFault fault) (.script state.frame :: below)
  /-- A routine has returned, and its caller cannot take what it gives back. -/
  | results {frame caller below state pending fault}
      (idle : machine.completed = none)
      (top : machine.stack = .script frame :: .script caller :: below)
      (returned : Action.advance machine.setting ⟨frame, machine.world⟩ = .ok .finish state)
      (host : state.frame.host = none) (waiting : caller.pending = some pending)
      (missed : caller.misses? (state.frame.release state.world.heap) pending state.frame.results =
        some fault) :
      Raises natives machine (.ofFault fault) (.script caller :: below)
  /-- The same after a native function. -/
  | nativeResults {name outcome count pending frame below fault}
      (idle : machine.completed = none)
      (top : machine.stack =
        .native ⟨name, .finish outcome, some pending⟩ :: .script frame :: below)
      (returned : outcome.result = .ok count)
      (missed : frame.misses? machine.world.heap pending outcome.slots = some fault) :
      Raises natives machine (.ofFault fault) (.script frame :: below)
  /-- A native function gives up. -/
  | native {name outcome caller abort below}
      (idle : machine.completed = none)
      (top : machine.stack = .native ⟨name, .finish outcome, caller⟩ :: below)
      (failed : outcome.result = .error abort) (fresh : abort.trail = []) :
      Raises natives machine abort machine.stack
  /-- The function that a native function calls is not entered. -/
  | refused {name id arguments slots resume caller below abort}
      (idle : machine.completed = none)
      (top : machine.stack = .native ⟨name, .call id arguments slots resume, caller⟩ :: below)
      (refused : machine.enter natives id arguments slots =
        machine.complete (.error abort) slots) :
      Raises natives machine abort machine.stack

/-- In the next step an abort leaves the innermost of certain functions: the step raises it, or a
native function that is one of them hands it on. -/
inductive Sends (natives : Natives ν) (machine : Machine ν) : Abort → List (Activation ν) → Prop where
  | raised {abort live} (raises : Raises natives machine abort live) :
      Sends natives machine abort live
  | relayed {name outcome caller abort below}
      (idle : machine.completed = none)
      (top : machine.stack = .native ⟨name, .finish outcome, caller⟩ :: below)
      (failed : outcome.result = .error abort) : Sends natives machine abort machine.stack

def GivesUp (machine : Machine ν) (abort : Abort) : Prop :=
  ∃ name outcome caller below,
    machine.stack = .native ⟨name, .finish outcome, caller⟩ :: below ∧ outcome.result = .error abort

variable {machine next : Machine ν} {natives : Natives ν} {base live : List (Activation ν)}
  {abort : Abort} {allowed : Abort → Prop}

theorem trail_of_advance {setting : Setting ν} {state after : Local}
    (failed : Action.advance setting state = .error abort after) : abort.trail = [] := by
  have allows : Allows fun abort => abort.trail = [] :=
    ⟨fun _ => rfl, fun _ _ _ => rfl, fun _ _ => rfl⟩
  refine Action.allowed_of_advance allows (fun _ _ => rfl) (fun word instruction _ _ => ?_)
    (fun _ _ _ _ _ _ => rfl) failed
  exact .of_missing (fun _ _ _ => rfl) (fun _ _ _ => rfl) fun _ _ _ => rfl

theorem refused_of_enter {id : FunctionId} {arguments : List Value} {slots : List ResultSlot}
    (refused : machine.enter natives id arguments slots = machine.complete (.error abort) slots) :
    abort = .withDetail .other "call stack overflow" ∨ ∃ fault, abort = .ofFault fault ∧
      (machine.library.get id = .error fault ∨ ∃ routine left, Frame.enter routine arguments
        (slots.map ResultSlot.bank) (some slots) machine.world.heap = .error (fault, left)) := by
  have same {other : Abort} {world : World}
      (both : { machine with world }.complete (.error other) slots =
        machine.complete (.error abort) slots) : abort = other := by
    have outcome := Option.some.inj (congrArg Machine.completed both)
    exact (Except.error.inj (congrArg Outcome.result outcome)).symm
  have grown {activation : Activation ν} {world : World}
      (both : { machine with stack := activation :: machine.stack, world } =
        machine.complete (.error abort) slots) : False :=
    List.cons_ne_self _ _ (congrArg Machine.stack both)
  unfold enter at refused
  split at refused
  next => exact .inl (same refused)
  next =>
    split at refused
    next missing => exact .inr ⟨_, same refused, .inl missing⟩
    next => exact (grown refused).elim
    next =>
      split at refused
      next full => exact .inr ⟨_, same refused, .inr ⟨_, _, full⟩⟩
      next => exact (grown refused).elim

theorem allowed_of_enter (allows : Allows allowed) {id : FunctionId} {arguments : List Value}
    {slots : List ResultSlot}
    (refused : machine.enter natives id arguments slots = machine.complete (.error abort) slots) :
    allowed abort := by
  obtain rfl | ⟨fault, rfl, missing | ⟨routine, left, full⟩⟩ := refused_of_enter refused
  · exact allows.detail _ _ (by decide)
  · exact allows.fault fault ((Library.ordinary_get _ _).provided fault missing)
  · exact allows.fault fault (Frame.plain_of_enter full)

/-- An abort that not every instruction may raise is up to the next instruction or to a native
function. -/
theorem Raises.origin (raises : Raises natives machine abort live) (allows : Allows allowed) :
    allowed abort ∨ machine.GivesUp abort ∨
      ∃ frame below after, machine.stack = .script frame :: below ∧
        Action.advance machine.setting ⟨frame, machine.world⟩ = .error abort after := by
  cases raises with
  | instruction idle top failed => exact .inr (.inr ⟨_, _, _, top, failed⟩)
  | entry idle top called script refused => exact .inl (allows.fault _ (Frame.plain_of_enter refused))
  | results idle top returned host waiting missed =>
    exact .inl (allows.fault _ (Frame.plain_of_misses? missed))
  | nativeResults idle top returned missed =>
    exact .inl (allows.fault _ (Frame.plain_of_misses? missed))
  | native idle top failed fresh => exact .inr (.inl ⟨_, _, _, _, top, failed⟩)
  | refused idle top refused => exact .inl (allowed_of_enter allows refused)

theorem trail_of_enter {id : FunctionId} {arguments : List Value} {slots : List ResultSlot}
    (refused : machine.enter natives id arguments slots = machine.complete (.error abort) slots) :
    abort.trail = [] := by
  obtain rfl | ⟨fault, rfl, -⟩ := refused_of_enter refused <;> rfl

/-- What is raised has not left any function yet. -/
theorem Raises.trail (raises : Raises natives machine abort live) : abort.trail = [] := by
  cases raises with
  | instruction idle top failed => exact trail_of_advance failed
  | entry | results | nativeResults => rfl
  | native idle top failed fresh => exact fresh
  | refused idle top refused => exact trail_of_enter refused

/-- The frames that an abort takes off the stack are those that it notes. -/
theorem unwind_outcome (machine : Machine ν) (abort : Abort) :
    ∃ gone slots, machine.stack.map Activation.site =
        gone ++ (machine.unwind abort).stack.map Activation.site ∧
      (machine.unwind abort).completed = some ⟨.error (abort.passing gone), slots⟩ := by
  rw [unwind_stack]
  have taken : ∀ (stack : List (Activation ν)) (abort : Abort) (heap : Heap), ∃ gone slots,
      stack.map Activation.site = gone ++ (unwound stack).map Activation.site ∧
        (unwindStack abort heap stack).2.2 = ⟨.error (abort.passing gone), slots⟩ := by
    -- The abort grows on the way, so the induction is for every abort.
    intro stack
    induction stack with
    | nil => exact fun abort heap => ⟨[], [], rfl, by simp [unwindStack]⟩
    | cons activation below ih =>
      intro abort heap
      cases activation with
      | native call => exact ⟨[], [], rfl, by simp [unwindStack]⟩
      | script frame =>
        unfold unwindStack unwound
        cases host : frame.host with
        | some slots => exact ⟨[frame.site], slots, rfl, rfl⟩
        | none =>
          obtain ⟨gone, slots, split, outcome⟩ :=
            ih (abort.leaving frame.site) (frame.release heap)
          refine ⟨frame.site :: gone, slots, congrArg (frame.site :: ·) split, ?_⟩
          rw [Abort.leaving_eq, Abort.passing_passing] at outcome
          exact outcome
  obtain ⟨gone, slots, split, outcome⟩ := taken machine.stack abort machine.world.heap
  exact ⟨gone, slots, split, congrArg some outcome⟩

theorem resumeFrame_outcome {frame : Frame} {below : List (Activation ν)} {pending : PendingCall}
    {result : Except Abort (List ResultSlot)} {outcome : Outcome}
    (ended : (machine.resumeFrame frame below pending result).completed = some outcome)
    (idle : machine.completed = none) :
    ∃ origin gone slots, outcome = ⟨.error (origin.passing gone), slots⟩ ∧
      (.script frame :: below : List (Activation ν)).map Activation.site =
        gone ++ (machine.resumeFrame frame below pending result).stack.map Activation.site ∧
      (result = .error origin ∨ ∃ slots fault, result = .ok slots ∧ origin = .ofFault fault ∧
        frame.misses? machine.world.heap pending slots = some fault) := by
  obtain ⟨_, _, -, -, -, same⟩ | ⟨origin, start, cause, same⟩ :=
    resumeFrame_cases machine frame below pending result
  · rw [same] at ended
    cases idle.symm.trans ended
  · rw [same] at ended ⊢
    obtain ⟨gone, slots, split, noted⟩ := unwind_outcome _ origin
    exact ⟨origin, gone, slots, Option.some.inj (ended.symm.trans noted), split, cause⟩

/-- A call that ends with an abort in a step has been sent it, and the abort has noted the functions
that it took off the stack. -/
theorem step_sends (disciplined : Disciplined base machine)
    (stepped : machine.step natives = some next) {outcome : Outcome}
    (ended : next.completed = some outcome) (failed : outcome.result = .error abort) :
    ∃ origin live gone, Sends natives machine origin live ∧
      live.map Activation.site = gone ++ next.stack.map Activation.site ∧
      abort = origin.passing gone := by
  have nested : machine.completed = none → Nested base machine.stack := by
    intro idle
    rwa [Disciplined, idle] at disciplined
  have unwinds {start : Machine ν} {origin : Abort} {live : List (Activation ν)}
      (ended : (start.unwind origin).completed = some outcome)
      (raises : Raises natives machine origin live)
      (same : start.stack.map Activation.site = live.map Activation.site) :
      ∃ first live gone, Sends natives machine first live ∧
        live.map Activation.site = gone ++ (start.unwind origin).stack.map Activation.site ∧
        abort = first.passing gone := by
    obtain ⟨gone, slots, split, noted⟩ := unwind_outcome start origin
    cases ended.symm.trans noted
    exact ⟨origin, live, gone, .raised raises, same.symm.trans split, (Except.error.inj failed).symm⟩
  cases step_transition stepped with
  | proceeded idle | calledNative idle | calledScript idle | looked idle | changed idle =>
    cases idle.symm.trans ended
  | aborted idle top advanced => exact unwinds ended (.instruction idle top advanced) rfl
  | returnedToHost idle top advanced host =>
    cases ended
    cases failed
  | returnedToFrame idle top advanced host waiting =>
    obtain ⟨origin, gone, slots, rfl, split, ⟨⟨⟩⟩ | ⟨_, fault, ⟨⟩, rfl, missed⟩⟩ :=
      resumeFrame_outcome ended idle
    exact ⟨_, _, gone, .raised (.results idle top advanced host waiting missed), split,
      (Except.error.inj failed).symm⟩
  | refusedScript idle top advanced script refused =>
    exact unwinds ended (.entry idle top advanced script refused) rfl
  | @finishedToHost name given below idle top =>
    cases ended
    cases result : given.result with
    | ok count =>
      rw [result] at failed
      cases failed
    | error origin =>
      rw [result] at failed
      refine ⟨origin, machine.stack, [.native name], .relayed idle top result, ?_,
        (Except.error.inj failed).symm⟩
      rw [top]
      rfl
  | @finishedToFrame name given pending frame below idle top =>
    obtain ⟨origin, gone, slots, rfl, split, cause⟩ := resumeFrame_outcome ended idle
    have noted := (Except.error.inj failed).symm
    cases result : given.result with
    | ok count =>
      rw [result] at split cause
      obtain ⟨⟨⟩⟩ | ⟨_, fault, ⟨⟩, rfl, missed⟩ := cause
      exact ⟨_, _, gone, .raised (.nativeResults idle top result missed), split, noted⟩
    | error inner =>
      rw [result] at split cause
      obtain ⟨⟨⟩⟩ | ⟨_, _, ⟨⟩, -⟩ := cause
      refine ⟨inner, machine.stack, .native name :: gone, .relayed idle top result, ?_, ?_⟩
      · rw [top]
        exact congrArg (Site.native name :: ·) split
      · rw [noted]
        exact Abort.passing_passing inner [.native name] gone
  | @entered name id arguments slots resume caller below idle top =>
    obtain ⟨origin, refused⟩ | ⟨_, _, same⟩ | ⟨_, _, _, -, same⟩ :=
      enter_cases machine natives id arguments slots
    · rw [refused] at ended ⊢
      cases ended
      refine ⟨origin, machine.stack, [], .raised (.refused idle top refused), rfl, ?_⟩
      rw [Abort.passing_nil]
      exact (Except.error.inj failed).symm
    · rw [same] at ended
      cases idle.symm.trans ended
    · rw [same] at ended
      cases idle.symm.trans ended
  | took => cases ended
  | orphanedFrame idle top advanced host alone =>
    have same := Action.advance_sameActivation advanced
    obtain ⟨caller, pending, rest, below, waiting, -⟩ :=
      (top ▸ nested idle).caller_of_script (same.host.symm.trans host)
    cases waiting.symm.trans (alone caller rest below)
  | orphanedNative idle top alone =>
    obtain ⟨frame, rest, below, -⟩ := (top ▸ nested idle).caller_of_native rfl
    exact absurd below (alone frame rest)

end Machine
end GameScript
