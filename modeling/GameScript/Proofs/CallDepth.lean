import GameScript.Proofs.AbortTrails

/-! How many functions run at once. A function begins only while fewer are running than the limit
allows, and a call at the limit aborts before anything is taken for it. Aborts take frames off the
stack and no native function, so a count that goes up when a native function begins and down when one
returns is at all times the number of those on the stack. -/

namespace GameScript

def Abort.overflow : Abort := .withDetail .other "call stack overflow"

def Setting.limited (setting : Setting ν) (limit : Nat) : Setting ν :=
  { setting with config := { setting.config with maxCallDepth := limit } }

namespace Action

variable {state after : Local}

theorem unstage_limit {running more taken : Nat} {params : List StagedParam}
    (unstaged : unstage running more taken state = .ok params after) (limit : Nat) :
    unstage running limit taken state =
      if limit ≤ running then .error .overflow state else .ok params after := by
  obtain ⟨enough, -, rfl, rfl⟩ := unstage_eq_ok unstaged
  simp only [unstage, bind_apply, frame_apply, if_neg (Nat.not_lt.2 enough)]
  split <;> rfl

/-- A call that one limit allows is the same call under every limit that allows it, and takes nothing
under one that does not. -/
theorem call_limit {library : Library ν} {running more : Nat} {w : Word} {target : Source}
    {request : CallRequest ν} (called : call library running more w target state = .ok request after)
    (limit : Nat) :
    call library running limit w target state =
      if limit ≤ running then
        .error .overflow { state with frame := { state.frame with pc := after.frame.pc } }
      else .ok request after := by
  have left := (call_eq_ok called).left
  obtain ⟨function, _, found, marked⟩ := bind_eq_ok.1 called
  cases callee_eq_ok found
  obtain ⟨_, _, ⟨⟩, marked⟩ := bind_eq_ok.1 marked
  obtain ⟨targets, _, read, moved⟩ := bind_eq_ok.1 marked
  cases (resultTargets_eq_ok read).1
  obtain ⟨_, _, ⟨⟩, moved⟩ := bind_eq_ok.1 moved
  obtain ⟨params, _, unstaged, done⟩ := bind_eq_ok.1 moved
  cases done
  have taken := unstage_limit unstaged limit
  by_cases full : limit ≤ running
  · rw [if_pos full] at taken ⊢
    simp only [call, bind_apply, found, frame_apply, read, setFrame_apply, taken, left]
  · rw [if_neg full] at taken ⊢
    simp only [call, bind_apply, found, frame_apply, read, setFrame_apply, taken, pure_apply]

/-- The same for the instruction as a whole: at the limit the frame has moved past it and its markers,
and nothing else has happened. -/
theorem advance_limit {setting : Setting ν} {more : Nat} {request : CallRequest ν}
    (called : advance (setting.limited more) state = .ok (.call request) after) :
    (setting.config.maxCallDepth ≤ setting.depth → advance setting state =
      .error .overflow { state with frame := { state.frame with
        current := state.frame.pc
        pc := after.frame.pc } }) ∧
    (setting.depth < setting.config.maxCallDepth →
      advance setting state = .ok (.call request) after) := by
  obtain ⟨word, instruction, target, located, opcode, operation, -⟩ := advance_call called
  rw [advance_of_word _ located opcode] at called ⊢
  simp only [perform, operation, Setting.limited] at called ⊢
  obtain ⟨_, _, done, ⟨⟩⟩ := bind_eq_ok.1 called
  have taken := call_limit done setting.config.maxCallDepth
  rw [bind_apply]
  constructor
  · intro full
    rw [taken, if_pos full]
    rfl
  · intro room
    rw [taken, if_neg (Nat.not_le.2 room)]
    rfl

end Action

namespace Machine

variable {natives : Natives ν} {machine next : Machine ν}

def nativeDepth (machine : Machine ν) : Nat := machine.stack.countP Activation.isNative

def scriptDepth (machine : Machine ν) : Nat := machine.stack.countP fun activation =>
  !activation.isNative

def returning (machine : Machine ν) : Bool :=
  match machine.completed, machine.stack with
  | none, .native ⟨_, .finish _, _⟩ :: _ => true
  | _, _ => false

def nativeChange (machine next : Machine ν) : Int :=
  if machine.returning then -1
  else if machine.depth < next.depth ∧ next.stack.head?.any Activation.isNative then 1
  else 0

/-- The count after as many steps as there are, up to `fuel`, from `count` on. -/
def nativeCount (natives : Natives ν) : Nat → Int → Machine ν → Int
  | 0, count, _ => count
  | fuel + 1, count, machine =>
    match machine.step natives with
    | some next => nativeCount natives fuel (count + nativeChange machine next) next
    | none => count

inductive Recounts (machine : Machine ν) : List (Activation ν) → Prop where
  | begins {activation below} (running : machine.returning = false)
      (room : machine.depth < machine.config.maxCallDepth) (depth : below.length = machine.depth)
      (natives : below.countP Activation.isNative = machine.nativeDepth) :
      Recounts machine (activation :: below)
  | returns {after} (running : machine.returning = true) (depth : after.length < machine.depth)
      (natives : after.countP Activation.isNative + 1 = machine.nativeDepth) : Recounts machine after
  | stays {after} (running : machine.returning = false) (depth : after.length ≤ machine.depth)
      (natives : after.countP Activation.isNative = machine.nativeDepth) : Recounts machine after

theorem scriptDepth_add_nativeDepth (machine : Machine ν) :
    machine.scriptDepth + machine.nativeDepth = machine.depth := by
  rw [depth, List.length_eq_countP_add_countP Activation.isNative, Nat.add_comm]
  simp [scriptDepth, nativeDepth]

/-- Aborts take frames off and no native function. -/
theorem countP_unwound (stack : List (Activation ν)) :
    (unwound stack).countP Activation.isNative = stack.countP Activation.isNative := by
  fun_induction unwound stack with
  | case1 frame below host => simp [Activation.isNative]
  | case2 frame below host ih => simp [Activation.isNative, ih]
  | case3 stack other => rfl

theorem countP_script (frame : Frame) (below : List (Activation ν)) :
    (.script frame :: below).countP Activation.isNative = below.countP Activation.isNative := by
  simp [Activation.isNative]

section

variable {frame : Frame} {call : NativeCall ν} {name : String} {outcome : Outcome}
  {caller : Option PendingCall} {below after : List (Activation ν)}

theorem recounts_script (top : machine.stack = .script frame :: below)
    (depth : after.length ≤ below.length + 1)
    (natives : after.countP Activation.isNative = below.countP Activation.isNative) :
    Recounts machine after := by
  refine .stays ?_ ?_ ?_
  · rw [returning, top]
    cases machine.completed <;> rfl
  · rwa [Machine.depth, top]
  · rw [natives, nativeDepth, top, countP_script]

theorem recounts_finish (idle : machine.completed = none)
    (top : machine.stack = .native ⟨name, .finish outcome, caller⟩ :: below)
    (depth : after.length ≤ below.length)
    (natives : after.countP Activation.isNative = below.countP Activation.isNative) :
    Recounts machine after := by
  refine .returns ?_ ?_ ?_
  · rw [returning, idle, top]
  · rw [Machine.depth, top]
    exact Nat.lt_succ_of_le depth
  · rw [natives, nativeDepth, top, List.countP_cons]
    rfl

theorem recounts_native {following : NativeCall ν} (running : machine.returning = false)
    (top : machine.stack = .native call :: below) :
    Recounts machine (.native following :: below) := by
  refine .stays running ?_ ?_
  · rw [depth, top]
    exact Nat.le_refl _
  · rw [nativeDepth, top, List.countP_cons, List.countP_cons]
    rfl

theorem unwound_script_counts (frame : Frame) (below : List (Activation ν)) :
    (unwound (.script frame :: below)).length ≤ below.length ∧
      (unwound (.script frame :: below)).countP Activation.isNative =
        below.countP Activation.isNative :=
  ⟨(unwound_script_suffix frame below).length_le, by rw [countP_unwound, countP_script]⟩

theorem resumeFrame_counts (machine : Machine ν) (frame : Frame) (below : List (Activation ν))
    (pending : PendingCall) (result : Except Abort (List ResultSlot)) :
    (machine.resumeFrame frame below pending result).stack.length ≤ below.length + 1 ∧
      (machine.resumeFrame frame below pending result).stack.countP Activation.isNative =
        below.countP Activation.isNative := by
  obtain ⟨_, _, -, -, -, same⟩ | ⟨_, _, -, same⟩ :=
    resumeFrame_cases machine frame below pending result
  · rw [same]
    exact ⟨Nat.le_refl _, countP_script _ _⟩
  · rw [same, unwind_stack]
    obtain ⟨fewer, natives⟩ := unwound_script_counts { frame with registers := _ } below
    exact ⟨Nat.le_succ_of_le fewer, natives⟩

end

/-- The limit is met before anything is looked up or entered. -/
theorem enter_at_limit {id : FunctionId} {arguments : List Value} {slots : List ResultSlot}
    (full : machine.config.maxCallDepth ≤ machine.depth) :
    machine.enter natives id arguments slots = machine.complete (.error .overflow) slots :=
  if_pos full

theorem enter_recounts (machine : Machine ν) (natives : Natives ν) (id : FunctionId)
    (arguments : List Value) (slots : List ResultSlot) (running : machine.returning = false) :
    Recounts machine (machine.enter natives id arguments slots).stack := by
  by_cases full : machine.config.maxCallDepth ≤ machine.depth
  · rw [enter_at_limit full]
    exact .stays running (Nat.le_refl _) rfl
  · have room := Nat.lt_of_not_le full
    obtain ⟨_, same⟩ | ⟨_, _, same⟩ | ⟨_, _, _, -, same⟩ :=
      enter_cases machine natives id arguments slots
    · rw [same]
      exact .stays running (Nat.le_refl _) rfl
    · rw [same]
      exact .begins running room rfl rfl
    · rw [same]
      exact .begins running room rfl rfl

theorem step_recounts (stepped : machine.step natives = some next) :
    Recounts machine next.stack := by
  have called {frame : Frame} {below : List (Activation ν)} {request : Action.CallRequest ν}
      {state : Local} (callee : Activation ν) (after : Frame)
      (top : machine.stack = .script frame :: below)
      (advanced : Action.advance machine.setting ⟨frame, machine.world⟩ = .ok (.call request) state) :
      Recounts machine (callee :: .script after :: below) := by
    obtain ⟨_, _, _, -, -, -, called⟩ := Action.advance_call advanced
    have room : machine.depth < machine.config.maxCallDepth := called.room
    refine .begins ?_ room ?_ ?_
    · rw [returning, top]
      cases machine.completed <;> rfl
    · rw [depth, top]
      rfl
    · rw [nativeDepth, top, countP_script, countP_script]
  cases step_transition stepped with
  | proceeded idle top advanced => exact recounts_script top (Nat.le_refl _) (countP_script _ _)
  | aborted idle top advanced | refusedScript idle top advanced script refused =>
    rw [unwind_stack]
    obtain ⟨fewer, natives⟩ := unwound_script_counts _ _
    exact recounts_script top (Nat.le_succ_of_le fewer) natives
  | returnedToHost idle top advanced host => exact recounts_script top (Nat.le_succ _) rfl
  | returnedToFrame idle top advanced host waiting =>
    obtain ⟨fewer, natives⟩ := resumeFrame_counts _ _ _ _ _
    exact recounts_script top (Nat.le_succ_of_le fewer) (natives.trans (countP_script _ _).symm)
  | calledNative idle top advanced callee => exact called _ _ top advanced
  | calledScript idle top advanced script entered => exact called _ _ top advanced
  | finishedToHost idle top => exact recounts_finish idle top (Nat.le_refl _) rfl
  | finishedToFrame idle top =>
    obtain ⟨fewer, natives⟩ := resumeFrame_counts _ _ _ _ _
    exact recounts_finish idle top fewer (natives.trans (countP_script _ _).symm)
  | looked idle top | changed idle top => exact recounts_native (by rw [returning, idle, top]) top
  | entered idle top => exact enter_recounts _ _ _ _ _ (by rw [returning, idle, top])
  | took ended top => exact recounts_native (by rw [returning, ended]) top
  | orphanedFrame idle top advanced host alone =>
    rw [unwind_stack]
    exact recounts_script top (Nat.le_succ_of_le (unwound_suffix _).length_le) (countP_unwound _)
  | orphanedNative idle top alone =>
    rw [unwind_stack]
    exact recounts_finish idle top (unwound_suffix _).length_le (countP_unwound _)

theorem Recounts.depth_le (recounts : Recounts machine next.stack)
    (bounded : machine.depth ≤ machine.config.maxCallDepth) :
    next.depth ≤ machine.config.maxCallDepth := by
  unfold depth at bounded ⊢
  generalize next.stack = after at recounts
  cases recounts with
  | begins running room depth natives =>
    rw [List.length_cons, depth]
    exact room
  | returns running depth natives => exact Nat.le_trans (Nat.le_of_lt depth) bounded
  | stays running depth natives => exact Nat.le_trans depth bounded

theorem Recounts.nativeDepth_eq (recounts : Recounts machine next.stack) :
    (next.nativeDepth : Int) = machine.nativeDepth + nativeChange machine next := by
  rw [nativeDepth, nativeChange, depth.eq_def next]
  generalize next.stack = after at recounts
  cases recounts with
  | @begins activation below running room depth natives =>
    rw [running, List.countP_cons, natives, List.length_cons, depth]
    cases isNative : activation.isNative <;> simp [isNative]
  | returns running depth natives =>
    rw [running, ← natives]
    simp
  | stays running depth natives =>
    rw [running, natives, if_neg (by simp), if_neg fun grown => Nat.not_lt.2 depth grown.1]
    simp

theorem step_config (stepped : machine.step natives = some next) : next.config = machine.config := by
  obtain same | ⟨_, _, _, _, _, _, -, same, -⟩ := step_sameHost stepped
  · exact same.config
  · exact same

theorem run_depth_le (natives : Natives ν) (bounded : machine.depth ≤ machine.config.maxCallDepth)
    (count : Nat) :
    (run natives count machine).config = machine.config ∧
      (run natives count machine).depth ≤ machine.config.maxCallDepth := by
  induction count generalizing machine with
  | zero => exact ⟨rfl, bounded⟩
  | succ count ih =>
    cases stepped : machine.step natives with
    | none =>
      rw [run_stuck stepped]
      exact ⟨rfl, bounded⟩
    | some next =>
      have same := step_config stepped
      have kept := (step_recounts stepped).depth_le bounded
      rw [← same] at kept ⊢
      rw [run_step stepped]
      exact ih kept

theorem nativeCount_eq (natives : Natives ν) (count : Nat) (machine : Machine ν) :
    nativeCount natives count machine.nativeDepth machine =
      (run natives count machine).nativeDepth := by
  induction count generalizing machine with
  | zero => rfl
  | succ count ih =>
    cases stepped : machine.step natives with
    | none => simp only [nativeCount, run, stepped]
    | some next =>
      simp only [nativeCount, run, stepped]
      rw [← (step_recounts stepped).nativeDepth_eq, ih]

/-- A call at the limit that would be made if there were room. -/
theorem step_at_limit {frame : Frame} {below : List (Activation ν)} {more : Nat}
    {request : Action.CallRequest ν} {called : Local} (idle : machine.completed = none)
    (top : machine.stack = .script frame :: below)
    (valid : Action.advance (machine.setting.limited more) ⟨frame, machine.world⟩ =
      .ok (.call request) called)
    (full : machine.config.maxCallDepth ≤ machine.depth) :
    machine.step natives = some (unwind { machine with
      stack := .script { frame with current := frame.pc, pc := called.frame.pc } :: below }
      .overflow) := by
  have failed := (Action.advance_limit valid).1 full
  simp only [step, stepOr, idle, top, stepFrame, failed]

/-- Whatever the routines and native functions do, no more functions run at once than the limit allows,
and a count of the native functions is never off. A frame that calls a function at the limit, in a call
that it would make if there were room, aborts with its parameters still staged; a native function that
does is told of the abort and nothing else happens. -/
theorem call_depth_bounded (natives : Natives ν) (machine : Machine ν) (bottom : machine.stack = [])
    (id : FunctionId) (arguments : List Value) (slots : List ResultSlot) :
    let limit := machine.config.maxCallDepth
    let start := machine.enter natives id arguments slots
    (limit = 0 → start = machine.complete (.error .overflow) slots) ∧
    ∀ count,
      let now := run natives count start
      now.config = machine.config ∧
      now.scriptDepth + now.nativeDepth ≤ limit ∧
      nativeCount natives count (nativeChange machine start) start = now.nativeDepth ∧
      (∀ frame below more request called, now.completed = none →
        now.stack = .script frame :: below →
        Action.advance (now.setting.limited more) ⟨frame, now.world⟩ = .ok (.call request) called →
        (now.depth < limit →
          Action.advance now.setting ⟨frame, now.world⟩ = .ok (.call request) called) ∧
        (limit ≤ now.depth → ∃ next gone slots,
          now.step natives = some next ∧
          next = unwind { now with
            stack := .script { frame with current := frame.pc, pc := called.frame.pc } :: below }
            .overflow ∧
          next.stack <:+ below ∧
          next.completed = some ⟨.error (Abort.overflow.passing gone), slots⟩)) ∧
      ∀ name id arguments slots resume caller below, now.completed = none →
        now.stack = .native ⟨name, .call id arguments slots resume, caller⟩ :: below →
        limit ≤ now.depth → now.step natives = some (now.complete (.error .overflow) slots) := by
  intro limit start
  have atBottom : machine.depth = 0 := by rw [depth, bottom, List.length_nil]
  have running : machine.returning = false := by
    rw [returning, bottom]
    cases machine.completed <;> rfl
  have begun : Recounts machine start.stack := enter_recounts machine natives id arguments slots running
  have sameConfig : start.config = machine.config :=
    (sameHost_enter machine natives id arguments slots).config
  have bounded : start.depth ≤ start.config.maxCallDepth := by
    rw [sameConfig]
    exact begun.depth_le (by rw [atBottom]; exact Nat.zero_le _)
  have first : (start.nativeDepth : Int) = nativeChange machine start := by
    rw [begun.nativeDepth_eq, nativeDepth, bottom]
    simp
  refine ⟨fun none => enter_at_limit (by rw [atBottom]; exact Nat.le_of_eq none), fun count => ?_⟩
  intro now
  obtain ⟨kept, within⟩ := run_depth_le natives bounded count
  have same : now.config = machine.config := kept.trans sameConfig
  have limited : now.config.maxCallDepth = limit := congrArg Config.maxCallDepth same
  refine ⟨same, ?_, ?_, ?_, ?_⟩
  · rw [scriptDepth_add_nativeDepth]
    rwa [sameConfig] at within
  · rw [← first]
    exact nativeCount_eq natives count start
  · intro frame below more request called idle top valid
    refine ⟨fun room => (Action.advance_limit valid).2 (limited ▸ room), fun full => ?_⟩
    obtain ⟨gone, slots, -, ended⟩ := unwind_outcome { now with
      stack := .script { frame with current := frame.pc, pc := called.frame.pc } :: below } .overflow
    refine ⟨_, gone, slots, step_at_limit idle top valid (limited ▸ full), rfl, ?_, ended⟩
    rw [unwind_stack]
    exact unwound_script_suffix _ below
  · intro name id arguments slots resume caller below idle top full
    simp only [step, stepOr, idle, top, stepNative]
    rw [enter_at_limit (limited ▸ full)]

def recursing : LinkedRoutine where
  name := "recursing"
  sourceFile := ""
  code := #[⟨0x0000005f⟩, ⟨0x00ff8062⟩]
  constants := ⟨#[], #[], #[], #[.function ⟨0⟩]⟩
  layout := ⟨0, 0, 0, 0, 0, 0⟩
  lines := .empty

def asking? (machine : Machine ν) (limit : Nat) : Option (Frame × Action.CallRequest ν × Local) :=
  match machine.stack with
  | .script frame :: _ =>
    match Action.advance (machine.setting.limited limit) ⟨frame, machine.world⟩ with
    | .ok (.call request) called => some (frame, request, called)
    | _ => none
  | _ => none

theorem asking?_eq_some {limit : Nat} {frame : Frame} {request : Action.CallRequest ν}
    {called : Local} (asks : machine.asking? limit = some (frame, request, called)) :
    ∃ below, machine.stack = .script frame :: below ∧
      Action.advance (machine.setting.limited limit) ⟨frame, machine.world⟩ =
        .ok (.call request) called := by
  unfold asking? at asks
  split at asks
  next below top =>
    split at asks
    next made =>
      cases asks
      exact ⟨below, top, made⟩
    next => cases asks
  next => cases asks

/-- With room for two functions the routine calls itself once. -/
theorem call_depth_bounded_recursing :
    let natives : Natives Unit := fun _ _ slots => .finish ⟨.ok 0, slots⟩
    let machine : Machine Unit :=
      ⟨{ Config.standard with maxCallDepth := 2 }, ⟨#[.script recursing]⟩, .empty, [], none⟩
    let now := run natives 1 (machine.enter natives ⟨0⟩ [] [])
    now.depth = 2 ∧ ∃ next gone slots, now.step natives = some next ∧ next.stack = [] ∧
      next.completed = some ⟨.error (Abort.overflow.passing gone), slots⟩ := by
  intro natives machine now
  have evaluated : now.depth = 2 ∧ now.completed.isNone ∧ (now.asking? 3).isSome ∧
      (now.step natives).map depth = some 0 := by
    decide +kernel
  obtain ⟨two, idle, asks, ends⟩ := evaluated
  obtain ⟨⟨frame, request, called⟩, asks⟩ := Option.isSome_iff_exists.1 asks
  obtain ⟨below, top, made⟩ := asking?_eq_some asks
  obtain ⟨-, bounded⟩ := call_depth_bounded natives machine rfl ⟨0⟩ [] []
  obtain ⟨-, -, -, refused, -⟩ := bounded 1
  obtain ⟨next, gone, slots, stepped, -, -, ended⟩ :=
    (refused frame below 3 request called (Option.isNone_iff_eq_none.1 idle) top made).2
      (Nat.le_of_eq two.symm)
  rw [stepped] at ends
  exact ⟨two, next, gone, slots, stepped, List.eq_nil_of_length_eq_zero (Option.some.inj ends),
    ended⟩

end Machine
end GameScript
