import GameScript.Proofs.MachineSteps

/-! The discipline of the stack. Frames and native functions above a base are nested calls: whoever
was called from outside of scripts stands on a native function that waits for the outcome or on the
base, whoever was called by an instruction stands on the frame that made the call. A frame that
waits for a routine has noted what it expects, all others have not. -/

namespace GameScript

namespace Activation

def FromHost : Activation ν → Prop
  | .script frame => frame.host.isSome
  | .native call => call.caller = none

def Resting : Activation ν → Prop
  | .script frame => frame.pending = none
  | .native _ => True

end Activation

structure SameActivation (before after : Frame) : Prop where
  routine : after.routine = before.routine
  extra : after.extra = before.extra
  pending : after.pending = before.pending
  host : after.host = before.host

theorem sameActivation_effects :
    Action.FrameEffects fun before after => SameActivation before.frame after.frame where
  refl _ := ⟨rfl, rfl, rfl, rfl⟩
  trans first second := ⟨second.routine.trans first.routine, second.extra.trans first.extra,
    second.pending.trans first.pending, second.host.trans first.host⟩
  registers _ _ _ := ⟨rfl, rfl, rfl, rfl⟩
  pc _ _ _ := ⟨rfl, rfl, rfl, rfl⟩
  names _ _ := ⟨rfl, rfl, rfl, rfl⟩
  barrier _ _ := ⟨rfl, rfl, rfl, rfl⟩
  heap _ _ _ _ _ := ⟨rfl, rfl, rfl, rfl⟩
  staged _ _ _ := ⟨rfl, rfl, rfl, rfl⟩
  boxed _ _ _ _ _ _ _ := ⟨rfl, rfl, rfl, rfl⟩
  fetched _ _ := ⟨rfl, rfl, rfl, rfl⟩
  stored _ _ _ := ⟨rfl, rfl, rfl, rfl⟩

theorem Action.advance_sameActivation {setting : Setting ν} {next : Next ν} {state after : Local}
    (done : advance setting state = .ok next after) : SameActivation state.frame after.frame := by
  cases next with
  | call request =>
    obtain ⟨_, _, _, -, -, -, called⟩ := advance_call done
    rw [called.left]
    exact ⟨rfl, rfl, rfl, rfl⟩
  | proceed => exact keeps_advance_ok sameActivation_effects (by simp) done
  | finish => exact keeps_advance_ok sameActivation_effects (by simp) done

namespace Machine

/-- Calls nested above `base`, of which the innermost can go on. -/
inductive Nested (base : List (Activation ν)) : List (Activation ν) → Prop where
  | first {activation} (host : activation.FromHost) (rests : activation.Resting) :
      Nested base (activation :: base)
  | hosted {activation name id arguments slots resume caller below}
      (host : activation.FromHost) (rests : activation.Resting)
      (outer : Nested base (.native ⟨name, .call id arguments slots resume, caller⟩ :: below)) :
      Nested base (activation :: .native ⟨name, .call id arguments slots resume, caller⟩ :: below)
  | script {frame caller pending below}
      (called : frame.host = none) (rests : frame.pending = none)
      (waiting : caller.pending = some pending)
      (outer : Nested base (.script { caller with pending := none } :: below)) :
      Nested base (.script frame :: .script caller :: below)
  | native {call pending frame below} (called : call.caller = some pending)
      (outer : Nested base (.script frame :: below)) :
      Nested base (.native call :: .script frame :: below)

/-- A call from outside of scripts could be made here or has just ended: at the base or by a native
function that waits for the outcome. -/
def Outside (base stack : List (Activation ν)) : Prop :=
  stack = base ∨ ∃ name id arguments slots resume caller below,
    stack = .native ⟨name, .call id arguments slots resume, caller⟩ :: below ∧ Nested base stack

/-- Between steps either an outcome waits for its taker or the innermost function can go on. -/
def Disciplined (base : List (Activation ν)) (machine : Machine ν) : Prop :=
  match machine.completed with
  | none => Nested base machine.stack
  | some _ => Outside base machine.stack

variable {machine next : Machine ν} {natives : Natives ν} {base stack below : List (Activation ν)}
  {activation : Activation ν}

theorem Nested.rests (nested : Nested base (activation :: below)) : activation.Resting := by
  cases nested with
  | first _ rests => exact rests
  | hosted _ rests _ => exact rests
  | script _ rests _ _ => exact rests
  | native _ _ => trivial

theorem Nested.ne_nil (nested : Nested base stack) : stack ≠ [] := by
  cases nested <;> simp

theorem Nested.length_lt (nested : Nested base stack) : base.length < stack.length := by
  induction nested with
  | first _ _ => simp
  | hosted _ _ _ ih => simp only [List.length_cons] at ih ⊢; omega
  | script _ _ _ _ ih => simp only [List.length_cons] at ih ⊢; omega
  | native _ _ ih => simp only [List.length_cons] at ih ⊢; omega

theorem Outside.enter (outside : Outside base below) (host : activation.FromHost)
    (rests : activation.Resting) : Nested base (activation :: below) := by
  rcases outside with rfl | ⟨_, _, _, _, _, _, _, rfl, outer⟩
  · exact .first host rests
  · exact .hosted host rests outer

theorem Nested.outside (nested : Nested base (activation :: below)) (host : activation.FromHost) :
    Outside base below := by
  cases nested with
  | first _ _ => exact .inl rfl
  | hosted _ _ outer => exact .inr ⟨_, _, _, _, _, _, _, rfl, outer⟩
  | script called _ _ _ =>
    rw [Activation.FromHost, called] at host
    cases host
  | native called _ =>
    rw [Activation.FromHost, called] at host
    cases host

theorem Nested.swap_script {frame other : Frame} (nested : Nested base (.script frame :: below))
    (host : other.host = frame.host) (rests : other.pending = none) :
    Nested base (.script other :: below) := by
  cases nested with
  | first enters _ => exact .first (by rwa [Activation.FromHost, host]) rests
  | hosted enters _ outer => exact .hosted (by rwa [Activation.FromHost, host]) rests outer
  | script called _ waiting outer => exact .script (host.trans called) rests waiting outer

theorem Nested.swap_native {call other : NativeCall ν} (nested : Nested base (.native call :: below))
    (same : other.caller = call.caller) : Nested base (.native other :: below) := by
  cases nested with
  | first host _ => exact .first (same.trans host) trivial
  | hosted host _ outer => exact .hosted (same.trans host) trivial outer
  | native called outer => exact .native (same.trans called) outer

theorem Nested.caller_of_script {frame : Frame} (nested : Nested base (.script frame :: below))
    (called : frame.host = none) :
    ∃ caller pending rest, below = .script caller :: rest ∧ caller.pending = some pending ∧
      Nested base (.script { caller with pending := none } :: rest) := by
  cases nested with
  | first host _ => simp [Activation.FromHost, called] at host
  | hosted host _ _ => simp [Activation.FromHost, called] at host
  | script _ _ waiting outer => exact ⟨_, _, _, rfl, waiting, outer⟩

theorem Nested.caller_of_native {call : NativeCall ν} {pending : PendingCall}
    (nested : Nested base (.native call :: below)) (called : call.caller = some pending) :
    ∃ frame rest, below = .script frame :: rest ∧ Nested base (.script frame :: rest) := by
  cases nested with
  | first host _ => exact nomatch host.symm.trans called
  | hosted host _ _ => exact nomatch host.symm.trans called
  | native _ outer => exact ⟨_, _, rfl, outer⟩

/-- An abort takes frames off down to the one that was called from outside. -/
theorem Nested.unwound {frame : Frame} (nested : Nested base (.script frame :: below))
    {other : Frame} (host : other.host = frame.host) :
    Outside base (unwound (.script other :: below)) := by
  generalize whole : (.script frame :: below : List (Activation ν)) = stack at nested
  induction nested generalizing frame other below with
  | first enters _ =>
    cases whole
    rw [Activation.FromHost, ← host] at enters
    exact .inl (by rw [Machine.unwound, if_pos enters])
  | hosted enters _ outer _ =>
    cases whole
    rw [Activation.FromHost, ← host] at enters
    exact .inr ⟨_, _, _, _, _, _, _, by rw [Machine.unwound, if_pos enters], by
      rwa [Machine.unwound, if_pos enters]⟩
  | script called _ _ _ ih =>
    cases whole
    rw [Machine.unwound, host, called, if_neg (by simp)]
    refine ih ?_ rfl
    rfl
  | native _ _ _ => cases whole

theorem disciplined_of_completed (ended : machine.completed.isSome)
    (outside : Outside base machine.stack) : Disciplined base machine := by
  obtain ⟨outcome, ended⟩ := Option.isSome_iff_exists.1 ended
  rwa [Disciplined, ended]

theorem disciplined_of_idle (idle : machine.completed = none) (nested : Nested base machine.stack) :
    Disciplined base machine := by
  rwa [Disciplined, idle]

theorem disciplined_unwind {frame other : Frame} {abort : Abort}
    (nested : Nested base (.script frame :: below)) (top : machine.stack = .script other :: below)
    (host : other.host = frame.host) : Disciplined base (machine.unwind abort) := by
  refine disciplined_of_completed rfl ?_
  rw [unwind_stack, top]
  exact nested.unwound host

theorem disciplined_resumeFrame {frame : Frame} {pending : PendingCall}
    {result : Except Abort (List ResultSlot)} (idle : machine.completed = none)
    (nested : Nested base (.script frame :: below)) :
    Disciplined base (machine.resumeFrame frame below pending result) := by
  rcases resumeFrame_cases machine frame below pending result with
    ⟨_, _, -, -, -, same⟩ | ⟨_, _, -, same⟩
  · rw [same]
    exact disciplined_of_idle idle (nested.swap_script rfl nested.rests)
  · rw [same]
    exact disciplined_unwind nested rfl rfl

theorem disciplined_enter (idle : machine.completed = none) (outside : Outside base machine.stack)
    (id : FunctionId) (arguments : List Value) (slots : List ResultSlot) :
    Disciplined base (machine.enter natives id arguments slots) := by
  rcases enter_cases machine natives id arguments slots with
    ⟨_, same⟩ | ⟨_, _, same⟩ | ⟨_, _, _, entered, same⟩
  · rw [same]
    exact disciplined_of_completed rfl outside
  · rw [same]
    exact disciplined_of_idle idle (outside.enter rfl trivial)
  · rw [same]
    obtain ⟨host, rests, -⟩ := Frame.enter_eq_ok entered
    exact disciplined_of_idle idle (outside.enter (by simp [Activation.FromHost, host]) rests)

/-- A step of whatever runs above the base keeps the discipline. -/
theorem Disciplined.step (disciplined : Disciplined base machine)
    (running : base.length < machine.depth) (stepped : machine.step natives = some next) :
    Disciplined base next := by
  have nested : machine.completed = none → Nested base machine.stack := by
    intro idle
    rwa [Disciplined, idle] at disciplined
  cases step_transition stepped with
  | proceeded idle top advanced =>
    have same := Action.advance_sameActivation advanced
    have nested := top ▸ nested idle
    exact disciplined_of_idle idle (nested.swap_script same.host (same.pending.trans nested.rests))
  | aborted idle top advanced =>
    have same := Action.keeps_advance_error sameActivation_effects advanced
    exact disciplined_unwind (top ▸ nested idle) rfl same.host
  | returnedToHost idle top advanced host =>
    have same := Action.advance_sameActivation advanced
    refine disciplined_of_completed rfl ((top ▸ nested idle).outside ?_)
    rw [Activation.FromHost, ← same.host, host]
    rfl
  | returnedToFrame idle top advanced host waiting =>
    have same := Action.advance_sameActivation advanced
    obtain ⟨_, _, _, ⟨⟩, -, outer⟩ := (top ▸ nested idle).caller_of_script (same.host.symm.trans host)
    exact disciplined_resumeFrame idle outer
  | calledNative idle top advanced callee =>
    have same := Action.advance_sameActivation advanced
    have nested := top ▸ nested idle
    exact disciplined_of_idle idle
      (.native rfl (nested.swap_script same.host (same.pending.trans nested.rests)))
  | calledScript idle top advanced script entered =>
    have same := Action.advance_sameActivation advanced
    have nested := top ▸ nested idle
    obtain ⟨host, rests, -⟩ := Frame.enter_eq_ok entered
    exact disciplined_of_idle idle (.script host rests rfl (nested.swap_script same.host rfl))
  | refusedScript idle top advanced =>
    have same := Action.advance_sameActivation advanced
    exact disciplined_unwind (top ▸ nested idle) rfl same.host
  | finishedToHost idle top =>
    exact disciplined_of_completed rfl ((top ▸ nested idle).outside rfl)
  | finishedToFrame idle top =>
    obtain ⟨_, _, ⟨⟩, outer⟩ := (top ▸ nested idle).caller_of_native rfl
    exact disciplined_resumeFrame idle outer
  | looked idle top => exact disciplined_of_idle idle ((top ▸ nested idle).swap_native rfl)
  | changed idle top => exact disciplined_of_idle idle ((top ▸ nested idle).swap_native rfl)
  | entered idle top =>
    refine disciplined_enter idle (.inr ⟨_, _, _, _, _, _, _, top, nested idle⟩) _ _ _
  | took ended top =>
    rw [Disciplined, ended] at disciplined
    rcases disciplined with rfl | ⟨_, _, _, _, _, _, _, -, outer⟩
    · exact absurd running (Nat.lt_irrefl _)
    · exact disciplined_of_idle rfl ((top ▸ outer).swap_native rfl)
  | orphanedFrame idle top advanced host alone =>
    have same := Action.advance_sameActivation advanced
    obtain ⟨caller, pending, rest, below, waiting, -⟩ :=
      (top ▸ nested idle).caller_of_script (same.host.symm.trans host)
    cases waiting.symm.trans (alone caller rest below)
  | orphanedNative idle top alone =>
    obtain ⟨frame, rest, below, -⟩ := (top ▸ nested idle).caller_of_native rfl
    exact absurd below (alone frame rest)

/-- What runs above the base stays disciplined until it is gone. -/
theorem Disciplined.run (disciplined : Disciplined base machine) {count : Nat}
    (running : ∀ earlier < count, base.length < (run natives earlier machine).depth) :
    Disciplined base (run natives count machine) := by
  induction count with
  | zero => exact disciplined
  | succ count ih =>
    have before := ih fun earlier bound => running earlier (Nat.lt_succ_of_lt bound)
    rcases run_succ_cases count machine with stepped | ⟨-, same⟩
    · exact before.step (running count (Nat.lt_succ_self count)) stepped
    · rwa [same]

theorem Disciplined.ended_or_nested (disciplined : Disciplined base machine) :
    machine.stack = base ∧ machine.completed.isSome ∨ Nested base machine.stack := by
  unfold Disciplined at disciplined
  split at disciplined
  next => exact .inr disciplined
  next outcome ended =>
    rcases disciplined with same | ⟨_, _, _, _, _, _, _, -, outer⟩
    · exact .inl ⟨same, by simp [ended]⟩
    · exact .inr outer

theorem Disciplined.length_le (disciplined : Disciplined base machine) :
    base.length ≤ machine.depth := by
  rcases disciplined.ended_or_nested with ⟨same, -⟩ | nested
  · exact Nat.le_of_eq (congrArg List.length same.symm)
  · exact Nat.le_of_lt nested.length_lt

/-- Once nothing runs above the base, the base is as it was and an outcome is there. -/
theorem Disciplined.ended (disciplined : Disciplined base machine)
    (gone : machine.depth ≤ base.length) :
    machine.stack = base ∧ machine.completed.isSome := by
  rcases disciplined.ended_or_nested with ended | nested
  · exact ended
  · exact absurd nested.length_lt (Nat.not_lt_of_le gone)

theorem step_eq_none_of_stack_nil (empty : machine.stack = []) : machine.step natives = none := by
  unfold step stepOr
  rw [empty]
  cases machine.completed <;> rfl

theorem disciplined_run_nil (disciplined : Disciplined [] machine) (count : Nat) :
    Disciplined [] (run natives count machine) := by
  induction count with
  | zero => exact disciplined
  | succ count ih =>
    rcases run_succ_cases count machine with stepped | ⟨-, same⟩
    · refine ih.step (List.length_pos_iff.2 fun empty => ?_) stepped
      cases (step_eq_none_of_stack_nil empty).symm.trans stepped
    · rwa [same]

theorem Nested.host_iff (nested : Nested [] stack) {above : List (Activation ν)} {frame : Frame}
    (placed : stack = above ++ .script frame :: below) :
    frame.host.isSome ↔ ∀ caller, below.head? ≠ some (.script caller) := by
  induction nested generalizing above frame with
  | first host _ =>
    cases above with
    | nil =>
      cases placed
      exact iff_of_true host (by simp)
    | cons _ above => simp at placed
  | hosted host _ _ ih =>
    cases above with
    | nil =>
      cases placed
      exact iff_of_true host (by simp)
    | cons _ above => exact ih (List.cons.inj placed).2
  | @script callee caller pending deeper called _ _ _ ih =>
    match above, placed with
    | [], placed =>
      cases placed
      exact iff_of_false (by simp [called]) (by simp)
    | [_], placed =>
      cases placed
      have before := ih (show _ = [] ++ .script { caller with pending := none } :: below from rfl)
      exact before
    | _ :: _ :: above, placed =>
      obtain ⟨-, rfl⟩ := List.cons.inj (List.cons.inj placed).2
      exact ih (show _ = (.script { caller with pending := none } :: above) ++ _ from rfl)
  | native _ _ ih =>
    cases above with
    | nil => cases placed
    | cons _ above => exact ih (List.cons.inj placed).2

theorem Nested.pending_iff (nested : Nested [] stack) {above : List (Activation ν)} {frame : Frame}
    (placed : stack = above ++ .script frame :: below) :
    frame.pending.isSome ↔ ∃ callee, above.getLast? = some (.script callee) := by
  induction nested generalizing above frame with
  | first _ rests =>
    cases above with
    | nil =>
      cases placed
      exact iff_of_false (by simp [show frame.pending = none from rests]) (by simp)
    | cons _ above => simp at placed
  | hosted _ rests _ ih =>
    match above, placed with
    | [], placed =>
      cases placed
      exact iff_of_false (by simp [show frame.pending = none from rests]) (by simp)
    | [_], placed => cases (List.cons.inj placed).2
    | _ :: next :: above, placed =>
      rw [List.getLast?_cons_cons]
      exact ih (List.cons.inj placed).2
  | @script callee caller pending deeper _ rests waiting _ ih =>
    match above, placed with
    | [], placed =>
      cases placed
      exact iff_of_false (by simp [rests]) (by simp)
    | [_], placed =>
      cases placed
      exact iff_of_true (by simp [waiting]) ⟨callee, rfl⟩
    | _ :: _ :: above, placed =>
      obtain ⟨rfl, rfl⟩ := List.cons.inj (List.cons.inj placed).2
      rw [ih (show _ = (.script { caller with pending := none } :: above) ++ _ from rfl)]
      cases above <;> simp
  | @native call _ caller deeper _ outer ih =>
    match above, placed with
    | [_], placed =>
      cases placed
      exact iff_of_false (by simp [show caller.pending = none from outer.rests]) (by simp)
    | _ :: next :: above, placed =>
      rw [List.getLast?_cons_cons]
      exact ih (List.cons.inj placed).2

theorem stepFrame_eq {frame : Frame} (nested : Nested base (.script frame :: below))
    (missing other : Abort) :
    machine.stepFrame natives missing frame below = machine.stepFrame natives other frame below := by
  unfold stepFrame
  split
  next => rfl
  next following state advanced =>
    have same := Action.advance_sameActivation advanced
    cases following with
    | proceed => rfl
    | call request => rfl
    | finish =>
      simp only [finishFrame]
      split
      next => rfl
      next host =>
        obtain ⟨caller, pending, rest, rfl, waiting, -⟩ :=
          nested.caller_of_script (same.host.symm.trans host)
        simp only [waiting]

theorem stepNative_eq {call : NativeCall ν} (nested : Nested base (.native call :: below))
    (missing other : Abort) :
    machine.stepNative natives missing call below = machine.stepNative natives other call below := by
  unfold stepNative
  split
  next outcome _ =>
    simp only [finishNative]
    split
    next => rfl
    next pending called =>
      obtain ⟨frame, rest, rfl, -⟩ := nested.caller_of_native called
      rfl
  all_goals rfl

/-- The abort of a call without a caller is never used. -/
theorem Disciplined.stepOr_eq (disciplined : Disciplined base machine) (missing : Abort) :
    machine.stepOr natives missing = machine.step natives := by
  unfold Disciplined at disciplined
  split at disciplined
  next idle =>
    generalize stacked : machine.stack = stack at disciplined
    cases stack with
    | nil => exact absurd rfl disciplined.ne_nil
    | cons activation below =>
      cases activation with
      | script frame =>
        simp only [Machine.step, stepOr, idle, stacked]
        exact congrArg some (stepFrame_eq disciplined missing _)
      | native call =>
        simp only [Machine.step, stepOr, idle, stacked]
        exact congrArg some (stepNative_eq disciplined missing _)
  next outcome ended =>
    unfold Machine.step stepOr
    rw [ended]
    cases machine.stack with
    | nil => rfl
    | cons activation below =>
      cases activation with
      | script frame => rfl
      | native call =>
        obtain ⟨_, behaviour, _⟩ := call
        cases behaviour <;> rfl

/-- The discipline as the whole stack of a machine shows it. -/
structure Orderly (natives : Natives ν) (machine : Machine ν) : Prop where
  /-- A frame was called from outside exactly if it does not stand on another frame. -/
  host : ∀ above frame below, machine.stack = above ++ .script frame :: below →
    (frame.host.isSome ↔ ∀ caller, below.head? ≠ some (.script caller))
  /-- A frame waits exactly if another frame stands on it. -/
  pending : ∀ above frame below, machine.stack = above ++ .script frame :: below →
    (frame.pending.isSome ↔ ∃ callee, above.getLast? = some (.script callee))
  /-- Whoever calls from outside finds an outcome once nothing runs. -/
  ended : machine.stack = [] → machine.completed.isSome
  /-- An outcome is there only for a caller outside, and a native function takes it at once. -/
  taken : ∀ outcome, machine.completed = some outcome → machine.stack = [] ∨
    ∃ name id arguments slots resume caller below,
      machine.stack = .native ⟨name, .call id arguments slots resume, caller⟩ :: below ∧
      machine.step natives = some { machine with
        stack := .native ⟨name, resume outcome, caller⟩ :: below
        completed := none }
  /-- A call by a native function ends with an outcome and the stack as it was. -/
  returned : ∀ name id arguments slots resume caller below count, machine.completed = none →
    machine.stack = .native ⟨name, .call id arguments slots resume, caller⟩ :: below →
    (∀ earlier, earlier < count → machine.depth < (run natives (earlier + 1) machine).depth) →
    (run natives (count + 1) machine).depth ≤ machine.depth →
    (run natives (count + 1) machine).stack = machine.stack ∧
      (run natives (count + 1) machine).completed.isSome
  /-- No call lacks its caller. -/
  called : ∀ missing, machine.stepOr natives missing = machine.step natives

theorem Disciplined.nested (disciplined : Disciplined base machine)
    (running : base.length < machine.depth) : Nested base machine.stack := by
  rcases disciplined.ended_or_nested with ⟨same, -⟩ | nested
  · exact absurd (congrArg List.length same) (Nat.ne_of_gt running)
  · exact nested

theorem returned_of_call {name : String} {id : FunctionId} {arguments : List Value}
    {slots : List ResultSlot} {resume : Outcome → Behaviour ν} {caller : Option PendingCall}
    {count : Nat} (idle : machine.completed = none)
    (top : machine.stack = .native ⟨name, .call id arguments slots resume, caller⟩ :: below)
    (running : ∀ earlier, earlier < count →
      machine.depth < (run natives (earlier + 1) machine).depth)
    (back : (run natives (count + 1) machine).depth ≤ machine.depth) :
    (run natives (count + 1) machine).stack = machine.stack ∧
      (run natives (count + 1) machine).completed.isSome := by
  have stepped : machine.step natives = some (machine.enter natives id arguments slots) := by
    simp only [step, stepOr, idle, top, stepNative]
  have start : Disciplined machine.stack (machine.enter natives id arguments slots) :=
    disciplined_enter idle (.inl rfl) id arguments slots
  rw [run_step stepped] at back ⊢
  refine (start.run fun earlier bound => ?_).ended back
  have above := running earlier bound
  rwa [run_step stepped] at above

/-- Whatever is called on a machine that runs nothing, whatever the routines and native functions
do, the stack is orderly after any number of steps. -/
theorem call_orderly (machine : Machine ν) (natives : Natives ν) (empty : machine.stack = [])
    (idle : machine.completed = none) (id : FunctionId) (arguments : List Value)
    (slots : List ResultSlot) (count : Nat) :
    Orderly natives (run natives count (machine.enter natives id arguments slots)) := by
  have start : Disciplined [] (machine.enter natives id arguments slots) :=
    disciplined_enter idle (.inl empty) id arguments slots
  have disciplined : Disciplined [] (run natives count _) := disciplined_run_nil start count
  generalize run natives count (machine.enter natives id arguments slots) = state at disciplined ⊢
  have nested : state.stack ≠ [] → Nested [] state.stack := fun some =>
    disciplined.nested (List.length_pos_iff.2 some)
  refine ⟨fun above frame below placed => ?_, fun above frame below placed => ?_, fun none => ?_,
    fun outcome ended => ?_, fun _ _ _ _ _ _ _ _ rests top => returned_of_call rests top,
    disciplined.stepOr_eq⟩
  · exact (nested (by simp [placed])).host_iff placed
  · exact (nested (by simp [placed])).pending_iff placed
  · exact (disciplined.ended (by simp [depth, none])).2
  · rw [Disciplined, ended] at disciplined
    rcases disciplined with none | ⟨name, id, arguments, slots, resume, caller, below, top, -⟩
    · exact .inl none
    · exact .inr ⟨name, id, arguments, slots, resume, caller, below, top, by
        simp only [step, stepOr, ended, top, endCall_nested top]⟩

def relaying (callee : FunctionId) : LinkedRoutine where
  name := "relay"
  sourceFile := ""
  code := #[⟨0x0000005f⟩, ⟨0x00008063⟩]
  constants := ⟨#[], #[], #[], #[.function callee]⟩
  layout := ⟨0, 0, 0, 0, 0, 0⟩
  lines := .empty

/-- A routine that calls another, which calls a native function. -/
def relays : Machine Unit :=
  ⟨.standard, ⟨#[.native "again" (), .script (relaying ⟨2⟩), .script (relaying ⟨0⟩)]⟩, .empty, [],
    none⟩

def again : Natives Unit := fun _ _ slots => .call ⟨1⟩ [] slots .finish

theorem call_orderly_reentrant :
    relays.stack = [] ∧ relays.completed = none ∧
    (∀ count, Orderly again (run again count (relays.enter again ⟨1⟩ [] []))) ∧
    ∃ called call inner outer,
      (run again 3 (relays.enter again ⟨1⟩ [] [])).stack =
        [.script called, .native call, .script inner, .script outer] ∧
      outer.host.isSome ∧ outer.pending.isSome ∧ ¬inner.host.isSome ∧ ¬inner.pending.isSome ∧
      called.host.isSome := by
  have orderly := call_orderly relays again rfl rfl ⟨1⟩ [] []
  obtain ⟨called, call, inner, outer, deep⟩ : ∃ called call inner outer,
      (run again 3 (relays.enter again ⟨1⟩ [] [])).stack =
        [.script called, .native call, .script inner, .script outer] := ⟨_, _, _, _, rfl⟩
  have host := (orderly 3).host
  have pending := (orderly 3).pending
  rw [deep] at host pending
  refine ⟨rfl, rfl, orderly, called, call, inner, outer, deep, ?_, ?_, ?_, ?_, ?_⟩
  · exact (host [.script called, .native call, .script inner] outer [] rfl).2 nofun
  · exact (pending [.script called, .native call, .script inner] outer [] rfl).2 ⟨inner, rfl⟩
  · exact fun entered => (host [.script called, .native call] inner _ rfl).1 entered outer rfl
  · intro waiting
    obtain ⟨callee, above⟩ := (pending [.script called, .native call] inner _ rfl).1 waiting
    cases above
  · exact (host [] called _ rfl).2 nofun

end Machine
end GameScript
