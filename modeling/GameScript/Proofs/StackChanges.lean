import GameScript.Proofs.MachineSteps

/-! What a step does to the stack. Functions end, a frame takes the results of its call, the innermost
function goes on or a new one begins; everything else on the stack stays as it is. -/

namespace GameScript

structure SamePlace (before after : Frame) : Prop where
  routine : after.routine = before.routine
  current : after.current = before.current
  pc : after.pc = before.pc
  staged : after.staged = before.staged

theorem Frame.begins_of_enter {routine : LinkedRoutine} {arguments : List Value}
    {results : List Bank} {host : Option (List ResultSlot)} {heap after : Heap} {frame : Frame}
    (entered : Frame.enter routine arguments results host heap = .ok (frame, after)) :
    frame.current = 0 ∧ frame.pc = 0 ∧ frame.staged = [] := by
  obtain ⟨registers, -, entered⟩ := enter_eq_ok_iff.1 entered
  cases entered
  exact ⟨rfl, rfl, rfl⟩

namespace Machine

inductive Begins (natives : Natives ν) : Activation ν → Prop where
  | script {frame} (first : frame.current = 0 ∧ frame.pc = 0 ∧ frame.staged = []) :
      Begins natives (.script frame)
  | native {name function arguments slots caller} :
      Begins natives (.native ⟨name, natives function arguments slots, caller⟩)

inductive Deals (machine : Machine ν) : Behaviour ν → Behaviour ν → Prop where
  | look {next} : Deals machine (.look next) (next machine.view)
  | change {library world next} : Deals machine (.change library world next) next
  | take {id arguments slots resume outcome} (ended : machine.completed = some outcome) :
      Deals machine (.call id arguments slots resume) (resume outcome)

inductive Restacks (natives : Natives ν) (machine : Machine ν) : List (Activation ν) → Prop where
  /-- Functions end. -/
  | ended {top below rest} (stack : machine.stack = top :: below) (left : rest <:+ below) :
      Restacks natives machine rest
  /-- A frame takes what its call has given. -/
  | resumed {top frame after below} (stack : machine.stack = top :: .script frame :: below)
      (same : SamePlace frame after) : Restacks natives machine (.script after :: below)
  /-- An instruction is executed. -/
  | advanced {frame state below} (idle : machine.completed = none)
      (stack : machine.stack = .script frame :: below)
      (done : Action.advance machine.setting ⟨frame, machine.world⟩ = .ok .proceed state) :
      Restacks natives machine (.script state.frame :: below)
  /-- An instruction calls a function. -/
  | called {frame state request after callee below} (idle : machine.completed = none)
      (stack : machine.stack = .script frame :: below)
      (done : Action.advance machine.setting ⟨frame, machine.world⟩ = .ok (.call request) state)
      (same : SamePlace state.frame after) (begins : Begins natives callee) :
      Restacks natives machine (callee :: .script after :: below)
  /-- A native function deals with the machine. -/
  | dealt {name behaviour following caller below}
      (stack : machine.stack = .native ⟨name, behaviour, caller⟩ :: below)
      (deals : Deals machine behaviour following) :
      Restacks natives machine (.native ⟨name, following, caller⟩ :: below)
  /-- A native function calls a function. -/
  | entered {call callee below} (stack : machine.stack = .native call :: below)
      (begins : Begins natives callee) : Restacks natives machine (callee :: .native call :: below)
  /-- A native function calls a function that is not entered. -/
  | refused {call below} (stack : machine.stack = .native call :: below) :
      Restacks natives machine machine.stack

variable {machine next : Machine ν} {natives : Natives ν}

theorem restacks_resumeFrame {start : Machine ν} {top : Activation ν} {frame : Frame}
    {waiting : Option PendingCall} {below : List (Activation ν)} {pending : PendingCall}
    {result : Except Abort (List ResultSlot)}
    (stack : machine.stack = top :: .script frame :: below) :
    Restacks natives machine
      (start.resumeFrame { frame with pending := waiting } below pending result).stack := by
  obtain ⟨_, _, -, -, -, same⟩ | ⟨_, _, -, same⟩ :=
    resumeFrame_cases start { frame with pending := waiting } below pending result
  · rw [same]
    exact .resumed stack ⟨rfl, rfl, rfl, rfl⟩
  · rw [same, unwind_stack]
    exact .ended stack ((unwound_script_suffix _ below).trans (List.suffix_cons _ _))

/-- A function that is called from outside of scripts begins, unless the call is refused. -/
theorem enter_begins (machine : Machine ν) (natives : Natives ν) (id : FunctionId)
    (arguments : List Value) (slots : List ResultSlot) :
    (∃ abort, machine.enter natives id arguments slots = machine.complete (.error abort) slots) ∨
    ∃ activation, Begins natives activation ∧
      (machine.enter natives id arguments slots).stack = activation :: machine.stack ∧
      (machine.enter natives id arguments slots).completed = machine.completed := by
  obtain refused | ⟨_, _, same⟩ | ⟨_, _, _, entered, same⟩ :=
    enter_cases machine natives id arguments slots
  · exact .inl refused
  · rw [same]
    exact .inr ⟨_, .native, rfl, rfl⟩
  · rw [same]
    exact .inr ⟨_, .script (Frame.begins_of_enter entered), rfl, rfl⟩

theorem step_restacks (stepped : machine.step natives = some next) :
    Restacks natives machine next.stack := by
  cases step_transition stepped with
  | proceeded idle top advanced => exact .advanced idle top advanced
  | aborted idle top advanced =>
    rw [unwind_stack]
    exact .ended top (unwound_script_suffix _ _)
  | returnedToHost idle top advanced host => exact .ended top (List.suffix_refl _)
  | returnedToFrame idle top advanced host waiting => exact restacks_resumeFrame top
  | calledNative idle top advanced callee => exact .called idle top advanced ⟨rfl, rfl, rfl, rfl⟩ .native
  | calledScript idle top advanced script entered =>
    exact .called idle top advanced ⟨rfl, rfl, rfl, rfl⟩ (.script (Frame.begins_of_enter entered))
  | refusedScript idle top advanced script refused =>
    rw [unwind_stack]
    exact .ended top (unwound_script_suffix _ _)
  | finishedToHost idle top => exact .ended top (List.suffix_refl _)
  | finishedToFrame idle top => exact restacks_resumeFrame top
  | looked idle top => exact .dealt top .look
  | changed idle top => exact .dealt top .change
  | entered idle top =>
    obtain ⟨_, same⟩ | ⟨_, begins, stack, -⟩ := enter_begins machine natives _ _ _
    · rw [same]
      exact .refused top
    · rw [stack, top]
      exact .entered top begins
  | took ended top => exact .dealt top (.take ended)
  | orphanedFrame idle top advanced host alone =>
    rw [unwind_stack]
    exact .ended top (unwound_suffix _)
  | orphanedNative idle top alone =>
    rw [unwind_stack]
    exact .ended top (unwound_suffix _)

/-- What holds of every function when it begins and stays so as long as it is active. -/
structure Lasting (natives : Natives ν) (holds : Activation ν → Prop) : Prop where
  begins : ∀ {activation}, Begins natives activation → holds activation
  native : ∀ call, holds (.native call)
  same : ∀ {before after}, SamePlace before after → holds (.script before) → holds (.script after)
  advanced : ∀ {setting : Setting ν} {state after following},
    Action.advance setting state = .ok following after → holds (.script state.frame) →
    holds (.script after.frame)

namespace Lasting

variable {holds : Activation ν → Prop} (lasting : Lasting natives holds)
include lasting

theorem restacks {after : List (Activation ν)} (restacks : Restacks natives machine after)
    (all : ∀ activation ∈ machine.stack, holds activation) :
    ∀ activation ∈ after, holds activation := by
  cases restacks with
  | ended stack left =>
    rw [stack, List.forall_mem_cons] at all
    exact fun activation member => all.2 activation (left.mem member)
  | resumed stack same =>
    simp only [stack, List.forall_mem_cons] at all ⊢
    exact ⟨lasting.same same all.2.1, all.2.2⟩
  | advanced idle stack done =>
    simp only [stack, List.forall_mem_cons] at all ⊢
    exact ⟨lasting.advanced done all.1, all.2⟩
  | called idle stack done same begins =>
    simp only [stack, List.forall_mem_cons] at all ⊢
    exact ⟨lasting.begins begins, lasting.same same (lasting.advanced done all.1), all.2⟩
  | dealt stack deals =>
    simp only [stack, List.forall_mem_cons] at all ⊢
    exact ⟨lasting.native _, all.2⟩
  | entered stack begins =>
    simp only [stack, List.forall_mem_cons] at all ⊢
    exact ⟨lasting.begins begins, all⟩
  | refused stack => exact all

theorem run (all : ∀ activation ∈ machine.stack, holds activation) (count : Nat) :
    ∀ activation ∈ (Machine.run natives count machine).stack, holds activation := by
  induction count with
  | zero => exact all
  | succ count ih =>
    rcases run_succ_cases count machine with stepped | ⟨-, same⟩
    · exact lasting.restacks (step_restacks stepped) ih
    · rwa [same]

theorem enter (bottom : machine.stack = []) (id : FunctionId) (arguments : List Value)
    (slots : List ResultSlot) :
    ∀ activation ∈ (machine.enter natives id arguments slots).stack, holds activation := by
  obtain ⟨abort, same⟩ | ⟨activation, begins, stack, -⟩ :=
    enter_begins machine natives id arguments slots
  · rw [same, complete, bottom]
    exact List.forall_mem_nil _
  · rw [stack, bottom, List.forall_mem_singleton]
    exact lasting.begins begins

end Lasting

end Machine

/-- A property that every active function has together with what is below it. -/
def Throughout (holds : Activation ν → List (Activation ν) → Prop) : List (Activation ν) → Prop
  | [] => True
  | activation :: below => holds activation below ∧ Throughout holds below

namespace Throughout

variable {holds other : Activation ν → List (Activation ν) → Prop} {stack : List (Activation ν)}

theorem suffix {rest : List (Activation ν)} (all : Throughout holds stack) (left : rest <:+ stack) :
    Throughout holds rest := by
  obtain ⟨gone, rfl⟩ := left
  induction gone with
  | nil => exact all
  | cons activation gone ih => exact ih all.2

theorem imp (all : Throughout holds stack)
    (weaker : ∀ activation below, activation :: below <:+ stack → holds activation below →
      other activation below) : Throughout other stack := by
  induction stack with
  | nil => trivial
  | cons activation below ih =>
    refine ⟨weaker _ _ (List.suffix_refl _) all.1, ih all.2 fun each rest left => ?_⟩
    exact weaker each rest (left.trans (List.suffix_cons _ _))

end Throughout
end GameScript
