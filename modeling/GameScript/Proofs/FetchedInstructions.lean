import GameScript.Proofs.RaisedAborts
import GameScript.Proofs.StackChanges

/-! Where the functions on the stack are. The position that a frame notes is that of the instruction
it has fetched last, and while something runs above it that is the call. -/

namespace GameScript

def Frame.fetching (frame : Frame) : Nat :=
  if frame.pc < frame.routine.code.size then frame.pc else frame.current

def Frame.AtCall (frame : Frame) : Prop :=
  ∃ target, frame.operationAt? frame.current = some (.call target)

namespace Action

variable {setting : Setting ν} {state after : Local}

theorem sameCurrent_effects :
    InstructionEffects fun before after => after.frame.current = before.frame.current where
  refl _ := rfl
  trans first second := second.trans first
  registers _ _ _ := rfl
  pc _ _ _ := rfl
  names _ _ := rfl
  barrier _ _ := rfl
  heap _ _ _ _ _ := rfl
  staged _ _ _ := rfl
  boxed _ _ _ _ _ _ _ := rfl
  stored _ _ _ := rfl

/-- An instruction that fails leaves the frame where it was fetched, if it was. -/
theorem current_of_advance_error {abort : Abort} (failed : advance setting state = .error abort after) :
    after.frame.current = state.frame.fetching := by
  rcases advance_cases setting state with
    ⟨word, instruction, located, -, same⟩ | ⟨outside, _, same⟩ | ⟨inside, _, same⟩
  all_goals rw [same] at failed
  · have inside := (Array.getElem?_eq_some_iff.1 located).1
    have within : state.fetched.frame.pc ≤ state.fetched.frame.routine.code.size := inside
    rw [Frame.fetching, if_pos inside]
    exact keeps_perform_error sameCurrent_effects within failed
  · cases failed
    rw [Frame.fetching, if_neg (Nat.not_lt.2 outside)]
  · cases failed
    rw [Frame.fetching, if_pos inside]
    rfl

theorem current_of_advance_ok {next : Next ν} (done : advance setting state = .ok next after) :
    after.frame.current = state.frame.fetching := by
  rcases advance_cases setting state with
    ⟨word, instruction, located, -, same⟩ | ⟨-, _, same⟩ | ⟨-, _, same⟩
  · have inside := (Array.getElem?_eq_some_iff.1 located).1
    rw [Frame.fetching, if_pos inside]
    rw [same] at done
    cases next with
    | call request =>
      obtain ⟨_, -, called⟩ := perform_call done
      rw [called.left]
      rfl
    | proceed => exact keeps_perform_ok sameCurrent_effects (by simp) done
    | finish => exact keeps_perform_ok sameCurrent_effects (by simp) done
  · cases same.symm.trans done
  · cases same.symm.trans done

end Action

theorem Frame.AtCall.of_samePlace {before after : Frame} (called : before.AtCall)
    (same : SamePlace before after) : after.AtCall := by
  obtain ⟨target, operation⟩ := called
  refine ⟨target, ?_⟩
  rw [Frame.operationAt?, same.routine, same.current]
  exact operation

theorem Action.atCall_of_advance {setting : Setting ν} {state after : Local} {request : CallRequest ν}
    (called : advance setting state = .ok (.call request) after) : after.frame.AtCall := by
  obtain ⟨word, instruction, target, located, decoded, operation, done⟩ := advance_call called
  refine ⟨target, ?_⟩
  rw [done.left, Frame.operationAt?]
  simp only [Local.fetched, located, decoded, operation, Option.bind_some, Option.map_some]

namespace Machine

/-- The height of the frame that fetches an instruction in the next step, and where it does so. -/
def fetches? (machine : Machine ν) : Option (Nat × Nat) :=
  match machine.completed, machine.stack with
  | none, .script frame :: below =>
    if frame.pc < frame.routine.code.size then some (below.length, frame.pc) else none
  | _, _ => none

/-- Where the function at a height has fetched its last instruction before a step; 0 if it has not
fetched any. -/
def lastFetched (natives : Natives ν) (start : Machine ν) (height : Nat) : Nat → Nat
  | 0 => 0
  | now + 1 =>
    let machine := run natives now start
    if machine.depth ≤ height then 0
    else
      match machine.fetches? with
      | some (place, offset) =>
        if place = height then offset else lastFetched natives start height now
      | none => lastFetched natives start height now

section Fetching

variable {machine : Machine ν} {natives : Natives ν} {start : Machine ν} {height now : Nat}
  {top : Activation ν} {frame : Frame} {below : List (Activation ν)}

theorem fetches?_of_script (idle : machine.completed = none)
    (stack : machine.stack = .script frame :: below) :
    machine.fetches? =
      if frame.pc < frame.routine.code.size then some (below.length, frame.pc) else none := by
  simp only [fetches?, idle, stack]

theorem fetches?_eq_some {place offset : Nat} (fetches : machine.fetches? = some (place, offset)) :
    ∃ frame below, machine.completed = none ∧ machine.stack = .script frame :: below ∧
      place = below.length := by
  unfold fetches? at fetches
  split at fetches
  next frame below idle stack =>
    split at fetches
    next =>
      cases fetches
      exact ⟨frame, below, idle, stack, rfl⟩
    next => cases fetches
  next => cases fetches

theorem lastFetched_of_new (above : (run natives now start).depth ≤ height) :
    lastFetched natives start height (now + 1) = 0 := by
  rw [lastFetched]
  exact if_pos above

/-- What waits fetches nothing. -/
theorem lastFetched_of_other (within : height < (run natives now start).depth)
    (other : ∀ place offset, (run natives now start).fetches? = some (place, offset) →
      place ≠ height) :
    lastFetched natives start height (now + 1) = lastFetched natives start height now := by
  rw [lastFetched]
  simp only [if_neg (Nat.not_le.2 within)]
  cases fetches : (run natives now start).fetches? with
  | none => rfl
  | some fetched => exact if_neg (other fetched.1 fetched.2 fetches)

theorem lastFetched_of_below (stack : (run natives now start).stack = top :: below)
    (under : height < below.length) :
    lastFetched natives start height (now + 1) = lastFetched natives start height now := by
  refine lastFetched_of_other ?_ fun place offset fetches same => ?_
  · rw [depth, stack]
    exact Nat.lt_succ_of_lt under
  · obtain ⟨frame, rest, -, other, rfl⟩ := fetches?_eq_some fetches
    cases stack.symm.trans other
    omega

theorem lastFetched_of_script (idle : (run natives now start).completed = none)
    (stack : (run natives now start).stack = .script frame :: below)
    (before : frame.current = lastFetched natives start below.length now) :
    lastFetched natives start below.length (now + 1) = frame.fetching := by
  have within : below.length < (run natives now start).depth := by
    rw [depth, stack]
    exact Nat.lt_succ_self _
  unfold Frame.fetching
  split
  next inside =>
    rw [lastFetched]
    simp only [if_neg (Nat.not_le.2 within), fetches?_of_script idle stack, if_pos inside, if_true]
  next outside =>
    rw [before, lastFetched_of_other within]
    intro place offset fetches
    rw [fetches?_of_script idle stack, if_neg outside] at fetches
    cases fetches

def Tracks (natives : Natives ν) (start : Machine ν) (now : Nat) :
    Activation ν → List (Activation ν) → Prop
  | .script frame, below => frame.current = lastFetched natives start below.length now
  | .native _, _ => True

theorem tracks_below (stack : (run natives now start).stack = top :: below)
    (tracks : Throughout (Tracks natives start now) below) :
    Throughout (Tracks natives start (now + 1)) below := by
  refine tracks.imp fun activation rest left noted => ?_
  have under : rest.length < below.length := left.length_le
  cases activation with
  | native call => trivial
  | script frame => exact noted.trans (lastFetched_of_below stack under).symm

theorem tracks_begins {activation : Activation ν} {stack : List (Activation ν)}
    (begins : Begins natives activation) (above : (run natives now start).depth ≤ stack.length) :
    Tracks natives start (now + 1) activation stack := by
  cases begins with
  | script first => exact first.1.trans (lastFetched_of_new above).symm
  | native => trivial

/-- Each frame on the stack notes its last instruction, and those with a callee have called it. -/
structure Placed (natives : Natives ν) (start : Machine ν) (now : Nat)
    (stack : List (Activation ν)) : Prop where
  tracks : Throughout (Tracks natives start now) stack
  calling : ∀ frame, .script frame ∈ stack.tail → frame.AtCall

namespace Placed

variable {after : List (Activation ν)}

theorem split (placed : Placed natives start now (run natives now start).stack)
    (stack : (run natives now start).stack = top :: below) :
    Tracks natives start now top below ∧ Throughout (Tracks natives start (now + 1)) below ∧
      ∀ frame, .script frame ∈ below → frame.AtCall := by
  obtain ⟨tracks, calling⟩ := placed
  rw [stack] at tracks calling
  exact ⟨tracks.1, tracks_below stack tracks.2, calling⟩

theorem restacked (placed : Placed natives start now (run natives now start).stack)
    (restacks : Restacks natives (run natives now start) after) :
    Placed natives start (now + 1) after := by
  have height {top : Activation ν} {below : List (Activation ν)}
      (stack : (run natives now start).stack = top :: below) :
      (run natives now start).depth ≤ below.length + 1 :=
    Nat.le_of_eq (congrArg List.length stack)
  cases restacks with
  | ended stack left =>
    obtain ⟨-, waiting, called⟩ := placed.split stack
    refine ⟨waiting.suffix left, fun frame member => ?_⟩
    exact called frame (left.mem (List.mem_of_mem_tail member))
  | resumed stack same =>
    obtain ⟨-, waiting, called⟩ := placed.split stack
    exact ⟨⟨same.current.trans waiting.1, waiting.2⟩,
      fun frame member => called frame (List.mem_cons_of_mem _ member)⟩
  | advanced idle stack done =>
    obtain ⟨here, waiting, called⟩ := placed.split stack
    refine ⟨⟨?_, waiting⟩, called⟩
    exact (Action.current_of_advance_ok done).trans (lastFetched_of_script idle stack here).symm
  | called idle stack done same begins =>
    obtain ⟨here, waiting, called⟩ := placed.split stack
    refine ⟨⟨tracks_begins begins (height stack), ?_, waiting⟩, fun frame member => ?_⟩
    · exact (same.current.trans (Action.current_of_advance_ok done)).trans
        (lastFetched_of_script idle stack here).symm
    · obtain ⟨⟨⟩⟩ | below := List.mem_cons.1 member
      · exact (Action.atCall_of_advance done).of_samePlace same
      · exact called frame below
  | dealt stack deals =>
    obtain ⟨-, waiting, called⟩ := placed.split stack
    exact ⟨⟨trivial, waiting⟩, called⟩
  | entered stack begins =>
    obtain ⟨-, waiting, called⟩ := placed.split stack
    refine ⟨⟨tracks_begins begins (height stack), trivial, waiting⟩, fun frame member => ?_⟩
    obtain ⟨⟨⟩⟩ | below := List.mem_cons.1 member
    exact called frame below
  | refused stack =>
    obtain ⟨-, waiting, -⟩ := placed.split stack
    refine ⟨?_, placed.calling⟩
    rw [stack]
    exact ⟨trivial, waiting⟩

theorem stuck (placed : Placed natives start now (run natives now start).stack)
    (stuck : (run natives now start).step natives = none) :
    Placed natives start (now + 1) (run natives now start).stack := by
  refine ⟨placed.tracks.imp fun activation rest left noted => ?_, placed.calling⟩
  cases activation with
  | native call => trivial
  | script frame =>
    refine noted.trans (lastFetched_of_other left.length_le fun place offset fetches => ?_).symm
    obtain ⟨frame, below, idle, stack, -⟩ := fetches?_eq_some fetches
    simp only [step, stepOr, idle, stack] at stuck
    cases stuck

theorem run (placed : Placed natives start 0 start.stack) (now : Nat) :
    Placed natives start now (run natives now start).stack := by
  induction now with
  | zero => exact placed
  | succ now ih =>
    rcases run_succ_cases now start with stepped | ⟨stuck, same⟩
    · exact ih.restacked (step_restacks stepped)
    · rw [same]
      exact ih.stuck stuck

theorem begin {activation : Activation ν} (begins : Begins natives activation)
    (stack : start.stack = [activation]) : Placed natives start 0 start.stack := by
  rw [stack]
  refine ⟨⟨?_, trivial⟩, fun frame member => by cases member⟩
  cases begins with
  | script first => exact first.1
  | native => trivial

end Placed

/-- The functions that run when an abort is raised are in their places. -/
theorem Raises.placed {abort : Abort} {live : List (Activation ν)}
    (raises : Raises natives (run natives now start) abort live)
    (placed : Placed natives start now (run natives now start).stack) :
    Placed natives start (now + 1) live := by
  cases raises with
  | instruction idle top failed =>
    obtain ⟨here, waiting, called⟩ := placed.split top
    refine ⟨⟨?_, waiting⟩, called⟩
    exact (Action.current_of_advance_error failed).trans (lastFetched_of_script idle top here).symm
  | entry idle top done script refused =>
    obtain ⟨here, waiting, called⟩ := placed.split top
    refine ⟨⟨?_, waiting⟩, called⟩
    exact (Action.current_of_advance_ok done).trans (lastFetched_of_script idle top here).symm
  | results idle top returned host waits missed =>
    obtain ⟨-, waiting, called⟩ := placed.split top
    exact ⟨waiting, fun frame member => called frame (List.mem_cons_of_mem _ member)⟩
  | nativeResults idle top returned missed =>
    obtain ⟨-, waiting, called⟩ := placed.split top
    exact ⟨waiting, fun frame member => called frame (List.mem_cons_of_mem _ member)⟩
  | native idle top failed fresh => exact placed.restacked (.refused top)
  | refused idle top refused => exact placed.restacked (.refused top)

end Fetching

end Machine
end GameScript
