import GameScript.Proofs.BlockAccounts

/-! Calls from outside are balanced: what frames allocate for themselves and for parameters passed
by reference is gone when the call has ended, whether it returned or aborted, and nothing else is.
While frames run, every block beyond the ones there were is owned by one of them. Native functions
may do anything meanwhile, as long as each of them leaves the blocks there are as it found them. -/

namespace GameScript

def Activation.isNative : Activation ν → Bool
  | .script _ => false
  | .native _ => true

namespace Machine

variable {machine next : Machine ν} {natives : Natives ν} {base : List (Activation ν)}
  {held : Handle → Prop} {frame : Frame} {rest frames : List Frame}

/-- The frames of a call are running and own all blocks that are not held. -/
structure FramesRun (base : List (Activation ν)) (held : Handle → Prop) (frame : Frame)
    (rest : List Frame) (machine : Machine ν) : Prop where
  idle : machine.completed = none
  stack : machine.stack = .script frame :: (rest.map .script ++ base)
  based : Based (frame :: rest)
  rests : frame.pending = none
  accounted : Accounted held (frame.owned ++ rest.flatMap Frame.owned) machine.world.heap

structure Over (base : List (Activation ν)) (held : Handle → Prop) (machine : Machine ν) : Prop where
  ended : machine.completed.isSome
  stack : machine.stack = base
  accounted : Accounted held [] machine.world.heap

def Settled (base : List (Activation ν)) (held : Handle → Prop) (machine : Machine ν) : Prop :=
  Over base held machine ∨ ∃ frame rest, FramesRun base held frame rest machine

inductive CalledFrom : Option PendingCall → List Frame → Prop where
  | outside : CalledFrom none []
  | frame {pending frame rest} (based : Based (frame :: rest)) (rests : frame.pending = none) :
      CalledFrom (some pending) (frame :: rest)

theorem over_unwind {abort : Abort} (stack : machine.stack = .script frame :: (rest.map .script ++ base))
    (based : Based (frame :: rest))
    (accounted : Accounted held (frame.owned ++ rest.flatMap Frame.owned) machine.world.heap) :
    Over base held (machine.unwind abort) := by
  obtain ⟨left, heap⟩ := unwindStack_based based abort machine.world.heap
  rw [List.map_cons, List.cons_append, ← stack] at left heap
  refine ⟨rfl, left, ?_⟩
  change Accounted held [] (unwindStack abort machine.world.heap machine.stack).2.1
  rw [heap]
  exact Accounted.freeAll (by rwa [List.append_nil])

theorem released_size (frame : Frame) (world : World) :
    (released frame world).heap.blocks.entries.size = world.heap.blocks.entries.size :=
  Heap.freeAll_size frame.owned

theorem resumeFrame_size (machine : Machine ν) (frame : Frame) (below : List (Activation ν))
    (pending : PendingCall) (result : Except Abort (List ResultSlot)) :
    (machine.resumeFrame frame below pending result).world.heap.blocks.entries.size =
      machine.world.heap.blocks.entries.size := by
  rcases resumeFrame_cases machine frame below pending result with
    ⟨_, _, -, -, -, same⟩ | ⟨_, _, -, same⟩
  · rw [same, restore_heap, Heap.freeAll_size]
  · rw [same, unwind_size, restore_heap, Heap.freeAll_size]

/-- The cells of a call are freed when it is over, whatever becomes of the frame. -/
theorem settled_resumeFrame {pending : PendingCall} {result : Except Abort (List ResultSlot)}
    (idle : machine.completed = none) (based : Based (frame :: rest)) (rests : frame.pending = none)
    (accounted : Accounted held
      (pendingCells (some pending) ++ (frame.owned ++ rest.flatMap Frame.owned))
      machine.world.heap) :
    Settled base held (machine.resumeFrame frame (rest.map .script ++ base) pending result) := by
  have freed : ∀ registers, Accounted held (frame.owned ++ rest.flatMap Frame.owned)
      (restore registers machine.world.heap pending.writebacks).heap := by
    intro registers
    rw [restore_heap]
    exact accounted.freeAll
  rcases resumeFrame_cases machine frame (rest.map .script ++ base) pending result with
    ⟨_, registers, -, -, -, same⟩ | ⟨_, start, -, same⟩
  · rw [same]
    exact .inr ⟨_, rest, idle, rfl, based.swap rfl, rests, freed registers⟩
  · rw [same]
    exact .inl (over_unwind rfl (based.swap rfl) (freed start))

/-- A native function runs for the call, and all blocks are accounted for. -/
structure NativeRuns (base : List (Activation ν)) (held : Handle → Prop)
    (call : NativeCall ν) (frames : List Frame) (machine : Machine ν) : Prop where
  idle : machine.completed = none
  stack : machine.stack = .native call :: (frames.map .script ++ base)
  caller : CalledFrom call.caller frames
  accounted : Accounted held (pendingCells call.caller ++ frames.flatMap Frame.owned)
    machine.world.heap

/-- A frame that calls keeps the cells of the parameters until the call is over. -/
theorem FramesRun.waiting (running : FramesRun base held frame rest machine)
    {request : Action.CallRequest ν} {state : Local}
    (advanced : Action.advance machine.setting ⟨frame, machine.world⟩ = .ok (.call request) state) :
    Based ({ state.frame with pending := some request.pending } :: rest) ∧
      Accounted held
        ({ state.frame with pending := some request.pending }.owned ++ rest.flatMap Frame.owned)
        state.world.heap := by
  obtain ⟨-, -, based, rests, accounted⟩ := running
  obtain ⟨_, _, _, -, -, -, called⟩ := Action.advance_call advanced
  have same := Action.advance_sameActivation advanced
  have heap : state.world.heap = machine.world.heap := by rw [called.left]; rfl
  have cleared : { state.frame with pending := none } = state.frame := by
    rw [← same.pending.trans rests]
  have split : ({ state.frame with pending := some request.pending } : Frame).owned.Perm
      (pendingCells (some request.pending) ++ { state.frame with pending := none }.owned) :=
    Frame.owned_waiting rfl
  rw [cleared] at split
  refine ⟨based.swap same.host, ?_⟩
  rw [heap]
  exact accounted.perm ((called.owned.trans split.symm).append_right _)

theorem FramesRun.step (running : FramesRun base held frame rest machine)
    (stepped : machine.step natives = some next) (indexed : next.world.heap.blocks.Indexed) :
    Settled base held next ∨ ∃ call other, NativeRuns base held call (other :: rest) next := by
  obtain ⟨idle, stack, based, rests, accounted⟩ := running
  cases step_transition stepped with
  | @proceeded _ _ state _ top advanced =>
    cases stack.symm.trans top
    have stages := Action.keeps_advance_ok stages_effects (by simp) advanced
    exact .inl (.inr ⟨state.frame, rest, idle, rfl, based.swap stages.same.host,
      stages.same.pending.trans rests, stages.accounted indexed accounted⟩)
  | @aborted _ _ state _ _ top advanced =>
    cases stack.symm.trans top
    have stages := Action.keeps_advance_error stages_effects advanced
    rw [Arena.Indexed, unwind_size] at indexed
    exact .inl (.inl (over_unwind rfl (based.swap stages.same.host)
      (stages.accounted indexed accounted)))
  | @returnedToHost _ _ state slots _ top advanced host =>
    cases stack.symm.trans top
    have stages := Action.keeps_advance_ok stages_effects (by simp) advanced
    cases based.alone (stages.same.host.symm.trans host)
    have bounded : state.world.heap.blocks.Indexed :=
      Nat.le_trans (Nat.le_of_eq (released_size state.frame state.world).symm) indexed
    exact .inl (.inl ⟨rfl, rfl, (stages.accounted bounded accounted).freeAll⟩)
  | @returnedToFrame inner caller below state pending _ top advanced host waiting =>
    obtain ⟨⟨⟩, shape⟩ := List.cons.inj (stack.symm.trans top)
    have stages := Action.keeps_advance_ok stages_effects (by simp) advanced
    have bounded : state.world.heap.blocks.Indexed := by
      rwa [Arena.Indexed, resumeFrame_size, released_size] at indexed
    have left := based.caller (stages.same.host.symm.trans host)
    cases rest with
    | nil => exact left.elim
    | cons other rest =>
      cases shape
      have freed : Accounted held (caller.owned ++ rest.flatMap Frame.owned)
          (released state.frame state.world).heap := (stages.accounted bounded accounted).freeAll
      have split := (Frame.owned_waiting waiting).append_right (rest.flatMap Frame.owned)
      rw [List.append_assoc] at split
      exact .inl (settled_resumeFrame idle (left.swap rfl) rfl (freed.perm split))
  | @calledNative _ _ state request name function _ top advanced callee =>
    cases stack.symm.trans top
    obtain ⟨_, _, _, -, -, -, called⟩ := Action.advance_call advanced
    have same := Action.advance_sameActivation advanced
    have split := called.owned.append_right (rest.flatMap Frame.owned)
    rw [List.append_assoc] at split
    have heap : state.world.heap = machine.world.heap := by rw [called.left]; rfl
    exact .inr ⟨_, state.frame, idle, rfl,
      .frame (based.swap same.host) (same.pending.trans rests), heap ▸ accounted.perm split⟩
  | @calledScript _ _ state request routine callee heap _ top advanced script entered =>
    cases stack.symm.trans top
    obtain ⟨host, waits, -⟩ := Frame.enter_eq_ok entered
    have waiting := FramesRun.waiting ⟨idle, stack, based, rests, accounted⟩ advanced
    exact .inl (.inr ⟨callee, _ :: rest, idle, rfl, ⟨host, waiting.1⟩, waits,
      waiting.2.trans (.enter entered indexed)⟩)
  | @refusedScript _ _ state request _ _ _ top advanced _ _ =>
    cases stack.symm.trans top
    have waiting := FramesRun.waiting ⟨idle, stack, based, rests, accounted⟩ advanced
    exact .inl (.inl (over_unwind rfl waiting.1 waiting.2))
  | finishedToHost _ top => cases stack.symm.trans top
  | finishedToFrame _ top => cases stack.symm.trans top
  | looked _ top => cases stack.symm.trans top
  | changed _ top => cases stack.symm.trans top
  | entered _ top => cases stack.symm.trans top
  | took ended _ => cases idle.symm.trans ended
  | @orphanedFrame _ _ state _ top advanced host _ =>
    cases stack.symm.trans top
    have stages := Action.keeps_advance_ok stages_effects (by simp) advanced
    have bounded : state.world.heap.blocks.Indexed := by
      rwa [Arena.Indexed, unwind_size, released_size] at indexed
    have left := based.caller (stages.same.host.symm.trans host)
    cases rest with
    | nil => exact left.elim
    | cons caller rest =>
      exact .inl (.inl (over_unwind rfl left (stages.accounted bounded accounted).freeAll))
  | orphanedNative _ top => cases stack.symm.trans top

theorem NativeRuns.finish {name : String} {outcome : Outcome} {caller : Option PendingCall}
    (runs : NativeRuns base held ⟨name, .finish outcome, caller⟩ frames machine)
    (stepped : machine.step natives = some next) : Settled base held next := by
  obtain ⟨idle, stack, called, accounted⟩ := runs
  simp only [step, stepOr, idle, stack, stepNative, finishNative, Option.some.injEq] at stepped
  cases called with
  | outside =>
    cases stepped
    exact .inl ⟨rfl, rfl, accounted⟩
  | frame based rests =>
    cases stepped
    exact settled_resumeFrame rfl based rests accounted

/-- A native function above `under` has not returned yet: it runs, or waits for a call of its own. -/
def Attending (name : String) (caller : Option PendingCall) (under : List (Activation ν))
    (machine : Machine ν) : Prop :=
  (machine.completed = none ∧
    ∃ behaviour, machine.stack = .native ⟨name, behaviour, caller⟩ :: under) ∨
  ∃ id arguments slots resume,
    Disciplined (.native ⟨name, .call id arguments slots resume, caller⟩ :: under) machine

variable {name : String} {caller : Option PendingCall} {under : List (Activation ν)}

theorem Attending.length_lt (attending : Attending name caller under machine) :
    under.length < machine.depth := by
  rcases attending with ⟨-, _, stack⟩ | ⟨_, _, _, _, disciplined⟩
  · rw [depth, stack]
    exact Nat.lt_succ_self _
  · exact disciplined.length_le

theorem Attending.step (attending : Attending name caller under machine)
    (stepped : machine.step natives = some next) :
    Attending name caller under next ∨ (machine.completed = none ∧
      ∃ outcome, machine.stack = .native ⟨name, .finish outcome, caller⟩ :: under) := by
  rcases attending with ⟨idle, behaviour, stack⟩ | ⟨id, arguments, slots, resume, disciplined⟩
  · cases behaviour with
    | finish outcome => exact .inr ⟨idle, outcome, stack⟩
    | look following =>
      simp only [Machine.step, stepOr, idle, stack, stepNative, Option.some.injEq] at stepped
      subst stepped
      exact .inl (.inl ⟨rfl, _, rfl⟩)
    | change library world following =>
      simp only [Machine.step, stepOr, idle, stack, stepNative, Option.some.injEq] at stepped
      subst stepped
      exact .inl (.inl ⟨rfl, _, rfl⟩)
    | call id arguments slots resume =>
      simp only [Machine.step, stepOr, idle, stack, stepNative, Option.some.injEq] at stepped
      subst stepped
      exact .inl (.inr ⟨id, arguments, slots, resume,
        disciplined_enter idle (.inl stack) id arguments slots⟩)
  · rcases Nat.lt_or_ge (under.length + 1) machine.depth with running | gone
    · exact .inl (.inr ⟨id, arguments, slots, resume, disciplined.step running stepped⟩)
    · obtain ⟨stack, ended⟩ := disciplined.ended gone
      obtain ⟨outcome, ended⟩ := Option.isSome_iff_exists.1 ended
      simp only [Machine.step, stepOr, ended, stack, endCall_nested stack, Option.some.injEq]
        at stepped
      subst stepped
      exact .inl (.inl ⟨rfl, _, rfl⟩)

/-- A native function is called after `first` steps and about to return after `last`. -/
def NativeSpan (natives : Natives ν) (start : Machine ν) (first last : Nat) : Prop :=
  ∃ name behaviour outcome caller under, first ≤ last ∧
    (∀ earlier, first = earlier + 1 → (run natives earlier start).depth ≤ under.length) ∧
    (run natives first start).stack = .native ⟨name, behaviour, caller⟩ :: under ∧
    (∀ between, first ≤ between → between ≤ last →
      under.length < (run natives between start).depth) ∧
    (run natives last start).completed = none ∧
    (run natives last start).stack = .native ⟨name, .finish outcome, caller⟩ :: under

structure WithinNative (natives : Natives ν) (start : Machine ν) (base : List (Activation ν))
    (held : Handle → Prop) (call : NativeCall ν) (frames : List Frame) (first now : Nat) : Prop where
  since : first ≤ now
  fresh : ∀ earlier, first = earlier + 1 →
    (run natives earlier start).depth ≤ (frames.map Activation.script ++ base).length
  called : NativeRuns base held call frames (run natives first start)
  above : ∀ between, first ≤ between → between ≤ now →
    (frames.map Activation.script ++ base).length < (run natives between start).depth
  attending : Attending call.name call.caller (frames.map .script ++ base) (run natives now start)

def Balanced (natives : Natives ν) (start : Machine ν) (base : List (Activation ν))
    (held : Handle → Prop) (now : Nat) : Prop :=
  Settled base held (run natives now start) ∨
    ∃ call frames first, WithinNative natives start base held call frames first now

variable {start : Machine ν} {call : NativeCall ν} {first now : Nat}

theorem NativeRuns.within (runs : NativeRuns base held call frames (run natives now start))
    (fresh : ∀ earlier, now = earlier + 1 →
      (run natives earlier start).depth ≤ (frames.map Activation.script ++ base).length) :
    WithinNative natives start base held call frames now now where
  since := Nat.le_refl now
  fresh := fresh
  called := runs
  above between after before := by
    cases Nat.le_antisymm after before
    rw [depth, runs.stack]
    exact Nat.lt_succ_self _
  attending := .inl ⟨runs.idle, _, runs.stack⟩

theorem WithinNative.succ (within : WithinNative natives start base held call frames first now)
    (attending : Attending call.name call.caller (frames.map .script ++ base)
      (run natives (now + 1) start)) :
    WithinNative natives start base held call frames first (now + 1) where
  since := Nat.le_succ_of_le within.since
  fresh := within.fresh
  called := within.called
  above between after before := by
    rcases Nat.lt_or_eq_of_le before with earlier | rfl
    · exact within.above between after (Nat.le_of_lt_succ earlier)
    · exact attending.length_lt
  attending := attending

/-- A native function that keeps the blocks returns with the accounts it was called with. -/
theorem WithinNative.returns {outcome : Outcome}
    (within : WithinNative natives start base held call frames first now)
    (idle : (run natives now start).completed = none)
    (stack : (run natives now start).stack =
      .native ⟨call.name, .finish outcome, call.caller⟩ :: (frames.map .script ++ base))
    (kept : NativeSpan natives start first now → ∀ handle,
      (run natives now start).world.heap.blocks.Live handle ↔
        (run natives first start).world.heap.blocks.Live handle) :
    NativeRuns base held ⟨call.name, .finish outcome, call.caller⟩ frames (run natives now start) where
  idle := idle
  stack := stack
  caller := within.called.caller
  accounted := within.called.accounted.congr (kept ⟨call.name, call.behaviour, outcome, call.caller,
    _, within.since, within.fresh, within.called.stack, within.above, idle, stack⟩)

theorem Balanced.succ (balanced : Balanced natives start base held now)
    (running : base.length < (run natives now start).depth)
    (indexed : (run natives (now + 1) start).world.heap.blocks.Indexed)
    (kept : ∀ first, NativeSpan natives start first now → ∀ handle,
      (run natives now start).world.heap.blocks.Live handle ↔
        (run natives first start).world.heap.blocks.Live handle) :
    Balanced natives start base held (now + 1) := by
  rcases run_succ_cases now start with stepped | ⟨-, same⟩
  · rcases balanced with (gone | ⟨frame, rest, frames⟩) | ⟨call, frames, first, within⟩
    · exact absurd (congrArg List.length gone.stack) (Nat.ne_of_gt running)
    · rcases frames.step stepped indexed with settled | ⟨call, other, runs⟩
      · exact .inl settled
      · refine .inr ⟨call, other :: rest, now + 1, runs.within fun earlier same => ?_⟩
        cases same
        rw [depth, frames.stack]
        exact Nat.le_refl _
    · rcases within.attending.step stepped with attending | ⟨idle, outcome, stack⟩
      · exact .inr ⟨call, frames, first, within.succ attending⟩
      -- what the native function did since `first` comes to nothing, so the accounts of then hold
      · exact .inl ((within.returns idle stack (kept first)).finish stepped)
  · rcases balanced with settled | ⟨call, frames, first, within⟩
    · rw [Balanced, same]
      exact .inl settled
    · exact .inr ⟨call, frames, first, within.succ (same ▸ within.attending)⟩

theorem balanced_enter (idle : machine.completed = none) (id : FunctionId) (arguments : List Value)
    (slots : List ResultSlot)
    (indexed : (machine.enter natives id arguments slots).world.heap.blocks.Indexed) :
    Balanced natives (machine.enter natives id arguments slots) machine.stack
      machine.world.heap.blocks.Live 0 := by
  rcases enter_cases machine natives id arguments slots with
    ⟨_, same⟩ | ⟨_, _, same⟩ | ⟨_, frame, _, entered, same⟩
  · rw [same]
    exact .inl (.inl ⟨rfl, rfl, .none _⟩)
  · rw [same]
    refine .inr ⟨_, [], 0, NativeRuns.within ⟨idle, rfl, .outside, .none _⟩ ?_⟩
    simp
  · rw [same] at indexed ⊢
    obtain ⟨host, rests, -⟩ := Frame.enter_eq_ok entered
    refine .inl (.inr ⟨frame, [], idle, rfl, ?_, rests, ?_⟩)
    · rw [Based, host]
      rfl
    · rw [List.flatMap_nil, List.append_nil]
      exact .enter entered indexed

/-- A call from outside, at the bottom or by a native function, has ended after `count` steps and
not before. -/
structure CallEnds (natives : Natives ν) (machine : Machine ν) (id : FunctionId)
    (arguments : List Value) (slots : List ResultSlot) (count : Nat) : Prop where
  running : ∀ earlier < count,
    machine.depth < (run natives earlier (machine.enter natives id arguments slots)).depth
  ended : (run natives count (machine.enter natives id arguments slots)).depth ≤ machine.depth

theorem run_eq_of_stack_nil {count more : Nat} (empty : (run natives count start).stack = [])
    (later : count ≤ more) : run natives more start = run natives count start := by
  obtain ⟨extra, rfl⟩ := Nat.exists_eq_add_of_le later
  rw [run_add, run_stuck (step_eq_none_of_stack_nil empty)]

theorem callEnds_of_stack_nil {id : FunctionId} {arguments : List Value} {slots : List ResultSlot}
    {fuel : Nat} (empty : machine.stack = [])
    (finished : (run natives fuel (machine.enter natives id arguments slots)).stack = []) :
    ∃ count ≤ fuel, CallEnds natives machine id arguments slots count := by
  have bottom : machine.depth = 0 := by simp [depth, empty]
  induction fuel with
  | zero =>
    refine ⟨0, Nat.le_refl 0, fun _ below => absurd below (Nat.not_lt_zero _), ?_⟩
    rw [depth, finished]
    exact Nat.zero_le _
  | succ fuel ih =>
    by_cases earlier : (run natives fuel (machine.enter natives id arguments slots)).stack = []
    · obtain ⟨count, bound, ends⟩ := ih earlier
      exact ⟨count, Nat.le_succ_of_le bound, ends⟩
    · refine ⟨fuel + 1, Nat.le_refl _, fun now below => ?_, ?_⟩
      · rw [bottom]
        refine List.length_pos_iff.2 fun gone => earlier ?_
        rw [run_eq_of_stack_nil gone (Nat.le_of_lt_succ below), gone]
      · rw [depth, finished]
        exact Nat.zero_le _

/-- What a call gives a caller at the bottom is how it ended. -/
theorem call_eq_some {id : FunctionId} {arguments : List Value} {slots : List ResultSlot}
    {fuel : Nat} {outcome : Outcome} {after : Machine ν} (empty : machine.stack = [])
    (called : machine.call natives fuel id arguments slots = some (outcome, after)) :
    ∃ count ≤ fuel, CallEnds natives machine id arguments slots count ∧
      (run natives count (machine.enter natives id arguments slots)).completed = some outcome ∧
      after = (run natives count (machine.enter natives id arguments slots)).endCall
        machine.depth outcome := by
  simp only [Machine.call] at called
  split at called
  next finished ended =>
    cases called
    obtain ⟨count, bound, ends⟩ := callEnds_of_stack_nil empty finished
    have gone : (run natives count (machine.enter natives id arguments slots)).stack = [] := by
      have below := ends.ended
      rw [depth, depth, empty] at below
      exact List.eq_nil_of_length_eq_zero (Nat.le_zero.1 below)
    have same := run_eq_of_stack_nil gone bound
    rw [same] at ended
    exact ⟨count, bound, ends, ended, by rw [same]⟩
  next => cases called

/-- However a call ends, the stack is as it was, and so is the set of live blocks if the native
functions called meanwhile leave it as they find it. An index has 32 bits: `indexed` says that no
two slots share one, without which a new block could have the handle of an old one. -/
theorem call_restores_blocks (natives : Natives ν) (machine : Machine ν) (id : FunctionId)
    (arguments : List Value) (slots : List ResultSlot) (count : Nat)
    (idle : machine.completed = none) (ends : CallEnds natives machine id arguments slots count)
    (indexed : ∀ now ≤ count, (run natives now
      (machine.enter natives id arguments slots)).world.heap.blocks.Indexed)
    (kept : ∀ first last, last < count →
      NativeSpan natives (machine.enter natives id arguments slots) first last → ∀ handle,
        (run natives last (machine.enter natives id arguments slots)).world.heap.blocks.Live handle ↔
          (run natives first
            (machine.enter natives id arguments slots)).world.heap.blocks.Live handle) :
    let ended := run natives count (machine.enter natives id arguments slots)
    ended.stack = machine.stack ∧ ended.completed.isSome ∧
      ∀ handle, ended.world.heap.blocks.Live handle ↔ machine.world.heap.blocks.Live handle := by
  have balanced : ∀ now ≤ count, Balanced natives (machine.enter natives id arguments slots)
      machine.stack machine.world.heap.blocks.Live now := by
    intro now bound
    induction now with
    | zero => exact balanced_enter idle id arguments slots (indexed 0 bound)
    | succ now ih =>
      exact (ih (Nat.le_of_succ_le bound)).succ (ends.running now bound) (indexed (now + 1) bound)
        fun first => kept first now bound
  rcases balanced count (Nat.le_refl count) with (gone | ⟨frame, rest, frames⟩) | ⟨_, _, _, within⟩
  · exact ⟨gone.stack, gone.ended, fun handle => (gone.accounted.live handle).trans (by simp)⟩
  · have deeper := ends.ended
    rw [depth, frames.stack] at deeper
    simp only [List.length_cons, List.length_append] at deeper
    exact absurd deeper (by rw [depth]; omega)
  · have above := within.attending.length_lt
    have deeper := ends.ended
    rw [List.length_append] at above
    exact absurd deeper (by rw [depth, depth] at *; omega)

def passing : LinkedRoutine where
  name := "passing"
  sourceFile := ""
  code := #[⟨0x0000205c⟩, ⟨0x0001005f⟩, ⟨0x00ff8062⟩]
  constants := ⟨#[], #[], #[], #[.function ⟨0⟩]⟩
  layout := ⟨1, 0, 0, 0, 1, 16⟩
  lines := .empty

/-- The routine has memory of its own and makes a cell for a native function, which keeps the
blocks there are. -/
theorem call_restores_blocks_passing :
    let natives : Natives Unit := fun _ _ slots => .finish ⟨.ok 0, slots⟩
    let machine : Machine Unit :=
      ⟨.standard, ⟨#[.native "seen" (), .script passing]⟩, .empty, [], none⟩
    let after := fun count => run natives count (machine.enter natives ⟨1⟩ [] [])
    (after 2).world.heap.blocks.live = 2 ∧ (after 4).stack = machine.stack ∧
      (after 4).completed.isSome ∧
      ∀ handle, (after 4).world.heap.blocks.Live handle ↔ machine.world.heap.blocks.Live handle := by
  intro natives machine after
  have native : ∀ now < 4, (after now).stack.head?.any Activation.isNative = decide (now = 2) := by
    decide +kernel
  refine ⟨by decide +kernel, call_restores_blocks natives machine ⟨1⟩ [] [] 4 rfl
    ⟨by decide +kernel, by decide +kernel⟩ (by unfold Arena.Indexed; decide +kernel) ?_⟩
  rintro first last bound ⟨_, _, _, _, _, order, -, called, -, -, returns⟩ handle
  have atFirst := native first (Nat.lt_of_le_of_lt order bound)
  have atLast := native last bound
  rw [called] at atFirst
  rw [returns] at atLast
  have same : first = last := (of_decide_eq_true atFirst.symm).trans (of_decide_eq_true atLast.symm).symm
  rw [same]

end Machine
end GameScript
