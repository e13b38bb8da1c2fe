import GameScript.Proofs.CallDelivery
import GameScript.Proofs.StackDiscipline

/-! The protocol of a call as the calling frame sees it. While a routine runs, with whatever it
calls in turn, the frames below stay as they are and its results are what its return instructions
have stored. -/

namespace GameScript.Machine

variable {machine next : Machine ν} {natives : Natives ν} {activation : Activation ν}
  {lower below rest stack : List (Activation ν)} {callee waiting frame other : Frame}
  {results : List ResultSlot}

/-- An abort that takes off a routine called by an instruction takes off the caller as well. -/
theorem unwound_callee_length (waiting : Frame) (rest : List (Activation ν))
    (host : callee.host = none) :
    (unwound (.script callee :: .script waiting :: rest)).length ≤ rest.length := by
  rw [unwound, if_neg (by simp [host])]
  exact (unwound_script_suffix waiting rest).length_le

/-- An abort above a frame either is stopped there or goes on at the frame. -/
theorem unwindStack_append (abort : Abort) (heap : Heap) (upper : List (Activation ν)) :
    (∃ left, (unwindStack abort heap (upper ++ .script frame :: lower)).1 =
      left ++ .script frame :: lower) ∨
    ∃ other freed, unwindStack abort heap (upper ++ .script frame :: lower) =
      unwindStack other freed (.script frame :: lower) := by
  induction upper generalizing abort heap with
  | nil => exact .inr ⟨abort, heap, rfl⟩
  | cons activation upper ih =>
    cases activation with
    | native call => exact .inl ⟨.native call :: upper, rfl⟩
    | script inner =>
      rw [List.cons_append, unwindStack]
      cases inner.host with
      | some slots => exact .inl ⟨upper, rfl⟩
      | none => exact ih _ _

/-- What ran above a frame changed its registers and what it waits for at most, or an abort goes on at
the frame. -/
def Spared (frame : Frame) (lower : List (Activation ν)) (next : Machine ν) : Prop :=
  ∃ registers pending,
    (∃ upper, next.stack = upper ++ .script { frame with registers, pending } :: lower) ∨
    ∃ abort heap,
      next.stack =
        (unwindStack abort heap (.script { frame with registers, pending } :: lower)).1 ∧
      next.completed =
        some (unwindStack abort heap (.script { frame with registers, pending } :: lower)).2.2

namespace Spared

theorem still (upper : List (Activation ν)) (placed : machine.stack = upper ++ .script frame :: lower) :
    Spared frame lower machine :=
  ⟨frame.registers, frame.pending, .inl ⟨upper, placed⟩⟩

theorem unwind {abort : Abort} {registers : Banks} {pending : Option PendingCall}
    (upper : List (Activation ν))
    (placed : machine.stack = upper ++ .script { frame with registers, pending } :: lower) :
    Spared frame lower (machine.unwind abort) := by
  refine ⟨registers, pending, ?_⟩
  simp only [Machine.unwind, placed]
  rcases unwindStack_append abort machine.world.heap upper with stopped | ⟨other, freed, same⟩
  · exact .inl stopped
  · rw [same]
    exact .inr ⟨other, freed, rfl, rfl⟩

theorem resumeFrame {waits : Option PendingCall} {pending : PendingCall}
    {result : Except Abort (List ResultSlot)} {upper : List (Activation ν)}
    (placed : .script waiting :: below = upper ++ .script frame :: lower) :
    Spared frame lower
      (machine.resumeFrame { waiting with pending := waits } below pending result) := by
  rcases resumeFrame_cases machine { waiting with pending := waits } below pending result with
    ⟨_, _, -, -, -, same⟩ | ⟨_, _, -, same⟩ <;> rw [same]
  · cases upper with
    | nil =>
      cases placed
      exact ⟨_, waits, .inl ⟨[], rfl⟩⟩
    | cons _ upper => exact still (_ :: upper) (congrArg _ (List.cons.inj placed).2)
  · cases upper with
    | nil =>
      cases placed
      exact unwind [] rfl
    | cons _ upper => exact unwind (_ :: upper) (congrArg _ (List.cons.inj placed).2)

end Spared

theorem step_upper {upper : List (Activation ν)}
    (placed : machine.stack = activation :: (upper ++ .script frame :: lower))
    (stepped : machine.step natives = some next) : Spared frame lower next := by
  cases step_transition stepped with
  | proceeded _ top _ =>
    cases placed.symm.trans top
    exact .still (_ :: upper) rfl
  | aborted _ top _ =>
    cases placed.symm.trans top
    exact .unwind (_ :: upper) rfl
  | returnedToHost _ top _ _ =>
    cases placed.symm.trans top
    exact .still upper rfl
  | returnedToFrame _ top _ _ _ =>
    exact .resumeFrame (List.cons.inj (placed.symm.trans top)).2.symm
  | calledNative _ top _ _ =>
    cases placed.symm.trans top
    exact .still (_ :: _ :: upper) rfl
  | calledScript _ top _ _ _ =>
    cases placed.symm.trans top
    exact .still (_ :: _ :: upper) rfl
  | refusedScript _ top _ =>
    cases placed.symm.trans top
    exact .unwind (_ :: upper) rfl
  | finishedToHost _ top =>
    cases placed.symm.trans top
    exact .still upper rfl
  | finishedToFrame _ top => exact .resumeFrame (List.cons.inj (placed.symm.trans top)).2.symm
  | looked _ top =>
    cases placed.symm.trans top
    exact .still (_ :: upper) rfl
  | changed _ top =>
    cases placed.symm.trans top
    exact .still (_ :: upper) rfl
  | @entered _ id arguments slots _ _ _ _ _ =>
    rcases enter_cases machine natives id arguments slots with
      ⟨_, same⟩ | ⟨_, _, same⟩ | ⟨_, _, _, -, same⟩
    · rw [same]
      exact .still (_ :: upper) placed
    · rw [same]
      exact .still (_ :: _ :: upper) (congrArg _ placed)
    · rw [same]
      exact .still (_ :: _ :: upper) (congrArg _ placed)
  | took _ top =>
    cases placed.symm.trans top
    exact .still (_ :: upper) rfl
  | orphanedFrame _ top _ _ _ =>
    cases placed.symm.trans top
    exact .unwind upper rfl
  | orphanedNative _ top _ =>
    cases placed.symm.trans top
    exact .unwind upper rfl

/-- A routine entered by an instruction stands on `lower`, with these results so far. -/
def Above (lower : List (Activation ν)) (results : List ResultSlot) (stack : List (Activation ν)) :
    Prop :=
  ∃ upper callee, stack = upper ++ .script callee :: lower ∧ callee.host = none ∧
    callee.results = results

namespace Above

theorem first (host : callee.host = none) : Above lower callee.results (.script callee :: lower) :=
  ⟨[], callee, rfl, host, rfl⟩

theorem push (above : Above lower results stack) (activation : Activation ν) :
    Above lower results (activation :: stack) := by
  obtain ⟨upper, callee, rfl, host, same⟩ := above
  exact ⟨activation :: upper, callee, rfl, host, same⟩

theorem top_or_above (above : Above lower results (activation :: below)) :
    (∃ callee, activation = .script callee ∧ below = lower ∧ callee.host = none ∧
      callee.results = results) ∨ Above lower results below := by
  obtain ⟨upper, callee, placed, host, same⟩ := above
  cases upper with
  | nil =>
    cases placed
    exact .inl ⟨callee, rfl, rfl, host, same⟩
  | cons _ upper =>
    obtain ⟨-, rfl⟩ := List.cons.inj placed
    exact .inr ⟨upper, callee, rfl, host, same⟩

theorem length_lt (above : Above lower results stack) : lower.length < stack.length := by
  obtain ⟨upper, callee, rfl, -, -⟩ := above
  rw [List.length_append, List.length_cons]
  omega

/-- Whatever runs above the routine leaves its results alone, and an abort that takes the routine off
takes off its caller as well. -/
theorem step_inside (above : Above (.script waiting :: rest) results below)
    (placed : machine.stack = activation :: below) (stepped : machine.step natives = some next)
    (deeper : rest.length < next.depth) : Above (.script waiting :: rest) results next.stack := by
  obtain ⟨upper, callee, rfl, host, same⟩ := above
  obtain ⟨registers, pending, ⟨left, stack⟩ | ⟨abort, heap, stack, -⟩⟩ := step_upper placed stepped
  · exact ⟨left, _, stack, host, same⟩
  · rw [depth, stack, unwindStack_fst] at deeper
    exact absurd deeper (Nat.not_lt_of_le (unwound_callee_length waiting rest host))

end Above

theorem unwind_callee_depth {abort : Abort}
    (placed : machine.stack = .script callee :: .script waiting :: rest)
    (host : callee.host = none) : (machine.unwind abort).depth ≤ rest.length := by
  rw [depth, unwind_stack, placed]
  exact unwound_callee_length waiting rest host

/-- The step in which a routine returns to the frame that waits for it. -/
structure Returned (machine : Machine ν) (waiting : Frame) (rest : List (Activation ν))
    (pending : PendingCall) (results : List ResultSlot) (next : Machine ν) : Prop where
  idle : next.completed = none
  resumed : ∃ registers heap, Heap.Shrunk machine.world.heap heap ∧
    deliver waiting.registers 0 pending.targets results = .ok registers ∧
    (restore registers heap pending.writebacks).fault = none ∧
    next.stack = .script { waiting with
      pending := none
      registers := (restore registers heap pending.writebacks).registers } :: rest

theorem step_callee {pending : PendingCall} (waits : waiting.pending = some pending)
    (placed : machine.stack = .script callee :: .script waiting :: rest) (host : callee.host = none)
    (stepped : machine.step natives = some next) (deeper : rest.length < next.depth) :
    Above (.script waiting :: rest) (handOver callee.results callee.handing) next.stack ∨
      Returned machine waiting rest pending (handOver callee.results callee.handing) next := by
  cases step_transition stepped with
  | proceeded _ top advanced =>
    cases placed.symm.trans top
    obtain ⟨results, -⟩ := Action.advance_results advanced
    have same := Action.advance_sameActivation advanced
    exact .inl (results ▸ .first (same.host.trans host))
  | aborted _ top advanced =>
    cases placed.symm.trans top
    have same := Action.keeps_advance_error sameActivation_effects advanced
    exact absurd deeper (Nat.not_lt_of_le (unwind_callee_depth rfl (same.host.trans host)))
  | returnedToHost _ top advanced hosted =>
    cases placed.symm.trans top
    have same := Action.advance_sameActivation advanced
    cases hosted.symm.trans (same.host.trans host)
  | @returnedToFrame _ _ _ state _ idle top advanced _ expected =>
    cases placed.symm.trans top
    cases waits.symm.trans expected
    obtain ⟨results, world⟩ := Action.advance_results advanced
    -- the routine's own blocks go first; a cell that can be read after that is not one of them
    have shrunk : Heap.Shrunk machine.world.heap (released state.frame state.world).heap := by
      have kept : state.world = machine.world := world rfl
      rw [kept]
      exact Heap.shrunk_freeAll _ _
    right
    rw [← results]
    rcases resumeFrame_cases _ { waiting with pending := none } rest pending (.ok state.frame.results)
      with ⟨_, registers, ⟨⟩, delivered, sound, same⟩ | ⟨_, _, -, same⟩
    · exact ⟨by rw [same]; exact idle, registers, _, shrunk, delivered, sound, by rw [same]⟩
    · rw [same, depth, unwind_stack] at deeper
      exact absurd deeper (Nat.not_lt_of_le (unwound_script_suffix _ rest).length_le)
  | calledNative _ top advanced _ =>
    cases placed.symm.trans top
    obtain ⟨results, -⟩ := Action.advance_results advanced
    have same := Action.advance_sameActivation advanced
    exact .inl (results ▸ (Above.first (same.host.trans host)).push _)
  | calledScript _ top advanced _ _ =>
    cases placed.symm.trans top
    obtain ⟨results, -⟩ := Action.advance_results advanced
    have same := Action.advance_sameActivation advanced
    rw [← results]
    exact .inl ⟨[_], _, rfl, same.host.trans host, rfl⟩
  | refusedScript _ top advanced =>
    cases placed.symm.trans top
    have same := Action.advance_sameActivation advanced
    refine absurd deeper (Nat.not_lt_of_le (unwind_callee_depth rfl ?_))
    exact same.host.trans host
  | finishedToHost _ top => cases placed.symm.trans top
  | finishedToFrame _ top => cases placed.symm.trans top
  | looked _ top => cases placed.symm.trans top
  | changed _ top => cases placed.symm.trans top
  | entered _ top => cases placed.symm.trans top
  | took _ top => cases placed.symm.trans top
  | orphanedFrame _ top advanced _ alone =>
    cases placed.symm.trans top
    cases waits.symm.trans (alone waiting rest rfl)
  | orphanedNative _ top => cases placed.symm.trans top

def storing (level : Nat) (machine : Machine ν) : Option (Nat × Value) :=
  match machine.completed, machine.stack with
  | none, .script frame :: below => if below.length = level then frame.handing else none
  | _, _ => none

/-- What the frame above `level` others has stored for its caller in so many steps, in order. -/
def stores (natives : Natives ν) (level : Nat) (start : Machine ν) (count : Nat) :
    List (Nat × Value) :=
  (List.range count).filterMap fun now => (run natives now start).storing level

theorem stores_succ (level : Nat) (start : Machine ν) (count : Nat) :
    stores natives level start (count + 1) =
      stores natives level start count ++ ((run natives count start).storing level).toList := by
  rw [stores, List.range_succ, List.filterMap_append, ← stores]
  cases stored : (run natives count start).storing level <;> simp [stored]

variable {start : Machine ν} {pending : PendingCall} {banks : List Bank} {now : Nat}

theorem storing_deeper {level : Nat} (placed : machine.stack = activation :: below)
    (deeper : level < below.length) : machine.storing level = none := by
  unfold storing
  rw [placed]
  split
  next top =>
    cases top
    exact if_neg (Nat.ne_of_gt deeper)
  next => rfl

theorem storing_stuck {level : Nat} (stuck : machine.step natives = none) :
    machine.storing level = none := by
  unfold storing
  split
  next frame below idle top =>
    simp only [step, stepOr, idle, top] at stuck
    cases stuck
  next => rfl

theorem idle_of_step {frame : Frame} {next : Machine ν}
    (top : machine.stack = .script frame :: below) (stepped : machine.step natives = some next) :
    machine.completed = none := by
  cases ended : machine.completed with
  | none => rfl
  | some outcome =>
    simp only [step, stepOr, ended, top] at stepped
    cases stepped

/-- While a routine runs its results are what it has stored, until it returns them. -/
theorem Above.run_succ (waits : waiting.pending = some pending)
    (above : Above (.script waiting :: rest)
      (slotsAfter banks (stores natives (rest.length + 1) start now)) (run natives now start).stack)
    (deeper : rest.length < (run natives (now + 1) start).depth) :
    Above (.script waiting :: rest)
        (slotsAfter banks (stores natives (rest.length + 1) start (now + 1)))
        (run natives (now + 1) start).stack ∨
      Returned (run natives now start) waiting rest pending
        (slotsAfter banks (stores natives (rest.length + 1) start (now + 1)))
        (run natives (now + 1) start) := by
  rw [stores_succ, ← handOver_slotsAfter]
  generalize stores natives (rest.length + 1) start now = stored at above ⊢
  rcases run_succ_cases now start with stepped | ⟨stuck, same⟩
  · generalize (run natives (now + 1) start) = next at *
    generalize (run natives now start) = before at *
    cases stack : before.stack with
    | nil => cases (step_eq_none_of_stack_nil stack).symm.trans stepped
    | cons activation below =>
      rw [stack] at above
      rcases above.top_or_above with ⟨callee, rfl, rfl, host, held⟩ | inside
      · have handing : before.storing (rest.length + 1) = callee.handing := by
          simp only [storing, idle_of_step stack stepped, stack, List.length_cons, if_true]
        rw [handing, ← held]
        exact step_callee waits stack host stepped deeper
      · have none : before.storing (rest.length + 1) = none := storing_deeper stack inside.length_lt
        rw [none]
        exact .inl (inside.step_inside stack stepped deeper)
  · rw [storing_stuck stuck, same]
    exact .inl above

theorem Returned.depth_eq {next : Machine ν}
    (returned : Returned machine waiting rest pending results next) :
    next.depth = rest.length + 1 := by
  obtain ⟨_, _, -, -, -, stack⟩ := returned.resumed
  rw [depth, stack, List.length_cons]

/-- As long as no step takes it off, the routine stands on its caller. -/
theorem Above.while_running {count : Nat} (waits : waiting.pending = some pending)
    (above : Above (.script waiting :: rest)
      (slotsAfter banks (stores natives (rest.length + 1) start 1)) (run natives 1 start).stack)
    (running : ∀ now ≤ count, rest.length + 1 < (run natives (now + 1) start).depth) :
    Above (.script waiting :: rest)
      (slotsAfter banks (stores natives (rest.length + 1) start (count + 1)))
      (run natives (count + 1) start).stack := by
  induction count with
  | zero => exact above
  | succ count ih =>
    have high := running (count + 1) (Nat.le_refl _)
    have before := ih fun now bound => running now (Nat.le_succ_of_le bound)
    rcases before.run_succ waits (Nat.lt_of_succ_lt high) with further | returned
    · exact further
    · exact absurd returned.depth_eq (Nat.ne_of_gt high)

/-- A routine that is gone with its caller still there has returned to it. -/
theorem Above.returned {count : Nat} (waits : waiting.pending = some pending)
    (above : Above (.script waiting :: rest)
      (slotsAfter banks (stores natives (rest.length + 1) start 1)) (run natives 1 start).stack)
    (running : ∀ now < count, rest.length + 1 < (run natives (now + 1) start).depth)
    (back : (run natives (count + 1) start).depth = rest.length + 1) :
    Returned (run natives count start) waiting rest pending
      (slotsAfter banks (stores natives (rest.length + 1) start (count + 1)))
      (run natives (count + 1) start) := by
  cases count with
  | zero => exact absurd back (Nat.ne_of_gt above.length_lt)
  | succ count =>
    have last := above.while_running waits fun now bound => running now (Nat.lt_succ_of_le bound)
    rcases last.run_succ waits (by omega) with further | returned
    · exact absurd back (Nat.ne_of_gt further.length_lt)
    · exact returned

theorem called_script {caller : Frame} {request : Action.CallRequest ν} {state : Local}
    {routine : LinkedRoutine} (idle : machine.completed = none)
    (top : machine.stack = .script caller :: below)
    (called : Action.advance machine.setting ⟨caller, machine.world⟩ = .ok (.call request) state)
    (script : request.callee = .script routine)
    (deeper : below.length < (run natives 1 machine).depth) :
    Above (.script { state.frame with pending := some request.pending } :: below)
      (slotsAfter (request.pending.targets.map ResultTarget.bank) []) (run natives 1 machine).stack := by
  have first : run natives 1 machine =
      callFromFrame { machine with stack := .script state.frame :: below, world := state.world }
        natives state.frame below request := by
    simp only [run, step, stepOr, idle, top, stepFrame, called]
  rw [first] at deeper ⊢
  rw [slotsAfter_nil]
  simp only [callFromFrame, script] at deeper ⊢
  split at deeper
  next =>
    rw [depth, unwind_stack] at deeper
    exact absurd deeper (Nat.not_lt_of_le (unwound_script_suffix _ below).length_le)
  next callee heap entered =>
    obtain ⟨host, -, -, results, -⟩ := Frame.enter_eq_ok entered
    exact ⟨[], callee, rfl, host, results⟩

/-- A frame calls a routine and goes on behind the result markers when the routine has returned,
with the results stored last in the registers that the markers name and then the contents of the
cells in the registers that were passed by reference. The parameters are no longer staged; all else
is as it was. -/
theorem call_resumes_caller (natives : Natives ν) (machine : Machine ν) (caller : Frame)
    (below : List (Activation ν)) (w : Word) (request : Action.CallRequest ν) (state : Local)
    (routine : LinkedRoutine) (count : Nat) (idle : machine.completed = none)
    (top : machine.stack = .script caller :: below)
    (located : caller.routine.code[caller.pc]? = some w)
    (called : Action.advance machine.setting ⟨caller, machine.world⟩ = .ok (.call request) state)
    (script : request.callee = .script routine)
    (running : ∀ now < count, machine.depth < (run natives (now + 1) machine).depth)
    (back : (run natives (count + 1) machine).depth = machine.depth) :
    let stored := stores natives machine.depth machine (count + 1)
    let heap := (run natives count machine).world.heap
    let passed := (caller.staged.drop (caller.staged.length - w.b.toNat)).filterMap
      StagedParam.writeback
    w.b.toNat ≤ caller.staged.length ∧ Readable heap passed ∧
      ∃ targets registers, targets.length = w.c.toNat ∧
        Action.Markers caller (caller.pc + 1) targets ∧
        Updated (storedResults targets stored ++ cellContents heap passed) caller.registers
          registers ∧
        (run natives (count + 1) machine).completed = none ∧
        (run natives (count + 1) machine).stack = .script { caller with
          current := caller.pc
          pc := caller.pc + 1 + w.c.toNat
          staged := caller.staged.take (caller.staged.length - w.b.toNat)
          pending := none
          registers } :: below := by
  obtain ⟨word, _, _, found, -, -, made⟩ := Action.advance_call called
  cases located.symm.trans found
  have level : machine.depth = below.length + 1 := by
    rw [depth, top]
    rfl
  have deeper : ∀ now ≤ count, below.length < (run natives (now + 1) machine).depth := by
    intro now bound
    rcases Nat.lt_or_eq_of_le bound with earlier | rfl
    · have above := running now earlier
      omega
    · omega
  have silent : stores natives (below.length + 1) machine 1 = [] := by
    simp [stores, storing, idle, top]
  have above := called_script idle top called script (deeper 0 (Nat.zero_le count))
  rw [← silent] at above
  have returned := above.returned rfl (fun now bound => level ▸ running now bound) (back.trans level)
  rw [level]
  intro stored heap passed
  obtain ⟨completed, registers, freed, shrunk, delivered, sound, stack⟩ := returned
  have results := deliver_eq_ok delivered
  obtain ⟨readable, copied⟩ := restore_sound sound
  obtain ⟨cells, same⟩ := cellContents_of_shrunk shrunk readable
  rw [delivered_slotsAfter] at results
  generalize (restore registers freed request.pending.writebacks).registers = resumed at copied stack
  have updated := results.trans copied
  rw [← same, made.writebacks] at updated
  rw [made.writebacks] at cells
  refine ⟨made.available, cells, request.pending.targets, resumed, made.wanted,
    ⟨made.markers.inside, made.markers.named⟩, ?_, completed, ?_⟩
  · rw [made.left] at updated
    exact updated
  · rw [stack, made.left]
    rfl

def answering : LinkedRoutine where
  name := "answering"
  sourceFile := ""
  code := #[⟨0x00090001⟩, ⟨0x0000003c⟩, ⟨0x00050063⟩, ⟨0x00078063⟩]
  constants := ⟨#[0], #[], #[], #[]⟩
  layout := ⟨1, 0, 0, 1, 0, 0⟩
  lines := .empty

def asking : Frame where
  routine := {
    name := "asking"
    sourceFile := ""
    code := #[⟨0x0000205c⟩, ⟨0x0101005f⟩, ⟨0x00010061⟩, ⟨0x00ff8062⟩]
    constants := ⟨#[], #[], #[], #[.function ⟨0⟩]⟩
    layout := ⟨2, 0, 0, 0, 1, 0⟩
    lines := .empty }
  registers := ⟨#[0, 0], #[], #[], #[]⟩
  pc := 1
  current := 0
  staged := [⟨.pointer (.address ⟨⟨⟨0, 0⟩⟩, 0⟩), some ⟨.int, 0, ⟨⟨0, 0⟩⟩⟩⟩]
  extra := none
  pending := none
  results := []
  returned := 0
  host := some []

def asked : Machine Unit :=
  ⟨.standard, ⟨#[.script answering]⟩, { World.empty with heap := (Heap.empty.alloc 4).2 },
    [.script asking], none⟩

theorem call_resumes_caller_asking :
    let natives : Natives Unit := fun _ _ slots => .finish ⟨.ok 0, slots⟩
    ∃ targets registers, targets.length = 1 ∧
      Updated (storedResults targets [(0, .int 5), (0, .int 7)] ++ [⟨.int, 0, .int 9⟩])
        asking.registers registers ∧
      (run natives 5 asked).stack = [.script { asking with
        current := 1
        pc := 3
        staged := []
        pending := none
        registers }] := by
  intro natives
  have stored : stores natives 1 asked 5 = [(0, .int 5), (0, .int 7)] := by decide +kernel
  have cell : cellContents (run natives 4 asked).world.heap [⟨.int, 0, ⟨⟨0, 0⟩⟩⟩] =
      [⟨.int, 0, .int 9⟩] := by decide +kernel
  obtain ⟨-, -, targets, registers, wanted, -, updated, -, stack⟩ := call_resumes_caller natives
    asked asking [] ⟨0x0101005f⟩
    ⟨.script answering, [.pointer (.address ⟨⟨⟨0, 0⟩⟩, 0⟩)], [⟨.int, 1⟩], [⟨.int, 0, ⟨⟨0, 0⟩⟩⟩]⟩
    ⟨{ asking with pc := 3, current := 1, staged := [] }, asked.world⟩ answering 4 rfl rfl rfl rfl
    rfl (by decide +kernel) (by decide +kernel)
  exact ⟨targets, registers, wanted, stored ▸ cell ▸ updated, stack⟩

end GameScript.Machine
