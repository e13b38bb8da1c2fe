import GameScript.Proofs.StackDiscipline

/-! Who accounts for the blocks of memory. Relative to the blocks of some earlier state, the ones
there are now are those and the ones that frames own: their own memory and the cells they have
staged or passed on. Ownership moves between the parts of a frame; a block leaves the account only
when it is freed. -/

namespace GameScript

theorem BlockId.mk_eq_iff {handle : Handle} {block : BlockId} :
    (⟨handle⟩ : BlockId) = block ↔ handle = block.handle := by
  cases block
  simp

/-- The live blocks are the `held` ones and, apart from them, the `owned` ones, each once. -/
structure Accounted (held : Handle → Prop) (owned : List BlockId) (heap : Heap) : Prop where
  unique : owned.Nodup
  apart : ∀ block ∈ owned, ¬held block.handle
  live : ∀ handle, heap.blocks.Live handle ↔ held handle ∨ ⟨handle⟩ ∈ owned

namespace Accounted

variable {held : Handle → Prop} {owned other blocks : List BlockId} {heap after : Heap}

theorem none (heap : Heap) : Accounted heap.blocks.Live [] heap :=
  ⟨.nil, by simp, by simp⟩

theorem perm (accounted : Accounted held owned heap) (same : owned.Perm other) :
    Accounted held other heap where
  unique := same.nodup accounted.unique
  apart block member := accounted.apart block (same.mem_iff.2 member)
  live handle := (accounted.live handle).trans (or_congr_right same.mem_iff)

theorem congr (accounted : Accounted held owned heap)
    (same : ∀ handle, after.blocks.Live handle ↔ heap.blocks.Live handle) :
    Accounted held owned after :=
  { accounted with live := fun handle => (same handle).trans (accounted.live handle) }

/-- What is new on top of an accounted state is apart from all that state has. -/
theorem trans (accounted : Accounted held owned heap)
    (added : Accounted heap.blocks.Live blocks after) : Accounted held (blocks ++ owned) after where
  unique := by
    refine List.nodup_append.2 ⟨added.unique, accounted.unique, fun block member other owns same => ?_⟩
    subst same
    exact added.apart block member ((accounted.live block.handle).2 (.inr owns))
  apart block member := by
    intro holds
    rcases List.mem_append.1 member with isNew | owns
    · exact added.apart block isNew ((accounted.live block.handle).2 (.inl holds))
    · exact accounted.apart block owns holds
  live handle := by
    rw [added.live, accounted.live, List.mem_append, or_assoc]
    exact or_congr_right or_comm

theorem alloc (heap : Heap) (size : UInt32) (indexed : (heap.alloc size).2.blocks.Indexed) :
    Accounted heap.blocks.Live [(heap.alloc size).1] (heap.alloc size).2 := by
  obtain ⟨fresh, others⟩ := Heap.alloc_spec heap size indexed
  refine ⟨by simp, by simpa using fresh, fun handle => ?_⟩
  rw [Arena.Live, others, List.mem_singleton]
  split
  next same => simp [same]
  next differs => simp [BlockId.mk_eq_iff, differs, Arena.Live]

theorem box {value : Value} {cell : BlockId} (boxed : heap.box value = .ok (cell, after))
    (indexed : after.blocks.Indexed) : Accounted heap.blocks.Live [cell] after := by
  obtain ⟨fresh, live⟩ := Heap.box_eq_ok boxed indexed
  refine ⟨by simp, by simpa using fresh, fun handle => ?_⟩
  rw [live, List.mem_singleton, BlockId.mk_eq_iff, or_comm]

/-- A block leaves the account by being freed. -/
theorem freeIfLive {block : BlockId} (accounted : Accounted held (block :: owned) heap) :
    Accounted held owned (heap.freeIfLive block) := by
  obtain ⟨absent, unique⟩ := List.nodup_cons.1 accounted.unique
  obtain ⟨freed, -, -⟩ := Heap.freeIfLive_spec heap block
  refine ⟨unique, fun other member => accounted.apart other (.tail _ member), fun handle => ?_⟩
  rw [Arena.Live, freed]
  split
  next same =>
    subst same
    have free := accounted.apart block (.head _)
    simp [free, absent]
  next differs =>
    rw [← Arena.Live, accounted.live, List.mem_cons, BlockId.mk_eq_iff, or_iff_right differs]

theorem freeAll (accounted : Accounted held (blocks ++ owned) heap) :
    Accounted held owned (blocks.foldl Heap.freeIfLive heap) := by
  induction blocks generalizing heap with
  | nil => exact accounted
  | cons block blocks ih => exact ih accounted.freeIfLive

end Accounted

namespace Heap

variable {heap after : Heap} {block : BlockId}

@[simp] theorem freeIfLive_size : (heap.freeIfLive block).blocks.entries.size =
    heap.blocks.entries.size := by
  unfold freeIfLive
  split
  next freed => exact (free_eq_ok freed).2.2.2.2
  next => rfl

@[simp] theorem freeAll_size (blocks : List BlockId) :
    (blocks.foldl Heap.freeIfLive heap).blocks.entries.size = heap.blocks.entries.size := by
  induction blocks generalizing heap with
  | nil => rfl
  | cons block blocks ih => rw [List.foldl_cons, ih, freeIfLive_size]

end Heap

/-- Whatever fault there is, a cell that is copied back is freed. -/
theorem restore_heap (registers : Banks) (heap : Heap) (writebacks : List Writeback) :
    (restore registers heap writebacks).heap =
      (writebacks.map Writeback.cell).foldl Heap.freeIfLive heap := by
  have folded : ∀ state : Restored, (writebacks.foldl Restored.step state).heap =
      (writebacks.map Writeback.cell).foldl Heap.freeIfLive state.heap := by
    induction writebacks with
    | nil => intro state; rfl
    | cons writeback writebacks ih =>
      intro state
      rw [List.foldl_cons, ih, List.map_cons, List.foldl_cons]
      congr 1
      simp only [Restored.step, Heap.freeIfLive]
      cases state.heap.free writeback.cell <;> rfl
  exact folded _

def stagedCells (params : List StagedParam) : List BlockId :=
  params.filterMap fun param => param.writeback.map Writeback.cell

@[simp] theorem stagedCells_append (first second : List StagedParam) :
    stagedCells (first ++ second) = stagedCells first ++ stagedCells second :=
  List.filterMap_append

theorem map_cell_writebacks (params : List StagedParam) :
    (params.filterMap StagedParam.writeback).map Writeback.cell = stagedCells params :=
  List.map_filterMap

def pendingCells : Option PendingCall → List BlockId
  | some pending => pending.writebacks.map Writeback.cell
  | none => []

theorem Frame.owned_eq (frame : Frame) :
    frame.owned = frame.extra.toList ++ (stagedCells frame.staged ++ pendingCells frame.pending) := by
  unfold owned cells pendingCells
  cases frame.pending <;> rfl

structure Stages (before after : Local) : Prop where
  same : SameActivation before.frame after.frame
  size : before.world.heap.blocks.entries.size ≤ after.world.heap.blocks.entries.size
  staged : after.world.heap.blocks.Indexed → ∃ params,
    after.frame.staged = before.frame.staged ++ params ∧
    Accounted before.world.heap.blocks.Live (stagedCells params) after.world.heap

namespace Stages

variable {before middle after : Local}

theorem of_unstaged (same : SameActivation before.frame after.frame)
    (blocks : Heap.SameBlocks before.world.heap after.world.heap) {params : List StagedParam}
    (staged : after.frame.staged = before.frame.staged ++ params)
    (plain : params.filterMap StagedParam.writeback = []) : Stages before after where
  same := same
  size := Nat.le_of_eq blocks.size.symm
  staged _ := by
    refine ⟨params, staged, ?_⟩
    rw [← map_cell_writebacks, plain]
    exact (Accounted.none before.world.heap).congr blocks.live

theorem of_unchanged (same : SameActivation before.frame after.frame)
    (staged : after.frame.staged = before.frame.staged)
    (heap : after.world.heap = before.world.heap) : Stages before after :=
  of_unstaged same (heap ▸ .refl _) (staged.trans (List.append_nil _).symm) rfl

theorem trans (first : Stages before middle) (second : Stages middle after) : Stages before after where
  same := sameActivation_effects.trans first.same second.same
  size := Nat.le_trans first.size second.size
  staged indexed := by
    obtain ⟨later, stagedLater, added⟩ := second.staged indexed
    obtain ⟨params, staged, accounted⟩ := first.staged (Nat.le_trans second.size indexed)
    refine ⟨params ++ later, ?_, ?_⟩
    · rw [stagedLater, staged, List.append_assoc]
    · rw [stagedCells_append]
      exact (accounted.trans added).perm List.perm_append_comm

end Stages

theorem stages_effects : Action.FrameEffects Stages where
  refl state := .of_unchanged (sameActivation_effects.refl state) rfl rfl
  trans := Stages.trans
  registers state registers size :=
    .of_unchanged (sameActivation_effects.registers state registers size) rfl rfl
  pc state pc inside := .of_unchanged (sameActivation_effects.pc state pc inside) rfl rfl
  names state names := .of_unchanged (sameActivation_effects.names state names) rfl rfl
  barrier state stored := .of_unchanged (sameActivation_effects.barrier state stored) rfl rfl
  heap _ _ _ _ updated :=
    .of_unstaged ⟨rfl, rfl, rfl, rfl⟩ (Heap.update_sameBlocks updated) (List.append_nil _).symm rfl
  staged _ _ plain := .of_unstaged ⟨rfl, rfl, rfl, rfl⟩ (.refl _) rfl plain
  boxed _ _ _ _ _ _ boxed :=
    ⟨⟨rfl, rfl, rfl, rfl⟩, Heap.box_size boxed, fun indexed => ⟨_, rfl, .box boxed indexed⟩⟩
  fetched state inside := .of_unchanged (sameActivation_effects.fetched state inside) rfl rfl
  stored state results returned :=
    .of_unchanged (sameActivation_effects.stored state results returned) rfl rfl

/-- Whatever an instruction stages is owned by the frame. -/
theorem Stages.accounted {held : Handle → Prop} {before after : Local} {rest : List BlockId}
    (stages : Stages before after) (indexed : after.world.heap.blocks.Indexed)
    (accounted : Accounted held (before.frame.owned ++ rest) before.world.heap) :
    Accounted held (after.frame.owned ++ rest) after.world.heap := by
  obtain ⟨params, staged, added⟩ := stages.staged indexed
  refine (accounted.trans added).perm (List.perm_iff_count.2 fun block => ?_)
  simp only [Frame.owned_eq, staged, stages.same.extra, stages.same.pending, stagedCells_append,
    List.count_append]
  omega

/-- A call takes over the cells of its parameters. -/
theorem Action.Called.owned {running limit : Nat} {w : Word} {state after : Local}
    {request : Action.CallRequest ν} (called : Action.Called running limit w state request after) :
    state.frame.owned.Perm (pendingCells (some request.pending) ++ after.frame.owned) := by
  refine List.perm_iff_count.2 fun block => ?_
  have split := congrArg (List.count block ∘ stagedCells)
    (List.take_append_drop (state.frame.staged.length - w.b.toNat) state.frame.staged)
  simp only [Function.comp_apply, stagedCells_append, List.count_append] at split
  simp only [Frame.owned_eq, pendingCells, called.left, called.writebacks, map_cell_writebacks,
    List.count_append]
  omega

/-- What a waiting frame owns: the cells the call has in use and what it owned before. -/
theorem Frame.owned_waiting {frame : Frame} {pending : PendingCall}
    (waiting : frame.pending = some pending) :
    frame.owned.Perm (pendingCells (some pending) ++ { frame with pending := none }.owned) := by
  refine List.perm_iff_count.2 fun block => ?_
  simp only [owned_eq, waiting, List.count_append, pendingCells, List.count_nil]
  omega

theorem Accounted.enter {routine : LinkedRoutine} {arguments : List Value} {results : List Bank}
    {host : Option (List ResultSlot)} {heap after : Heap} {frame : Frame}
    (entered : Frame.enter routine arguments results host heap = .ok (frame, after))
    (indexed : after.blocks.Indexed) : Accounted heap.blocks.Live frame.owned after := by
  obtain ⟨-, rests, staged, -, extra⟩ := Frame.enter_eq_ok entered
  rw [Frame.owned_eq, rests, staged]
  rcases extra with ⟨extra, rfl⟩ | ⟨size, extra, rfl⟩
  · rw [extra]
    exact .none _
  · rw [extra]
    exact .alloc heap size indexed

namespace Machine

variable {machine : Machine ν} {base : List (Activation ν)} {frames : List Frame}

/-- The frames of one call from outside, innermost first. -/
def Based : List Frame → Prop
  | [] => False
  | [frame] => frame.host.isSome
  | frame :: rest => frame.host = none ∧ Based rest

theorem Based.swap {frame other : Frame} {rest : List Frame} (based : Based (frame :: rest))
    (host : other.host = frame.host) : Based (other :: rest) := by
  cases rest with
  | nil => rwa [Based, host]
  | cons caller rest => exact ⟨host.trans based.1, based.2⟩

theorem Based.alone {frame : Frame} {rest : List Frame} (based : Based (frame :: rest))
    {slots : List ResultSlot} (host : frame.host = some slots) : rest = [] := by
  cases rest with
  | nil => rfl
  | cons caller rest => cases host.symm.trans based.1

theorem Based.caller {frame : Frame} {rest : List Frame} (based : Based (frame :: rest))
    (host : frame.host = none) : Based rest := by
  cases rest with
  | nil => simp [Based, host] at based
  | cons caller rest => exact based.2

theorem unwindStack_size (abort : Abort) (heap : Heap) (stack : List (Activation ν)) :
    (unwindStack abort heap stack).2.1.blocks.entries.size = heap.blocks.entries.size := by
  fun_induction unwindStack abort heap stack with
  | case1 abort heap frame below abort' heap' slots host => exact Heap.freeAll_size _
  | case2 abort heap frame below abort' heap' host ih => exact ih.trans (Heap.freeAll_size _)
  | case3 => rfl

@[simp] theorem unwind_size (abort : Abort) :
    (machine.unwind abort).world.heap.blocks.entries.size =
      machine.world.heap.blocks.entries.size :=
  unwindStack_size abort machine.world.heap machine.stack

/-- An abort frees what the frames of the call own. -/
theorem unwindStack_based (based : Based frames) (abort : Abort) (heap : Heap) :
    (unwindStack abort heap (frames.map .script ++ base)).1 = base ∧
      (unwindStack abort heap (frames.map .script ++ base)).2.1 =
        (frames.flatMap Frame.owned).foldl Heap.freeIfLive heap := by
  induction frames generalizing abort heap with
  | nil => exact based.elim
  | cons frame rest ih =>
    rw [List.flatMap_cons, List.foldl_append]
    cases rest with
    | nil =>
      obtain ⟨slots, host⟩ := Option.isSome_iff_exists.1 based
      simp [unwindStack, host, Frame.release]
    | cons caller rest =>
      obtain ⟨host, based⟩ := based
      rw [List.map_cons, List.cons_append, unwindStack, host]
      exact ih based _ _

end Machine
end GameScript
