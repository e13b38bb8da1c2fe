import GameScript.Proofs.CallProtocol
import GameScript.Proofs.CollectionRoots

/-! What the cells of parameters passed by reference hold while the call runs. Of a call to a routine
they belong to the frame that waits for it, so a collection follows them. Of a call to a native
function they are noted with that function only, where no collection looks. -/

namespace GameScript

theorem Block.mem_pointers_of_readPointer {block : Block} {offset : UInt32} {pointer : Pointer}
    (read : block.readPointer offset = .ok pointer) (present : pointer ≠ .null) :
    pointer ∈ block.pointers := by
  obtain ⟨_, -, read⟩ := bind_eq_ok.1 read
  split at read
  next value stored =>
    cases read
    obtain ⟨before, after, split, -⟩ := List.lookup_eq_some_iff.1 stored
    refine List.mem_filterMap.2 ⟨(offset, .pointer pointer), ?_, rfl⟩
    rw [split]
    simp
  next =>
    cases read
    exact absurd rfl present
  next => cases read

namespace Heap

variable {heap : Heap} {bank : Bank} {cell : BlockId} {pointer : Pointer}

theorem reached_of_unbox (read : heap.unbox bank cell = .ok (.pointer pointer))
    (present : pointer ≠ .null) : Reached heap [.address ⟨cell, 0⟩] pointer := by
  cases unbox_bank read
  obtain ⟨_, read, same⟩ := bind_eq_ok.1 read
  cases same
  obtain ⟨block, found, read⟩ := bind_eq_ok.1 read
  have stored := Block.mem_pointers_of_readPointer read present
  exact .stored (.root List.mem_cons_self) rfl (block_eq_ok_iff.1 found) stored

theorem shrunk_collect (heap : Heap) (roots : List Pointer) : Shrunk heap (heap.collect roots).2 := by
  intro id content found
  rw [block_eq_ok_iff, collect, foldl_discard_blocks] at found
  exact block_eq_ok_iff.2 found.1

end Heap

namespace Machine

/-- While a routine runs, the frame that called it waits with the cells it has passed. -/
theorem waiting_while_running {natives : Natives ν} {machine : Machine ν} {caller : Frame}
    {below : List (Activation ν)} {request : Action.CallRequest ν} {state : Local}
    {routine : LinkedRoutine} {count : Nat} (idle : machine.completed = none)
    (top : machine.stack = .script caller :: below)
    (called : Action.advance machine.setting ⟨caller, machine.world⟩ = .ok (.call request) state)
    (script : request.callee = .script routine) (started : 0 < count)
    (running : ∀ now ≤ count, 0 < now → machine.depth < (run natives now machine).depth) :
    .script { state.frame with pending := some request.pending } ∈
      (run natives count machine).stack := by
  have level : machine.depth = below.length + 1 := by
    rw [depth, top]
    rfl
  rw [level] at running
  have silent : stores natives (below.length + 1) machine 1 = [] := by
    simp [stores, storing, idle, top]
  have first := running 1 started Nat.one_pos
  have above := called_script idle top called script (Nat.lt_of_succ_lt first)
  rw [← silent] at above
  obtain ⟨last, rfl⟩ := Nat.exists_eq_add_of_le' started
  obtain ⟨upper, callee, placed, -, -⟩ := above.while_running rfl
    fun now bound => running (now + 1) (Nat.succ_le_succ bound) (Nat.succ_pos now)
  rw [placed]
  simp

/-- At any time during a call, an object in a cell passed by reference outlives a collection if the
call is to a routine. If it is to a native function, being in the cell does not count: the object
stays exactly if one of the places leads to it. What can be read from the cell does not change. -/
theorem collect_keeps_passed (natives : Natives ν) (machine : Machine ν) (caller : Frame)
    (below : List (Activation ν)) (request : Action.CallRequest ν) (state : Local) (count : Nat)
    (writeback : Writeback) (ref : ObjectRef) (object : Object) (idle : machine.completed = none)
    (top : machine.stack = .script caller :: below)
    (called : Action.advance machine.setting ⟨caller, machine.world⟩ = .ok (.call request) state)
    (started : 0 < count)
    (running : ∀ now ≤ count, 0 < now → machine.depth < (run natives now machine).depth)
    (passed : writeback ∈ request.pending.writebacks)
    (holds : (run natives count machine).world.heap.unbox writeback.bank writeback.cell =
      .ok (.pointer (.object ref)))
    (live : (run natives count machine).world.heap.objects.get? ref.handle = some object) :
    let before := run natives count machine
    let after := (before.collect []).2.world.heap
    (request.callee.isNative = false → after.objects.get? ref.handle = some object) ∧
      (request.callee.isNative = true → (after.objects.get? ref.handle = some object ↔
        ∃ root, before.Rooted root ∧ Heap.Reached before.world.heap [root] (.object ref))) ∧
      ∀ value, after.unbox writeback.bank writeback.cell = .ok value →
        value = .pointer (.object ref) := by
  intro before after
  have exactly : after.objects.get? ref.handle = some object ↔
      ∃ root, before.Rooted root ∧ Heap.Reached before.world.heap [root] (.object ref) :=
    collect_keeps_rooted_iff live
  refine ⟨?_, fun _ => exactly, ?_⟩
  · intro scripted
    cases callee : request.callee with
    | native name function =>
      rw [callee] at scripted
      cases scripted
    | script routine =>
      have waits := waiting_while_running idle top called callee started running
      have reached := Heap.reached_of_unbox holds (by simp)
      exact exactly.2 ⟨writeback.pointer, .running waits (.cell rfl passed), reached⟩
  · intro value read
    have same := (Heap.shrunk_collect before.world.heap _).unbox read
    cases holds.symm.trans same
    rfl

def sweeping : Natives Unit := fun _ _ slots =>
  .look fun view =>
    .changeWorld view { view.world with heap := (view.world.heap.collect view.roots).2 }
      (.done 0 slots)

def forgetting : LinkedRoutine where
  name := "forgetting"
  sourceFile := ""
  code := #[⟨0x00000005⟩, ⟨0x0000015f⟩, ⟨0x00008063⟩]
  constants := ⟨#[], #[], #[], #[.null, .function ⟨0⟩]⟩
  layout := ⟨0, 0, 0, 1, 0, 0⟩
  lines := .empty

/-- A routine that passes its parameter by reference to a function, forgets it before the call and
returns what it has afterwards. -/
def sharing (callee : FunctionId) : LinkedRoutine where
  name := "sharing"
  sourceFile := ""
  code := #[⟨0x0000235c⟩, ⟨0x00000005⟩, ⟨0x0001015f⟩, ⟨0x00038062⟩]
  constants := ⟨#[], #[], #[], #[.null, .function callee]⟩
  layout := ⟨0, 0, 0, 1, 1, 0⟩
  lines := .empty

def sharer (callee : FunctionId) : Frame where
  routine := sharing callee
  registers := ⟨#[], #[], #[], #[.null]⟩
  pc := 2
  current := 1
  staged := [⟨.pointer (.address ⟨⟨⟨1, 0⟩⟩, 0⟩), some ⟨.pointer, 0, ⟨⟨1, 0⟩⟩⟩⟩]
  extra := none
  pending := none
  results := [.empty .pointer]
  returned := 0
  host := some [.empty .pointer]

def shared (callee : FunctionId) : Machine Unit :=
  ⟨.standard, ⟨#[.native "Collect" (), .script forgetting, .script (sharing callee)]⟩,
    { World.empty with heap := .single }, [], none⟩

/-- The machine before the call: its only object is in the cell and in no register. -/
def calling (callee : FunctionId) : Machine Unit :=
  { shared callee with
    world := { World.empty with heap := .referring }
    stack := [.script (sharer callee)] }

/-- The call to the routine that forgets the object, when it has done so. -/
theorem collect_keeps_passed_forgotten :
    let before := run sweeping 3 (calling ⟨1⟩)
    before.depth = 3 ∧
      before.world.heap.unbox .pointer ⟨⟨1, 0⟩⟩ = .ok (.pointer (.object ⟨⟨0, 0⟩⟩)) ∧
      (before.collect []).2.world.heap.objects.get? ⟨0, 0⟩ = some ⟨⟨0⟩, ⟨⟨0, 0⟩⟩⟩ := by
  have deep : (run sweeping 3 (calling ⟨1⟩)).depth = 3 := by decide +kernel
  have cell : (run sweeping 3 (calling ⟨1⟩)).world.heap.blocks.get? ⟨1, 0⟩ =
      Heap.referring.blocks.get? ⟨1, 0⟩ := by decide +kernel
  have holds : (run sweeping 3 (calling ⟨1⟩)).world.heap.unbox .pointer ⟨⟨1, 0⟩⟩ =
      .ok (.pointer (.object ⟨⟨0, 0⟩⟩)) := by
    have same : (run sweeping 3 (calling ⟨1⟩)).world.heap.block ⟨⟨1, 0⟩⟩ =
        Heap.referring.block ⟨⟨1, 0⟩⟩ := by simp only [Heap.block, cell]
    rw [Heap.unbox_congr same]
    rfl
  have called : Action.advance (calling ⟨1⟩).setting ⟨sharer ⟨1⟩, (calling ⟨1⟩).world⟩ =
      .ok (.call ⟨.script forgetting, [.pointer (.address ⟨⟨⟨1, 0⟩⟩, 0⟩)], [],
          [⟨.pointer, 0, ⟨⟨1, 0⟩⟩⟩]⟩)
        ⟨{ sharer ⟨1⟩ with pc := 3, current := 2, staged := [] }, (calling ⟨1⟩).world⟩ := rfl
  have running : ∀ now ≤ 3, 0 < now →
      (calling ⟨1⟩).depth < (run sweeping now (calling ⟨1⟩)).depth := by decide +kernel
  have live : (run sweeping 3 (calling ⟨1⟩)).world.heap.objects.get? ⟨0, 0⟩ =
      some ⟨⟨0⟩, ⟨⟨0, 0⟩⟩⟩ := by decide +kernel
  have kept := collect_keeps_passed sweeping (calling ⟨1⟩) (sharer ⟨1⟩) [] _ _ 3
    ⟨.pointer, 0, ⟨⟨1, 0⟩⟩⟩ ⟨⟨0, 0⟩⟩ ⟨⟨0⟩, ⟨⟨0, 0⟩⟩⟩ rfl rfl called (by decide) running (.head _) holds
    live
  exact ⟨deep, holds, kept.1 rfl⟩

def sweep (heap : Heap) (behaviour : Behaviour Unit) : Machine Unit :=
  { shared ⟨0⟩ with
    world := { World.empty with heap }
    stack := [.native ⟨"Collect", behaviour, some ⟨[], [⟨.pointer, 0, ⟨⟨1, 0⟩⟩⟩]⟩⟩,
      .script { sharer ⟨0⟩ with pc := 3, current := 2, staged := [] }] }

theorem run_sharing :
    run sweeping 3
        ((shared ⟨0⟩).enter sweeping ⟨2⟩ [.pointer (.object ⟨⟨0, 0⟩⟩)] [.empty .pointer]) =
      sweep .referring (sweeping () [.pointer (.address ⟨⟨⟨1, 0⟩⟩, 0⟩)] []) := by
  have boxed : step { shared ⟨0⟩ with stack := [.script { sharer ⟨0⟩ with
        registers := ⟨#[], #[], #[], #[.object ⟨⟨0, 0⟩⟩]⟩, pc := 0, current := 0, staged := [] }] }
        sweeping =
      some { calling ⟨0⟩ with stack := [.script { sharer ⟨0⟩ with
        registers := ⟨#[], #[], #[], #[.object ⟨⟨0, 0⟩⟩]⟩, pc := 1, current := 0 }] } := rfl
  have forgotten : step { calling ⟨0⟩ with stack := [.script { sharer ⟨0⟩ with
        registers := ⟨#[], #[], #[], #[.object ⟨⟨0, 0⟩⟩]⟩, pc := 1, current := 0 }] } sweeping =
      some (calling ⟨0⟩) := rfl
  have called : step (calling ⟨0⟩) sweeping =
      some (sweep .referring (sweeping () [.pointer (.address ⟨⟨⟨1, 0⟩⟩, 0⟩)] [])) := rfl
  exact (run_step boxed 2).trans ((run_step forgotten 1).trans (run_step called 0))

/-- The function ends, the cell is copied back and the routine returns. -/
theorem run_sweep :
    run sweeping 4 (sweep .referring (sweeping () [.pointer (.address ⟨⟨⟨1, 0⟩⟩, 0⟩)] [])) =
      { shared ⟨0⟩ with
        world := { World.empty with
          heap := (Heap.referring.discard ⟨0, 0⟩).freeIfLive ⟨⟨1, 0⟩⟩ }
        stack := []
        completed := some ⟨.ok 1, [⟨.pointer, some (.pointer (.object ⟨⟨0, 0⟩⟩))⟩]⟩ } := by
  have marked : Heap.referring.mark [] [] [.function ⟨0⟩] = [] := by simp [Heap.mark, Heap.follow]
  have garbage : Heap.referring.garbage [.function ⟨0⟩] = [⟨0, 0⟩] := by
    rw [Heap.garbage, marked]
    rfl
  have collected : run sweeping 2
        (sweep .referring (sweeping () [.pointer (.address ⟨⟨⟨1, 0⟩⟩, 0⟩)] [])) =
      sweep (Heap.referring.discard ⟨0, 0⟩) (.done 0 []) := by
    have first : run sweeping 2
          (sweep .referring (sweeping () [.pointer (.address ⟨⟨⟨1, 0⟩⟩, 0⟩)] [])) =
        sweep (Heap.referring.collect [.function ⟨0⟩]).2 (.done 0 []) := rfl
    rw [first, Heap.collect, garbage]
    rfl
  have restored : step (sweep (Heap.referring.discard ⟨0, 0⟩) (.done 0 [])) sweeping =
      some { shared ⟨0⟩ with
        world := { World.empty with
          heap := (Heap.referring.discard ⟨0, 0⟩).freeIfLive ⟨⟨1, 0⟩⟩ }
        stack := [.script { sharer ⟨0⟩ with
          registers := ⟨#[], #[], #[], #[.object ⟨⟨0, 0⟩⟩]⟩, pc := 3, current := 2
          staged := [] }] } := rfl
  rw [run_add 2 2, collected, run_step restored]
  exact run_step rfl 0

/-- The function collects the object that its caller then takes back from the cell. -/
theorem collect_frees_passed :
    let arguments := [Value.pointer (.object ⟨⟨0, 0⟩⟩)]
    let slots := [ResultSlot.empty .pointer]
    let before := run sweeping 3 ((shared ⟨0⟩).enter sweeping ⟨2⟩ arguments slots)
    before = sweep .referring (sweeping () [.pointer (.address ⟨⟨⟨1, 0⟩⟩, 0⟩)] []) ∧
      before.world.heap.unbox .pointer ⟨⟨1, 0⟩⟩ = .ok (.pointer (.object ⟨⟨0, 0⟩⟩)) ∧
      before.world.heap.objects.Live ⟨0, 0⟩ ∧
      (before.collect []).2.world.heap.objects.get? ⟨0, 0⟩ = none ∧
      ∃ ended, (shared ⟨0⟩).call sweeping 7 ⟨2⟩ arguments slots =
          some (⟨.ok 1, [⟨.pointer, some (.pointer (.object ⟨⟨0, 0⟩⟩))⟩]⟩, ended) ∧
        ended.world.heap.objects.get? ⟨0, 0⟩ = none := by
  intro arguments slots
  have reached : run sweeping 3 ((shared ⟨0⟩).enter sweeping ⟨2⟩ arguments slots) =
      sweep .referring (sweeping () [.pointer (.address ⟨⟨⟨1, 0⟩⟩, 0⟩)] []) := run_sharing
  have gone : ((sweep .referring (sweeping () [.pointer (.address ⟨⟨⟨1, 0⟩⟩, 0⟩)] [])).collect
      []).2.world.heap.objects.get? ⟨0, 0⟩ = none :=
    Heap.collect_object_eq_none Heap.not_reached_from_function
  rw [reached]
  refine ⟨rfl, rfl, rfl, gone, { shared ⟨0⟩ with
    world := { World.empty with heap := (Heap.referring.discard ⟨0, 0⟩).freeIfLive ⟨⟨1, 0⟩⟩ } },
    ?_, rfl⟩
  simp only [call, run_add 3 4, reached, run_sweep]
  rfl

end Machine
end GameScript
