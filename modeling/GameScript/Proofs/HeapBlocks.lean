import GameScript.Machine.Cell
import GameScript.Proofs.ArenaHandles

/-! Which blocks of memory exist after each change. Writing to a block never makes one or removes
one. -/

namespace GameScript

theorem bind_eq_ok {first : Except ε α} {next : α → Except ε β} {result : β} :
    first >>= next = .ok result ↔ ∃ value, first = .ok value ∧ next value = .ok result := by
  cases first <;> simp [bind, Except.bind]

namespace Heap

variable {heap after : Heap} {block : BlockId} {size : UInt32} {handle : Handle}

theorem block_eq_ok_iff {content : Block} :
    heap.block block = .ok content ↔ heap.blocks.get? block.handle = some content := by
  unfold Heap.block
  cases heap.blocks.get? block.handle <;> simp

/-- Freeing a block concerns that block alone. -/
theorem free_eq_ok (freed : heap.free block = .ok after) :
    heap.blocks.Live block.handle ∧
      (∀ handle, after.blocks.get? handle =
        if handle = block.handle then none else heap.blocks.get? handle) ∧
      after.objects = heap.objects ∧ after.classes = heap.classes ∧
      after.blocks.entries.size = heap.blocks.entries.size := by
  unfold free at freed
  split at freed
  next content blocks removed =>
    cases freed
    obtain ⟨found, others, -, size⟩ := Arena.remove?_eq_some removed
    exact ⟨Arena.live_iff.2 ⟨content, found⟩, others, rfl, rfl, size⟩
  next => cases freed

theorem free_eq_error {fault : Fault} (failed : heap.free block = .error fault) :
    ¬heap.blocks.Live block.handle := by
  unfold free at failed
  split at failed
  next => cases failed
  next missing => exact Arena.remove?_eq_none_iff.1 missing

/-- A block that is freed if it is live is gone afterwards, and nothing else is. -/
theorem freeIfLive_spec (heap : Heap) (block : BlockId) :
    (∀ handle, (heap.freeIfLive block).blocks.get? handle =
        if handle = block.handle then none else heap.blocks.get? handle) ∧
      (heap.freeIfLive block).objects = heap.objects ∧
      (heap.freeIfLive block).classes = heap.classes := by
  unfold freeIfLive
  split
  next freed =>
    obtain ⟨-, others, objects, classes, -⟩ := free_eq_ok freed
    exact ⟨others, objects, classes⟩
  next missing =>
    refine ⟨fun handle => ?_, rfl, rfl⟩
    split
    next same =>
      have gone := free_eq_error missing
      rw [← same] at gone
      simpa [Arena.Live] using gone
    next => rfl

/-- A new block has a handle that named nothing before. -/
theorem alloc_spec (heap : Heap) (size : UInt32) (indexed : (heap.alloc size).2.blocks.Indexed) :
    ¬heap.blocks.Live (heap.alloc size).1.handle ∧
      ∀ handle, (heap.alloc size).2.blocks.get? handle =
        if handle = (heap.alloc size).1.handle then some (.zeroed size)
        else heap.blocks.get? handle := by
  obtain ⟨fresh, others⟩ := Arena.insert_spec heap.blocks (.zeroed size) indexed
  refine ⟨?_, others⟩
  unfold Arena.Live
  rw [show (heap.alloc size).1.handle = (heap.blocks.insert (.zeroed size)).1 from rfl, fresh]
  simp

structure SameBlocks (before after : Heap) : Prop where
  live : ∀ handle, after.blocks.Live handle ↔ before.blocks.Live handle
  size : after.blocks.entries.size = before.blocks.entries.size
  objects : after.objects = before.objects
  classes : after.classes = before.classes

theorem SameBlocks.refl (heap : Heap) : SameBlocks heap heap := ⟨fun _ => .rfl, rfl, rfl, rfl⟩

theorem SameBlocks.trans {first second third : Heap} (former : SameBlocks first second)
    (latter : SameBlocks second third) : SameBlocks first third where
  live handle := (latter.live handle).trans (former.live handle)
  size := latter.size.trans former.size
  objects := latter.objects.trans former.objects
  classes := latter.classes.trans former.classes

theorem update_eq_ok {position : Address} {change : Block → UInt32 → Except Fault Block}
    (written : heap.update position change = .ok after) :
    ∃ content changed, heap.blocks.get? position.block.handle = some content ∧
      change content position.offset = .ok changed ∧
      after = { heap with blocks := heap.blocks.set position.block.handle changed } := by
  obtain ⟨content, found, written⟩ := bind_eq_ok.1 written
  obtain ⟨changed, changes, written⟩ := bind_eq_ok.1 written
  cases written
  exact ⟨content, changed, block_eq_ok_iff.1 found, changes, rfl⟩

/-- Whatever is written to a block, the same blocks exist. -/
theorem update_sameBlocks {position : Address} {change : Block → UInt32 → Except Fault Block}
    (written : heap.update position change = .ok after) : SameBlocks heap after := by
  obtain ⟨_, _, -, -, rfl⟩ := update_eq_ok written
  exact ⟨fun _ => Arena.live_set, Arena.set_size, rfl, rfl⟩

theorem writeValue_sameBlocks {position : Address} {value : Value}
    (written : heap.writeValue position value = .ok after) : SameBlocks heap after := by
  cases value <;> simp only [writeValue, writeBytes, writeString, writePointer] at written <;>
    exact update_sameBlocks written

private theorem box_eq (heap : Heap) (value : Value) :
    heap.box value =
      ((heap.alloc value.bank.cellSize).2.writeValue ⟨(heap.alloc value.bank.cellSize).1, 0⟩ value >>=
        fun filled => .ok ((heap.alloc value.bank.cellSize).1, filled)) := rfl

theorem box_size {value : Value} {cell : BlockId} (boxed : heap.box value = .ok (cell, after)) :
    heap.blocks.entries.size ≤ after.blocks.entries.size := by
  rw [box_eq] at boxed
  obtain ⟨filled, written, done⟩ := bind_eq_ok.1 boxed
  cases done
  rw [(writeValue_sameBlocks written).size]
  exact Arena.insert_size _ _

/-- A new cell is a block that was not there before. -/
theorem box_eq_ok {value : Value} {cell : BlockId} (boxed : heap.box value = .ok (cell, after))
    (indexed : after.blocks.Indexed) :
    ¬heap.blocks.Live cell.handle ∧
      ∀ handle, after.blocks.Live handle ↔ handle = cell.handle ∨ heap.blocks.Live handle := by
  rw [box_eq] at boxed
  obtain ⟨filled, written, done⟩ := bind_eq_ok.1 boxed
  cases done
  have same := writeValue_sameBlocks written
  have enough : (heap.alloc value.bank.cellSize).2.blocks.Indexed := by
    unfold Arena.Indexed at indexed ⊢
    rwa [same.size] at indexed
  obtain ⟨fresh, others⟩ := alloc_spec heap value.bank.cellSize enough
  refine ⟨fresh, fun handle => ?_⟩
  rw [same.live, Arena.Live, others]
  split
  next here => simp [here]
  next other => simp [other, Arena.Live]

end Heap
end GameScript
