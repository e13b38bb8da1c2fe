import GameScript.Proofs.MemoryContents

/-! What a write of bytes leaves of memory. The strings and pointers that lie whole before the written
range or whole behind it stay, and with them every other byte and every other block; the rest are
dropped. If anything is written, those are the ones with a byte in the range. A write of nothing has no
such byte, and still drops a string or pointer that it stands inside of. -/

namespace GameScript

def Overlap (start count other width : Nat) : Prop :=
  ∃ place, start ≤ place ∧ place < start + count ∧ other ≤ place ∧ place < other + width

theorem overlap_iff {start count other width : Nat} :
    Overlap start count other width ↔
      0 < count ∧ 0 < width ∧ start < other + width ∧ other < start + count := by
  constructor
  · rintro ⟨place, first, last, from_, upTo⟩
    omega
  · intro meet
    exact ⟨max start other, by omega, by omega, by omega, by omega⟩

namespace Block

variable {block before after : Block} {offset : UInt32} {data : List UInt8}

/-- What is stored at `slot` lies whole before a range or whole behind it. -/
def Beside (slot offset width : Nat) : Prop := slot + refSize ≤ offset ∨ offset + width ≤ slot

instance (slot offset width : Nat) : Decidable (Beside slot offset width) :=
  inferInstanceAs (Decidable (_ ∨ _))

theorem beside_iff_not_touches {slot offset width : Nat} :
    Beside slot offset width ↔ touches offset width slot = false :=
  or_comm.trans touches_eq_false.symm

/-- Lying beside a range is sharing no place with it, unless the range is empty. -/
theorem beside_iff_not_overlap {slot offset width : Nat} (some : 0 < width) :
    Beside slot offset width ↔ ¬Overlap slot refSize offset width := by
  have size : 0 < refSize := by decide
  rw [overlap_iff, Beside]
  omega

structure Overwritten (offset : Nat) (data : List UInt8) (before after : Block) : Prop where
  size : after.size = before.size
  written : ∀ i, i < data.length → after.bytes[offset + i]? = data[i]?
  bytes : ∀ place, place < offset ∨ offset + data.length ≤ place →
    after.bytes[place]? = before.bytes[place]?
  refs : ∀ entry, entry ∈ after.refs ↔
    entry ∈ before.refs ∧ Beside entry.1.toNat offset data.length
  stored : ∀ slot : UInt32, after.stored? slot =
    if Beside slot.toNat offset data.length then before.stored? slot else none

theorem write_overwritten (written : block.write offset data = .ok after) :
    Overwritten offset.toNat data block after := by
  obtain ⟨-, size, bytes, refs⟩ := write_eq_ok written
  have agrees := write_agrees written
  refine ⟨size, fun i inside => ?_, agrees.bytes, fun entry => ?_, fun slot => ?_⟩
  · rw [bytes, if_pos (by omega), Nat.add_sub_cancel_left]
  · rw [refs, List.mem_filter, Bool.not_eq_true', beside_iff_not_touches]
  · split
    next beside => exact agrees.stored slot beside
    next meets =>
      rw [stored?, refs, List.lookup_eq_none_iff]
      intro entry kept
      rw [bne_iff_ne]
      rintro rfl
      have clear := (List.mem_filter.1 kept).2
      rw [Bool.not_eq_true', ← beside_iff_not_touches] at clear
      exact meets clear

end Block

namespace Heap

structure Overwritten (position : Address) (data : List UInt8) (before after : Heap) : Prop where
  here : ∃ old new, before.block position.block = .ok old ∧ after.block position.block = .ok new ∧
    old.Overwritten position.offset.toNat data new
  others : ∀ id, id ≠ position.block → after.block id = before.block id
  objects : after.objects = before.objects
  classes : after.classes = before.classes

theorem writeBytes_overwritten {heap after : Heap} {position : Address} {data : List UInt8}
    (written : heap.writeBytes position data = .ok after) :
    Overwritten position data heap after := by
  have agrees : AgreeOutside position data.length heap after :=
    @write_agrees heap after position (.bytes data) written
  obtain ⟨old, new, found, changes, rfl⟩ := update_eq_ok written
  have live : heap.blocks.Live position.block.handle := Arena.live_iff.2 ⟨old, found⟩
  refine ⟨⟨old, new, block_eq_ok_iff.2 found, ?_, Block.write_overwritten changes⟩, agrees.others,
    agrees.objects, rfl⟩
  rw [block_eq_ok_iff, Arena.get?_set, if_pos ⟨rfl, live⟩]

/-- A write of bytes succeeds where they lie in a block, and then keeps exactly what lies beside them.
If it writes anything, that is what shares no byte with them. -/
theorem writeBytes_keeps_beside (heap : Heap) (position : Address) (data : List UInt8) :
    ((∃ after, heap.writeBytes position data = .ok after) ↔
      ∃ block, heap.block position.block = .ok block ∧
        position.offset.toNat + data.length ≤ block.size) ∧
    (∀ after, heap.writeBytes position data = .ok after → Overwritten position data heap after) ∧
    ∀ slot, 0 < data.length →
      (Block.Beside slot position.offset.toNat data.length ↔
        ¬Overlap slot Block.refSize position.offset.toNat data.length) := by
  refine ⟨?_, fun after written => writeBytes_overwritten written,
    fun slot some => Block.beside_iff_not_overlap some⟩
  refine (@exists_written_iff heap position (.bytes data)).trans (exists_congr fun block => ?_)
  rw [block_eq_ok_iff]
  rfl

def holding : Heap :=
  let place (offset : UInt32) : Address := ⟨⟨⟨0, 0⟩⟩, offset⟩
  history [.alloc 24, .write (place 0) (.string "text"),
    .write (place 8) (.pointer (.function ⟨3⟩))]

/-- One byte in the middle of the pointer drops the pointer, and the string stays. -/
theorem writeBytes_keeps_beside_one_byte :
    ∃ after new, holding.writeBytes ⟨⟨⟨0, 0⟩⟩, 12⟩ [7] = .ok after ∧
      after.block ⟨⟨0, 0⟩⟩ = .ok new ∧ new.bytes[12]? = some 7 ∧
      new.stored? 0 = some (.string "text") ∧ new.stored? 8 = none := by
  obtain ⟨succeeds, overwrites, -⟩ := writeBytes_keeps_beside holding ⟨⟨⟨0, 0⟩⟩, 12⟩ [7]
  have here : holding.block ⟨⟨0, 0⟩⟩ = .ok ⟨List.replicate 16 0, 8,
      [(8, .pointer (.function ⟨3⟩)), (0, .string "text")]⟩ := by
    decide +kernel
  obtain ⟨after, done⟩ := succeeds.2 ⟨_, here, by decide⟩
  obtain ⟨old, new, held, changed, overwritten⟩ := (overwrites after done).here
  cases here.symm.trans held
  refine ⟨after, new, done, changed, overwritten.written 0 (by decide), ?_, ?_⟩
  · rw [overwritten.stored, if_pos (by decide)]
    rfl
  · rw [overwritten.stored, if_neg (by decide)]

/-- A write of no bytes inside of the string overlaps with nothing, and drops the string. -/
theorem empty_write_drops_string :
    ∃ after old new, holding.writeBytes ⟨⟨⟨0, 0⟩⟩, 4⟩ [] = .ok after ∧
      holding.block ⟨⟨0, 0⟩⟩ = .ok old ∧ after.block ⟨⟨0, 0⟩⟩ = .ok new ∧
      (0, .string "text") ∈ old.refs ∧ ¬Overlap 0 Block.refSize 4 0 ∧
      (0, .string "text") ∉ new.refs := by
  refine ⟨_, ⟨List.replicate 16 0, 8, [(8, .pointer (.function ⟨3⟩)), (0, .string "text")]⟩,
    ⟨List.replicate 16 0, 8, [(8, .pointer (.function ⟨3⟩))]⟩, rfl, ?_, ?_, by decide, ?_, by decide⟩
  · decide +kernel
  · decide +kernel
  · rw [overlap_iff]
    decide

end Heap
end GameScript
