import GameScript.Proofs.ActionEffects
import GameScript.Proofs.HeapHistory

/-! How strings and pointers lie in memory. Each has eight zero bytes of its own: a write drops every
one that it touches, wherever the two overlap, so those that are left lie clear of what was written
and of each other. -/

namespace GameScript

namespace Block

variable {block after : Block} {offset : UInt32} {data : List UInt8}

def Apart (first second : Nat) : Prop := first + refSize ≤ second ∨ second + refSize ≤ first

structure Shaped (block : Block) : Prop where
  bounded : block.size < UInt32.size
  apart : block.refs.Pairwise fun first second => Apart first.1.toNat second.1.toNat
  inside : ∀ entry ∈ block.refs, entry.1.toNat + refSize ≤ block.size
  zero : ∀ entry ∈ block.refs, ∀ place, entry.1.toNat ≤ place → place < entry.1.toNat + refSize →
    block.bytes[place]? = some 0
  solid : ∀ entry ∈ block.refs, entry.2 ≠ .pointer .null

theorem check_eq_ok {width : Nat} :
    block.check offset width = .ok () ↔ offset.toNat + width ≤ block.size := by
  unfold check
  split <;> simp_all

theorem touches_eq_false {offset width start : Nat} :
    touches offset width start = false ↔ offset + width ≤ start ∨ start + refSize ≤ offset := by
  simp only [touches, Bool.and_eq_false_iff, decide_eq_false_iff_not]
  omega

/-- A write inside of the block replaces its bytes, leaves all others and drops what it touches. -/
theorem write_eq_ok (written : block.write offset data = .ok after) :
    offset.toNat + data.length ≤ block.size ∧ after.size = block.size ∧
      (∀ place, after.bytes[place]? =
        if offset.toNat ≤ place ∧ place < offset.toNat + data.length then data[place - offset.toNat]?
        else block.bytes[place]?) ∧
      after.refs = block.refs.filter fun entry =>
        !touches offset.toNat data.length entry.1.toNat := by
  obtain ⟨_, checked, written⟩ := bind_eq_ok.1 written
  cases written
  have fits := check_eq_ok.1 checked
  have bytes := bytes_splice fits
  have front : (block.bytes.take offset.toNat).length = offset.toNat := by
    rw [List.length_take, length_bytes]
    omega
  refine ⟨fits, ?_, fun place => ?_, rfl⟩
  · rw [← length_bytes, bytes]
    simp only [List.length_append, List.length_drop, front, length_bytes]
    omega
  · rw [bytes, List.append_assoc, List.getElem?_append, front]
    split
    next before =>
      rw [if_neg (by omega), List.getElem?_take_of_lt before]
    next reached =>
      rw [List.getElem?_append]
      split
      next within => rw [if_pos (by omega)]
      next behind =>
        rw [if_neg (by omega), List.getElem?_drop]
        congr 1
        omega

theorem Shaped.zeroed (size : UInt32) : (Block.zeroed size).Shaped where
  bounded := by simpa [Block.zeroed, Block.size] using size.toNat_lt
  apart := .nil
  inside := by simp [Block.zeroed]
  zero := by simp [Block.zeroed]
  solid := by simp [Block.zeroed]

theorem Shaped.write (shaped : block.Shaped) (written : block.write offset data = .ok after) :
    after.Shaped := by
  obtain ⟨-, size, bytes, refs⟩ := write_eq_ok written
  have kept : ∀ entry ∈ after.refs, entry ∈ block.refs ∧
      (offset.toNat + data.length ≤ entry.1.toNat ∨ entry.1.toNat + refSize ≤ offset.toNat) := by
    intro entry member
    rw [refs, List.mem_filter] at member
    exact ⟨member.1, touches_eq_false.1 (by simpa using member.2)⟩
  refine ⟨size ▸ shaped.bounded, ?_, ?_, ?_, ?_⟩
  · rw [refs]
    exact shaped.apart.filter _
  · intro entry member
    rw [size]
    exact shaped.inside entry (kept entry member).1
  · intro entry member place start bound
    obtain ⟨old, clear⟩ := kept entry member
    rw [bytes, if_neg (by omega)]
    exact shaped.zero entry old place start bound
  · exact fun entry member => shaped.solid entry (kept entry member).1

/-- The eight zero bytes are written before the string or pointer goes over them, so whatever is
still stored lies clear of them. -/
theorem Shaped.store {value : Stored} (shaped : block.Shaped) (solid : value ≠ .pointer .null)
    (stored : block.store offset value = .ok after) : after.Shaped := by
  obtain ⟨cleared, written, stored⟩ := bind_eq_ok.1 stored
  cases stored
  have rest := shaped.write written
  obtain ⟨fits, size, bytes, refs⟩ := write_eq_ok written
  rw [List.length_replicate] at fits bytes refs
  refine ⟨rest.bounded, List.pairwise_cons.2 ⟨?_, rest.apart⟩, ?_, ?_, ?_⟩
  · intro entry member
    rw [refs, List.mem_filter] at member
    exact touches_eq_false.1 (by simpa using member.2)
  · refine List.forall_mem_cons.2 ⟨?_, rest.inside⟩
    exact Nat.le_trans fits (Nat.le_of_eq size.symm)
  · refine List.forall_mem_cons.2 ⟨?_, rest.zero⟩
    intro place (start : offset.toNat ≤ place) (bound : place < offset.toNat + refSize)
    change cleared.bytes[place]? = some 0
    rw [bytes, if_pos ⟨start, bound⟩, List.getElem?_replicate, if_pos (by omega)]
  · exact List.forall_mem_cons.2 ⟨solid, rest.solid⟩

theorem exists_write_iff :
    (∃ after, block.write offset data = .ok after) ↔ offset.toNat + data.length ≤ block.size := by
  constructor
  · rintro ⟨after, written⟩
    exact (write_eq_ok written).1
  · intro fits
    exact ⟨_, bind_eq_ok.2 ⟨(), check_eq_ok.2 fits, rfl⟩⟩

theorem exists_store_iff {value : Stored} :
    (∃ after, block.store offset value = .ok after) ↔ offset.toNat + refSize ≤ block.size := by
  constructor
  · rintro ⟨after, stored⟩
    obtain ⟨cleared, written, -⟩ := bind_eq_ok.1 stored
    simpa using (write_eq_ok written).1
  · intro fits
    have enough : offset.toNat + (List.replicate refSize (0 : UInt8)).length ≤ block.size := by
      simpa using fits
    obtain ⟨cleared, written⟩ := exists_write_iff.2 enough
    exact ⟨_, bind_eq_ok.2 ⟨cleared, written, rfl⟩⟩

end Block

namespace Heap

variable {heap after : Heap}

def Content.width : Content → Nat
  | .bytes data => data.length
  | .string _ => Block.refSize
  | .pointer _ => Block.refSize

def Content.action (position : Address) : Content → Action Unit
  | .bytes data => Action.writeBytes position data
  | .string value => Action.writeString position value
  | .pointer value => Action.writePointer position value

theorem Content.action_eq (position : Address) (content : Content) :
    content.action position = Action.updateHeap (·.write position content) := by
  cases content <;> rfl

theorem Content.exists_change_iff {content : Content} {block : Block} {offset : UInt32} :
    (∃ changed, content.change block offset = .ok changed) ↔
      offset.toNat + content.width ≤ block.size := by
  cases content with
  | bytes data => exact Block.exists_write_iff
  | string value => exact Block.exists_store_iff
  | pointer value =>
    simp only [Content.change, Block.writePointer]
    split
    next =>
      rw [Block.exists_write_iff, List.length_replicate]
      rfl
    next => exact Block.exists_store_iff

theorem Content.change_shaped {content : Content} {block changed : Block} {offset : UInt32}
    (shaped : block.Shaped) (changes : content.change block offset = .ok changed) :
    changed.Shaped := by
  cases content with
  | bytes data => exact shaped.write changes
  | string value => exact shaped.store (by simp) changes
  | pointer value =>
    simp only [Content.change, Block.writePointer] at changes
    split at changes
    next => exact shaped.write changes
    next solid =>
      refine shaped.store ?_ changes
      rintro ⟨⟩
      exact solid rfl

def Shaped (heap : Heap) : Prop :=
  ∀ handle block, heap.blocks.get? handle = some block → block.Shaped

theorem Shaped.insert (shaped : heap.Shaped) (size : UInt32) (objects : Arena Object) :
    Shaped { heap with blocks := (heap.blocks.insert (.zeroed size)).2, objects } := by
  intro handle block found
  rcases Arena.get?_insert_cases found with ⟨-, rfl⟩ | known
  · exact .zeroed size
  · exact shaped handle block known

theorem Shaped.update {position : Address} {content : Content} (shaped : heap.Shaped)
    (written : heap.update position content.change = .ok after) : after.Shaped := by
  obtain ⟨block, changed, found, changes, rfl⟩ := update_eq_ok written
  intro handle held foundAfter
  rw [Arena.get?_set] at foundAfter
  split at foundAfter
  next =>
    cases foundAfter
    exact Content.change_shaped (shaped _ block found) changes
  next => exact shaped handle held foundAfter

theorem Shaped.next (shaped : heap.Shaped) (request : Request) : (heap.next request).Shaped := by
  cases request with
  | define classes => exact shaped
  | alloc size => exact shaped.insert size heap.objects
  | free block =>
    intro handle held found
    have others := (freeIfLive_spec heap block).1 handle
    rw [show heap.next (.free block) = heap.freeIfLive block from rfl, others] at found
    split at found
    next => cases found
    next => exact shaped handle held found
  | create id =>
    simp only [Heap.next, Heap.serve]
    cases known : heap.classes.get? id with
    | none =>
      simp only [newObject, known]
      exact shaped
    | some info =>
      rw [Record.newObject_eq known]
      exact shaped.insert info.size _
  | collect roots =>
    intro handle held found
    exact shaped handle held ((foldl_discard_blocks _ heap handle held).1 found).1
  | write position content =>
    simp only [Heap.next, Heap.serve, write_eq]
    cases written : heap.update position content.change with
    | error fault => exact shaped
    | ok after => exact shaped.update written

theorem shaped_history (requests : List Request) : (history requests).Shaped := by
  have empty : Shaped .empty := by
    intro handle block found
    cases found
  exact List.foldlRecOn requests Heap.next empty fun _ shaped request _ => shaped.next request

/-- A write succeeds exactly where all its bytes lie in a block in use. -/
theorem exists_written_iff {position : Address} {content : Content} :
    (∃ after, heap.write position content = .ok after) ↔
      ∃ block, heap.blocks.get? position.block.handle = some block ∧
        position.offset.toNat + content.width ≤ block.size := by
  rw [write_eq]
  constructor
  · rintro ⟨after, written⟩
    obtain ⟨block, changed, found, changes, -⟩ := update_eq_ok written
    exact ⟨block, found, Content.exists_change_iff.1 ⟨changed, changes⟩⟩
  · rintro ⟨block, found, fits⟩
    obtain ⟨changed, changes⟩ := Content.exists_change_iff.2 fits
    exact ⟨_, bind_eq_ok.2 ⟨block, block_eq_ok_iff.2 found, bind_eq_ok.2 ⟨changed, changes, rfl⟩⟩⟩

/-- Whatever was allocated, written and freed before, what is stored in a block lies inside of it over
zero bytes of its own, so no offset or end of it that a write computes leaves 32 bits. A write that
fails changes nothing. -/
theorem blocks_shaped_throughout (requests : List Request) :
    let heap := history requests
    (∀ handle block, heap.blocks.get? handle = some block →
      block.Shaped ∧
        (∀ offset width, block.check offset width = .ok () →
          offset.toNat + width ≤ UInt32.size - 1) ∧
        ∀ entry ∈ block.refs, entry.1.toNat + Block.refSize ≤ UInt32.size - 1) ∧
      ∀ position content,
        ((∃ after, heap.write position content = .ok after) ↔
          ∃ block, heap.blocks.get? position.block.handle = some block ∧
            position.offset.toNat + content.width ≤ block.size) ∧
        ∀ fault, heap.write position content = .error fault →
          heap.next (.write position content) = heap ∧
            ∀ state : Local, state.world.heap = heap →
              content.action position state = .error (.ofFault fault) state := by
  intro heap
  constructor
  · intro handle block found
    have shaped := shaped_history requests handle block found
    have bounded := shaped.bounded
    refine ⟨shaped, fun offset width checked => ?_, fun entry member => ?_⟩
    · have fits := Block.check_eq_ok.1 checked
      omega
    · have fits := shaped.inside entry member
      omega
  · refine fun position content => ⟨exists_written_iff, fun fault failed => ⟨?_, ?_⟩⟩
    · simp only [Heap.next, Heap.serve, failed]
    · intro state same
      rw [Content.action_eq]
      simp only [Action.updateHeap, Action.bind_apply, Action.get_apply, same, failed,
        Action.ofExcept_error]

def overlapping : List Request :=
  let place (offset : UInt32) : Address := ⟨⟨⟨0, 0⟩⟩, offset⟩
  [.alloc 24, .write (place 0) (.string "text"), .write (place 8) (.pointer (.function ⟨3⟩)),
    .write (place 4) (.bytes [7]), .write (place 20) (.string "more")]

theorem blocks_shaped_throughout_overlapping :
    let block : Block :=
      ⟨[0, 0, 0, 0, 7] ++ List.replicate 11 0, 8, [(8, .pointer (.function ⟨3⟩))]⟩
    (history overlapping).blocks.get? ⟨0, 0⟩ = some block ∧ block.Shaped := by
  intro block
  have found : (history overlapping).blocks.get? ⟨0, 0⟩ = some block := by decide +kernel
  exact ⟨found, ((blocks_shaped_throughout overlapping).1 ⟨0, 0⟩ block found).1⟩

end Heap
end GameScript
