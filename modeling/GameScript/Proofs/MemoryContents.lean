import GameScript.Proofs.BlockSlots
import GameScript.Proofs.CodecRoundTrip

/-! What can be read from memory after a write. Bytes and stored references are kept apart in a block,
but a write of either kind concerns the same range of places: what is read from there is what was
written, and what is read from any other range is what was there before. -/

namespace GameScript

theorem Codec.ofLittleEndian_littleEndian_mod (width n : Nat) :
    ofLittleEndian (littleEndian width n) = n % 256 ^ width := by
  induction width generalizing n with
  | zero => rw [Nat.pow_zero, Nat.mod_one]; rfl
  | succ width ih =>
    have split : 256 ^ (width + 1) = 256 * 256 ^ width := Nat.pow_succ'
    rw [littleEndian, ofLittleEndian, ih, UInt8.toNat_ofNat', split]
    exact Nat.mod_mul.symm

namespace Block

variable {block before after : Block} {offset : UInt32} {data : List UInt8} {start width : Nat}

/-- Two blocks differ within `width` places from `start` at most. -/
structure AgreeOutside (start width : Nat) (before after : Block) : Prop where
  size : after.size = before.size
  bytes : ∀ place, place < start ∨ start + width ≤ place →
    after.bytes[place]? = before.bytes[place]?
  stored : ∀ slot : UInt32, slot.toNat + refSize ≤ start ∨ start + width ≤ slot.toNat →
    after.stored? slot = before.stored? slot

theorem lookup_filter {refs : List (UInt32 × Stored)} {kept : UInt32 × Stored → Bool} {slot : UInt32}
    (keeps : ∀ value, kept (slot, value) = true) :
    (refs.filter kept).lookup slot = refs.lookup slot := by
  induction refs with
  | nil => rfl
  | cons entry refs ih =>
    obtain ⟨key, value⟩ := entry
    by_cases same : slot = key
    · subst same
      rw [List.filter_cons_of_pos (keeps value), List.lookup_cons_self, List.lookup_cons_self]
    · have skip {rest : List (UInt32 × Stored)} :
          ((key, value) :: rest).lookup slot = rest.lookup slot := by
        rw [List.lookup_cons, beq_false_of_ne same]
      rw [List.filter_cons, skip]
      split
      · rw [skip, ih]
      · exact ih

theorem write_agrees (written : block.write offset data = .ok after) :
    AgreeOutside offset.toNat data.length block after := by
  obtain ⟨-, size, bytes, refs⟩ := write_eq_ok written
  refine ⟨size, fun place outside => ?_, fun slot clear => ?_⟩
  · rw [bytes, if_neg (by omega)]
  · rw [stored?, refs, stored?]
    refine lookup_filter fun value => ?_
    rw [Bool.not_eq_true', touches_eq_false]
    exact clear.symm

theorem store_agrees {value : Stored} (stored : block.store offset value = .ok after) :
    AgreeOutside offset.toNat refSize block after := by
  obtain ⟨cleared, written, stored⟩ := bind_eq_ok.1 stored
  cases stored
  have agrees := write_agrees written
  rw [List.length_replicate] at agrees
  refine ⟨agrees.size, agrees.bytes, fun slot clear => ?_⟩
  have other : slot ≠ offset := by
    rintro rfl
    have positive : 0 < refSize := by decide
    omega
  rw [← agrees.stored slot clear, stored?, stored?, List.lookup_cons, beq_false_of_ne other]

theorem AgreeOutside.read {wanted : Nat} (agrees : AgreeOutside start width before after)
    (clear : offset.toNat + wanted ≤ start ∨ start + width ≤ offset.toNat) :
    after.read offset wanted = before.read offset wanted := by
  have same : (after.bytes.drop offset.toNat).take wanted =
      (before.bytes.drop offset.toNat).take wanted := by
    refine List.ext_getElem? fun place => ?_
    rw [List.getElem?_take, List.getElem?_take]
    split
    next => rw [List.getElem?_drop, List.getElem?_drop, agrees.bytes _ (by omega)]
    next => rfl
  rw [read_eq, read_eq, check, agrees.size, same, check]

theorem AgreeOutside.readString (agrees : AgreeOutside start width before after)
    (clear : offset.toNat + refSize ≤ start ∨ start + width ≤ offset.toNat) :
    after.readString offset = before.readString offset := by
  unfold Block.readString check
  rw [agrees.size, agrees.stored offset clear]

theorem AgreeOutside.readPointer (agrees : AgreeOutside start width before after)
    (clear : offset.toNat + refSize ≤ start ∨ start + width ≤ offset.toNat) :
    after.readPointer offset = before.readPointer offset := by
  unfold Block.readPointer check
  rw [agrees.size, agrees.stored offset clear]

/-- What was written is read back, all of it or a part. -/
theorem read_written {inner : UInt32} {wanted : Nat} (written : block.write offset data = .ok after)
    (first : offset.toNat ≤ inner.toNat) (last : inner.toNat + wanted ≤ offset.toNat + data.length) :
    after.read inner wanted = .ok ((data.drop (inner.toNat - offset.toNat)).take wanted) := by
  obtain ⟨fits, size, bytes, -⟩ := write_eq_ok written
  have inside : inner.toNat + wanted ≤ after.size := by omega
  have same : (after.bytes.drop inner.toNat).take wanted =
      (data.drop (inner.toNat - offset.toNat)).take wanted := by
    refine List.ext_getElem? fun place => ?_
    rw [List.getElem?_take, List.getElem?_take]
    split
    next =>
      rw [List.getElem?_drop, List.getElem?_drop, bytes, if_pos (by omega)]
      congr 1
      omega
    next => rfl
  rw [read_eq]
  exact bind_eq_ok.2 ⟨(), check_eq_ok.2 inside, congrArg _ same⟩

theorem readString_stored {value : String} (stored : block.store offset (.string value) = .ok after) :
    after.readString offset = .ok value := by
  have fits := exists_store_iff.1 ⟨after, stored⟩
  have agrees := store_agrees stored
  obtain ⟨cleared, -, made⟩ := bind_eq_ok.1 stored
  cases made
  refine bind_eq_ok.2 ⟨(), check_eq_ok.2 (agrees.size ▸ fits), ?_⟩
  rw [stored?, List.lookup_cons_self]
  rfl

theorem readPointer_written {value : Pointer} (written : block.writePointer offset value = .ok after) :
    after.readPointer offset = .ok value := by
  unfold writePointer at written
  split at written
  next null =>
    obtain ⟨fits, size, -, refs⟩ := write_eq_ok written
    rw [List.length_replicate] at fits refs
    have gone : after.stored? offset = none := by
      rw [stored?, refs, List.lookup_eq_none_iff]
      intro entry kept
      have clear := (List.mem_filter.1 kept).2
      rw [Bool.not_eq_true', touches_eq_false] at clear
      rw [bne_iff_ne]
      rintro rfl
      have positive : 0 < refSize := by decide
      omega
    refine bind_eq_ok.2 ⟨(), check_eq_ok.2 (size ▸ fits), ?_⟩
    rw [gone]
    cases value <;> first | rfl | cases null
  next =>
    have fits := exists_store_iff.1 ⟨after, written⟩
    have agrees := store_agrees written
    obtain ⟨cleared, -, made⟩ := bind_eq_ok.1 written
    cases made
    refine bind_eq_ok.2 ⟨(), check_eq_ok.2 (agrees.size ▸ fits), ?_⟩
    rw [stored?, List.lookup_cons_self]
    rfl

end Block

namespace Heap

variable {heap before after : Heap} {position place : Address} {width wanted : Nat}

theorem Content.change_agrees {content : Content} {block changed : Block} {offset : UInt32}
    (changes : content.change block offset = .ok changed) :
    block.AgreeOutside offset.toNat content.width changed := by
  cases content with
  | bytes data => exact Block.write_agrees changes
  | string value => exact Block.store_agrees changes
  | pointer value =>
    simp only [Content.change, Block.writePointer] at changes
    split at changes
    next =>
      have agrees := Block.write_agrees changes
      rwa [List.length_replicate] at agrees
    next => exact Block.store_agrees changes

def Clear (place : Address) (wanted : Nat) (position : Address) (width : Nat) : Prop :=
  place.block ≠ position.block ∨ place.offset.toNat + wanted ≤ position.offset.toNat ∨
    position.offset.toNat + width ≤ place.offset.toNat

/-- The text at an address, with its zero byte, lies clear of a range of memory. -/
def ClearText (heap : Heap) (start position : Address) (width : Nat) : Prop :=
  start.block ≠ position.block ∨ position.offset.toNat + width ≤ start.offset.toNat ∨
    ∀ block, heap.block start.block = .ok block →
      start.offset.toNat + ((block.bytes.drop start.offset.toNat).takeWhile (· != 0)).length <
        position.offset.toNat

theorem takeWhile_eq_of_agree {taken : α → Bool} {left right : List α}
    (same : ∀ index ≤ (left.takeWhile taken).length, right[index]? = left[index]?) :
    right.takeWhile taken = left.takeWhile taken := by
  induction left generalizing right with
  | nil =>
    have ended := same 0 (Nat.zero_le _)
    rw [List.getElem?_nil, List.getElem?_eq_none_iff] at ended
    rw [List.eq_nil_of_length_eq_zero (Nat.le_zero.1 ended)]
  | cons head left ih =>
    have first := same 0 (Nat.zero_le _)
    cases right with
    | nil => cases first
    | cons other right =>
      cases first
      rw [List.takeWhile_cons, List.takeWhile_cons]
      split
      next goes =>
        refine congrArg _ (ih fun index bound => same (index + 1) ?_)
        rw [List.takeWhile_cons_of_pos goes]
        exact Nat.succ_le_succ bound
      next => rfl

/-- Two heaps differ within `width` bytes from an address at most. -/
structure AgreeOutside (position : Address) (width : Nat) (before after : Heap) : Prop where
  objects : after.objects = before.objects
  others : ∀ id, id ≠ position.block → after.block id = before.block id
  here : ∃ old new, before.block position.block = .ok old ∧ after.block position.block = .ok new ∧
    old.AgreeOutside position.offset.toNat width new

theorem write_agrees {content : Content} (written : heap.write position content = .ok after) :
    AgreeOutside position content.width heap after := by
  rw [write_eq] at written
  obtain ⟨old, new, found, changes, rfl⟩ := update_eq_ok written
  have live : heap.blocks.Live position.block.handle := Arena.live_iff.2 ⟨old, found⟩
  refine ⟨rfl, fun id other => ?_, old, new, block_eq_ok_iff.2 found, ?_, Content.change_agrees changes⟩
  · have apart : id.handle ≠ position.block.handle := fun same => other (congrArg BlockId.mk same)
    simp only [block, Arena.get?_set, apart, false_and, if_false]
  · rw [block_eq_ok_iff, Arena.get?_set, if_pos ⟨rfl, live⟩]

namespace AgreeOutside

variable (agrees : AgreeOutside position width before after)
include agrees

theorem resolve (pointer : Pointer) : after.resolve pointer = before.resolve pointer := by
  cases pointer <;> simp only [Heap.resolve, object, agrees.objects]

/-- What only asks for the size of a block, or for what is clear of the write, gets the same answer. -/
theorem block_bind {next : Block → Except Fault α}
    (same : place.block = position.block → ∀ old new : Block,
      before.block place.block = .ok old → old.AgreeOutside position.offset.toNat width new →
        next new = next old) :
    (after.block place.block >>= next) = (before.block place.block >>= next) := by
  by_cases shared : place.block = position.block
  · obtain ⟨old, new, held, changed, agree⟩ := agrees.here
    have here := same shared old new (shared ▸ held) agree
    rw [shared, held, changed]
    exact here
  · rw [agrees.others _ shared]

theorem displace (delta : Int) : after.displace place delta = before.displace place delta :=
  agrees.block_bind fun _ old new _ agree => by simp only [agree.size]

theorem readBytes (clear : Clear place wanted position width) :
    after.readBytes place wanted = before.readBytes place wanted :=
  agrees.block_bind fun shared _ _ _ agree => agree.read (clear.resolve_left (not_not.2 shared))

theorem readString (clear : Clear place Block.refSize position width) :
    after.readString place = before.readString place :=
  agrees.block_bind fun shared _ _ _ agree => agree.readString (clear.resolve_left (not_not.2 shared))

theorem readPointer (clear : Clear place Block.refSize position width) :
    after.readPointer place = before.readPointer place :=
  agrees.block_bind fun shared _ _ _ agree => agree.readPointer (clear.resolve_left (not_not.2 shared))

/-- The text at an address reaches up to a zero byte or to the end of the block. -/
theorem readText (clear : ClearText before place position width) :
    after.readText place = before.readText place := by
  refine agrees.block_bind fun shared old new held agree => ?_
  have same : new.text place.offset.toNat = old.text place.offset.toNat := by
    rw [Block.text_eq, Block.text_eq]
    refine takeWhile_eq_of_agree fun index bound => ?_
    rw [List.getElem?_drop, List.getElem?_drop]
    refine agree.bytes _ ?_
    obtain apart | behind | ahead := clear
    · exact absurd shared apart
    · omega
    · have reach := ahead old held
      omega
  unfold Block.check
  rw [agree.size, same]

end AgreeOutside

/-- Every block is smaller than what 32 bits can count, as a block is when it is made. -/
def Bounded (heap : Heap) : Prop :=
  ∀ id block, heap.block id = .ok block → block.size < UInt32.size

theorem Shaped.bounded (shaped : heap.Shaped) : heap.Bounded :=
  fun _ block found => (shaped _ block (block_eq_ok_iff.1 found)).bounded

theorem displace_eq_ok {delta : Int} {moved : Address} :
    heap.displace position delta = .ok moved ↔ ∃ block, heap.block position.block = .ok block ∧
      0 ≤ position.offset.toNat + delta ∧ position.offset.toNat + delta ≤ block.size ∧
      moved = { position with offset := UInt32.ofNat (position.offset.toNat + delta).toNat } := by
  unfold displace
  rw [bind_eq_ok]
  refine exists_congr fun block => and_congr_right fun _ => ?_
  dsimp only
  split
  next inside => simp only [Except.ok.injEq, inside, true_and, eq_comm]
  next outside => simp [← and_assoc, outside]

theorem Bounded.displace {delta : Int} {moved : Address} (bounded : heap.Bounded)
    (displaced : heap.displace position delta = .ok moved) :
    moved.block = position.block ∧ (moved.offset.toNat : Int) = position.offset.toNat + delta := by
  obtain ⟨block, found, low, high, rfl⟩ := displace_eq_ok.1 displaced
  have small := bounded _ block found
  refine ⟨rfl, ?_⟩
  rw [UInt32.toNat_ofNat_of_lt' (by omega)]
  omega

def readNat (heap : Heap) (position : Address) (width : Nat) : Except Fault Nat := do
  return Codec.ofLittleEndian (← heap.readBytes position width)

def readDouble (heap : Heap) (position : Address) : Except Fault Double := do
  return ⟨UInt64.ofNat (← heap.readNat position 8)⟩

def readVector (heap : Heap) (position : Address) : (count : Nat) → Except Fault (Vector Double count)
  | 0 => return ⟨#[], Array.size_empty⟩
  | count + 1 => do
    let front ← heap.readVector position count
    let next ← heap.displace position (count * 8)
    return front.push (← heap.readDouble next)

theorem Clear.mono {fewer : Nat} (clear : Clear place wanted position width) (less : fewer ≤ wanted) :
    Clear place fewer position width :=
  clear.imp_right fun apart => by omega

section

variable (agrees : AgreeOutside position width before after)
include agrees

theorem AgreeOutside.readNat (clear : Clear place wanted position width) :
    after.readNat place wanted = before.readNat place wanted := by
  rw [Heap.readNat, agrees.readBytes clear, Heap.readNat]

theorem AgreeOutside.readDouble (clear : Clear place 8 position width) :
    after.readDouble place = before.readDouble place := by
  rw [Heap.readDouble, agrees.readNat clear, Heap.readDouble]

theorem AgreeOutside.readVector {count : Nat} (bounded : before.Bounded)
    (clear : Clear place (count * 8) position width) :
    after.readVector place count = before.readVector place count := by
  induction count with
  | zero => rfl
  | succ count ih =>
    rw [Heap.readVector, Heap.readVector, ih (clear.mono (by omega)), agrees.displace]
    refine congrArg _ (funext fun front => ?_)
    cases displaced : before.displace place (count * 8) with
    | error fault => rfl
    | ok next =>
      obtain ⟨same, offset⟩ := bounded.displace displaced
      have apart : Clear next 8 position width := by
        unfold Clear at clear ⊢
        rw [same]
        exact clear.imp_right fun apart => by omega
      simp only [bind, Except.bind, agrees.readDouble apart]

end

theorem block_of_write {content : Content} (written : heap.write position content = .ok after) :
    ∃ old new, content.change old position.offset = .ok new ∧ after.block position.block = .ok new := by
  rw [write_eq] at written
  obtain ⟨old, new, found, changes, rfl⟩ := update_eq_ok written
  refine ⟨old, new, changes, ?_⟩
  rw [block_eq_ok_iff, Arena.get?_set, if_pos ⟨rfl, Arena.live_iff.2 ⟨old, found⟩⟩]

theorem readBytes_written {data : List UInt8}
    (written : heap.write position (.bytes data) = .ok after) (same : place.block = position.block)
    (first : position.offset.toNat ≤ place.offset.toNat)
    (last : place.offset.toNat + wanted ≤ position.offset.toNat + data.length) :
    after.readBytes place wanted =
      .ok ((data.drop (place.offset.toNat - position.offset.toNat)).take wanted) := by
  obtain ⟨old, new, changes, held⟩ := block_of_write written
  exact bind_eq_ok.2 ⟨new, same ▸ held, Block.read_written changes first last⟩

theorem readString_written {value : String}
    (written : heap.write position (.string value) = .ok after) :
    after.readString position = .ok value := by
  obtain ⟨old, new, changes, held⟩ := block_of_write written
  exact bind_eq_ok.2 ⟨new, held, Block.readString_stored changes⟩

theorem readPointer_written {value : Pointer}
    (written : heap.write position (.pointer value) = .ok after) :
    after.readPointer position = .ok value := by
  obtain ⟨old, new, changes, held⟩ := block_of_write written
  exact bind_eq_ok.2 ⟨new, held, Block.readPointer_written changes⟩

/-- Of a number that is too large, the low bytes are read back. -/
theorem readNat_written {count n : Nat}
    (written : heap.write position (.bytes (Codec.littleEndian count n)) = .ok after) :
    after.readNat position count = .ok (n % 256 ^ count) := by
  have read : after.readBytes position count = .ok (Codec.littleEndian count n) := by
    have length := Codec.littleEndian_length count n
    rw [readBytes_written written rfl (Nat.le_refl _) (by omega), Nat.sub_self, List.drop_zero,
      List.take_of_length_le (by omega)]
  rw [readNat, read]
  exact congrArg _ (Codec.ofLittleEndian_littleEndian_mod count n)

def doubleBytes (values : List Double) : List UInt8 :=
  values.flatMap fun x => Codec.littleEndian 8 x.bits.toNat

theorem doubleBytes_length (values : List Double) : (doubleBytes values).length = values.length * 8 := by
  induction values with
  | nil => rfl
  | cons x values ih =>
    have length := Codec.littleEndian_length 8 x.bits.toNat
    rw [doubleBytes, List.flatMap_cons, List.length_append, ← doubleBytes, ih, length, List.length_cons]
    omega

theorem doubleBytes_slice {values : List Double} {index : Nat} {x : Double}
    (there : values[index]? = some x) :
    ((doubleBytes values).drop (index * 8)).take 8 = Codec.littleEndian 8 x.bits.toNat := by
  induction values generalizing index with
  | nil => cases there
  | cons head values ih =>
    have length := Codec.littleEndian_length 8 head.bits.toNat
    rw [doubleBytes, List.flatMap_cons, ← doubleBytes]
    cases index with
    | zero =>
      cases there
      rw [Nat.zero_mul, List.drop_zero, List.take_left' length]
    | succ index =>
      rw [Nat.succ_mul, Nat.add_comm, ← List.drop_drop, List.drop_left' length]
      exact ih there

section

variable {count : Nat} {components : Vector Double count} (bounded : heap.Bounded)
  (written : heap.write position (.bytes (doubleBytes components.toList)) = .ok after)
include bounded written

theorem readDouble_written {index : Nat} {next : Address} (inside : index < count)
    (moved : heap.displace position (index * 8) = .ok next) :
    after.readDouble next = .ok components[index] := by
  have length := doubleBytes_length components.toList
  rw [Vector.length_toList] at length
  obtain ⟨same, offset⟩ := bounded.displace moved
  have there : components.toList[index]? = some components[index] := by simp
  have bytes : after.readBytes next 8 = .ok _ :=
    readBytes_written written same (by omega) (by omega)
  have distance : next.offset.toNat - position.offset.toNat = index * 8 := by omega
  rw [distance, doubleBytes_slice there] at bytes
  have small : components[index].bits.toNat < 256 ^ 8 := components[index].bits.toNat_lt
  have number := Codec.ofLittleEndian_littleEndian small
  rw [readDouble, readNat, bytes]
  simp only [bind, Except.bind, pure, Except.pure, number, UInt64.ofNat_toNat]

theorem readVector_written_front {taken : Nat} (enough : taken ≤ count) :
    after.readVector position taken = .ok (Vector.ofFn fun i : Fin taken => components[i]) := by
  have agrees := write_agrees written
  obtain ⟨block, held, fits⟩ := exists_written_iff.1 ⟨after, written⟩
  rw [Content.width, doubleBytes_length, Vector.length_toList] at fits
  induction taken with
  | zero => rfl
  | succ taken ih =>
    obtain ⟨next, moved⟩ : ∃ next, heap.displace position (taken * 8) = .ok next :=
      ⟨_, displace_eq_ok.2 ⟨block, block_eq_ok_iff.2 held, by omega, by omega, rfl⟩⟩
    have last := readDouble_written bounded written enough moved
    rw [readVector, ih (by omega), agrees.displace, moved]
    simp only [bind, Except.bind, last, pure, Except.pure, Except.ok.injEq]
    ext i inside
    rw [Vector.getElem_push, Vector.getElem_ofFn]
    split
    next earlier => rw [Vector.getElem_ofFn]; rfl
    next final =>
      have same : i = taken := by omega
      subst same
      rfl

theorem readVector_written : after.readVector position count = .ok components := by
  rw [readVector_written_front bounded written (Nat.le_refl _)]
  congr 1
  ext i inside
  rw [Vector.getElem_ofFn]
  rfl

end

end Heap
end GameScript
