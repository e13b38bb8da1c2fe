import GameScript.Proofs.MemoryAccess

/-! The laws of loads and stores. A load at the place of a store gives back what was stored, in the
width that was kept of it; one that reads clear of the store gives what it gave before. Only a null
base aborts as such, and a range that is not inside of a live block is a fault. -/

namespace GameScript

/-- A load of the second kind gives back the last value of what a store of the first kind stored. -/
inductive StoreKind.Returns :
    (stored : StoreKind) → stored.Held → (loaded : LoadKind) → loaded.Result → Prop where
  | int8 (x : Int32) : Returns .int8 x .int8 x.toInt8.toInt32
  | uint8 (x : Int32) : Returns .int8 x .uint8 x.toUInt32.toUInt8.toUInt32.toInt32
  | int16 (x : Int32) : Returns .int16 x .int16 x.toInt16.toInt32
  | uint16 (x : Int32) : Returns .int16 x .uint16 x.toUInt32.toUInt16.toUInt32.toInt32
  | int32 (x : Int32) : Returns .int32 x .int32 x
  | single (x : Double) : Returns .single x .single (Single.narrow x).widen
  | double (x : Double) : Returns .double x .double x
  | string (text : String) : Returns .string text .string text
  | object (pointer : Pointer) : Returns .object pointer .pointer pointer
  | pointer (pointer : Pointer) : Returns .pointer pointer .pointer pointer
  | vector (dimension : Dimension) (components : Vector Double dimension.size) :
      Returns (.vector dimension) components (.vector dimension) components

namespace Heap

variable {heap before after : Heap} {position place : Address} {width : Nat}

theorem low_bits_signed {bits : Nat} (x : BitVec 32) (few : bits ≤ 32) :
    BitVec.ofNat bits (x.toNat % 2 ^ bits) = x.signExtend bits := by
  rw [BitVec.signExtend_eq_setWidth_of_le _ few]
  refine BitVec.eq_of_toNat_eq ?_
  rw [BitVec.toNat_ofNat, BitVec.toNat_setWidth, Nat.mod_mod]

theorem low_bits_unsigned {bits : Nat} (x : BitVec 32) :
    BitVec.ofNat 32 (x.toNat % 2 ^ bits) = (x.setWidth bits).setWidth 32 := by
  refine BitVec.eq_of_toNat_eq ?_
  rw [BitVec.toNat_ofNat, BitVec.toNat_setWidth, BitVec.toNat_setWidth]

/-- What was stored is found again by the loads that match. -/
theorem read_returned {stored : StoreKind} {value : stored.Held} {loaded : LoadKind}
    {result : loaded.Result} (bounded : heap.Bounded)
    (written : heap.write position (stored.content value) = .ok after)
    (returns : stored.Returns value loaded result) : loaded.read after position = .ok result := by
  cases returns with
  | int8 x =>
    have low : (UInt8.ofNat (x.toUInt32.toNat % 256 ^ 1)).toInt8 = x.toInt8 :=
      Int8.toBitVec_inj.1 (@low_bits_signed 8 x.toBitVec (by decide))
    rw [LoadKind.read, readNat_written written]
    exact congrArg (fun low => Except.ok (Int8.toInt32 low)) low
  | uint8 x =>
    have low : Int32.ofNat (x.toUInt32.toNat % 256 ^ 1) = x.toUInt32.toUInt8.toUInt32.toInt32 :=
      Int32.toBitVec_inj.1 (@low_bits_unsigned 8 x.toBitVec)
    rw [LoadKind.read, readNat_written written]
    exact congrArg Except.ok low
  | int16 x =>
    have low : (UInt16.ofNat (x.toUInt32.toNat % 256 ^ 2)).toInt16 = x.toInt16 :=
      Int16.toBitVec_inj.1 (@low_bits_signed 16 x.toBitVec (by decide))
    rw [LoadKind.read, readNat_written written]
    exact congrArg (fun low => Except.ok (Int16.toInt32 low)) low
  | uint16 x =>
    have low : Int32.ofNat (x.toUInt32.toNat % 256 ^ 2) = x.toUInt32.toUInt16.toUInt32.toInt32 :=
      Int32.toBitVec_inj.1 (@low_bits_unsigned 16 x.toBitVec)
    rw [LoadKind.read, readNat_written written]
    exact congrArg Except.ok low
  | int32 x =>
    have small : x.toUInt32.toNat % 256 ^ 4 = x.toUInt32.toNat := Nat.mod_eq_of_lt x.toUInt32.toNat_lt
    rw [LoadKind.read, readNat_written written, small]
    exact congrArg Except.ok (by rw [UInt32.ofNat_toNat, Int32.toInt32_toUInt32])
  | single x =>
    have small : (Single.narrow x).bits.toNat % 256 ^ 4 = (Single.narrow x).bits.toNat :=
      Nat.mod_eq_of_lt (Single.narrow x).bits.toNat_lt
    rw [LoadKind.read, readNat_written written, small]
    exact congrArg Except.ok (by rw [UInt32.ofNat_toNat])
  | double x =>
    have small : x.bits.toNat % 256 ^ 8 = x.bits.toNat := Nat.mod_eq_of_lt x.bits.toNat_lt
    rw [LoadKind.read, readDouble, readNat_written written, small]
    exact congrArg Except.ok (by rw [UInt64.ofNat_toNat])
  | string text => exact readString_written written
  | object pointer => exact readPointer_written written
  | pointer pointer => exact readPointer_written written
  | vector dimension components => exact readVector_written bounded written

theorem AgreeOutside.reach (agrees : AgreeOutside position width before after) (base : Pointer)
    (delta : Int32) : after.reach base delta = before.reach base delta := by
  unfold Heap.reach
  rw [agrees.resolve]
  refine congrArg _ (funext fun start => ?_)
  cases start with
  | none => rfl
  | some start =>
    dsimp only
    rw [agrees.displace]

end Heap

structure Load.Spares (load : Load) (heap : Heap) (place position : Address) (width : Nat) :
    Prop where
  slot : Heap.Clear place load.width position width
  text : ∀ offset target start, load = .of .indirectText offset →
    heap.readPointer place = .ok target → heap.resolve target = .ok (some start) →
    heap.ClearText start position width

namespace Heap

variable {heap before after : Heap} {position place : Address} {width : Nat}

theorem AgreeOutside.readIndirect (agrees : AgreeOutside position width before after)
    (slot : Clear place Block.refSize position width)
    (text : ∀ target start, before.readPointer place = .ok target →
      before.resolve target = .ok (some start) → before.ClearText start position width) :
    after.readIndirect place = before.readIndirect place := by
  unfold Heap.readIndirect
  rw [agrees.readPointer slot]
  cases found : before.readPointer place with
  | error fault => rfl
  | ok target =>
    simp only [bind, Except.bind, agrees.resolve]
    cases resolved : before.resolve target with
    | error fault => rfl
    | ok start =>
      cases start with
      | none => rfl
      | some start => exact agrees.readText (text target start found resolved)

/-- A load that reads clear of a write finds what it found before. -/
theorem AgreeOutside.load (agrees : AgreeOutside position width before after)
    (bounded : before.Bounded) {load : Load} (spares : load.Spares before place position width)
    (w : Word) : load.read after place w = load.read before place w := by
  have slot := spares.slot
  have number (wanted : Nat) (same : load.width = wanted) :
      after.readNat place wanted = before.readNat place wanted := agrees.readNat (same ▸ slot)
  cases load with
  | bits => rw [Load.read, number 1 rfl, Load.read]
  | of kind offset =>
    change kind.read after place = kind.read before place
    cases kind with
    | int8 | uint8 => rw [LoadKind.read, number 1 rfl, LoadKind.read]
    | int16 | uint16 => rw [LoadKind.read, number 2 rfl, LoadKind.read]
    | int32 | single => rw [LoadKind.read, number 4 rfl, LoadKind.read]
    | double => exact agrees.readDouble slot
    | string => exact agrees.readString slot
    | pointer => exact agrees.readPointer slot
    | indirectText =>
      exact agrees.readIndirect slot fun target start => spares.text offset target start rfl
    | vector dimension => exact agrees.readVector bounded slot

/-- The bytes that an access of some width with a base and an offset touches lie in a live block. -/
def Covers (heap : Heap) (base : Pointer) (delta : Int32) (width : Nat) : Prop :=
  ∃ start block, heap.resolve base = .ok (some start) ∧ heap.block start.block = .ok block ∧
    0 ≤ start.offset.toNat + delta.toInt ∧
    start.offset.toNat + delta.toInt + width ≤ block.size

def Holds (heap : Heap) (place : Address) (width : Nat) : Prop :=
  ∃ block, heap.block place.block = .ok block ∧ place.offset.toNat + width ≤ block.size

theorem reach_eq_ok_none {base : Pointer} {delta : Int32} :
    heap.reach base delta = .ok none ↔ base = .null := by
  unfold Heap.reach
  constructor
  · intro reached
    obtain ⟨start, resolved, rest⟩ := bind_eq_ok.1 reached
    cases start with
    | some start =>
      obtain ⟨moved, -, ⟨⟩⟩ := bind_eq_ok.1 rest
    | none =>
      cases base with
      | null => rfl
      | object ref =>
        cases found : heap.object ref <;> rw [Heap.resolve, found] at resolved <;> cases resolved
      | _ => cases resolved
  · rintro rfl
    rfl

theorem covers_iff {base : Pointer} {delta : Int32} (bounded : heap.Bounded) :
    heap.Covers base delta width ↔
      ∃ place, heap.reach base delta = .ok (some place) ∧ heap.Holds place width := by
  constructor
  · rintro ⟨start, block, resolved, found, low, high⟩
    obtain ⟨moved, displaced⟩ : ∃ moved, heap.displace start delta.toInt = .ok moved :=
      ⟨_, displace_eq_ok.2 ⟨block, found, low, by omega, rfl⟩⟩
    obtain ⟨same, offset⟩ := bounded.displace displaced
    refine ⟨moved, ?_, block, same ▸ found, by omega⟩
    rw [Heap.reach, resolved]
    simp only [bind, Except.bind, displaced]
    rfl
  · rintro ⟨place, reached, block, found, fits⟩
    obtain ⟨start, resolved, rest⟩ := bind_eq_ok.1 reached
    cases start with
    | none => cases rest
    | some start =>
      obtain ⟨moved, displaced, ⟨⟩⟩ := bind_eq_ok.1 rest
      obtain ⟨same, offset⟩ := bounded.displace displaced
      obtain ⟨_, -, low, -⟩ := displace_eq_ok.1 displaced
      exact ⟨start, block, resolved, same ▸ found, low, by omega⟩

/-- What can be read lies in a live block. -/
theorem holds_of_block {read : Block → Except Fault α} {value : α}
    (found : (heap.block place.block >>= read) = .ok value)
    (fits : ∀ block value, read block = .ok value → place.offset.toNat + width ≤ block.size) :
    heap.Holds place width := by
  obtain ⟨block, live, done⟩ := bind_eq_ok.1 found
  exact ⟨block, live, fits block value done⟩

theorem holds_of_readNat {n : Nat} (read : heap.readNat place width = .ok n) :
    heap.Holds place width := by
  obtain ⟨bytes, found, -⟩ := bind_eq_ok.1 read
  refine holds_of_block found fun block data done => ?_
  obtain ⟨_, checked, -⟩ := bind_eq_ok.1 done
  exact Block.check_eq_ok.1 checked

theorem holds_of_readDouble {x : Double} (read : heap.readDouble place = .ok x) :
    heap.Holds place 8 := by
  obtain ⟨n, found, -⟩ := bind_eq_ok.1 read
  exact holds_of_readNat found

theorem holds_of_readString {text : String} (read : heap.readString place = .ok text) :
    heap.Holds place Block.refSize := by
  refine holds_of_block read fun block text done => ?_
  obtain ⟨_, checked, -⟩ := bind_eq_ok.1 done
  exact Block.check_eq_ok.1 checked

theorem holds_of_readPointer {pointer : Pointer} (read : heap.readPointer place = .ok pointer) :
    heap.Holds place Block.refSize := by
  refine holds_of_block read fun block pointer done => ?_
  obtain ⟨_, checked, -⟩ := bind_eq_ok.1 done
  exact Block.check_eq_ok.1 checked

/-- The last component of a vector is the one that may lie outside. -/
theorem holds_of_readVector {count : Nat} {components : Vector Double (count + 1)}
    (bounded : heap.Bounded) (read : heap.readVector place (count + 1) = .ok components) :
    heap.Holds place ((count + 1) * 8) := by
  obtain ⟨front, -, rest⟩ := bind_eq_ok.1 read
  obtain ⟨next, displaced, rest⟩ := bind_eq_ok.1 rest
  obtain ⟨last, found, -⟩ := bind_eq_ok.1 rest
  obtain ⟨same, offset⟩ := bounded.displace displaced
  obtain ⟨block, live, fits⟩ := holds_of_readDouble found
  exact ⟨block, same ▸ live, by omega⟩

theorem holds_of_load {load : Load} {w : Word} {result : load.Result} (bounded : heap.Bounded)
    (read : load.read heap place w = .ok result) : heap.Holds place load.width := by
  cases load with
  | bits =>
    obtain ⟨n, found, -⟩ := bind_eq_ok.1 read
    exact holds_of_readNat found
  | of kind offset =>
    change kind.read heap place = .ok result at read
    cases kind with
    | double => exact holds_of_readDouble read
    | string => exact holds_of_readString read
    | pointer => exact holds_of_readPointer read
    | indirectText =>
      obtain ⟨target, found, -⟩ := bind_eq_ok.1 read
      exact holds_of_readPointer found
    | vector dimension => cases dimension <;> exact holds_of_readVector bounded read
    | _ =>
      obtain ⟨n, found, -⟩ := bind_eq_ok.1 read
      exact holds_of_readNat found

theorem exists_change_iff {store : Store} {w : Word} {value : store.Held} :
    (∃ after, store.change heap place w value = .ok after) ↔ heap.Holds place store.width := by
  cases store with
  | of kind offset =>
    have written := @exists_written_iff heap place (kind.content value)
    rw [kind.content_width] at written
    refine written.trans (exists_congr fun block => ?_)
    rw [block_eq_ok_iff]
    rfl
  | bits =>
    constructor
    · rintro ⟨after, changed⟩
      obtain ⟨content, made, -⟩ := bind_eq_ok.1 changed
      obtain ⟨n, found, -⟩ := bind_eq_ok.1 made
      exact holds_of_readNat found
    · rintro ⟨block, live, fits⟩
      have found : heap.readNat place 1 = .ok _ :=
        bind_eq_ok.2 ⟨_, bind_eq_ok.2 ⟨block, live, bind_eq_ok.2 ⟨(), Block.check_eq_ok.2 fits, rfl⟩⟩,
          rfl⟩
      have written (byte : UInt8) : ∃ after, heap.write place (.bytes [byte]) = .ok after :=
        exists_written_iff.2 ⟨block, block_eq_ok_iff.1 live, fits⟩
      unfold Store.change Store.content
      dsimp only
      rw [found]
      exact written _

end Heap

namespace Action

variable {before after : Local}

def inWorld (world : World) : EStateM.Result Abort Local α → EStateM.Result Abort Local α
  | .ok value after => .ok value { after with world }
  | .error abort after => .error abort { after with world }

def changeRegisters (change : Banks → Except Fault Banks) : Action Unit := do
  let frame ← frame
  setFrame { frame with registers := ← ofExcept (change frame.registers) }

theorem put_changes (target : Nat) (load : Load) (result : load.Result) :
    ∃ change, load.put target result = changeRegisters change := by
  cases load with
  | bits => exact ⟨fun registers => registers.setRegister .int target result, rfl⟩
  | of kind offset =>
    cases kind with
    | single | double => exact ⟨fun registers => registers.setRegister .float target result, rfl⟩
    | string | indirectText =>
      exact ⟨fun registers => registers.setRegister .string target result, rfl⟩
    | pointer => exact ⟨fun registers => registers.setRegister .pointer target result, rfl⟩
    | vector dimension => exact ⟨fun registers => registers.setVector target result, rfl⟩
    | _ => exact ⟨fun registers => registers.setRegister .int target result, rfl⟩

theorem put_inWorld (target : Nat) (load : Load) (result : load.Result) (frame : Frame)
    (world other : World) :
    load.put target result ⟨frame, world⟩ = inWorld world (load.put target result ⟨frame, other⟩) := by
  obtain ⟨change, same⟩ := put_changes target load result
  rw [same]
  change (ofExcept (change frame.registers) >>= _) _ =
    inWorld world ((ofExcept (change frame.registers) >>= _) _)
  cases change frame.registers <;> rfl

theorem fault_of_ofExcept {result : Except Fault α} {abort : Abort}
    (failed : ofExcept result before = .error abort after) :
    abort.kind = .contractViolation ∧ after = before := by
  obtain ⟨⟨fault, -, rfl⟩, rfl⟩ := ofExcept_eq_error.1 failed
  exact ⟨rfl, rfl⟩

theorem put_fault {target : Nat} {load : Load} {result : load.Result} {abort : Abort}
    (failed : load.put target result before = .error abort after) :
    abort.kind = .contractViolation ∧ after = before := by
  obtain ⟨change, same⟩ := put_changes target load result
  rw [same] at failed
  rcases bind_eq_error.1 failed with ⟨⟨⟩⟩ | ⟨_, _, ⟨⟩, failed⟩
  rcases bind_eq_error.1 failed with refused | ⟨_, _, -, ⟨⟩⟩
  exact fault_of_ofExcept refused

theorem compute_load_of_read {place : Address} {w : Word} {load : Load} {result : load.Result}
    (epsilon : Double) (mnemonic : String)
    (reached : before.frame.reach before.world.heap w.b.toNat (load.delta before.frame w) =
      .ok (some place))
    (read : load.read before.world.heap place w = .ok result) :
    compute epsilon mnemonic w load.operation before = load.put w.a.toNat result before := by
  rw [compute_load, reached]
  change (ofExcept (load.read before.world.heap place w) >>= _) before = _
  rw [read]
  rfl

/-- A load that finds after a store what it found before ends the same. -/
theorem load_inWorld {position : Address} {width : Nat} {frame : Frame}
    {world other : World} (agrees : Heap.AgreeOutside position width other.heap world.heap)
    (bounded : other.heap.Bounded) (epsilon : Double) (mnemonic : String) (w : Word) (load : Load)
    (spares : ∀ place,
      frame.reach other.heap w.b.toNat (load.delta frame w) = .ok (some place) →
      load.Spares other.heap place position width) :
    compute epsilon mnemonic w load.operation ⟨frame, world⟩ =
      inWorld world (compute epsilon mnemonic w load.operation ⟨frame, other⟩) := by
  have reached : frame.reach world.heap w.b.toNat (load.delta frame w) =
      frame.reach other.heap w.b.toNat (load.delta frame w) := by
    simp only [Frame.reach, agrees.reach]
  rw [compute_load, compute_load, reached]
  cases found : frame.reach other.heap w.b.toNat (load.delta frame w) with
  | error fault => rfl
  | ok place =>
    cases place with
    | none => rfl
    | some place =>
      change (ofExcept (load.read world.heap place w) >>= _) _ =
        inWorld world ((ofExcept (load.read other.heap place w) >>= _) _)
      rw [agrees.load bounded (spares place found) w]
      cases load.read other.heap place w with
      | error fault => rfl
      | ok result => exact put_inWorld ..

theorem store_eq_ok {epsilon : Double} {mnemonic : String} {w : Word} {store : Store}
    (done : compute epsilon mnemonic w store.operation before = .ok () after) :
    ∃ value position heap, store.held before.frame w = .ok value ∧
      before.frame.reach before.world.heap w.a.toNat (store.delta before.frame w) =
        .ok (some position) ∧
      store.change before.world.heap position w value = .ok heap ∧
      after = ⟨before.frame, store.note value { before.world with heap }⟩ := by
  rw [compute_store] at done
  obtain ⟨value, _, held, done⟩ := bind_eq_ok.1 done
  obtain ⟨held, rfl⟩ := ofExcept_eq_ok.1 held
  obtain ⟨place, _, reached, done⟩ := bind_eq_ok.1 done
  obtain ⟨reached, rfl⟩ := ofExcept_eq_ok.1 reached
  cases place with
  | none => cases done
  | some position =>
    obtain ⟨heap, _, changed, done⟩ := bind_eq_ok.1 done
    obtain ⟨changed, rfl⟩ := ofExcept_eq_ok.1 changed
    cases done
    exact ⟨value, position, heap, held, reached, changed, rfl⟩

/-- How an access ends that takes the base and the offset it is given: a null base has an abort of its
own, anything else that goes wrong is a fault, and nothing is changed then. -/
structure Guarded (nil : AbortKind) (before : Local) (base : Pointer) (delta : Int32) (width : Nat)
    (result : EStateM.Result Abort Local Unit) : Prop where
  null : (∃ abort after, result = .error abort after ∧ abort.kind = nil) ↔ base = .null
  outside : base ≠ .null → ¬before.world.heap.Covers base delta width →
    ∃ abort after, result = .error abort after ∧ abort.kind = .contractViolation
  undone : ∀ abort after, result = .error abort after →
    (abort.kind = nil ∨ abort.kind = .contractViolation) ∧ after = before

theorem guarded_of_reach {base : Pointer} {delta : Int32} {width : Nat} {nil : AbortKind}
    {next : Address → Action Unit} (bounded : before.world.heap.Bounded)
    (distinct : nil ≠ .contractViolation)
    (faults : ∀ position abort after, next position before = .error abort after →
      abort.kind = .contractViolation ∧ after = before)
    (holds : ∀ position after, next position before = .ok () after →
      before.world.heap.Holds position width) :
    Guarded nil before base delta width
      ((ofExcept (before.world.heap.reach base delta) >>= fun
        | some position => next position
        | none => abort nil) before) := by
  by_cases null : base = .null
  · subst null
    refine ⟨iff_of_true ⟨_, _, rfl, rfl⟩ rfl, fun solid => absurd rfl solid, ?_⟩
    rintro abort after ⟨⟩
    exact ⟨.inl rfl, rfl⟩
  · have fails : ∀ abort after, (ofExcept (before.world.heap.reach base delta) >>= fun
        | some position => next position
        | none => Action.abort nil) before = .error abort after →
        abort.kind = .contractViolation ∧ after = before := by
      intro abort after failed
      rcases bind_eq_error.1 failed with lost | ⟨place, _, reached, failed⟩
      · exact fault_of_ofExcept lost
      · obtain ⟨reached, rfl⟩ := ofExcept_eq_ok.1 reached
        cases place with
        | none => exact absurd (Heap.reach_eq_ok_none.1 reached) null
        | some position => exact faults position abort after failed
    refine ⟨iff_of_false ?_ null, fun _ uncovered => ?_, fun abort after failed => ?_⟩
    · rintro ⟨abort, after, failed, kind⟩
      exact distinct (kind.symm.trans (fails abort after failed).1)
    · cases ended : (ofExcept (before.world.heap.reach base delta) >>= fun
        | some position => next position
        | none => Action.abort nil) before with
      | error abort after => exact ⟨abort, after, rfl, (fails abort after ended).1⟩
      | ok value after =>
        obtain ⟨place, _, reached, done⟩ := bind_eq_ok.1 ended
        obtain ⟨reached, rfl⟩ := ofExcept_eq_ok.1 reached
        cases place with
        | none => exact absurd (Heap.reach_eq_ok_none.1 reached) null
        | some position =>
          exact absurd ((Heap.covers_iff bounded).2 ⟨position, reached, holds position after done⟩)
            uncovered
    · exact (fails abort after failed).imp_left .inr

theorem guarded_load {base : Pointer} {delta : Int32} {w : Word} {load : Load}
    (bounded : before.world.heap.Bounded)
    (based : before.frame.registers.register .pointer w.b.toNat = .ok base)
    (moved : load.delta before.frame w = .ok delta) (epsilon : Double) (mnemonic : String) :
    Guarded .readNil before base delta load.width
      (compute epsilon mnemonic w load.operation before) := by
  have reaches : before.frame.reach before.world.heap w.b.toNat (load.delta before.frame w) =
      before.world.heap.reach base delta := by
    rw [Frame.reach, based, moved]
    rfl
  rw [compute_load, reaches]
  refine guarded_of_reach bounded (by decide) (fun position abort after failed => ?_)
    fun position after done => ?_
  · rcases bind_eq_error.1 failed with lost | ⟨result, _, read, refused⟩
    · exact fault_of_ofExcept lost
    · obtain ⟨-, rfl⟩ := ofExcept_eq_ok.1 read
      exact put_fault refused
  · obtain ⟨result, _, read, -⟩ := bind_eq_ok.1 done
    exact Heap.holds_of_load bounded (ofExcept_eq_ok.1 read).1

/-- What a store does once its operands are read. -/
theorem compute_store_of_held {base : Pointer} {delta : Int32} {w : Word} {store : Store}
    {value : store.Held} (held : store.held before.frame w = .ok value)
    (based : before.frame.registers.register .pointer w.a.toNat = .ok base)
    (moved : store.delta before.frame w = .ok delta) (epsilon : Double) (mnemonic : String) :
    compute epsilon mnemonic w store.operation before =
      (ofExcept (before.world.heap.reach base delta) >>= fun
        | some position =>
          ofExcept (store.change before.world.heap position w value) >>= fun heap =>
            setWorld (store.note value { before.world with heap })
        | none => abort .writeNil) before := by
  have reaches : before.frame.reach before.world.heap w.a.toNat (store.delta before.frame w) =
      before.world.heap.reach base delta := by
    rw [Frame.reach, based, moved]
    rfl
  rw [compute_store, held, reaches]
  rfl

theorem guarded_store {base : Pointer} {delta : Int32} {w : Word} {store : Store}
    {value : store.Held} (bounded : before.world.heap.Bounded)
    (held : store.held before.frame w = .ok value)
    (based : before.frame.registers.register .pointer w.a.toNat = .ok base)
    (moved : store.delta before.frame w = .ok delta) (epsilon : Double) (mnemonic : String) :
    Guarded .writeNil before base delta store.width
      (compute epsilon mnemonic w store.operation before) := by
  rw [compute_store_of_held held based moved]
  refine guarded_of_reach bounded (by decide) (fun position abort after failed => ?_)
    fun position after done => ?_
  · rcases bind_eq_error.1 failed with lost | ⟨_, _, -, ⟨⟩⟩
    exact fault_of_ofExcept lost
  · obtain ⟨heap, _, changed, -⟩ := bind_eq_ok.1 done
    exact Heap.exists_change_iff.1 ⟨heap, (ofExcept_eq_ok.1 changed).1⟩

/-- A store whose operands exist completes exactly where it is inside of a live block. -/
theorem store_completes_iff {base : Pointer} {delta : Int32} {w : Word} {store : Store}
    {value : store.Held} (bounded : before.world.heap.Bounded)
    (held : store.held before.frame w = .ok value)
    (based : before.frame.registers.register .pointer w.a.toNat = .ok base)
    (moved : store.delta before.frame w = .ok delta) (epsilon : Double) (mnemonic : String) :
    (∃ after, compute epsilon mnemonic w store.operation before = .ok () after) ↔
      before.world.heap.Covers base delta store.width := by
  rw [compute_store_of_held held based moved, Heap.covers_iff bounded]
  constructor
  · rintro ⟨after, done⟩
    obtain ⟨place, _, reached, done⟩ := bind_eq_ok.1 done
    obtain ⟨reached, rfl⟩ := ofExcept_eq_ok.1 reached
    cases place with
    | none => cases done
    | some position =>
      obtain ⟨heap, _, changed, -⟩ := bind_eq_ok.1 done
      exact ⟨position, reached, Heap.exists_change_iff.1 ⟨heap, (ofExcept_eq_ok.1 changed).1⟩⟩
  · rintro ⟨position, reached, holds⟩
    obtain ⟨heap, changed⟩ : ∃ heap, store.change before.world.heap position w value = .ok heap :=
      Heap.exists_change_iff.2 holds
    rw [reached]
    change ∃ after, (ofExcept (store.change before.world.heap position w value) >>= _) before = _
    rw [changed]
    exact ⟨_, rfl⟩

/-- A store that completes has written at one place, where the loads that match find what it stored,
whichever frame they run in; and a load that reads clear of that place ends as it would have before.
Loads and stores whose operands exist abort for a null base, are at fault outside of a live block, and
change nothing then. -/
theorem loads_give_back_stores (epsilon : Double) (before : Local)
    (bounded : before.world.heap.Bounded) :
    (∀ mnemonic w stored source after,
      compute epsilon mnemonic w (.store stored source) before = .ok () after →
      ∃ (value : stored.Held) (position : Address),
        stored.held before.frame w.b.toNat = .ok value ∧
        before.frame.reach before.world.heap w.a.toNat
          (before.frame.operand source .int w.c.toNat) = .ok (some position) ∧
        after.frame = before.frame ∧
        (∀ loaded result, stored.Returns value loaded result →
          ∀ (frame : Frame) other v offset,
            frame.reach before.world.heap v.b.toNat (frame.operand offset .int v.c.toNat) =
              .ok (some position) →
            compute epsilon other v (.load loaded offset) ⟨frame, after.world⟩ =
              loaded.put v.a.toNat result ⟨frame, after.world⟩) ∧
        ∀ (load : Load) (frame : Frame) other v,
          (∀ place, frame.reach before.world.heap v.b.toNat (load.delta frame v) =
              .ok (some place) →
            load.Spares before.world.heap place position stored.width) →
          compute epsilon other v load.operation ⟨frame, after.world⟩ =
            inWorld after.world (compute epsilon other v load.operation ⟨frame, before.world⟩)) ∧
    (∀ mnemonic w (load : Load) base delta,
      before.frame.registers.register .pointer w.b.toNat = .ok base →
      load.delta before.frame w = .ok delta →
      Guarded .readNil before base delta load.width
        (compute epsilon mnemonic w load.operation before)) ∧
    ∀ mnemonic w (store : Store) (value : store.Held) base delta,
      store.held before.frame w = .ok value →
      before.frame.registers.register .pointer w.a.toNat = .ok base →
      store.delta before.frame w = .ok delta →
      Guarded .writeNil before base delta store.width
          (compute epsilon mnemonic w store.operation before) ∧
        ((∃ after, compute epsilon mnemonic w store.operation before = .ok () after) ↔
          before.world.heap.Covers base delta store.width) := by
  refine ⟨fun mnemonic w stored source after done => ?_,
    fun mnemonic w load base delta based moved => guarded_load bounded based moved epsilon mnemonic,
    fun mnemonic w store value base delta held based moved =>
      ⟨guarded_store bounded held based moved epsilon mnemonic,
        store_completes_iff bounded held based moved epsilon mnemonic⟩⟩
  obtain ⟨value, position, heap, held, reached, changed, same⟩ :=
    @store_eq_ok _ _ epsilon mnemonic w (.of stored source) done
  have written : before.world.heap.write position (stored.content value) = .ok heap := changed
  have memory : after.world.heap = heap := by
    rw [same]
    cases stored <;> rfl
  have agrees : Heap.AgreeOutside position stored.width before.world.heap after.world.heap := by
    rw [memory, ← stored.content_width value]
    exact Heap.write_agrees written
  refine ⟨value, position, held, reached, (congrArg Local.frame same :), ?_, ?_⟩
  · intro loaded result returns frame other v offset found
    have again : frame.reach after.world.heap v.b.toNat ((Load.of loaded offset).delta frame v) =
        .ok (some position) := by
      rw [← found]
      simp only [Frame.reach, agrees.reach]
      rfl
    have read : (Load.of loaded offset).read after.world.heap position v = .ok result := by
      rw [memory]
      exact Heap.read_returned bounded written returns
    exact @compute_load_of_read ⟨frame, after.world⟩ _ _ _ _ epsilon other again read
  · exact fun load frame other v spares => load_inWorld agrees bounded epsilon other v load spares

def accessing : Local where
  frame := {
    routine := ⟨"Main", "", #[], .blank fun _ => 0, ⟨2, 0, 0, 2, 0, 0⟩, .empty⟩
    registers := ⟨#[456, -1], #[], #[], #[.address ⟨⟨⟨0, 0⟩⟩, 3⟩, .null]⟩
    pc := 0
    current := 0
    staged := []
    extra := none
    pending := none
    results := []
    returned := 0
    host := some [] }
  world := { World.empty with heap := Heap.history [.alloc 16] }

/-- Of 456 the low byte is kept, 200, which is -56 with a sign. -/
theorem loads_give_back_stores_accessing :
    (∃ after, compute ⟨0⟩ "SB_R" ⟨0x01000039⟩ (.store .int8 .register) accessing = .ok () after ∧
      compute ⟨0⟩ "LB_R" ⟨0x01000119⟩ (.load .int8 .register) after =
        setRegister .int 1 (-56 : Int32) after ∧
      compute ⟨0⟩ "LBU_R" ⟨0x0100011f⟩ (.load .uint8 .register) after =
        setRegister .int 1 (200 : Int32) after) ∧
    ∃ abort after, compute ⟨0⟩ "LB_R" ⟨0x01010119⟩ (.load .int8 .register) accessing =
      .error abort after ∧ abort.kind = .readNil := by
  have bounded : accessing.world.heap.Bounded := (Heap.shaped_history [.alloc 16]).bounded
  obtain ⟨stores, loads, ends⟩ := loads_give_back_stores ⟨0⟩ accessing bounded
  obtain ⟨-, completes⟩ := ends "SB_R" ⟨0x01000039⟩ (.of .int8 .register) (456 : Int32)
    (.address ⟨⟨⟨0, 0⟩⟩, 3⟩) (-1) rfl rfl rfl
  obtain ⟨after, done⟩ := completes.2 ⟨_, _, rfl, rfl, by decide, by decide⟩
  obtain ⟨value, position, held, reached, same, finds, -⟩ := stores _ _ _ _ _ done
  cases held
  have reads := finds .int8 _ (.int8 456) after.frame "LB_R" ⟨0x01000119⟩ .register (same ▸ reached)
  have readsUnsigned :=
    finds .uint8 _ (.uint8 456) after.frame "LBU_R" ⟨0x0100011f⟩ .register (same ▸ reached)
  refine ⟨⟨after, done, reads, readsUnsigned⟩, ?_⟩
  exact (loads "LB_R" ⟨0x01010119⟩ (.of .int8 .register) .null (-1) rfl rfl).null.2 rfl

end Action
end GameScript
