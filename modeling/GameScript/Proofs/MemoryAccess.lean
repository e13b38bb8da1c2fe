import GameScript.Proofs.AbortAtomicity
import GameScript.Proofs.ControlFlow
import GameScript.Proofs.MemoryContents

/-! Loads and stores. Each is told by what it takes from its frame, the place it goes to and what it
reads or writes there; so a store that completes and what any load gives afterwards can be compared
in memory alone. -/

namespace GameScript

namespace Heap

/-- Where an access with a base and an offset goes; none for a null base. -/
def reach (heap : Heap) (base : Pointer) (delta : Int32) : Except Fault (Option Address) := do
  match ← heap.resolve base with
  | some position => return some (← heap.displace position delta.toInt)
  | none => return none

def readIndirect (heap : Heap) (position : Address) : Except Fault String := do
  match ← heap.resolve (← heap.readPointer position) with
  | some start => heap.readText start
  | none => return ""

end Heap

def Frame.reach (frame : Frame) (heap : Heap) (base : Nat) (delta : Except Fault Int32) :
    Except Fault (Option Address) := do
  heap.reach (← frame.registers.register .pointer base) (← delta)

namespace LoadKind

def width : LoadKind → Nat
  | .int8 | .uint8 => 1
  | .int16 | .uint16 => 2
  | .int32 | .single => 4
  | .double => 8
  | .string | .indirectText | .pointer => Block.refSize
  | .vector dimension => dimension.size * 8

abbrev Result : LoadKind → Type
  | .int8 | .uint8 | .int16 | .uint16 | .int32 => Int32
  | .single | .double => Double
  | .string | .indirectText => String
  | .pointer => Pointer
  | .vector dimension => Vector Double dimension.size

def read (heap : Heap) (position : Address) : (kind : LoadKind) → Except Fault kind.Result
  | .int8 => do return (UInt8.ofNat (← heap.readNat position 1)).toInt8.toInt32
  | .uint8 => do return Int32.ofNat (← heap.readNat position 1)
  | .int16 => do return (UInt16.ofNat (← heap.readNat position 2)).toInt16.toInt32
  | .uint16 => do return Int32.ofNat (← heap.readNat position 2)
  | .int32 => do return (UInt32.ofNat (← heap.readNat position 4)).toInt32
  | .single => do return (Single.mk (UInt32.ofNat (← heap.readNat position 4))).widen
  | .double => heap.readDouble position
  | .string => heap.readString position
  | .indirectText => heap.readIndirect position
  | .pointer => heap.readPointer position
  | .vector dimension => heap.readVector position dimension.size

def put (target : Nat) : (kind : LoadKind) → kind.Result → Action Unit
  | .int8 | .uint8 | .int16 | .uint16 | .int32 => Action.setRegister .int target
  | .single | .double => Action.setRegister .float target
  | .string | .indirectText => Action.setRegister .string target
  | .pointer => Action.setRegister .pointer target
  | .vector _ => Action.setVector target

end LoadKind

/-- The loads, with that of bits under a mask. -/
inductive Load where
  | of (kind : LoadKind) (offset : Source)
  | bits

namespace Load

def operation : Load → Operation
  | of kind offset => .load kind offset
  | bits => .loadBits

def width : Load → Nat
  | of kind _ => kind.width
  | bits => 1

def delta (frame : Frame) (w : Word) : Load → Except Fault Int32
  | of _ offset => frame.operand offset .int w.c.toNat
  | bits => .ok 0

abbrev Result : Load → Type
  | of kind _ => kind.Result
  | bits => Int32

def read (heap : Heap) (position : Address) (w : Word) : (load : Load) → Except Fault load.Result
  | of kind _ => kind.read heap position
  | bits => do
    let byte := UInt8.ofNat (← heap.readNat position 1)
    return if byte &&& w.c ≠ 0 then 1 else 0

def put (target : Nat) : (load : Load) → load.Result → Action Unit
  | of kind _ => kind.put target
  | bits => Action.setRegister .int target

end Load

namespace StoreKind

def width : StoreKind → Nat
  | .int8 => 1
  | .int16 => 2
  | .int32 | .single => 4
  | .double => 8
  | .string | .object | .pointer => Block.refSize
  | .vector dimension => dimension.size * 8

abbrev Held : StoreKind → Type
  | .int8 | .int16 | .int32 => Int32
  | .single | .double => Double
  | .string => String
  | .object | .pointer => Pointer
  | .vector dimension => Vector Double dimension.size

/-- What a store takes from the registers from `index` on; an object store takes nothing but objects
and null. -/
def held (frame : Frame) (index : Nat) : (kind : StoreKind) → Except Fault kind.Held
  | .int8 | .int16 | .int32 => frame.registers.register .int index
  | .single | .double => frame.registers.register .float index
  | .string => frame.registers.register .string index
  | .pointer => frame.registers.register .pointer index
  | .object => do
    let value ← frame.registers.register .pointer index
    if Pointer.isNull value || (Pointer.object? value).isSome then return value
    else .error (.notAnObject value)
  | .vector dimension => frame.registers.vector dimension.size index

def content : (kind : StoreKind) → kind.Held → Heap.Content
  | .int8, value => .bytes (Codec.littleEndian 1 value.toUInt32.toNat)
  | .int16, value => .bytes (Codec.littleEndian 2 value.toUInt32.toNat)
  | .int32, value => .bytes (Codec.littleEndian 4 value.toUInt32.toNat)
  | .single, value => .bytes (Codec.littleEndian 4 (Single.narrow value).bits.toNat)
  | .double, value => .bytes (Codec.littleEndian 8 value.bits.toNat)
  | .string, value => .string value
  | .object, value | .pointer, value => .pointer value
  | .vector _, components => .bytes (Heap.doubleBytes components.toList)

/-- What a store leaves of the world besides memory. -/
def note : (kind : StoreKind) → kind.Held → World → World
  | .object, value, world => world.notify (Pointer.object? value)
  | _, _, world => world

theorem content_width (kind : StoreKind) (value : kind.Held) :
    (kind.content value).width = kind.width := by
  cases kind with
  | string | object | pointer => rfl
  | vector dimension =>
    exact (Heap.doubleBytes_length _).trans (congrArg (· * 8) (Vector.length_toList ..))
  | _ => exact Codec.littleEndian_length _ _

end StoreKind

/-- The stores, with that of bits under a mask. -/
inductive Store where
  | of (kind : StoreKind) (offset : Source)
  | bits

namespace Store

def operation : Store → Operation
  | of kind offset => .store kind offset
  | bits => .storeBits

def width : Store → Nat
  | of kind _ => kind.width
  | bits => 1

def delta (frame : Frame) (w : Word) : Store → Except Fault Int32
  | of _ offset => frame.operand offset .int w.c.toNat
  | bits => .ok 0

abbrev Held : Store → Type
  | of kind _ => kind.Held
  | bits => Int32

def held (frame : Frame) (w : Word) : (store : Store) → Except Fault store.Held
  | of kind _ => kind.held frame w.b.toNat
  | bits => frame.registers.register .int w.b.toNat

/-- What a store writes to memory; that of bits keeps the others of their byte. -/
def content (heap : Heap) (position : Address) (w : Word) :
    (store : Store) → store.Held → Except Fault Heap.Content
  | of kind _, value => .ok (kind.content value)
  | bits, value => do
    let byte := UInt8.ofNat (← heap.readNat position 1)
    return .bytes [if value ≠ (0 : Int32) then byte ||| w.c else byte &&& ~~~w.c]

def change (heap : Heap) (position : Address) (w : Word) (store : Store) (value : store.Held) :
    Except Fault Heap := do
  heap.write position (← store.content heap position w value)

def note : (store : Store) → store.Held → World → World
  | of kind _, value, world => kind.note value world
  | bits, _, world => world

end Store

namespace Action

variable {state : Local}

/-- Reading one thing after the other. -/
theorem evaluates_bind {first : Action α} {next : α → Action β} {found : Except Fault α}
    {rest : α → Except Fault β} (reads : first state = ofExcept found state)
    (goes : ∀ value, next value state = ofExcept (rest value) state) :
    (first >>= next) state = ofExcept (found >>= rest) state := by
  rw [bind_apply, reads]
  cases found with
  | ok value => exact goes value
  | error fault => rfl

theorem readNat_apply (position : Address) (width : Nat) :
    readNat position width state = ofExcept (state.world.heap.readNat position width) state := by
  change (ofExcept (state.world.heap.readBytes position width) >>= _) state = _
  exact evaluates_bind rfl fun _ => rfl

theorem readDouble_apply (position : Address) :
    readDouble position state = ofExcept (state.world.heap.readDouble position) state :=
  evaluates_bind (readNat_apply position 8) fun _ => rfl

theorem readVector_apply (position : Address) (count : Nat) :
    readVector position count state = ofExcept (state.world.heap.readVector position count) state := by
  induction count with
  | zero => rfl
  | succ count ih =>
    refine evaluates_bind ih fun front => ?_
    change (ofExcept (state.world.heap.displace position (count * 8)) >>= _) state = _
    exact evaluates_bind rfl fun next => evaluates_bind (readDouble_apply next) fun _ => rfl

theorem readIndirect_apply (position : Address) :
    readIndirect position state = ofExcept (state.world.heap.readIndirect position) state := by
  change (ofExcept (state.world.heap.readPointer position) >>= _) state = _
  refine evaluates_bind rfl fun target => ?_
  change (ofExcept (state.world.heap.resolve target) >>= _) state = _
  refine evaluates_bind rfl fun start => ?_
  cases start <;> rfl

/-- The address of an access; a null base is told apart. -/
theorem locate_apply {base : Nat} {offset : Action Int32} {delta : Except Fault Int32}
    (nil : AbortKind) (reads : offset state = ofExcept delta state) :
    locate base offset nil state =
      (ofExcept (state.frame.reach state.world.heap base delta) >>= fun
        | some position => pure position
        | none => abort nil) state := by
  have based : register .pointer base state =
    ofExcept (state.frame.registers.register .pointer base) state := rfl
  rw [locate, Frame.reach, bind_apply, based]
  cases state.frame.registers.register .pointer base with
  | error fault => rfl
  | ok pointer =>
    simp only [ofExcept_ok, bind_apply, reads]
    cases delta with
    | error fault => rfl
    | ok delta =>
      simp only [ofExcept_ok, heap_apply, bind, Except.bind, Heap.reach]
      cases state.world.heap.resolve pointer with
      | error fault => rfl
      | ok start =>
        cases start with
        | none => rfl
        | some start =>
          change (ofExcept (state.world.heap.displace start delta.toInt) state : EStateM.Result ..) = _
          dsimp only
          cases state.world.heap.displace start delta.toInt <;> rfl

theorem locate_bind_apply {base : Nat} {offset : Action Int32} {delta : Except Fault Int32}
    (nil : AbortKind) (reads : offset state = ofExcept delta state) (next : Address → Action α) :
    (locate base offset nil >>= next) state =
      (ofExcept (state.frame.reach state.world.heap base delta) >>= fun
        | some position => next position
        | none => abort nil) state := by
  rw [bind_apply, locate_apply nil reads, bind_apply, bind_apply]
  cases state.frame.reach state.world.heap base delta with
  | error fault => rfl
  | ok position => cases position <;> rfl

theorem bind_eq_of_eq {first second : Action α} (same : first state = second state)
    (next : α → Action β) : (first >>= next) state = (second >>= next) state := by
  rw [bind_apply, same, ← bind_apply]

/-- What is read and then made into something else for what follows. -/
theorem convert_apply {first : Action α} {found : Except Fault α}
    (reads : first state = ofExcept found state) (convert : α → β) (next : β → Action γ) :
    (first >>= fun value => next (convert value)) state =
      (ofExcept (do return convert (← found)) >>= next) state := by
  rw [bind_apply, reads]
  cases found <;> rfl

theorem fetch_apply (offset : Source) (bank : Bank) (index : Nat) :
    fetch offset bank index state = ofExcept (state.frame.operand offset bank index) state := by
  cases offset <;> rfl

/-- The operand is all that is left of where it came from. -/
theorem bind_congr {first second : Action α} {found : Except Fault α} {next other : α → Action β}
    (one : first state = ofExcept found state) (two : second state = ofExcept found state)
    (same : ∀ value, next value state = other value state) :
    (first >>= next) state = (second >>= other) state := by
  rw [bind_apply, one, bind_apply, two]
  cases found with
  | ok value => exact same value
  | error fault => rfl

theorem ofExcept_bind_congr {result : Except Fault α} {next other : α → Action β}
    (same : ∀ value, next value state = other value state) :
    (ofExcept result >>= next) state = (ofExcept result >>= other) state :=
  bind_congr rfl rfl same

/-- A load finds its place, reads there and puts what it reads into registers. -/
theorem compute_load (epsilon : Double) (mnemonic : String) (w : Word) (load : Load) :
    compute epsilon mnemonic w load.operation state =
      (ofExcept (state.frame.reach state.world.heap w.b.toNat (load.delta state.frame w)) >>= fun
        | some position => ofExcept (load.read state.world.heap position w) >>= load.put w.a.toNat
        | none => abort .readNil) state := by
  cases load with
  | bits =>
    have still : (pure 0 : Action Int32) state = ofExcept (.ok 0) state := rfl
    refine (locate_bind_apply .readNil still _).trans ?_
    refine ofExcept_bind_congr fun position => ?_
    cases position with
    | none => rfl
    | some position =>
      exact convert_apply (readNat_apply position 1)
        (fun n => if UInt8.ofNat n &&& w.c ≠ 0 then (1 : Int32) else 0) _
  | of kind offset =>
    refine (locate_bind_apply .readNil (fetch_apply offset .int w.c.toNat) _).trans ?_
    refine ofExcept_bind_congr fun position => ?_
    cases position with
    | none => rfl
    | some position =>
      cases kind with
      | int8 => exact convert_apply (readNat_apply position 1) (fun n => (UInt8.ofNat n).toInt8.toInt32) _
      | uint8 => exact convert_apply (readNat_apply position 1) Int32.ofNat _
      | int16 =>
        exact convert_apply (readNat_apply position 2) (fun n => (UInt16.ofNat n).toInt16.toInt32) _
      | uint16 => exact convert_apply (readNat_apply position 2) Int32.ofNat _
      | int32 => exact convert_apply (readNat_apply position 4) (fun n => (UInt32.ofNat n).toInt32) _
      | single =>
        exact convert_apply (readNat_apply position 4) (fun n => (Single.mk (UInt32.ofNat n)).widen) _
      | double => exact bind_eq_of_eq (readDouble_apply position) _
      | string | pointer => rfl
      | indirectText => exact bind_eq_of_eq (readIndirect_apply position) _
      | vector dimension => exact bind_eq_of_eq (readVector_apply position dimension.size) _

/-- A store takes its operand, finds its place and writes there. -/
theorem compute_store (epsilon : Double) (mnemonic : String) (w : Word) (store : Store) :
    compute epsilon mnemonic w store.operation state =
      (ofExcept (store.held state.frame w) >>= fun value =>
        ofExcept (state.frame.reach state.world.heap w.a.toNat (store.delta state.frame w)) >>= fun
          | some position =>
            ofExcept (store.change state.world.heap position w value) >>= fun heap =>
              setWorld (store.note value { state.world with heap })
          | none => abort .writeNil) state := by
  cases store with
  | bits =>
    have still : (pure 0 : Action Int32) state = ofExcept (.ok 0) state := rfl
    change (ofExcept (state.frame.registers.register .int w.b.toNat) >>= _) state = _
    refine ofExcept_bind_congr fun value => ?_
    refine (locate_bind_apply .writeNil still _).trans ?_
    refine ofExcept_bind_congr fun position => ?_
    cases position with
    | none => rfl
    | some position =>
      refine (convert_apply (readNat_apply position 1) (fun n =>
        Heap.Content.bytes [if value ≠ (0 : Int32) then UInt8.ofNat n ||| w.c
          else UInt8.ofNat n &&& ~~~w.c]) (fun content => content.action position)).trans ?_
      unfold Store.change Store.content
      dsimp only
      cases state.world.heap.readNat position 1 <;> rfl
  | of kind offset =>
    have located := @locate_bind_apply state Unit w.a.toNat _ _ .writeNil
      (fetch_apply offset .int w.c.toNat)
    cases kind with
    | object =>
      change (ofExcept (state.frame.registers.register .pointer w.b.toNat) >>= _) state = _
      rw [Store.held, StoreKind.held]
      cases state.frame.registers.register .pointer w.b.toNat with
      | error fault => rfl
      | ok value =>
        change (if Pointer.isNull value || (Pointer.object? value).isSome then _ else _ : Action Unit)
          state = (ofExcept (if Pointer.isNull value || (Pointer.object? value).isSome then _ else _) >>=
            _) state
        split
        next =>
          refine (located _).trans ?_
          refine ofExcept_bind_congr fun position => ?_
          cases position with
          | none => rfl
          | some position =>
            change ((ofExcept (state.world.heap.writePointer position value) >>= _) >>= _) state =
              (ofExcept (state.world.heap.writePointer position value) >>= _) state
            cases state.world.heap.writePointer position value <;> rfl
        next => rfl
    | vector dimension =>
      change (ofExcept (state.frame.registers.vector dimension.size w.b.toNat) >>= _) state = _
      refine ofExcept_bind_congr fun value => (located _).trans ?_
      refine ofExcept_bind_congr fun position => ?_
      cases position <;> rfl
    | _ =>
      change (ofExcept (state.frame.registers.register _ w.b.toNat) >>= _) state = _
      refine ofExcept_bind_congr fun value => (located _).trans ?_
      refine ofExcept_bind_congr fun position => ?_
      cases position <;> rfl

end Action
end GameScript
