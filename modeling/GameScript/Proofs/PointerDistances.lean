import GameScript.Proofs.IntegerArithmetic

/-! Pointers that are moved and measured. The distance from where a pointer was to where it has been
moved to is what it was moved by. The other way round, a pointer moved by its distance to another one
gets there, if the distance is a number of 32 bits: what is left of a longer one leads out of the
block. -/

namespace GameScript

namespace Heap

variable {heap : Heap} {base left right : Pointer} {delta : Int32} {place x y : Address} {block : Block}

theorem reach_of_resolve (resolved : heap.resolve base = .ok (some x)) :
    heap.reach base delta = (heap.displace x delta.toInt).map some := by
  simp only [reach, resolved, bind, Except.bind]
  cases heap.displace x delta.toInt <;> rfl

/-- The distance in bytes between two pointers into one block, zero between two nulls. -/
def distance (heap : Heap) (left right : Pointer) : Except Fault Int32 := do
  match ← heap.resolve left, ← heap.resolve right with
  | none, none => return 0
  | some x, some y =>
    if x.block = y.block then return Int32.ofInt (x.offset.toNat - y.offset.toNat)
    else .error (.unrelatedPointers left right)
  | _, _ => .error (.unrelatedPointers left right)

theorem distance_eq_ok (first : heap.resolve left = .ok (some x))
    (second : heap.resolve right = .ok (some y)) (same : x.block = y.block) :
    heap.distance left right = .ok (Int32.ofInt (x.offset.toNat - y.offset.toNat)) := by
  simp only [distance, first, second, bind, Except.bind, same, if_true]
  rfl

theorem distance_of_reach (bounded : heap.Bounded)
    (reached : heap.reach base delta = .ok (some place)) :
    heap.distance (.address place) base = .ok delta := by
  obtain ⟨start, resolved, rest⟩ := bind_eq_ok.1 reached
  cases start with
  | none => cases rest
  | some start =>
    obtain ⟨moved, displaced, ⟨⟩⟩ := bind_eq_ok.1 rest
    obtain ⟨same, offset⟩ := bounded.displace displaced
    rw [distance_eq_ok rfl resolved same, offset, add_sub_cancel_left, Int32.ofInt_toInt]

/-- The distance from one address to another is a number of 32 bits. -/
def Near (x y : Address) : Prop :=
  -2 ^ 31 ≤ (x.offset.toNat : Int) - y.offset.toNat ∧ (x.offset.toNat : Int) - y.offset.toNat < 2 ^ 31

theorem reach_of_near (resolved : heap.resolve base = .ok (some y))
    (found : heap.block y.block = .ok block) (same : x.block = y.block)
    (inside : x.offset.toNat ≤ block.size) (near : Near x y) :
    heap.reach base (Int32.ofInt (x.offset.toNat - y.offset.toNat)) = .ok (some x) := by
  have whole : (Int32.ofInt ((x.offset.toNat : Int) - y.offset.toNat)).toInt =
      x.offset.toNat - y.offset.toNat :=
    Int32.toInt_ofInt_of_le near.1 near.2
  have displaced : heap.displace y (x.offset.toNat - y.offset.toNat) = .ok x := by
    have back : ((y.offset.toNat : Int) + (x.offset.toNat - y.offset.toNat)).toNat =
        x.offset.toNat := by
      omega
    refine displace_eq_ok.2 ⟨block, found, by omega, by omega, ?_⟩
    rw [back, UInt32.ofNat_toNat, ← same]
  rw [reach_of_resolve resolved, whole, displaced]
  rfl

/-- A longer distance is off by `2 ^ 32`, and no block is that large. -/
theorem reach_of_not_near (bounded : heap.Bounded) (resolved : heap.resolve base = .ok (some y))
    (found : heap.block y.block = .ok block) (inside : x.offset.toNat ≤ block.size)
    (far : ¬Near x y) (kept : delta.toInt ≡ x.offset.toNat - y.offset.toNat [ZMOD 2 ^ 32]) :
    heap.reach base delta =
      .error (.addressOutOfRange (y.offset.toNat + delta.toInt) 0 block.size) := by
  have small := bounded _ block found
  have start := y.offset.toNat_lt
  have low := delta.le_toInt
  have high := delta.toInt_lt
  have outside : ¬(0 ≤ (y.offset.toNat : Int) + delta.toInt ∧
      (y.offset.toNat : Int) + delta.toInt ≤ block.size) := by
    unfold Near at far
    unfold Int.ModEq at kept
    change block.size < 4294967296 at small
    omega
  have displaced : heap.displace y delta.toInt =
      .error (.addressOutOfRange (y.offset.toNat + delta.toInt) 0 block.size) := by
    simp only [displace, found, bind, Except.bind, outside, if_false]
  rw [reach_of_resolve resolved, displaced]
  rfl

end Heap

namespace Action

variable {heap : Heap} {state : Local} {w : Word} {source : Source} {base left right : Pointer}
  {delta : Int32}

structure Moves (heap : Heap) (base : Pointer) (delta : Int32) (state : Local) (w : Word)
    (source : Source) : Prop where
  heap : state.world.heap = heap
  base : state.frame.registers.register .pointer w.b.toNat = .ok base
  delta : state.frame.operand source .int w.c.toNat = .ok delta

structure Measures (heap : Heap) (left right : Pointer) (state : Local) (w : Word) : Prop where
  heap : state.world.heap = heap
  left : state.frame.registers.register .pointer w.b.toNat = .ok left
  right : state.frame.registers.register .pointer w.c.toNat = .ok right

theorem addressAdd_apply (moves : Moves heap base delta state w source) :
    addressAdd w source state = (ofExcept (heap.reach base delta) >>= fun place =>
      setRegister .pointer w.a.toNat (place.elim .null .address)) state := by
  obtain ⟨rfl, held, amount⟩ := moves
  simp only [addressAdd, bind_apply, register_apply, held, ofExcept_ok, fetch_apply, amount,
    heap_apply]
  cases resolved : state.world.heap.resolve base with
  | error fault =>
    rw [Heap.reach, resolved]
    rfl
  | ok position =>
    cases position with
    | none =>
      rw [Heap.reach, resolved]
      rfl
    | some start =>
      rw [Heap.reach_of_resolve resolved]
      simp only [ofExcept_ok, bind_apply, heap_apply]
      cases state.world.heap.displace start delta.toInt <;> rfl

theorem addressDistance_apply (measures : Measures heap left right state w) :
    addressDistance w state =
      (ofExcept (heap.distance left right) >>= setRegister .int w.a.toNat) state := by
  obtain ⟨rfl, first, second⟩ := measures
  simp only [addressDistance, bind_apply, register_apply, first, second, ofExcept_ok, heap_apply,
    Heap.distance]
  cases state.world.heap.resolve left with
  | error fault => rfl
  | ok x =>
    simp only [ofExcept_ok]
    cases state.world.heap.resolve right with
    | error fault => rfl
    | ok y =>
      cases x <;> cases y <;> try rfl
      simp only [ofExcept_ok, bind, Except.bind]
      split <;> rfl

/-- The distance to where a pointer was is what it was moved by. A pointer moved by its distance to
another one gets there exactly if that distance is a number of 32 bits; otherwise it cannot be moved by
what is left of the distance. -/
theorem distances_undo_moves (heap : Heap) (bounded : heap.Bounded) :
    (∀ base delta state w source after, Moves heap base delta state w source → base ≠ .null →
      addressAdd w source state = .ok () after →
      ∃ place, addressAdd w source state = setRegister .pointer w.a.toNat (.address place) state ∧
        ∀ later v, Measures heap (.address place) base later v →
          addressDistance v later = setRegister .int v.a.toNat delta later) ∧
    ∀ left right x y block, heap.resolve left = .ok (some x) → heap.resolve right = .ok (some y) →
      heap.block y.block = .ok block → x.block = y.block → x.offset.toNat ≤ block.size →
      ∃ delta : Int32, delta.toInt ≡ x.offset.toNat - y.offset.toNat [ZMOD 2 ^ 32] ∧
        (∀ state w, Measures heap left right state w →
          addressDistance w state = setRegister .int w.a.toNat delta state) ∧
        ∀ later v source, Moves heap right delta later v source →
          (Heap.Near x y →
            addressAdd v source later = setRegister .pointer v.a.toNat (.address x) later) ∧
          (¬Heap.Near x y → addressAdd v source later =
            .error (.ofFault (.addressOutOfRange (y.offset.toNat + delta.toInt) 0 block.size)) later) := by
  constructor
  · intro base delta state w source after moves solid done
    have ends := addressAdd_apply moves
    cases reached : heap.reach base delta with
    | error fault =>
      rw [ends, reached] at done
      cases done
    | ok place =>
      cases place with
      | none => exact absurd (Heap.reach_eq_ok_none.1 reached) solid
      | some place =>
        refine ⟨place, by rw [ends, reached]; rfl, fun later v measures => ?_⟩
        rw [addressDistance_apply measures, Heap.distance_of_reach bounded reached]
        rfl
  · intro left right x y block first second found same inside
    refine ⟨Int32.ofInt (x.offset.toNat - y.offset.toNat), modEq_of_bmod Int32.toInt_ofInt,
      fun state w measures => ?_, fun later v source moves => ⟨fun near => ?_, fun far => ?_⟩⟩
    · rw [addressDistance_apply measures, Heap.distance_eq_ok first second same]
      rfl
    · rw [addressAdd_apply moves, Heap.reach_of_near second found same inside near]
      rfl
    · rw [addressAdd_apply moves, Heap.reach_of_not_near bounded second found inside far
        (modEq_of_bmod Int32.toInt_ofInt)]
      rfl

def holding (heap : Heap) (left right : Pointer) (delta : Int32) : Local where
  frame := .holding ⟨#[delta], #[], #[], #[left, right, .null]⟩
  world := { World.empty with heap }

/-- An object of 16 bytes and the address just behind it. -/
theorem distances_undo_moves_object :
    let heap := Heap.history [.define ⟨#[⟨"Thing", none, 16, #[]⟩]⟩, .create ⟨0⟩]
    let thing := Pointer.object ⟨⟨0, 0⟩⟩
    let stop : Address := ⟨⟨⟨0, 0⟩⟩, 16⟩
    (∃ place, addressAdd ⟨0x000002e8⟩ .register (holding heap thing .null 16) =
        setRegister .pointer 2 (.address place) (holding heap thing .null 16) ∧
      addressDistance ⟨0x010000ea⟩ (holding heap (.address place) thing 0) =
        setRegister .int 0 (16 : Int32) (holding heap (.address place) thing 0)) ∧
    ∃ delta, addressDistance ⟨0x010000ea⟩ (holding heap (.address stop) thing 0) =
        setRegister .int 0 delta (holding heap (.address stop) thing 0) ∧
      addressAdd ⟨0x000102e8⟩ .register (holding heap (.address stop) thing delta) =
        setRegister .pointer 2 (.address stop) (holding heap (.address stop) thing delta) := by
  intro heap thing stop
  obtain ⟨measured, moved⟩ := distances_undo_moves heap (Heap.shaped_history _).bounded
  constructor
  · obtain ⟨place, ends, back⟩ := measured thing 16 (holding heap thing .null 16) ⟨0x000002e8⟩
      .register _ ⟨rfl, rfl, rfl⟩ (by decide) rfl
    exact ⟨place, ends, back _ ⟨0x010000ea⟩ ⟨rfl, rfl, rfl⟩⟩
  · obtain ⟨delta, -, ends, back⟩ := moved (.address stop) thing stop ⟨⟨⟨0, 0⟩⟩, 0⟩ _ rfl rfl rfl rfl
      (by decide)
    exact ⟨delta, ends _ ⟨0x010000ea⟩ ⟨rfl, rfl, rfl⟩,
      (back _ ⟨0x000102e8⟩ .register ⟨rfl, rfl, rfl⟩).1 (by unfold Heap.Near; decide)⟩

/-- The ends of a block of `2 ^ 31` bytes: the distance from the first to the last is stored with the
sign turned, and leads from the first one out of the block. -/
theorem far_distance_leads_out :
    let heap := Heap.history [.alloc 2147483648]
    let start : Address := ⟨⟨⟨0, 0⟩⟩, 0⟩
    let stop : Address := ⟨⟨⟨0, 0⟩⟩, 2147483648⟩
    let ends := holding heap (.address stop) (.address start)
    (∃ block, heap.block start.block = .ok block ∧ block.size = 2147483648) ∧
      addressDistance ⟨0x010000ea⟩ (ends 0) = .ok () (ends (-2147483648)) ∧
      addressAdd ⟨0x000102e8⟩ .register (ends (-2147483648)) =
        .error (.ofFault (.addressOutOfRange (-2147483648) 0 2147483648)) (ends (-2147483648)) :=
  ⟨⟨_, rfl, rfl⟩, rfl, rfl⟩

end Action

end GameScript
