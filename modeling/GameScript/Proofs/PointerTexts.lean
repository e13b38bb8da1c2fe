import Mathlib.Algebra.Group.Nat.Defs
import Mathlib.Data.Set.Function
import GameScript.Proofs.HeapHistory

/-! The texts of pointers. A pointer is shown by a number that holds the slot but not which of its uses
is meant. One slot has one use at a time, and the numbers of addresses, objects, classes and functions
lie in ranges that are apart as long as the blocks leave the bits free that tell the ranges apart. So
no two pointers that stand for something at the same time have the same text. -/

namespace GameScript.Text

theorem digitValue?_digitChar : ∀ digit < 16, digitValue? 16 (Nat.digitChar digit) = some digit := by
  decide

theorem readDigits?_append (base value : Nat) (front back : List Char) :
    readDigits? base value (front ++ back) =
      (readDigits? base value front).bind fun number => readDigits? base number back := by
  induction front generalizing value with
  | nil => rfl
  | cons c rest ih => simp only [List.cons_append, readDigits?, ih, Option.bind_assoc]

/-- Hexadecimal digits are read back as the number that they were written for. -/
theorem readDigits?_toDigits (n : Nat) : readDigits? 16 0 (Nat.toDigits 16 n) = some n := by
  induction n using Nat.strong_induction_on with
  | _ n ih =>
    rw [Nat.toDigits_eq_if (by decide)]
    split
    next small => simp [readDigits?, digitValue?_digitChar n small]
    next large =>
      rw [readDigits?_append, ih (n / 16) (by omega), Option.bind_some, readDigits?,
        digitValue?_digitChar _ (Nat.mod_lt n (by decide)), Option.bind_some, readDigits?,
        Nat.div_add_mod']

theorem hex_injective : Function.Injective hex := by
  intro m n same
  have digits : Nat.toDigits 16 m = Nat.toDigits 16 n := String.ofList_injective same
  have back := readDigits?_toDigits m
  rw [digits, readDigits?_toDigits] at back
  exact (Option.some.inj back).symm

end GameScript.Text

namespace GameScript

/-! ### The numbers of pointers -/

section Packed

variable (width : Nat) (high low : UInt64) (wide : width < 64) (fits : high.toNat * 2 ^ width < 2 ^ 64)
include wide fits

theorem toNat_shifted : (high <<< UInt64.ofNat width).toNat = high.toNat * 2 ^ width := by
  have amount : (UInt64.ofNat width).toNat % 64 = width := by
    rw [UInt64.toNat_ofNat']
    omega
  rw [UInt64.toNat_shiftLeft, amount, Nat.shiftLeft_eq, Nat.mod_eq_of_lt fits]

/-- A number that fits into the bits below a shifted one is added to it. -/
theorem toNat_packed (small : low.toNat < 2 ^ width) :
    ((high <<< UInt64.ofNat width) ||| low).toNat = high.toNat * 2 ^ width + low.toNat := by
  rw [UInt64.toNat_or, toNat_shifted width high wide fits, ← Nat.shiftLeft_eq,
    Nat.shiftLeft_add_eq_or_of_lt small]

end Packed

theorem toNat_ranged (range : UInt64) (index : UInt32) (few : range.toNat < 2 ^ 4) :
    ((range <<< 60) ||| index.toUInt64).toNat = range.toNat * 2 ^ 60 + index.toNat := by
  have small := index.toNat_lt
  rw [← UInt32.toNat_toUInt64] at small ⊢
  exact toNat_packed 60 range index.toUInt64 (by decide) (by omega) (by omega)

theorem toNat_slot (index : UInt32) : (index.toUInt64 + 1).toNat = index.toNat + 1 := by
  have small := index.toNat_lt
  rw [UInt64.toNat_add, UInt32.toNat_toUInt64]
  exact Nat.mod_eq_of_lt (by change index.toNat + 1 < 2 ^ 64; omega)

namespace Pointer

theorem toNat_number_address {position : Address}
    (few : position.block.handle.index.toNat + 1 < 2 ^ 32) :
    (address position).number.toNat =
      (position.block.handle.index.toNat + 1) * 2 ^ 32 + position.offset.toNat := by
  have slot := toNat_slot position.block.handle.index
  have packed := toNat_packed 32 (position.block.handle.index.toUInt64 + 1) position.offset.toUInt64
    (by decide) (by rw [slot]; omega) position.offset.toNat_lt
  rwa [slot, UInt32.toNat_toUInt64] at packed

theorem toNat_number_object (ref : ObjectRef) :
    (object ref).number.toNat = 2 ^ 60 + (ref.handle.index.toNat + 1) * 2 ^ 16 := by
  have small := ref.handle.index.toNat_lt
  have slot := toNat_slot ref.handle.index
  have shifted : ((ref.handle.index.toUInt64 + 1) <<< 16).toNat =
      (ref.handle.index.toNat + 1) * 2 ^ 16 := by
    rw [← slot]
    exact toNat_shifted 16 _ (by decide) (by rw [slot]; omega)
  rw [← shifted]
  exact toNat_packed 60 1 _ (by decide) (by decide) (by rw [shifted]; omega)

theorem toNat_number_class (id : ClassId) :
    (class_ id).number.toNat = 2 * 2 ^ 60 + id.index.toNat :=
  toNat_ranged 2 id.index (by decide)

theorem toNat_number_function (id : FunctionId) :
    (function id).number.toNat = 3 * 2 ^ 60 + id.index.toNat :=
  toNat_ranged 3 id.index (by decide)

def range : Pointer → Nat
  | null | address _ => 0
  | object _ => 1
  | class_ _ => 2
  | function _ => 3

theorem text_of_ne_null {pointer : Pointer} (some : pointer ≠ null) :
    pointer.text = "0x" ++ Text.hex pointer.number.toNat := by
  cases pointer with
  | null => exact absurd rfl some
  | _ => rfl

theorem number_eq_of_text {first second : Pointer} (same : first.text = second.text) :
    first.number = second.number := by
  have apart (digits : String) : "null" ≠ "0x" ++ digits := by
    intro same
    have chars := congrArg String.toList same
    rw [String.toList_append] at chars
    cases chars
  by_cases firstNull : first = null
  · by_cases secondNull : second = null
    · rw [firstNull, secondNull]
    · rw [firstNull, text_of_ne_null secondNull] at same
      exact absurd same (apart _)
  · by_cases secondNull : second = null
    · rw [secondNull, text_of_ne_null firstNull] at same
      exact absurd same.symm (apart _)
    · rw [text_of_ne_null firstNull, text_of_ne_null secondNull] at same
      exact UInt64.toNat_inj.1 (Text.hex_injective ((String.append_right_inj "0x").1 same))

end Pointer

/-! ### Pointers that stand for something -/

namespace Arena

variable {arena : Arena α} {handle other : Handle}

theorem Live.index_lt (live : arena.Live handle) : handle.index.toNat < arena.entries.size := by
  obtain ⟨value, found⟩ := live_iff.1 live
  exact (Array.getElem?_eq_some_iff.1 (get?_eq_some_iff.1 found)).1

/-- A slot is in one use at a time. -/
theorem Live.eq_of_index (live : arena.Live handle) (liveToo : arena.Live other)
    (same : handle.index = other.index) : handle = other := by
  obtain ⟨value, found⟩ := live_iff.1 live
  obtain ⟨held, foundToo⟩ := live_iff.1 liveToo
  have located := get?_eq_some_iff.1 found
  rw [same, get?_eq_some_iff.1 foundToo] at located
  cases handle
  cases other
  simp_all

end Arena

namespace Heap

variable {heap : Heap} {pointer first second : Pointer}

/-- Pointers that stand for something: null, any position in a live block, a live object, and classes
and functions by their numbers. -/
def Valid (heap : Heap) : Pointer → Prop
  | .address position => heap.blocks.Live position.block.handle
  | .object ref => heap.objects.Live ref.handle
  | .null | .class_ _ | .function _ => True

section Few

variable (few : heap.blocks.entries.size < 2 ^ 28)
include few

theorem Valid.number_address {position : Address} (valid : heap.Valid (.address position)) :
    position.block.handle.index.toNat + 1 < 2 ^ 28 ∧
    (Pointer.address position).number.toNat =
      (position.block.handle.index.toNat + 1) * 2 ^ 32 + position.offset.toNat := by
  have inside := Arena.Live.index_lt valid
  exact ⟨by omega, Pointer.toNat_number_address (by omega)⟩

/-- The bits above the lowest sixty tell the ranges apart. -/
theorem Valid.number_div (valid : heap.Valid pointer) :
    pointer.number.toNat / 2 ^ 60 = pointer.range := by
  cases pointer with
  | null => rfl
  | address position =>
    obtain ⟨inside, number⟩ := valid.number_address few
    have small := position.offset.toNat_lt
    rw [number, Pointer.range]
    omega
  | object ref =>
    have small := ref.handle.index.toNat_lt
    rw [Pointer.toNat_number_object, Pointer.range]
    omega
  | class_ id =>
    have small := id.index.toNat_lt
    rw [Pointer.toNat_number_class, Pointer.range]
    omega
  | function id =>
    have small := id.index.toNat_lt
    rw [Pointer.toNat_number_function, Pointer.range]
    omega

theorem Valid.eq_of_number (valid : heap.Valid first) (validToo : heap.Valid second)
    (same : first.number = second.number) : first = second := by
  have ranges : first.range = second.range := by
    rw [← valid.number_div few, ← validToo.number_div few, same]
  have numbers := congrArg UInt64.toNat same
  cases first with
  | null =>
    cases second with
    | null => rfl
    | address other =>
      rw [(validToo.number_address few).2] at numbers
      change 0 = _ at numbers
      omega
    | _ => cases ranges
  | address position =>
    cases second with
    | null =>
      rw [(valid.number_address few).2] at numbers
      change _ = 0 at numbers
      omega
    | address other =>
      rw [(valid.number_address few).2, (validToo.number_address few).2] at numbers
      have small := position.offset.toNat_lt
      have smallToo := other.offset.toNat_lt
      have slot := Arena.Live.eq_of_index valid validToo (UInt32.toNat_inj.1 (by omega))
      have offset : position.offset = other.offset := UInt32.toNat_inj.1 (by omega)
      exact congrArg₂ (fun handle offset => Pointer.address ⟨⟨handle⟩, offset⟩) slot offset
    | _ => cases ranges
  | object ref =>
    cases second with
    | object other =>
      rw [Pointer.toNat_number_object, Pointer.toNat_number_object] at numbers
      have slot := Arena.Live.eq_of_index valid validToo (UInt32.toNat_inj.1 (by omega))
      exact congrArg (fun handle => Pointer.object ⟨handle⟩) slot
    | _ => cases ranges
  | class_ id =>
    cases second with
    | class_ other =>
      rw [Pointer.toNat_number_class, Pointer.toNat_number_class] at numbers
      have index : id.index = other.index := UInt32.toNat_inj.1 (by omega)
      exact congrArg (fun index => Pointer.class_ ⟨index⟩) index
    | _ => cases ranges
  | function id =>
    cases second with
    | function other =>
      rw [Pointer.toNat_number_function, Pointer.toNat_number_function] at numbers
      have index : id.index = other.index := UInt32.toNat_inj.1 (by omega)
      exact congrArg (fun index => Pointer.function ⟨index⟩) index
    | _ => cases ranges

end Few

/-- Whatever has been allocated, freed and collected before, two pointers that stand for something have
different texts, unless there are so many blocks that addresses reach into the range of the objects. -/
theorem valid_texts_differ (few : heap.blocks.entries.size < 2 ^ 28) :
    {pointer | heap.Valid pointer}.InjOn Pointer.text := by
  intro first valid second validToo same
  exact Valid.eq_of_number few valid validToo (Pointer.number_eq_of_text same)

def refilled : List Request :=
  [.define ⟨#[⟨"Thing", none, 8, #[]⟩]⟩, .create ⟨0⟩, .free ⟨⟨0, 0⟩⟩, .alloc 131072]

theorem valid_texts_differ_refilled :
    let position : Address := ⟨⟨⟨0, 1⟩⟩, 65536⟩
    let ref : ObjectRef := ⟨⟨0, 0⟩⟩
    (history refilled).blocks.entries.size < 2 ^ 28 ∧ (history refilled).Valid (.address position) ∧
      (history refilled).Valid (.object ref) ∧
      (Pointer.address position).text ≠ (Pointer.object ref).text := by
  intro position ref
  have few : (history refilled).blocks.entries.size < 2 ^ 28 := by decide +kernel
  have valid : (history refilled).blocks.Live ⟨0, 1⟩ := by decide +kernel
  have validToo : (history refilled).objects.Live ⟨0, 0⟩ := by decide +kernel
  refine ⟨few, valid, validToo, fun same => ?_⟩
  cases valid_texts_differ few (show (history refilled).Valid (.address position) from valid)
    (show (history refilled).Valid (.object ref) from validToo) same

/-- With one more block slot there is an address that has the text of an object, for every object in one
of the first slots. -/
theorem last_address_text {position : Address} {ref : ObjectRef}
    (last : position.block.handle.index.toNat + 1 = 2 ^ 28)
    (inside : position.offset.toNat = (ref.handle.index.toNat + 1) * 2 ^ 16) :
    (Pointer.address position).text = (Pointer.object ref).text := by
  have address : (Pointer.address position).number.toNat = _ :=
    Pointer.toNat_number_address (by omega)
  have object := Pointer.toNat_number_object ref
  have same : (Pointer.address position).number = (Pointer.object ref).number :=
    UInt64.toNat_inj.1 (by omega)
  exact congrArg (fun number : UInt64 => "0x" ++ Text.hex number.toNat) same

end Heap
end GameScript
