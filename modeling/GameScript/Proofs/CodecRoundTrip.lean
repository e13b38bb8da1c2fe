import Mathlib.Algebra.Group.Nat.Defs
import GameScript.Codec.Format

/-! What is written can be read back, and nothing else can. A decoder is faithful to a way of writing
when it takes exactly what was written for a value off the front of any input, accepts nothing that
was not written for the value it gives, and leaves an end of the input when it fails. Faithful
decoders one after the other are faithful, and so the decoder of every format is. -/

namespace GameScript.Codec

theorem littleEndian_length (width n : Nat) : (littleEndian width n).length = width := by
  induction width generalizing n with
  | zero => rfl
  | succ width ih => rw [littleEndian, List.length_cons, ih]

theorem ofLittleEndian_lt (bytes : Bytes) : ofLittleEndian bytes < 256 ^ bytes.length := by
  induction bytes with
  | nil => decide
  | cons byte rest ih =>
    have small := byte.toNat_lt
    rw [ofLittleEndian, List.length_cons, Nat.pow_succ]
    omega

theorem ofLittleEndian_littleEndian {width n : Nat} (small : n < 256 ^ width) :
    ofLittleEndian (littleEndian width n) = n := by
  induction width generalizing n with
  | zero =>
    have zero : n = 0 := by simpa using small
    rw [zero]
    rfl
  | succ width ih =>
    have rest : n / 256 < 256 ^ width := by
      rw [Nat.pow_succ] at small
      omega
    rw [littleEndian, ofLittleEndian, ih rest, UInt8.toNat_ofNat']
    omega

theorem littleEndian_ofLittleEndian (bytes : Bytes) :
    littleEndian bytes.length (ofLittleEndian bytes) = bytes := by
  induction bytes with
  | nil => rfl
  | cons byte rest ih =>
    have low : UInt8.ofNat (byte.toNat + 256 * ofLittleEndian rest) = byte := by
      apply UInt8.toNat_inj.1
      have small := byte.toNat_lt
      rw [UInt8.toNat_ofNat']
      omega
    have high : (byte.toNat + 256 * ofLittleEndian rest) / 256 = ofLittleEndian rest := by
      have small := byte.toNat_lt
      omega
    rw [List.length_cons, ofLittleEndian, littleEndian, low, high, ih]

theorem Tags.find?_eq_some_iff {tags : Tags count} {byte : Nat} {choice : Fin count} :
    tags.find? byte = some choice ↔ (tags.byte choice).toNat = byte := by
  constructor
  · intro found
    simpa using List.find?_some found
  · intro tagged
    cases found : tags.find? byte with
    | none =>
      have absent := List.find?_eq_none.1 found choice (List.mem_finRange choice)
      simp [tagged] at absent
    | some other =>
      have same : (tags.byte other).toNat = byte := by simpa using List.find?_some found
      rw [tags.distinct other choice (UInt8.toNat_inj.1 (same.trans tagged.symm))]

namespace Decoder

structure Faithful (decoder : Decoder α) (written : α → Bytes) (allowed : α → Prop) : Prop where
  reads : ∀ value rest, allowed value → decoder (written value ++ rest) = (.ok value, rest)
  accepts : ∀ input value rest, decoder input = (.ok value, rest) →
    input = written value ++ rest ∧ allowed value
  leaves : ∀ input fault rest, decoder input = (.error fault, rest) → rest <:+ input

variable {written : α → Bytes} {allowed : α → Prop}

theorem bind_apply (first : Decoder α) (next : α → Decoder β) (input : Bytes) :
    (first >>= next) input = match first input with
      | (.ok value, rest) => next value rest
      | (.error fault, rest) => (.error fault, rest) := rfl

theorem Faithful.congr {decoder : Decoder α} {other : α → Bytes} {only : α → Prop}
    (faithful : decoder.Faithful other only) (equally : ∀ value, allowed value ↔ only value)
    (same : ∀ value, only value → written value = other value) :
    decoder.Faithful written allowed where
  reads value rest may := by
    rw [same value ((equally value).1 may)]
    exact faithful.reads value rest ((equally value).1 may)
  accepts input value rest read := by
    obtain ⟨split, may⟩ := faithful.accepts input value rest read
    exact ⟨split.trans (by rw [same value may]), (equally value).2 may⟩
  leaves := faithful.leaves

theorem faithful_pure (value : α) :
    (pure value : Decoder α).Faithful (fun _ => []) (· = value) where
  reads other rest same := by
    rw [same]
    rfl
  accepts input other rest read := by
    cases read
    exact ⟨rfl, rfl⟩
  leaves input fault rest failed := by cases failed

theorem faithful_fail (fault : DecodeFault) (none : ∀ value, ¬allowed value) :
    (fail fault : Decoder α).Faithful written allowed where
  reads value _ some := (none value some).elim
  accepts input value rest read := by cases read
  leaves input other rest failed := by
    cases failed
    exact List.suffix_refl _

/-- What is read second may depend on what was read first. -/
theorem Faithful.bind {first : Decoder α} {next : α → Decoder β} {tail whole : β → Bytes}
    {belongs : α → β → Prop} {permitted : β → Prop} (front : first.Faithful written allowed)
    (back : ∀ value, allowed value → (next value).Faithful tail (belongs value))
    (joined : ∀ value all, allowed value → belongs value all →
      whole all = written value ++ tail all)
    (parts : ∀ all, permitted all ↔ ∃ value, allowed value ∧ belongs value all) :
    (first >>= next).Faithful whole permitted where
  reads all rest may := by
    obtain ⟨value, possible, fits⟩ := (parts all).1 may
    rw [joined value all possible fits, List.append_assoc, bind_apply, front.reads _ _ possible]
    exact (back value possible).reads all rest fits
  accepts input all rest read := by
    rw [bind_apply] at read
    split at read
    next value middle begun =>
      obtain ⟨rfl, possible⟩ := front.accepts _ _ _ begun
      obtain ⟨rfl, fits⟩ := (back value possible).accepts _ _ _ read
      rw [joined value all possible fits, List.append_assoc]
      exact ⟨rfl, (parts all).2 ⟨value, possible, fits⟩⟩
    next => cases read
  leaves input fault rest failed := by
    rw [bind_apply] at failed
    split at failed
    next value middle begun =>
      obtain ⟨rfl, possible⟩ := front.accepts _ _ _ begun
      exact ((back value possible).leaves _ _ _ failed).trans (List.suffix_append ..)
    next other middle begun =>
      cases failed
      exact front.leaves _ _ _ begun

/-- A value that stands for a simpler one. -/
theorem Faithful.map {decoder : Decoder α} {make : α → β} {take : β → α} {permitted : β → Prop}
    (faithful : decoder.Faithful written allowed)
    (forth : ∀ value, allowed value → permitted (make value) ∧ take (make value) = value)
    (back : ∀ whole, permitted whole → allowed (take whole) ∧ make (take whole) = whole) :
    (decoder >>= fun value => pure (make value)).Faithful (fun whole => written (take whole))
      permitted := by
  refine faithful.bind (fun value _ => faithful_pure (make value)) ?_ fun whole => ?_
  · rintro value _ may rfl
    rw [(forth value may).2, List.append_nil]
  · constructor
    · exact fun may => ⟨take whole, (back whole may).1, (back whole may).2.symm⟩
    · rintro ⟨value, may, rfl⟩
      exact (forth value may).1

theorem faithful_take (width : Nat) : (take width).Faithful id (·.length = width) where
  reads bytes rest sized := by
    simp [take, ← sized]
  accepts input bytes rest read := by
    unfold take at read
    split at read
    next => cases read
    next enough =>
      cases read
      exact ⟨(List.take_append_drop width input).symm, List.length_take_of_le (by omega)⟩
  leaves input fault rest failed := by
    unfold take at failed
    split at failed
    next =>
      cases failed
      exact List.suffix_refl _
    next => cases failed

theorem faithful_replicate {item : Decoder α} (faithful : item.Faithful written allowed)
    (count : Nat) :
    (replicate count item).Faithful (fun values => values.flatMap written)
      (fun values => values.length = count ∧ ∀ value ∈ values, allowed value) := by
  induction count with
  | zero =>
    refine (faithful_pure []).congr (fun values => ?_) fun values none => by rw [none]; rfl
    rw [List.length_eq_zero_iff]
    exact and_iff_left_of_imp fun none => by simp [none]
  | succ count ih =>
    have rest (head : α) : (replicate count item >>= fun tail => pure (head :: tail)).Faithful
        (fun values => values.tail.flatMap written)
        (fun values => ∃ tail, (tail.length = count ∧ ∀ value ∈ tail, allowed value) ∧
          values = head :: tail) := by
      refine ih.bind (fun tail _ => faithful_pure (head :: tail)) ?_ fun values => Iff.rfl
      rintro tail _ - rfl
      simp
    refine faithful.bind (fun head _ => rest head) ?_ fun values => ?_
    · rintro head _ - ⟨tail, -, rfl⟩
      simp
    · cases values with
      | nil => simp
      | cons head tail => grind

end Decoder

namespace Format

open Decoder

/-- Every list and every text inside a value has at most `limit` items or bytes. -/
def Within (limit : Nat) : (format : Format) → format.Value → Prop
  | .text, (v : String) => (Text.utf8 v).length ≤ limit
  | .pair first second, (v : first.Value × second.Value) =>
    first.Within limit v.1 ∧ second.Within limit v.2
  | .list item, (v : List item.Value) => v.length ≤ limit ∧ ∀ value ∈ v, item.Within limit value
  | .option item, (v : Option item.Value) => ∀ value, v = some value → item.Within limit value
  | .variant _ _ case, (v : (choice : Fin _) × (case choice).Value) => (case v.1).Within limit v.2
  | _, _ => True

theorem faithful_number (width : Nat) :
    (number width).Faithful (littleEndian width) (· < 256 ^ width) := by
  refine (faithful_take width).map (fun bytes sized => ?_) fun n small => ?_
  · subst sized
    exact ⟨ofLittleEndian_lt bytes, littleEndian_ofLittleEndian bytes⟩
  · exact ⟨littleEndian_length width n, ofLittleEndian_littleEndian small⟩

theorem faithful_length {limit : Nat} (small : limit < 256 ^ 8) :
    (length limit).Faithful (littleEndian 8) (· ≤ limit) := by
  have checked (count : Nat) : Decoder.Faithful
      (if limit < count then fail .lengthOverflow else pure count) (fun _ => [])
      (fun n => n ≤ limit ∧ n = count) := by
    split
    next beyond => exact faithful_fail _ fun n => by omega
    next within => exact (faithful_pure count).congr (fun n => by omega) fun _ _ => rfl
  refine (faithful_number 8).bind (fun count _ => checked count) ?_ fun n => ?_
  · rintro count _ - ⟨-, rfl⟩
    rw [List.append_nil]
  · constructor
    · exact fun within => ⟨n, by omega, within, rfl⟩
    · rintro ⟨_, -, within, -⟩
      exact within

/-- A number of one byte that is the tag of at most one kind of value. -/
theorem faithful_tagged {next : Nat → Decoder α} {tail : α → Bytes} {allowed : α → Prop}
    (tag : α → Nat) (byte : ∀ value, tag value < 256)
    (back : ∀ n, (next n).Faithful tail (fun value => tag value = n ∧ allowed value)) :
    (number 1 >>= next).Faithful (fun value => littleEndian 1 (tag value) ++ tail value) allowed := by
  refine (faithful_number 1).bind (fun n _ => back n) ?_ fun value => ?_
  · rintro n value - ⟨rfl, -⟩
    rfl
  · constructor
    · exact fun may => ⟨tag value, by simpa using byte value, rfl, may⟩
    · rintro ⟨_, -, -, may⟩
      exact may

theorem faithful_word {width : Nat} {make : Nat → α} {take : α → Nat}
    (small : ∀ value, take value < 256 ^ width) (back : ∀ value, make (take value) = value)
    (forth : ∀ n, n < 256 ^ width → take (make n) = n) :
    (number width >>= fun n => pure (make n)).Faithful (fun value => littleEndian width (take value))
      (fun _ => True) :=
  (faithful_number width).map (fun n below => ⟨trivial, forth n below⟩)
    fun value _ => ⟨small value, back value⟩

theorem utf8_ofUtf8? {bytes : Bytes} {text : String} (read : Text.ofUtf8? bytes = some text) :
    Text.utf8 text = bytes := by
  unfold Text.ofUtf8? String.fromUTF8? at read
  split at read
  next valid =>
    cases read
    rfl
  next => cases read

theorem ofUtf8?_utf8 (text : String) : Text.ofUtf8? (Text.utf8 text) = some text := by
  have valid : ByteArray.IsValidUTF8 ⟨(Text.utf8 text).toArray⟩ := by
    simpa [Text.utf8] using text.isValidUTF8
  unfold Text.ofUtf8? String.fromUTF8?
  rw [dif_pos valid]
  rfl

theorem map_ofNat_toNat (bytes : Bytes) : (bytes.map UInt8.toNat).map UInt8.ofNat = bytes := by
  simp [Function.comp_def]

theorem map_toNat_ofNat {numbers : List Nat} (small : ∀ n ∈ numbers, n < 256 ^ 1) :
    (numbers.map UInt8.ofNat).map UInt8.toNat = numbers := by
  rw [List.map_map]
  exact List.map_congr_left (fun n member => UInt8.toNat_ofNat_of_lt' (small n member)) |>.trans
    (List.map_id numbers)

theorem flatMap_littleEndian_one (bytes : Bytes) :
    (bytes.map UInt8.toNat).flatMap (littleEndian 1) = bytes := by
  simp [List.flatMap_map, littleEndian]

/-- Of the bytes that are there, only those that spell a text are taken. -/
theorem faithful_characters {bytes : List Nat} (small : ∀ n ∈ bytes, n < 256 ^ 1) :
    Decoder.Faithful
      (match Text.ofUtf8? (bytes.map UInt8.ofNat) with
        | some read => pure read
        | none => fail .invalidValue) (fun _ => [])
      (fun text => (Text.utf8 text).map UInt8.toNat = bytes) := by
  split
  next text read =>
    refine (faithful_pure text).congr (fun other => ?_) fun _ _ => rfl
    constructor
    · rintro rfl
      rw [map_ofNat_toNat, ofUtf8?_utf8] at read
      exact Option.some.inj read
    · rintro rfl
      rw [utf8_ofUtf8? read, map_toNat_ofNat small]
  next refused =>
    refine faithful_fail _ fun text spelled => ?_
    rw [← spelled, map_ofNat_toNat, ofUtf8?_utf8] at refused
    cases refused

theorem faithful_sized (count : Nat) :
    Decoder.Faithful (do
      let bytes ← replicate count (number 1)
      match Text.ofUtf8? (bytes.map UInt8.ofNat) with
      | some read => pure read
      | none => fail .invalidValue) Text.utf8 (fun text => (Text.utf8 text).length = count) := by
  refine (faithful_replicate (faithful_number 1) count).bind
    (fun bytes small => faithful_characters small.2) ?_ fun text => ?_
  · rintro bytes text - rfl
    rw [flatMap_littleEndian_one, List.append_nil]
  · constructor
    · exact fun sized => ⟨_, ⟨by simpa using sized, by simpa using fun byte _ => byte.toNat_lt⟩, rfl⟩
    · rintro ⟨_, ⟨sized, -⟩, rfl⟩
      simpa using sized

theorem faithful_text {limit : Nat} (small : limit < 256 ^ 8) :
    (decodeText limit).Faithful
      (fun text => littleEndian 8 (Text.utf8 text).length ++ Text.utf8 text)
      (fun text => (Text.utf8 text).length ≤ limit) := by
  refine (faithful_length small).bind (fun count _ => faithful_sized count) ?_ fun text => ?_
  · rintro count text - rfl
    rfl
  · simp

theorem faithful_pair {first : Decoder α} {second : Decoder β} {left : α → Bytes}
    {right : β → Bytes} {mayLeft : α → Prop} {mayRight : β → Prop}
    (front : first.Faithful left mayLeft) (back : second.Faithful right mayRight) :
    (do let a ← first; let b ← second; pure (a, b)).Faithful (fun v => left v.1 ++ right v.2)
      (fun v => mayLeft v.1 ∧ mayRight v.2) := by
  have rest (a : α) : (second >>= fun b => pure (a, b)).Faithful (fun v => right v.2)
      (fun v => ∃ b, mayRight b ∧ v = (a, b)) := by
    refine back.bind (fun b _ => faithful_pure (a, b)) ?_ fun v => Iff.rfl
    rintro b _ - rfl
    rw [List.append_nil]
  refine front.bind (fun a _ => rest a) ?_ fun v => ?_
  · rintro a _ - ⟨b, -, rfl⟩
    rfl
  · constructor
    · exact fun ⟨mayA, mayB⟩ => ⟨v.1, mayA, v.2, mayB, rfl⟩
    · rintro ⟨a, mayA, b, mayB, rfl⟩
      exact ⟨mayA, mayB⟩

theorem faithful_bool :
    decodeBool.Faithful (fun v => littleEndian 1 (if v then 1 else 0)) (fun _ => True) := by
  have rest (n : Nat) : Decoder.Faithful
      (if n = 0 then pure false else if n = 1 then pure true else fail .invalidValue)
      (fun (_ : Bool) => []) (fun v => (if v then 1 else 0) = n ∧ True) := by
    split
    next zero =>
      exact (faithful_pure false).congr (fun v => by cases v <;> simp [zero]) fun _ _ => rfl
    next nonzero =>
      split
      next one =>
        exact (faithful_pure true).congr (fun v => by cases v <;> simp [one]) fun _ _ => rfl
      next other => exact faithful_fail _ fun v => by cases v <;> grind
  refine (faithful_tagged (fun v => if v then 1 else 0) (fun v => ?_) rest).congr (fun _ => Iff.rfl)
    fun _ _ => (List.append_nil _).symm
  cases v <;> decide

theorem faithful_option {item : Decoder α} {written : α → Bytes} {allowed : α → Prop}
    (faithful : item.Faithful written allowed) :
    (decodeOption item).Faithful
      (fun v => littleEndian 1 (if v.isSome then 1 else 0) ++ v.toList.flatMap written)
      (fun v => ∀ value, v = some value → allowed value) := by
  refine faithful_tagged (fun (v : Option α) => if v.isSome then 1 else 0) (fun v => ?_) fun n => ?_
  · cases v <;> simp
  · split
    next zero =>
      refine (faithful_pure none).congr (fun v => ?_) fun v none => by rw [none]; rfl
      cases v <;> simp [zero]
    next nonzero =>
      split
      next one =>
        refine faithful.bind (fun value _ => faithful_pure (some value)) ?_ fun v => ?_
        · rintro value _ - rfl
          simp
        · cases v <;> simp [one]
      next other => exact faithful_fail _ fun v => by cases v <;> grind

theorem faithful_variant (tags : Tags count) {kind : Fin count → Type}
    {case : (choice : Fin count) → Decoder (kind choice)}
    {written : (choice : Fin count) → kind choice → Bytes}
    {allowed : (choice : Fin count) → kind choice → Prop}
    (faithful : ∀ choice, (case choice).Faithful (written choice) (allowed choice)) :
    (decodeVariant tags case).Faithful
      (fun v => littleEndian 1 (tags.byte v.1).toNat ++ written v.1 v.2)
      (fun v => allowed v.1 v.2) := by
  refine faithful_tagged (fun (v : (choice : Fin count) × kind choice) => (tags.byte v.1).toNat)
    (fun v => (tags.byte v.1).toNat_lt) fun n => ?_
  split
  next choice found =>
    refine (faithful choice).bind (fun value _ => faithful_pure (Sigma.mk choice value)) ?_
      fun v => ?_
    · rintro value _ - rfl
      rw [List.append_nil]
    · constructor
      · rintro ⟨tagged, may⟩
        obtain ⟨other, value⟩ := v
        cases found.symm.trans (Tags.find?_eq_some_iff.2 tagged)
        exact ⟨value, may, rfl⟩
      · rintro ⟨value, may, rfl⟩
        exact ⟨Tags.find?_eq_some_iff.1 found, may⟩
  next absent =>
    refine faithful_fail _ fun v both => ?_
    cases absent.symm.trans (Tags.find?_eq_some_iff.2 both.1)

theorem faithful_decodeWithin {limit : Nat} (small : limit < 256 ^ 8) (format : Format) :
    (format.decodeWithin limit).Faithful format.encode (format.Within limit) := by
  induction format with
  | word8 =>
    exact faithful_word UInt8.toNat_lt (fun _ => UInt8.ofNat_toNat) fun _ => UInt8.toNat_ofNat_of_lt'
  | word16 =>
    exact faithful_word UInt16.toNat_lt (fun _ => UInt16.ofNat_toNat) fun _ => UInt16.toNat_ofNat_of_lt'
  | word32 =>
    exact faithful_word UInt32.toNat_lt (fun _ => UInt32.ofNat_toNat) fun _ => UInt32.toNat_ofNat_of_lt'
  | word64 =>
    exact faithful_word UInt64.toNat_lt (fun _ => UInt64.ofNat_toNat) fun _ => UInt64.toNat_ofNat_of_lt'
  | int8 =>
    exact faithful_word (fun (v : Int8) => v.toUInt8.toNat_lt)
      (fun v => congrArg UInt8.toInt8 UInt8.ofNat_toNat) fun _ => UInt8.toNat_ofNat_of_lt'
  | int16 =>
    exact faithful_word (fun (v : Int16) => v.toUInt16.toNat_lt)
      (fun v => congrArg UInt16.toInt16 UInt16.ofNat_toNat) fun _ => UInt16.toNat_ofNat_of_lt'
  | int32 =>
    exact faithful_word (fun (v : Int32) => v.toUInt32.toNat_lt)
      (fun v => congrArg UInt32.toInt32 UInt32.ofNat_toNat) fun _ => UInt32.toNat_ofNat_of_lt'
  | int64 =>
    exact faithful_word (fun (v : Int64) => v.toUInt64.toNat_lt)
      (fun v => congrArg UInt64.toInt64 UInt64.ofNat_toNat) fun _ => UInt64.toNat_ofNat_of_lt'
  | single =>
    exact faithful_word (fun (v : Single) => v.bits.toNat_lt)
      (fun v => congrArg Single.mk UInt32.ofNat_toNat) fun _ => UInt32.toNat_ofNat_of_lt'
  | double =>
    exact faithful_word (fun (v : Double) => v.bits.toNat_lt)
      (fun v => congrArg Double.mk UInt64.ofNat_toNat) fun _ => UInt64.toNat_ofNat_of_lt'
  | bool => exact faithful_bool
  | text => exact faithful_text small
  | unit => exact (faithful_pure ()).congr (fun _ => by simp [Within]) fun _ _ => rfl
  | pair first second ihFirst ihSecond => exact faithful_pair ihFirst ihSecond
  | list item ih =>
    refine (faithful_length small).bind (fun count _ => faithful_replicate ih count) ?_ fun v => ?_
    · rintro count v - ⟨rfl, -⟩
      rfl
    · constructor
      · exact fun ⟨short, each⟩ => ⟨_, short, rfl, each⟩
      · rintro ⟨_, short, rfl, each⟩
        exact ⟨short, each⟩
  | option item ih =>
    refine (faithful_option ih).congr (fun v => Iff.rfl) fun v _ => ?_
    cases v with
    | none => rfl
    | some value => simp [encode]
  | variant count tags case ih => exact faithful_variant tags ih

end Format

/-- What is true of the codec of every format, over all values and all inputs: a value that is not
too long is read back from what was written for it, with any bytes after it; what is accepted was
written so; and a failed reading leaves an end of its input. -/
theorem decode_exactly_encode (format : Format) :
    (∀ value rest, format.Within maxLength value →
      format.decode (format.encode value ++ rest) = (.ok value, rest)) ∧
    (∀ input value rest, format.decode input = (.ok value, rest) →
      input = format.encode value ++ rest ∧ format.Within maxLength value) ∧
    (∀ input fault rest, format.decode input = (.error fault, rest) → rest <:+ input) := by
  have faithful : (format.decode).Faithful format.encode (format.Within maxLength) :=
    Format.faithful_decodeWithin (by decide) format
  exact ⟨faithful.reads, faithful.accepts, faithful.leaves⟩

/-- Optional cases with the tags 7 and 200: a list is read back, its bytes are accepted for nothing
else, and an unknown tag is refused with the byte after it unread. -/
theorem decode_exactly_encode_cases :
    let tags : Tags 2 := ⟨fun choice => if choice = 0 then 7 else 200, by decide⟩
    let format : Format := .list (.option (.variant 2 tags fun _ => .bool))
    let value : format.Value := ([some ⟨1, true⟩, none] : List (Option ((_ : Fin 2) × Bool)))
    let written : Bytes := [2, 0, 0, 0, 0, 0, 0, 0, 1, 200, 1, 0]
    format.Within maxLength value ∧
      format.decode (format.encode value ++ [9]) = (.ok value, [9]) ∧
      format.decode written = (.ok value, []) ∧ written = format.encode value ++ [] ∧
      format.decode [1, 0, 0, 0, 0, 0, 0, 0, 1, 8, 1] = (.error .invalidValue, [1]) ∧
      ([1] : Bytes) <:+ [1, 0, 0, 0, 0, 0, 0, 0, 1, 8, 1] := by
  intro tags format value written
  obtain ⟨reads, accepts, leaves⟩ := decode_exactly_encode format
  have within : format.Within maxLength value := by
    refine ⟨by decide, fun _ _ _ _ => ?_⟩
    trivial
  have read : format.decode written = (.ok value, []) := rfl
  have refused : format.decode [1, 0, 0, 0, 0, 0, 0, 0, 1, 8, 1] = (.error .invalidValue, [1]) := rfl
  exact ⟨within, reads _ _ within, read, (accepts _ _ _ read).1, refused, leaves _ _ _ refused⟩

end GameScript.Codec
