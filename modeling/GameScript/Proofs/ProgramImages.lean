import GameScript.Program.Image
import GameScript.Proofs.CodecRoundTrip

/-! Images and programs correspond one to one: the reader accepts exactly what the writer makes of a
program whose lists and texts are not too long. So no image is the beginning of another one. -/

namespace GameScript

open Codec

namespace Codec

theorem Decoder.Faithful.eq_ok_iff {decoder : Decoder α} {written : α → Bytes} {allowed : α → Prop}
    (faithful : decoder.Faithful written allowed) {input rest : Bytes} {value : α} :
    decoder input = (.ok value, rest) ↔ input = written value ++ rest ∧ allowed value := by
  constructor
  · exact faithful.accepts input value rest
  · rintro ⟨rfl, may⟩
    exact faithful.reads value rest may

/-- What is written for one value never begins what is written for another. -/
theorem Decoder.Faithful.unique {decoder : Decoder α} {written : α → Bytes} {allowed : α → Prop}
    (faithful : decoder.Faithful written allowed) {left right : α} {after behind : Bytes}
    (mayLeft : allowed left) (mayRight : allowed right)
    (same : written left ++ after = written right ++ behind) : left = right ∧ after = behind := by
  have read := faithful.reads left after mayLeft
  rw [same, faithful.reads right behind mayRight] at read
  cases read
  exact ⟨rfl, rfl⟩

theorem Format.within_mono {limit wider : Nat} (le : limit ≤ wider) (format : Format) :
    ∀ value, format.Within limit value → format.Within wider value := by
  induction format with
  | text => exact fun _ within => Nat.le_trans within le
  | pair first second ihFirst ihSecond =>
    exact fun value within => ⟨ihFirst value.1 within.1, ihSecond value.2 within.2⟩
  | list item ih =>
    exact fun _ within =>
      ⟨Nat.le_trans within.1 le, fun value member => ih value (within.2 value member)⟩
  | option item ih => exact fun _ within value found => ih value (within value found)
  | variant count tags case ih => exact fun value within => ih value.1 value.2 within
  | _ => exact fun _ _ => trivial

/-- A type whose elements and the values of its format correspond one to one. -/
class LawfulWire (α : Type) [Wire α] : Prop where
  ofValue_toValue : ∀ element : α, Wire.ofValue (Wire.toValue element) = element
  toValue_ofValue : ∀ value, Wire.toValue (Wire.ofValue value : α) = value

theorem faithful_decode [Wire α] [LawfulWire α] :
    (decode : Decoder α).Faithful encode
      (fun element => (Wire.format α).Within maxLength (Wire.toValue element)) := by
  refine (Format.faithful_decodeWithin (by decide) (Wire.format α)).map (fun value may => ?_)
    fun element may => ⟨may, LawfulWire.ofValue_toValue element⟩
  rw [LawfulWire.toValue_ofValue]
  exact ⟨may, rfl⟩

end Codec

instance : LawfulWire Symbol where
  ofValue_toValue symbol := by cases symbol <;> rfl
  toValue_ofValue
    | ⟨0, _⟩ => rfl
    | ⟨1, _⟩ => rfl
    | ⟨2, _⟩ => rfl

instance : LawfulWire Layout := ⟨fun _ => rfl, fun _ => rfl⟩

theorem map_map_cancel {make : β → α} {take : α → β} (back : ∀ x, make (take x) = x)
    (values : List α) : List.map make (values.map take) = values :=
  (List.map_map ..).trans (List.map_id'' back values)

instance : LawfulWire LineTable where
  ofValue_toValue table := by
    show LineTable.mk (List.map (fun (offset, line) => LineEntry.mk offset line)
      (table.entries.toList.map fun entry => (entry.offset, entry.line))).toArray = table
    rw [map_map_cancel fun _ => rfl]
  toValue_ofValue pairs := map_map_cancel (fun (_ : UInt32 × UInt32) => rfl) pairs

instance : LawfulWire Routine where
  ofValue_toValue routine := by
    show Routine.mk routine.name routine.sourceFile
      (List.map Word.mk (routine.code.toList.map Word.bits)).toArray routine.ints routine.floats
      routine.strings (List.map Wire.ofValue (routine.pointers.toList.map Wire.toValue)).toArray
      (Wire.ofValue (Wire.toValue routine.layout)) (Wire.ofValue (Wire.toValue routine.lines)) =
        routine
    rw [map_map_cancel fun _ => rfl, map_map_cancel LawfulWire.ofValue_toValue,
      LawfulWire.ofValue_toValue, LawfulWire.ofValue_toValue]
  toValue_ofValue
    | (name, sourceFile, code, ints, floats, strings, pointers, layout, lines) => by
      have words : List.map Word.bits (List.map Word.mk code) = code := map_map_cancel (fun _ => rfl) _
      have symbols :
          List.map Wire.toValue (List.map (Wire.ofValue : _ → Symbol) pointers) = pointers :=
        map_map_cancel LawfulWire.toValue_ofValue _
      have frame : Wire.toValue (Wire.ofValue layout : Layout) = layout :=
        LawfulWire.toValue_ofValue layout
      have table : Wire.toValue (Wire.ofValue lines : LineTable) = lines :=
        LawfulWire.toValue_ofValue lines
      show (name, sourceFile, List.map Word.bits (List.map Word.mk code), ints, floats, strings,
        List.map Wire.toValue (List.map (Wire.ofValue : _ → Symbol) pointers),
        Wire.toValue (Wire.ofValue layout : Layout), Wire.toValue (Wire.ofValue lines : LineTable)) = _
      rw [words, symbols, frame, table]
      rfl

instance : LawfulWire Program where
  ofValue_toValue program := by
    show Program.mk (List.map Wire.ofValue (program.routines.map Wire.toValue)) = program
    rw [map_map_cancel LawfulWire.ofValue_toValue]
  toValue_ofValue value := map_map_cancel LawfulWire.toValue_ofValue value

def Symbol.LengthsWithin (limit : Nat) : Symbol → Prop
  | .null => True
  | .function name => Text.byteLength name ≤ limit
  | .class_ name => Text.byteLength name ≤ limit

structure Routine.LengthsWithin (limit : Nat) (routine : Routine) : Prop where
  name : Text.byteLength routine.name ≤ limit
  sourceFile : Text.byteLength routine.sourceFile ≤ limit
  code : routine.code.size ≤ limit
  ints : routine.ints.size ≤ limit
  floats : routine.floats.size ≤ limit
  strings : routine.strings.size ≤ limit
  eachString : ∀ text ∈ routine.strings, Text.byteLength text ≤ limit
  pointers : routine.pointers.size ≤ limit
  eachPointer : ∀ symbol ∈ routine.pointers, symbol.LengthsWithin limit
  lines : routine.lines.entries.size ≤ limit

structure Program.LengthsWithin (limit : Nat) (program : Program) : Prop where
  routines : program.routines.length ≤ limit
  eachRoutine : ∀ routine ∈ program.routines, routine.LengthsWithin limit

section Lengths

variable {limit : Nat}

theorem within_text (text : String) :
    Format.text.Within limit (text : String) ↔ Text.byteLength text ≤ limit := by
  show (Text.utf8 text).length ≤ limit ↔ _
  simp [Text.utf8, Text.byteLength]

theorem within_list (item : Format) (make : α → item.Value) (values : List α) :
    (Format.list item).Within limit (values.map make : List item.Value) ↔
      values.length ≤ limit ∧ ∀ value ∈ values, item.Within limit (make value) := by
  show (values.map make).length ≤ limit ∧ (∀ value ∈ values.map make, _) ↔ _
  rw [List.length_map, List.forall_mem_map]

theorem Symbol.within_iff (symbol : Symbol) :
    (Wire.format Symbol).Within limit (Wire.toValue symbol) ↔ symbol.LengthsWithin limit := by
  cases symbol with
  | null => exact Iff.rfl
  | function name => exact within_text name
  | class_ name => exact within_text name

theorem Layout.within (layout : Layout) : (Wire.format Layout).Within limit (Wire.toValue layout) :=
  ⟨trivial, trivial, trivial, trivial, trivial, trivial⟩

theorem LineTable.within_iff (table : LineTable) :
    (Wire.format LineTable).Within limit (Wire.toValue table) ↔ table.entries.size ≤ limit := by
  refine (within_list (.pair .word32 .word32) _ table.entries.toList).trans ?_
  exact and_iff_left fun _ _ => ⟨trivial, trivial⟩

theorem Routine.within_iff (routine : Routine) :
    (Wire.format Routine).Within limit (Wire.toValue routine) ↔ routine.LengthsWithin limit := by
  constructor
  · rintro ⟨name, sourceFile, code, ints, floats, strings, pointers, -, lines⟩
    have code : routine.code.size ≤ limit ∧ _ :=
      (within_list .word32 Word.bits routine.code.toList).1 code
    have pointers : routine.pointers.size ≤ limit ∧ _ :=
      (within_list (Wire.format Symbol) Wire.toValue routine.pointers.toList).1 pointers
    exact {
      name := (within_text _).1 name
      sourceFile := (within_text _).1 sourceFile
      code := code.1
      ints := ints.1
      floats := floats.1
      strings := strings.1
      eachString := fun text member => (within_text text).1 (strings.2 text member.val)
      pointers := pointers.1
      eachPointer := fun symbol member => symbol.within_iff.1 (pointers.2 symbol member.val)
      lines := routine.lines.within_iff.1 lines }
  · intro lengths
    have plain {item : Format} (values : Array item.Value) (few : values.size ≤ limit)
        (each : ∀ value ∈ values, item.Within limit value) :
        (Format.list item).Within limit values.toList :=
      ⟨few, fun value member => each value ⟨member⟩⟩
    exact ⟨(within_text _).2 lengths.name, (within_text _).2 lengths.sourceFile,
      (within_list .word32 Word.bits _).2 ⟨lengths.code, fun _ _ => trivial⟩,
      plain _ lengths.ints fun _ _ => trivial, plain _ lengths.floats fun _ _ => trivial,
      plain _ lengths.strings fun text member => (within_text text).2 (lengths.eachString text member),
      (within_list (Wire.format Symbol) Wire.toValue _).2 ⟨lengths.pointers, fun symbol member =>
        symbol.within_iff.2 (lengths.eachPointer symbol ⟨member⟩)⟩,
      routine.layout.within, routine.lines.within_iff.2 lengths.lines⟩

theorem Program.within_iff (program : Program) :
    (Wire.format Program).Within limit (Wire.toValue program) ↔ program.LengthsWithin limit := by
  refine (within_list (Wire.format Routine) Wire.toValue program.routines).trans ?_
  constructor
  · exact fun ⟨few, each⟩ => ⟨few, fun routine member => routine.within_iff.1 (each routine member)⟩
  · exact fun ⟨few, each⟩ => ⟨few, fun routine member => routine.within_iff.2 (each routine member)⟩

end Lengths

namespace Program

theorem refuse_eq_ok {wrong : Prop} [Decidable wrong] {fault : ImageFault}
    {next : Except ImageFault β} {result : β} :
    (if wrong then .error fault else next) = .ok result ↔ ¬wrong ∧ next = .ok result := by
  split <;> simp [*]

section Expecting

variable {decoder : Decoder α} {written : α → Bytes} {allowed : α → Prop} {result : β}

theorem expecting_eq_ok {next : α → Bytes → Except ImageFault β}
    (faithful : decoder.Faithful written allowed) {input : Bytes} :
    expecting decoder input next = .ok result ↔
      ∃ value rest, input = written value ++ rest ∧ allowed value ∧ next value rest = .ok result := by
  have outcome : expecting decoder input next = .ok result ↔
      ∃ value rest, decoder input = (.ok value, rest) ∧ next value rest = .ok result := by
    unfold expecting
    split
    next value rest read => grind
    next fault rest refused => grind
  simp only [outcome, faithful.eq_ok_iff, and_assoc]

/-- Where only one value will do, its bytes are next in the input. -/
theorem expecting_only [DecidableEq α] {next : Bytes → Except ImageFault β} {fault : ImageFault}
    (faithful : decoder.Faithful written allowed) {wanted : α} (may : allowed wanted)
    {input : Bytes} :
    expecting decoder input (fun found rest => if found ≠ wanted then .error fault else next rest) =
        .ok result ↔ ∃ rest, input = written wanted ++ rest ∧ next rest = .ok result := by
  simp only [expecting_eq_ok faithful, refuse_eq_ok, ne_eq, Decidable.not_not]
  constructor
  · rintro ⟨_, rest, split, -, rfl, continued⟩
    exact ⟨rest, split, continued⟩
  · rintro ⟨rest, split, continued⟩
    exact ⟨wanted, rest, split, may, rfl, continued⟩

end Expecting

theorem ofImage_eq_ok_iff {input : Bytes} {program : Program} :
    ofImage input = .ok program ↔ input = toImage program ∧ program.LengthsWithin maxLength := by
  have numbers : @Decoder.Faithful (List UInt8) (Decoder.replicate 3 (Format.decode .word8))
      (List.flatMap (Format.encode .word8)) _ :=
    Decoder.faithful_replicate (Format.faithful_decodeWithin (by decide) .word8) 3
  have names : @Decoder.Faithful (List UInt8) sectionFormat.decode sectionFormat.encode
      (sectionFormat.Within maxLength) := Format.faithful_decodeWithin (by decide) sectionFormat
  have programs : (decode : Decoder Program).Faithful encode _ := faithful_decode
  unfold ofImage
  refine refuse_eq_ok.trans ((and_congr_right fun _ => refuse_eq_ok.trans (and_congr_right fun _ =>
    (expecting_only numbers ⟨rfl, fun _ _ => trivial⟩).trans (exists_congr fun _ =>
      and_congr_right fun _ => (expecting_only names ⟨by decide, fun _ _ => trivial⟩).trans
        (exists_congr fun _ => and_congr_right fun _ => expecting_eq_ok programs)))).trans ?_)
  constructor
  · rintro ⟨-, signed, _, numbered, _, rfl, other, rest, rfl, within, ended⟩
    have last : rest = [] ∧ other = program := by
      split at ended
      next empty => exact ⟨List.isEmpty_iff.1 empty, Except.ok.inj ended⟩
      next => cases ended
    obtain ⟨rfl, rfl⟩ := last
    refine ⟨?_, other.within_iff.1 within⟩
    rw [← List.take_append_drop magic.length input, numbered, Decidable.not_not.1 signed,
      List.append_nil]
    simp only [toImage, List.append_assoc]
    rfl
  · rintro ⟨rfl, within⟩
    refine ⟨?_, ?_, _, rfl, _, rfl, program, [], ?_, program.within_iff.2 within, rfl⟩
    · simp [toImage]
    · simp [toImage]
    · exact (List.append_nil _).symm

/-- The longest a list or text can be for its length to be written in full. -/
def lengthLimit : Nat := UInt64.size - 1

theorem toImage_append_inj {left right : Program} {after behind : Bytes}
    (small : left.LengthsWithin lengthLimit) (little : right.LengthsWithin lengthLimit)
    (same : toImage left ++ after = toImage right ++ behind) : left = right ∧ after = behind := by
  have written : encode left ++ after = encode right ++ behind := by
    simpa only [toImage, List.append_assoc, List.append_cancel_left_eq] using same
  have faithful := Format.faithful_decodeWithin
    (show lengthLimit < 256 ^ 8 by decide) (Wire.format Program)
  obtain ⟨values, rests⟩ := faithful.unique (left.within_iff.2 small) (right.within_iff.2 little)
    written
  refine ⟨?_, rests⟩
  rw [← LawfulWire.ofValue_toValue left, values, LawfulWire.ofValue_toValue]

theorem LengthsWithin.mono {limit wider : Nat} {program : Program} (le : limit ≤ wider)
    (within : program.LengthsWithin limit) : program.LengthsWithin wider :=
  program.within_iff.1 (Format.within_mono le _ _ (program.within_iff.2 within))

/-- An image with something more at its end, or something less, is no image. -/
theorem ofImage_append_ne {program other : Program} {more : Bytes}
    (small : program.LengthsWithin lengthLimit) (some : more ≠ []) :
    ofImage (toImage program ++ more) ≠ .ok other := by
  intro read
  obtain ⟨same, within⟩ := ofImage_eq_ok_iff.1 read
  have apart : toImage program ++ more = toImage other ++ [] := by rw [same, List.append_nil]
  exact some (toImage_append_inj small (within.mono (by decide)) apart).2

theorem ofImage_front_ne {program other : Program} {front more : Bytes}
    (small : program.LengthsWithin lengthLimit) (cut : toImage program = front ++ more)
    (some : more ≠ []) : ofImage front ≠ .ok other := by
  intro read
  obtain ⟨rfl, within⟩ := ofImage_eq_ok_iff.1 read
  have apart : toImage program ++ [] = toImage other ++ more := by rw [cut, List.append_nil]
  exact some (toImage_append_inj small (within.mono (by decide)) apart).2.symm

/-- The images of programs are read exactly as they are written. So a program has one image, no
image is a part of the front of another, and a program that was read gives its image again. -/
theorem ofImage_exactly_toImage :
    (∀ input program, ofImage input = .ok program ↔
      input = toImage program ∧ program.LengthsWithin maxLength) ∧
    (∀ left right program, ofImage left = .ok program → ofImage right = .ok program →
      left = right) ∧
    (∀ (program : Program) front more, program.LengthsWithin lengthLimit →
      toImage program = front ++ more → more ≠ [] → ∀ other, ofImage front ≠ .ok other) ∧
    (∀ (program : Program) more, program.LengthsWithin lengthLimit → more ≠ [] →
      ∀ other, ofImage (toImage program ++ more) ≠ .ok other) ∧
    (∀ input program, ofImage input = .ok program → toImage program = input) := by
  refine ⟨fun _ _ => ofImage_eq_ok_iff, ?_, ?_, ?_, ?_⟩
  · intro left right program readLeft readRight
    rw [(ofImage_eq_ok_iff.1 readLeft).1, (ofImage_eq_ok_iff.1 readRight).1]
  · intro program front more small cut some other
    exact ofImage_front_ne small cut some
  · intro program more small some other
    exact ofImage_append_ne small some
  · intro input program read
    exact (ofImage_eq_ok_iff.1 read).1.symm

/-- A routine with a word of code, constants of each kind and a line table. -/
theorem ofImage_exactly_toImage_single :
    let routine : Routine := ⟨"Main", "main.asm", #[⟨0x01020304⟩], #[-1], #[⟨0x7ff8000000000001⟩],
      #["häuser"], #[.null, .function "Log"], .empty, ⟨#[⟨0, 3⟩]⟩⟩
    let program : Program := ⟨[routine]⟩
    ofImage (toImage program) = .ok program ∧
      (∀ input, ofImage input = .ok program → input = toImage program) ∧
      ∀ other, ofImage (toImage program ++ [0]) ≠ .ok other ∧
        ofImage (toImage program).dropLast ≠ .ok other := by
  intro routine program
  obtain ⟨exactly, one, front, extended, again⟩ := ofImage_exactly_toImage
  have within : program.LengthsWithin maxLength := by
    refine ⟨by decide, fun _ member => ?_⟩
    rw [List.mem_singleton.1 member]
    refine ⟨by decide, by decide, by decide, by decide, by decide, by decide, ?_, by decide, ?_,
      by decide⟩
    · rintro text (member : text ∈ #["häuser"])
      rw [Array.mem_singleton.1 member]
      decide
    · rintro symbol (member : symbol ∈ #[Symbol.null, .function "Log"])
      obtain rfl | rfl : symbol = .null ∨ symbol = .function "Log" := by simpa using member
      · trivial
      · show Text.byteLength "Log" ≤ maxLength
        decide
  have small : program.LengthsWithin lengthLimit := within.mono (by decide)
  have read : ofImage (toImage program) = .ok program := (exactly _ _).2 ⟨rfl, within⟩
  have cut : toImage program = (toImage program).dropLast ++ [_] :=
    (List.dropLast_concat_getLast (by simp [toImage, magic])).symm
  exact ⟨read, fun input readAlso => one _ _ _ readAlso read, fun other =>
    ⟨extended _ _ small (by decide) other, front _ _ _ small cut (by simp) other⟩⟩

end Program

end GameScript
