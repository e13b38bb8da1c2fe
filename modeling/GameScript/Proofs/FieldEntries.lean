import GameScript.Proofs.WordFields

/-! Writing into the fields of a word. A write sets bits of its field, and which ones does not depend on
the word. So an empty field reads as what is written into it, all bits around the field stay, and two
writes may come in either order. -/

namespace GameScript

inductive Entry where
  | unsigned (value : Int)
  | signed (value : Int)
  | tagged (tag : OperandTag) (index : Int)

def Field.Spans (field : Field) (bit : Nat) : Prop :=
  field.shift ≤ bit ∧ bit < field.shift + field.bits

def Field.Covers (field : Field) (bit : Nat) : Prop := ∃ part ∈ field.parts, part.Spans bit

def Field.AllApart (field other : Field) : Prop :=
  ∀ part ∈ field.parts, ∀ away ∈ other.parts, part.Apart away

/-- A field as the word gives it: A, B, C and BC as unsigned numbers, ABC as a signed one; of a tagged
operand, the index. -/
def Word.given (w : Word) : Field → Int
  | .a => w.a.toNat
  | .b | .tagAIndexB => w.b.toNat
  | .c | .tagBIndexC => w.c.toNat
  | .bc | .tagAIndexBC => w.bc.toNat
  | .abc => w.abc.toInt

namespace Entry

def suits : Entry → Field → Bool
  | .tagged .., field => field.split?.isSome
  | _, field => field.split?.isNone

def write (entry : Entry) (w : Word) (field : Field) : Except FieldFault Word :=
  match entry with
  | .unsigned value => w.withUnsigned field value
  | .signed value => w.withSigned field value
  | .tagged tag index => w.withTagged field tag index

def Fits (field : Field) : Entry → Prop
  | .unsigned value | .tagged _ value => 0 ≤ value ∧ value < 2 ^ field.bits
  | .signed value => -2 ^ (field.bits - 1) ≤ value ∧ value < 2 ^ (field.bits - 1)

/-- The field holds the entry: as a number without a sign, with the sign extended from the width of the
field, or in two parts. -/
def HeldIn (w : Word) (field : Field) : Entry → Prop
  | .unsigned value => w.given field % 2 ^ field.bits = value
  | .signed value => w.signedAt field = value
  | .tagged tag index =>
    (w.taggedAt field).tag = tag ∧ ((w.taggedAt field).index.toNat : Int) = index

end Entry

namespace Word

variable {w after : Word} {field other : Field} {entry second : Entry}

theorem given_emod (w : Word) (field : Field) : w.given field % 2 ^ field.bits = w.numberAt field := by
  have small : (w.numberAt field : Int) < 2 ^ field.bits := by exact_mod_cast w.numberAt_lt field
  cases field with
  | abc =>
    have signed : w.given .abc = Int.bmod (w.numberAt .abc) (2 ^ Field.abc.bits) := w.signedAt_eq .abc
    rw [signed, show (2 : Int) ^ Field.abc.bits = (2 ^ Field.abc.bits : Nat) by norm_cast,
      Int.bmod_emod]
    exact Int.emod_eq_of_lt (Int.natCast_nonneg _) (by exact_mod_cast small)
  | _ => exact Int.emod_eq_of_lt (Int.natCast_nonneg _) small

/-! ### One write -/

/-- A write that treats all words alike: it sets the same bits, in places where it may, or refuses. -/
inductive Uniform (inside : Nat → Prop) (fits : Prop) (write : Word → Except FieldFault Word) : Prop where
  | sets {pattern : UInt32} (room : fits)
    (within : ∀ bit, pattern.toNat.testBit bit = true → inside bit)
    (writes : ∀ w, write w = .ok ⟨w.bits ||| pattern⟩) : Uniform inside fits write
  | refuses {fault : FieldFault} (misfit : ¬fits) (fails : ∀ w, write w = .error fault) :
    Uniform inside fits write

theorem Uniform.imp {inside covers : Nat → Prop} {fits : Prop} {write : Word → Except FieldFault Word}
    (uniform : Uniform inside fits write) (wider : ∀ bit, inside bit → covers bit) :
    Uniform covers fits write := by
  cases uniform with
  | sets room within writes => exact .sets room (fun bit set => wider bit (within bit set)) writes
  | refuses misfit fails => exact .refuses misfit fails

theorem uniform_place {fits : Prop} [Decidable fits] {value : Nat} {fault : FieldFault}
    (small : fits → value < 2 ^ field.bits) :
    Uniform field.Spans fits (fun w => if fits then .ok (w.place field value) else .error fault) := by
  by_cases room : fits
  · have writes (w : Word) : (if fits then .ok (w.place field value) else .error fault) =
        Except.ok ⟨w.bits ||| ((Word.mk 0).place field value).bits⟩ := by
      simp only [if_pos room, place, UInt32.zero_or]
    refine .sets room (fun bit set => ?_) writes
    rw [toNat_place _ (small room), UInt32.toNat_zero, Nat.zero_or, Nat.testBit_mul_two_pow,
      Bool.and_eq_true, decide_eq_true_iff] at set
    refine ⟨set.1, Nat.lt_of_not_le fun beyond => ?_⟩
    have bound : value < 2 ^ (bit - field.shift) :=
      Nat.lt_of_lt_of_le (small room) (Nat.pow_le_pow_right (by decide) (by omega))
    exact absurd (Nat.testBit_lt_two_pow bound) (by simp [set.2])
  · exact .refuses room fun w => if_neg room

theorem uniform_withUnsigned (field : Field) (value : Int) :
    Uniform field.Spans (0 ≤ value ∧ value < 2 ^ field.bits) (·.withUnsigned field value) := by
  have width : ((Nat.pow 2 field.bits : Nat) : Int) = 2 ^ field.bits := by norm_cast
  unfold withUnsigned
  rw [width]
  refine uniform_place fun fits => ?_
  exact (Int.toNat_lt fits.1).2 (by exact_mod_cast fits.2)

theorem uniform_withSigned (field : Field) (value : Int) :
    Uniform field.Spans
      (-2 ^ (field.bits - 1) ≤ value ∧ value < 2 ^ (field.bits - 1)) (·.withSigned field value) := by
  have width : ((Nat.pow 2 (field.bits - 1) : Nat) : Int) = 2 ^ (field.bits - 1) := by norm_cast
  unfold withSigned
  rw [width]
  refine uniform_place fun _ => ?_
  have positive : (0 : Int) < (2 ^ field.bits : Nat) := by exact_mod_cast Nat.two_pow_pos _
  exact (Int.toNat_lt (Int.emod_nonneg value (Int.ne_of_gt positive))).2
    (Int.emod_lt_of_pos value positive)

theorem uniform_withTagged {tagField indexField : Field} (tag : OperandTag) (index : Int)
    (split : field.split? = some (tagField, indexField)) :
    Uniform field.Covers (0 ≤ index ∧ index < 2 ^ field.bits) (·.withTagged field tag index) := by
  have parts := Field.parts_of_split split
  have widths : tagField.bits = 8 ∧ indexField.bits = field.bits := by
    cases field <;> cases split <;> exact ⟨rfl, rfl⟩
  unfold withTagged
  rw [split]
  cases uniform_withUnsigned tagField tag.bits.toNat with
  | refuses misfit =>
    refine absurd ⟨Int.natCast_nonneg _, ?_⟩ misfit
    rw [widths.1]
    exact_mod_cast tag.bits.toNat_lt
  | @sets first _ low tags =>
    simp only [tags]
    rw [← widths.2]
    cases uniform_withUnsigned indexField index with
    | @sets second room high writes =>
      have both (w : Word) : (Word.mk (w.bits ||| first)).withUnsigned indexField index =
          .ok ⟨w.bits ||| (first ||| second)⟩ := by
        rw [writes, UInt32.or_assoc]
      refine .sets room (fun bit set => ?_) both
      rw [UInt32.toNat_or, Nat.testBit_or, Bool.or_eq_true] at set
      rcases set with set | set
      · exact ⟨tagField, by simp [parts], low bit set⟩
      · exact ⟨indexField, by simp [parts], high bit set⟩
    | refuses misfit fails => exact .refuses misfit fun w => fails _

theorem uniform_write (suits : entry.suits field = true) :
    Uniform field.Covers (entry.Fits field) (entry.write · field) := by
  have alone (plain : field.split?.isNone = true) (bit : Nat)
      (inside : field.Spans bit) : field.Covers bit := by
    refine ⟨field, ?_, inside⟩
    rw [Field.parts, Option.isNone_iff_eq_none.1 plain]
    exact List.mem_singleton_self field
  cases entry with
  | unsigned value => exact (uniform_withUnsigned field value).imp (alone suits)
  | signed value => exact (uniform_withSigned field value).imp (alone suits)
  | tagged tag index =>
    obtain ⟨⟨tagField, indexField⟩, split⟩ := Option.isSome_iff_exists.1 suits
    exact uniform_withTagged tag index split

section Uniform

variable {inside : Nat → Prop} {fits : Prop} {write : Word → Except FieldFault Word}

theorem Uniform.ok_iff (uniform : Uniform inside fits write) (w : Word) :
    (∃ after, write w = .ok after) ↔ fits := by
  cases uniform with
  | sets room _ writes => exact iff_of_true ⟨_, writes w⟩ room
  | refuses misfit fails =>
    refine iff_of_false ?_ misfit
    rintro ⟨after, written⟩
    cases (fails w).symm.trans written

/-- The bits around the field stay. -/
theorem Uniform.testBit (uniform : Uniform inside fits write) (written : write w = .ok after) {bit : Nat}
    (outside : ¬inside bit) : after.bits.toNat.testBit bit = w.bits.toNat.testBit bit := by
  cases uniform with
  | @sets pattern _ within writes =>
    have unset : pattern.toNat.testBit bit = false :=
      Bool.eq_false_iff.2 fun set => outside (within bit set)
    cases (writes w).symm.trans written
    rw [UInt32.toNat_or, Nat.testBit_or, unset, Bool.or_false]
  | refuses _ fails => cases (fails w).symm.trans written

theorem Uniform.comm {around : Nat → Prop} {room : Prop} {next : Word → Except FieldFault Word}
    (first : Uniform inside fits write) (second : Uniform around room next) (w after : Word) :
    (write w >>= next) = .ok after ↔ (next w >>= write) = .ok after := by
  have refused {early late : Word → Except FieldFault Word} {fault : FieldFault}
      (fails : ∀ w, late w = .error fault) : (early w >>= late) ≠ .ok after := by
    intro done
    obtain ⟨middle, -, written⟩ := bind_eq_ok.1 done
    cases (fails middle).symm.trans written
  cases first with
  | refuses _ fails =>
    refine iff_of_false ?_ (refused fails)
    rw [fails]
    rintro ⟨⟩
  | @sets pattern _ _ writes =>
    cases second with
    | refuses _ fails =>
      refine iff_of_false (refused fails) ?_
      rw [fails]
      rintro ⟨⟩
    | sets _ _ adds =>
      rw [writes, adds]
      change next _ = _ ↔ write _ = _
      rw [writes, adds, UInt32.or_assoc, UInt32.or_assoc, UInt32.or_comm pattern]

end Uniform

/-- An empty field holds what is written into it, and the fields around it are as they were. -/
theorem heldIn_of_write (clear : w.Clear field) (written : entry.write w field = .ok after) :
    w.Wrote after field ∧ entry.HeldIn after field := by
  cases entry with
  | unsigned value =>
    obtain ⟨wrote, held⟩ := withUnsigned_eq_ok clear written
    exact ⟨wrote, (given_emod after field).trans held⟩
  | signed value => exact withSigned_eq_ok clear written
  | tagged tag index => exact withTagged_eq_ok clear written

/-! ### Two writes -/

/-- What a field holds depends on its own bits only. -/
theorem heldIn_congr (same : ∀ part ∈ field.parts, after.numberAt part = w.numberAt part)
    (held : entry.HeldIn w field) : entry.HeldIn after field := by
  have number := numberAt_congr same
  cases entry with
  | unsigned value => exact (given_emod after field).trans (by rw [number, ← given_emod]; exact held)
  | signed value =>
    have signed : after.signedAt field = value := by rw [signedAt_eq, number, ← signedAt_eq]; exact held
    exact signed
  | tagged tag index =>
    unfold Entry.HeldIn at held ⊢
    rwa [taggedAt_congr same]

theorem heldIn_of_writes (apart : field.AllApart other) (clear : w.Clear field)
    (free : w.Clear other)
    (written : (entry.write w field >>= (second.write · other)) = .ok after) :
    entry.HeldIn after field ∧ second.HeldIn after other := by
  obtain ⟨middle, first, last⟩ := bind_eq_ok.1 written
  obtain ⟨wrote, held⟩ := heldIn_of_write clear first
  have still : middle.Clear other := by
    intro away member
    rw [wrote.others away fun part own => apart part own away member]
    exact free away member
  obtain ⟨added, holds⟩ := heldIn_of_write still last
  refine ⟨heldIn_congr (fun part own => ?_) held, holds⟩
  exact added.others part fun away member => (apart part own away member).symm

/-- A number goes into an empty field exactly if it is in the range of the field, with a sign or without
one, and so does an index behind any tag. The field then holds it, and no bit outside of the field has
changed, the operation code included. Two writes may come in either order, and fields that share no bit
then hold what was written into each. -/
theorem fields_hold_entries (w : Word) :
    (∀ (entry : Entry) (field : Field), entry.suits field = true → w.Clear field →
      ((∃ after, entry.write w field = .ok after) ↔ entry.Fits field) ∧
      ∀ after, entry.write w field = .ok after →
        entry.HeldIn after field ∧ after.opcode = w.opcode ∧
        ∀ bit, ¬field.Covers bit → after.bits.toNat.testBit bit = w.bits.toNat.testBit bit) ∧
    ∀ (entry second : Entry) (field other : Field),
      entry.suits field = true → second.suits other = true → ∀ after,
      ((entry.write w field >>= (second.write · other)) = .ok after ↔
        (second.write w other >>= (entry.write · field)) = .ok after) ∧
      (field.AllApart other → w.Clear field → w.Clear other →
        (entry.write w field >>= (second.write · other)) = .ok after →
        entry.HeldIn after field ∧ second.HeldIn after other) := by
  refine ⟨fun entry field suits clear => ?_, fun entry second field other suits fitting after => ?_⟩
  · have uniform := uniform_write suits
    refine ⟨uniform.ok_iff w, fun after written => ?_⟩
    obtain ⟨wrote, held⟩ := heldIn_of_write clear written
    exact ⟨held, wrote.opcode, fun bit => uniform.testBit written⟩
  · exact ⟨(uniform_write suits).comm (uniform_write fitting) w after, heldIn_of_writes⟩

/-- The lowest number of 24 bits, and two writes to neighbouring fields in both orders. -/
theorem fields_hold_entries_lowest :
    let w : Word := ⟨0x5c⟩
    let pair : Entry := .tagged ⟨9⟩ 200
    let most : Entry := .unsigned 255
    (∃ after, (Entry.signed (-8388608)).write w .abc = .ok after ∧ after.abc.toInt = -8388608) ∧
      ∃ after, (most.write w .c >>= (pair.write · .tagAIndexB)) = .ok after ∧
        pair.HeldIn after .tagAIndexB ∧ most.HeldIn after .c := by
  intro w pair most
  have clear (field : Field) : w.Clear field := Instruction.word_clear ⟨0x5c, "PARAM", .param⟩ field
  obtain ⟨single, two⟩ := fields_hold_entries w
  obtain ⟨fits, holds⟩ := single (.signed (-8388608)) .abc rfl (clear _)
  obtain ⟨after, written⟩ := fits.2 ⟨by decide, by decide⟩
  obtain ⟨swaps, both⟩ := two pair most .tagAIndexB .c rfl rfl ⟨0xffc8095c⟩
  have apart : Field.AllApart .tagAIndexB .c := by
    unfold Field.AllApart
    decide
  have done : (pair.write w .tagAIndexB >>= (most.write · .c)) = .ok ⟨0xffc8095c⟩ := by decide +kernel
  exact ⟨⟨after, written, (holds after written).1⟩, _, swaps.1 done,
    both apart (clear _) (clear _) done⟩

end Word
end GameScript
