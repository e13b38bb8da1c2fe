import GameScript.Proofs.AssembledCode
import GameScript.Proofs.InstructionRegisters

/-! Assembled code names the registers that its frames have. The assembler counts registers by the
tokens, the machine finds them by fields, kinds and selectors; where the selectors of casts are
given by name, both come to the same. -/

namespace GameScript

def Layout.Has (layout : Layout) (bank : Bank) (index : Nat) : Prop := index < layout.registers bank

theorem Layout.registers_lt (layout : Layout) (bank : Bank) : layout.registers bank < 2 ^ 16 := by
  cases bank <;> exact UInt16.toNat_lt _

def LinkedRoutine.Fits (routine : LinkedRoutine) : Prop :=
  ∀ (place : Nat) word instruction, routine.code[place]? = some word →
    Instruction.ofOpcode? word.opcode = some instruction →
    word.Within routine.layout.Has instruction.operation

namespace Assembly

open Text

def namesCast (operation : Operation) (selector : String) : Bool :=
  match operation with
  | .cast => (Conversion.named? selector).isSome
  | .castBool => (TruthTest.named? selector).isSome
  | _ => true

def CastsNamed (source : String) : Prop :=
  ∀ listing ∈ Listing.ofSource source, ∀ line ∈ listing.instructions,
    ∀ instruction ∈ Instruction.ofMnemonic? line.1.text, ∀ selector ∈ line.2.getLast?,
      namesCast instruction.operation selector.text = true

instance (source : String) : Decidable (CastsNamed source) :=
  inferInstanceAs (Decidable (∀ listing ∈ Listing.ofSource source, ∀ line ∈ listing.instructions,
    ∀ instruction ∈ Instruction.ofMnemonic? line.1.text, ∀ selector ∈ line.2.getLast?,
      namesCast instruction.operation selector.text = true))

/-- The number written for a name is that of the entry with the name. -/
theorem selectAt_of_named {name : α → String} {entries : List α} {table : SelectorTable}
    {token : String} {code : UInt8} {entry : α} {number : Nat}
    (distinct : ∀ first ∈ entries, ∀ second ∈ entries, sameFold (name first) (name second) = true →
      first = second)
    (few : entries.length ≤ 256) (found : selectNamed? name entries token = some (entry, number))
    (spelled : SpellsSelector name (selectAt table entries) token code) :
    selectAt table entries code = .ok entry := by
  obtain ⟨listed, named⟩ := selectNamed?_eq_some found
  cases spelled with
  | named known same =>
    have both : sameFold (name _) (name entry) = true :=
      beq_iff_eq.2 ((beq_iff_eq.1 same).trans (beq_iff_eq.1 named).symm)
    have equal := distinct _ (List.mem_of_getElem? (selectAt_eq_ok.1 known)) entry
      (List.mem_of_getElem? listed) both
    rw [known, equal]
  | numbered unnamed spelled =>
    have inside := (List.getElem?_eq_some_iff.1 listed).1
    have position : (UInt8.ofNat number).toNat = number :=
      UInt8.toNat_ofNat_of_lt' (Nat.lt_of_lt_of_le inside few)
    have other := unnamed (UInt8.ofNat number) entry (selectAt_eq_ok.2 (position.symm ▸ listed))
    rw [named] at other
    cases other

theorem conversion_of_named {token : String} {code : UInt8} {conversion : Conversion} {number : Nat}
    (found : Conversion.named? token = some (conversion, number))
    (spelled : SpellsSelector Conversion.name Conversion.ofCode token code) :
    Conversion.ofCode code = .ok conversion :=
  selectAt_of_named (by decide) (by decide) found spelled

theorem truthTest_of_named {token : String} {code : UInt8} {truth : TruthTest} {number : Nat}
    (found : TruthTest.named? token = some (truth, number))
    (spelled : SpellsSelector TruthTest.name TruthTest.ofCode token code) :
    TruthTest.ofCode code = .ok truth :=
  selectAt_of_named (by decide) (by decide) found spelled

namespace EncodedAs

variable {resources : Resources} {labelled : String → Nat → Prop} {place : Nat}
  {instruction : Instruction} {operands : List Token} {word : Word}

/-- What the assembler asks of the registers of a cast is what the machine takes them for. -/
theorem asked_eq (encoded : EncodedAs resources labelled place instruction operands word)
    {selector : Token} (last : operands.getLast? = some selector)
    (named : namesCast instruction.operation selector.text = true) :
    instruction.operation.asked word = Draft.castBanks instruction.operation selector.text := by
  have third {field : Field} {kind : OperandKind} (length : instruction.operands.length = 3)
      (listed : instruction.operands[2]? = some (field, kind)) :
      Denotes resources labelled place (operands.getLast?.bind fun selector =>
        (Draft.castBanks instruction.operation selector.text)[2]?.join) selector.text kind
        (word.operand field kind) := by
    rw [encoded.arity] at length
    rw [List.getLast?_eq_getElem?, length] at last
    exact encoded.operands 2 field kind selector listed last
  have third_code : UInt8.ofNat (word.numberAt .c) = word.c := UInt8.ofNat_toNat
  obtain ⟨code, mnemonic, operation⟩ := instruction
  cases operation with
  | cast =>
    obtain ⟨⟨conversion, number⟩, found⟩ := Option.isSome_iff_exists.1 named
    have denoted := third rfl rfl
    generalize shown : word.operand .c .conversion = operand at denoted
    cases denoted with
    | conversion spelled =>
      rw [← Operand.selector.inj shown, third_code] at spelled
      have selected := conversion_of_named found spelled
      simp only [Operation.asked, Draft.castBanks, found, selected]
  | castBool =>
    obtain ⟨⟨truth, number⟩, found⟩ := Option.isSome_iff_exists.1 named
    have denoted := third rfl rfl
    generalize shown : word.operand .c .truthTest = operand at denoted
    cases denoted with
    | truthTest spelled =>
      rw [← Operand.selector.inj shown, third_code] at spelled
      have selected := truthTest_of_named found spelled
      simp only [Operation.asked, Draft.castBanks, found, selected]
  | _ => rfl

end EncodedAs

/-- An operand that means its token names registers that are there. -/
theorem Denotes.namesIn {resources : Resources} {labelled : String → Nat → Prop} {place : Nat}
    {asked : Option (Bank × Nat)} {token : String} {field : Field} {kind : OperandKind} {word : Word}
    (small : ∀ bank, resources.registers bank < 2 ^ 16)
    (denoted : Denotes resources labelled place asked token kind (word.operand field kind)) :
    word.NamesIn (fun bank index => index < resources.registers bank) asked field kind := by
  generalize shown : word.operand field kind = operand at denoted
  cases denoted with
  | register spelled there =>
    have number := Int.ofNat.inj (Operand.number.inj shown)
    rw [Word.NamesIn, number]
    exact there
  | vector spelled there =>
    have number := Int.ofNat.inj (Operand.number.inj shown)
    intro i inside
    rw [number]
    omega
  | anyRegister free spelled there =>
    intro bank width given
    cases free.symm.trans given
  | expectedRegister given spelled there =>
    have number := Int.ofNat.inj (Operand.number.inj shown)
    intro bank width same i inside
    cases given.symm.trans same
    rw [number]
    omega
  | tagged denoted =>
    obtain rfl := Operand.tagged.inj shown
    intro register i inside
    have run {bank : Bank} {width : Nat} (banks : (word.taggedAt field).tag.bank = bank)
        (widths : (word.taggedAt field).tag.width = width)
        (there : (word.taggedAt field).index.toNat + width ≤ resources.registers bank) :
        ((word.taggedAt field).index + UInt16.ofNat i).toNat <
          resources.registers (word.taggedAt field).tag.bank := by
      have bound := small bank
      rw [banks, UInt16.toNat_add, UInt16.toNat_ofNat']
      omega
    cases denoted with
    | nil named tag =>
      rw [tag] at register
      cases register
    | reference marked spelled reads there => exact run reads.bank reads.width there
    | vector dimensions marked spelled reads there => exact run reads.bank reads.width there
    | register spelled reads there => exact run reads.bank reads.width there
    | constant reads held => cases register.symm.trans reads.constant
  | _ => trivial

theorem EncodedAs.within {resources : Resources} {labelled : String → Nat → Prop} {place : Nat}
    {instruction : Instruction} {operands : List Token} {word : Word}
    (encoded : EncodedAs resources labelled place instruction operands word)
    (small : ∀ bank, resources.registers bank < 2 ^ 16)
    (named : ∀ selector, operands.getLast? = some selector →
      namesCast instruction.operation selector.text = true) :
    word.Within (fun bank index => index < resources.registers bank) instruction.operation := by
  intro j field kind listed
  have inside : j < operands.length := by
    rw [← encoded.arity]
    exact (List.getElem?_eq_some_iff.1 listed).1
  obtain ⟨selector, last⟩ : ∃ selector, operands.getLast? = some selector :=
    Option.isSome_iff_exists.1 (List.getLast?_isSome.2 (List.ne_nil_of_length_pos (by omega)))
  have denoted := encoded.operands j field kind operands[j] listed (List.getElem?_eq_getElem inside)
  rw [last, Option.bind_some, ← encoded.asked_eq last (named selector last)] at denoted
  exact denoted.namesIn small

theorem exists_of_mem_right {relation : α → β → Prop} {left : List α} {right : List β} {b : β}
    (related : List.Forall₂ relation left right) (member : b ∈ right) :
    ∃ a ∈ left, relation a b := by
  induction related with
  | nil => cases member
  | cons first _ ih =>
    obtain rfl | later := List.mem_cons.1 member
    · exact ⟨_, List.mem_cons_self, first⟩
    · obtain ⟨a, listed, holds⟩ := ih later
      exact ⟨a, List.mem_cons_of_mem _ listed, holds⟩

/-- The code of an accepted text with named casts names registers that are there, however its symbols
are resolved. -/
theorem fits_of_assemble {sourceName source : String} {program : Program} {routine : Routine}
    {linked : LinkedRoutine} {resolve : Symbol → Except Fault Pointer}
    (assembled : assemble sourceName source = .ok program) (named : CastsNamed source)
    (member : routine ∈ program.routines) (link : routine.link resolve = .ok linked) :
    linked.Fits := by
  obtain ⟨pointers, -, same⟩ := bind_eq_ok.1 link
  cases same
  obtain ⟨listing, listed, assembles⟩ := exists_of_mem_right (assemble_assembles assembled) member
  intro place word instruction found decoded
  have inside : place < listing.instructions.length := by
    rw [← assembles.size]
    exact (Array.getElem?_eq_some_iff.1 found).1
  have written := List.getElem?_eq_getElem inside
  generalize listing.instructions[place] = line at written
  obtain ⟨mnemonic, operands⟩ := line
  obtain ⟨own, other, known, there, read, encoded⟩ := assembles.words place mnemonic operands written
  cases there.symm.trans found
  rw [encoded.opcode, Instruction.ofOpcode?_of_ofMnemonic? known] at decoded
  cases decoded
  refine encoded.within routine.layout.registers_lt fun selector last => ?_
  exact named listing listed (mnemonic, operands) (List.mem_of_getElem? written) instruction known
    selector last

end Assembly
end GameScript
