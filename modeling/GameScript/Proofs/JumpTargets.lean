import GameScript.Proofs.AssembledRegisters
import GameScript.Proofs.MachineSteps

/-! Labels and jumps. A displacement is assembled to exactly the distance that its token asks for or
not at all, and the machine, which has moved on to the next instruction by the time it jumps, then
lands on the instruction that the label is for. -/

namespace GameScript

def Field.Signed (field : Field) (value : Int) : Prop :=
  -2 ^ (field.bits - 1) ≤ value ∧ value < 2 ^ (field.bits - 1)

namespace Assembly

namespace Listing

/-- A token stands for a displacement of the instruction at `place`: the number it spells, or else
the distance from the next instruction to the label of that name. -/
inductive Displaces (listing : Listing) (place : Nat) (token : String) : Int → Prop where
  | number {value} (numeric : integer? token = .ok (some value)) :
    Displaces listing place token value
  | label {target : Nat} (wordy : integer? token = .ok none)
    (defined : listing.Labels token target) : Displaces listing place token (target - (place + 1))

end Listing

/-- A displacement is encoded as it stands, whatever the field is wide. -/
theorem EncodedAs.displaces {listing : Listing} {resources : Resources} {place : Nat}
    {instruction : Instruction} {operands : List Token} {word : Word} {j : Nat} {field : Field}
    {token : Token} (encoded : EncodedAs resources listing.Labels place instruction operands word)
    (kind : instruction.operands[j]? = some (field, .displacement))
    (given : operands[j]? = some token) :
    listing.Displaces place token.text (word.signedAt field) := by
  have bounds := word.signedAt_bounds field
  have denoted := encoded.operands j field .displacement token kind given
  rw [Word.operand] at denoted
  generalize word.signedAt field = value at denoted bounds
  cases denoted with
  | displacement spelled =>
    refine .number (spelled.integer? ?_)
    have least : leastInt = -2 ^ 63 := rfl
    cases field <;> simp only [Field.bits] at bounds <;> omega
  | label wordy defined => exact .label wordy defined

end Assembly

/-! ### Executing a jump -/

namespace Action

variable {state : Local} {word : Word} {instruction : Instruction}

def goOn (start : Nat) (delta : Int) : Action Unit := do
  setFrame (← ofExcept ((← frame).jump start delta))

theorem goOn_apply (start : Nat) (delta : Int) :
    goOn start delta state =
      if 0 ≤ start + delta ∧ start + delta ≤ state.frame.routine.code.size then
        .ok () { state with frame := { state.frame with pc := (start + delta).toNat } }
      else
        .error (.ofFault (.codeOutOfRange (start + delta).toNat state.frame.routine.code.size))
          state := by
  by_cases inside : 0 ≤ start + delta ∧ start + delta ≤ state.frame.routine.code.size
  · simp [goOn, bind_apply, Frame.jump, inside]
  · simp only [goOn, bind_apply, frame_apply, Frame.jump, if_neg inside, ofExcept_error]

theorem advance_jump (setting : Setting ν)
    (located : state.frame.routine.code[state.frame.pc]? = some word)
    (decoded : Instruction.ofOpcode? word.opcode = some instruction)
    (jumps : instruction.operation = .jump) :
    advance setting state =
      (goOn (state.frame.pc + 1) word.abc.toInt >>= fun _ => pure .proceed) state.fetched := by
  rw [advance_of_word setting located decoded, perform, jumps]
  rfl

theorem advance_jumpTable (setting : Setting ν)
    (located : state.frame.routine.code[state.frame.pc]? = some word)
    (decoded : Instruction.ofOpcode? word.opcode = some instruction)
    (tables : instruction.operation = .jumpTable) :
    advance setting state =
      (jumpTable instruction.mnemonic word >>= fun _ => pure .proceed) state.fetched := by
  rw [advance_of_word setting located decoded, perform, tables]
  rfl

section Table

variable {w : Word} {mnemonic : String} {entry : Int32}
  (read : state.frame.registers.register .int w.a.toNat = .ok entry)
include read

theorem jumpTable_of_jump {slot : Nat} (place : (slot : Int) =
      state.frame.pc + w.signedBC.toInt + entry.toInt)
    (located : state.frame.routine.code[slot]? = some word)
    (jumps : state.frame.operationAt? slot = some .jump) :
    jumpTable mnemonic w state = goOn (slot + 1) word.abc.toInt state := by
  simp [jumpTable, bind_apply, register_apply, read, ← place, located, jumps, goOn]

theorem jumpTable_of_other (other : ∀ slot : Nat, (slot : Int) =
      state.frame.pc + w.signedBC.toInt + entry.toInt → state.frame.operationAt? slot ≠ some .jump) :
    jumpTable mnemonic w state = .error (.ofFault (.expectedJump mnemonic
      (state.frame.pc + w.signedBC.toInt + entry.toInt).toNat)) state := by
  simp only [jumpTable, bind_apply, frame_apply, register_apply, read, ofExcept_ok]
  by_cases inside : 0 ≤ state.frame.pc + w.signedBC.toInt + entry.toInt
  · have away := other _ (Int.toNat_of_nonneg inside)
    rw [if_pos inside]
    cases state.frame.routine.code[(state.frame.pc + w.signedBC.toInt + entry.toInt).toNat]? with
    | none => rfl
    | some word => simp only [if_neg away, fault_apply]
  · rw [if_neg inside]
    rfl

end Table

end Action

namespace Machine

variable {machine : Machine ν} {natives : Natives ν} {frame : Frame} {below : List (Activation ν)}

def moved (machine : Machine ν) (frame : Frame) (below : List (Activation ν)) (place : Nat) :
    Machine ν :=
  { machine with stack := .script { frame with current := frame.pc, pc := place } :: below }

/-- The machine once its innermost frame has jumped. Only the code and its end can be jumped to. -/
def landed (machine : Machine ν) (frame : Frame) (below : List (Activation ν)) (target : Int) :
    Machine ν :=
  if 0 ≤ target ∧ target ≤ frame.routine.code.size then machine.moved frame below target.toNat
  else (machine.moved frame below (frame.pc + 1)).unwind
    (.ofFault (.codeOutOfRange target.toNat frame.routine.code.size))

theorem step_of_proceed {state : Local} (idle : machine.completed = none)
    (top : machine.stack = .script frame :: below)
    (advanced : Action.advance machine.setting ⟨frame, machine.world⟩ = .ok .proceed state) :
    machine.step natives =
      some { machine with stack := .script state.frame :: below, world := state.world } := by
  simp only [step, stepOr, idle, top, stepFrame, advanced]

theorem step_of_abort {state : Local} {abort : Abort} (idle : machine.completed = none)
    (top : machine.stack = .script frame :: below)
    (advanced : Action.advance machine.setting ⟨frame, machine.world⟩ = .error abort state) :
    machine.step natives = some
      (unwind { machine with stack := .script state.frame :: below, world := state.world } abort) := by
  simp only [step, stepOr, idle, top, stepFrame, advanced]

theorem step_of_goOn (start : Nat) {delta : Int} (idle : machine.completed = none)
    (top : machine.stack = .script frame :: below)
    (advanced : Action.advance machine.setting ⟨frame, machine.world⟩ =
      (Action.goOn start delta >>= fun _ => pure .proceed) (Local.fetched ⟨frame, machine.world⟩)) :
    machine.step natives = some (machine.landed frame below (start + delta)) := by
  rw [Action.bind_apply, Action.goOn_apply] at advanced
  unfold landed
  by_cases inside : 0 ≤ start + delta ∧ start + delta ≤ frame.routine.code.size
  · rw [if_pos inside]
    exact step_of_proceed idle top (advanced.trans (by rw [if_pos (by exact inside)]; rfl))
  · rw [if_neg inside]
    exact step_of_abort idle top (advanced.trans (by rw [if_neg (by exact inside)]))

theorem landed_of_le {target : Nat} (inside : target ≤ frame.routine.code.size) :
    machine.landed frame below target = machine.moved frame below target := by
  rw [landed, if_pos (by omega), Int.toNat_natCast]

end Machine
/-! ### Jumps of an assembled function -/

namespace Assembly

section Execution

variable {listing : Listing} {origin : Routine} {routine : LinkedRoutine}
  {resolve : Symbol → Except Fault Pointer}

theorem Listing.Displaces.unique (drafted : Drafted listing origin) {place : Nat} {token : String}
    {first second : Int} (one : listing.Displaces place token first)
    (other : listing.Displaces place token second) : first = second := by
  cases one with
  | number numeric =>
    cases other with
    | number again => exact Option.some.inj (Except.ok.inj (numeric.symm.trans again))
    | label wordy => cases numeric.symm.trans wordy
  | label wordy defined =>
    cases other with
    | number numeric => cases numeric.symm.trans wordy
    | label _ again => rw [drafted.label_unique defined again]

variable (assembled : AssembledFrom routine listing)
include assembled

theorem AssembledFrom.label_le {name : String} {target : Nat}
    (defined : listing.Labels name target) : target ≤ routine.code.size := by
  obtain ⟨origin, resolve, drafted, link⟩ := assembled.drafted
  rw [(link_keeps link).1, drafted.assembles.size]
  exact defined.le

/-- The word of a `JMP` goes as far as its operand says. -/
theorem AssembledFrom.jump_word {place : Nat} {instruction : Instruction} {operand : Token}
    {delta : Int} (written : listing.At place instruction [operand])
    (jumps : instruction.operation = .jump) (goes : listing.Displaces place operand.text delta) :
    ∃ word, routine.code[place]? = some word ∧
      Instruction.ofOpcode? word.opcode = some instruction ∧ word.abc.toInt = delta := by
  obtain ⟨origin, resolve, word, drafted, -, located, decoded, encoded⟩ := assembled.word written
  refine ⟨word, located, decoded, ?_⟩
  have kind : instruction.operands[0]? = some (.abc, .displacement) := by
    rw [Instruction.operands, jumps]
    rfl
  exact (encoded.displaces kind rfl).unique drafted goes

theorem AssembledFrom.no_jump {slot : Nat} (other : ∀ instruction operands,
      listing.At slot instruction operands → instruction.operation ≠ .jump) (frame : Frame)
    (running : frame.routine = routine) : frame.operationAt? slot ≠ some .jump := by
  intro jumps
  obtain ⟨word, located, decoded⟩ := Option.bind_eq_some_iff.1 jumps
  obtain ⟨instruction, decoded, operation⟩ := Option.map_eq_some_iff.1 decoded
  rw [running] at located
  obtain ⟨found, operands, written, known⟩ := assembled.written located
  obtain rfl : found = instruction := Option.some.inj (known.symm.trans decoded)
  exact other found operands written operation

variable {machine : Machine ν} {frame : Frame} {below : List (Activation ν)}
  (idle : machine.completed = none) (top : machine.stack = .script frame :: below)
  (running : frame.routine = routine) (natives : Natives ν)
include idle top running

theorem AssembledFrom.step_jump {instruction : Instruction} {operand : Token} {delta : Int}
    (written : listing.At frame.pc instruction [operand]) (jumps : instruction.operation = .jump)
    (goes : listing.Displaces frame.pc operand.text delta) :
    machine.step natives = some (machine.landed frame below (frame.pc + 1 + delta)) := by
  obtain ⟨word, located, decoded, rfl⟩ := assembled.jump_word written jumps goes
  rw [← running] at located
  apply Machine.step_of_goOn (frame.pc + 1) idle top
  exact Action.advance_jump machine.setting located decoded jumps

theorem AssembledFrom.step_jumpTable {instruction : Instruction} {register operand : Token}
    {delta : Int} (written : listing.At frame.pc instruction [register, operand])
    (tables : instruction.operation = .jumpTable)
    (goes : listing.Displaces frame.pc operand.text delta) :
    ∃ index, SpellsRegister register.text.toList .int index ∧ index < routine.layout.registers .int ∧
      ∀ entry : Int32, frame.registers.register .int index = .ok entry →
        (∀ slot : Nat, (slot : Int) = frame.pc + 1 + delta + entry.toInt →
          ∀ jump operand further, listing.At slot jump [operand] → jump.operation = .jump →
            listing.Displaces slot operand.text further →
            machine.step natives = some (machine.landed frame below (slot + 1 + further))) ∧
        ((∀ slot : Nat, (slot : Int) = frame.pc + 1 + delta + entry.toInt →
            ∀ other operands, listing.At slot other operands → other.operation ≠ .jump) →
          machine.step natives = some ((machine.moved frame below (frame.pc + 1)).unwind
            (.ofFault (.expectedJump instruction.mnemonic
              (frame.pc + 1 + delta + entry.toInt).toNat)))) := by
  obtain ⟨origin, resolve, word, drafted, link, located, decoded, encoded⟩ :=
    assembled.word written
  have kinds : instruction.operands = [(.a, .register .int), (.bc, .displacement)] := by
    rw [Instruction.operands, tables]
    rfl
  have second : instruction.operands[1]? = some (.bc, .displacement) := by
    rw [kinds]
    rfl
  have same : word.signedBC.toInt = delta := (encoded.displaces second rfl).unique drafted goes
  have named := encoded.operands 0 .a (.register .int) register (by rw [kinds]; rfl) rfl
  rw [← running] at located
  have advanced : Action.advance machine.setting ⟨frame, machine.world⟩ =
      (Action.jumpTable instruction.mnemonic word >>= fun _ => pure .proceed)
        (Local.fetched ⟨frame, machine.world⟩) :=
    Action.advance_jumpTable machine.setting located decoded tables
  cases named with
  | register spelled there =>
    refine ⟨word.numberAt .a, spelled, (link_keeps link).2 ▸ there, fun entry read => ⟨?_, ?_⟩⟩
    · intro slot place jump operand further entryWritten jumps goes
      obtain ⟨target, there, known, rfl⟩ := assembled.jump_word entryWritten jumps goes
      rw [← running] at there
      have follows : frame.operationAt? slot = some .jump := by
        rw [Frame.operationAt?_of_word there known, jumps]
      apply Machine.step_of_goOn (slot + 1) idle top
      rw [advanced, Action.bind_apply, Action.bind_apply,
        Action.jumpTable_of_jump read (by rw [place, same]; rfl) there follows]
    · intro other
      have failed : Action.advance machine.setting ⟨frame, machine.world⟩ =
          .error (.ofFault (.expectedJump instruction.mnemonic
            (frame.pc + 1 + delta + entry.toInt).toNat)) (Local.fetched ⟨frame, machine.world⟩) := by
        rw [advanced, Action.bind_apply, Action.jumpTable_of_other read, same]
        · rfl
        · intro slot place
          rw [same] at place
          exact assembled.no_jump (other slot place) _ running
      exact Machine.step_of_abort idle top failed

end Execution

/-- A text with a displacement that is neither a number nor a label of the same function, or that
does not fit its field, does not assemble; otherwise the field holds the displacement. A `JMP` to a
label, wherever both stand, goes on at the instruction that the label is for. An `IJMP` to a label
follows the `JMP` which is as many instructions after it as the register says, and aborts if none is
there. -/
theorem jumps_land_on_labels :
    (∀ sourceName source, ∀ listing ∈ Listing.ofSource source,
      ∀ place instruction operands, listing.At place instruction operands →
        ∀ (j : Nat) field token, instruction.operands[j]? = some (field, .displacement) →
          operands[j]? = some token →
          (∀ value, listing.Displaces place token.text value → ¬ field.Signed value) →
          ∃ halt, assemble sourceName source = .error halt) ∧
    ∀ routine listing, AssembledFrom routine listing →
      (∀ place instruction operands, listing.At place instruction operands →
        ∀ (j : Nat) field token, instruction.operands[j]? = some (field, .displacement) →
          operands[j]? = some token →
          ∃ word, routine.code[place]? = some word ∧
            listing.Displaces place token.text (word.signedAt field)) ∧
      ∀ (ν : Type) (natives : Natives ν) (machine : Machine ν) frame below,
        machine.completed = none → machine.stack = .script frame :: below →
        frame.routine = routine →
        ∀ operand target, integer? operand.text = .ok none → listing.Labels operand.text target →
          (∀ instruction, instruction.operation = .jump →
            listing.At frame.pc instruction [operand] →
            machine.step natives = some (machine.moved frame below target)) ∧
          ∀ instruction register, instruction.operation = .jumpTable →
            listing.At frame.pc instruction [register, operand] →
            ∃ index, SpellsRegister register.text.toList .int index ∧
              index < routine.layout.registers .int ∧
              ∀ entry : Int32, frame.registers.register .int index = .ok entry →
                (∀ slot : Nat, (slot : Int) = target + entry.toInt →
                  ∀ jump operand further, listing.At slot jump [operand] →
                    jump.operation = .jump → listing.Displaces slot operand.text further →
                    machine.step natives =
                      some (machine.landed frame below (slot + 1 + further))) ∧
                ((∀ slot : Nat, (slot : Int) = target + entry.toInt →
                    ∀ other operands, listing.At slot other operands → other.operation ≠ .jump) →
                  machine.step natives = some ((machine.moved frame below (frame.pc + 1)).unwind
                    (.ofFault (.expectedJump instruction.mnemonic
                      (target + entry.toInt).toNat)))) := by
  constructor
  · intro sourceName source listing member place instruction operands written j field token kind
      given misfits
    cases accepted : assemble sourceName source with
    | error halt => exact ⟨halt, rfl⟩
    | ok program =>
      obtain ⟨index, listed⟩ := List.mem_iff_getElem?.1 member
      obtain ⟨origin, -, drafted⟩ :=
        exists_getElem?_of_forall₂ (assemble_drafted accepted) listed
      obtain ⟨word, -, -, encoded⟩ := drafted.assembles.code_of_at written
      exact absurd (word.signedAt_bounds field) (misfits _ (encoded.displaces kind given))
  · intro routine listing assembled
    refine ⟨fun place instruction operands written j field token kind given => ?_, ?_⟩
    · obtain ⟨origin, resolve, word, -, -, located, -, encoded⟩ := assembled.word written
      exact ⟨word, located, encoded.displaces kind given⟩
    intro ν natives machine frame below idle top running operand target wordy defined
    have goes : listing.Displaces frame.pc operand.text (target - (frame.pc + 1)) :=
      .label wordy defined
    have reached : (frame.pc : Int) + 1 + (target - (frame.pc + 1)) = target := by omega
    constructor
    · intro instruction jumps written
      rw [assembled.step_jump idle top running natives written jumps goes, reached,
        Machine.landed_of_le]
      exact running ▸ assembled.label_le defined
    · intro instruction register tables written
      have table := assembled.step_jumpTable idle top running natives written tables goes
      rw [reached] at table
      exact table

def picking : String :=
  ".func Pick\nLI d0, 1\ntop:\nIJMP d0, table\ntable:\nJMP out\nJMP top\nout:\nRETI 0!, 7\n.end\n"

theorem Listing.labels_of_line {listing : Listing} {place : Nat} {name : String}
    (labelled : listing.lines[place]?.bind Line.label? = some name) :
    listing.Labels name ((listing.lines.take place).filterMap Line.instruction?).length := by
  obtain ⟨line, there, labelled⟩ := Option.bind_eq_some_iff.1 labelled
  obtain ⟨inside, rfl⟩ := List.getElem?_eq_some_iff.1 there
  refine ⟨listing.lines.take place, listing.lines[place], listing.lines.drop (place + 1), ?_,
    labelled, rfl⟩
  rw [List.getElem_cons_drop, List.take_append_drop]

/-- With 1 in its register, the table takes the backward jump. -/
theorem jumps_land_on_labels_picking :
    let jump : Instruction := ⟨0x5a, "JMP", .jump⟩
    let table : Instruction := ⟨0x5b, "IJMP", .jumpTable⟩
    let frame (routine : LinkedRoutine) (pc : Nat) : Frame :=
      ⟨routine, ⟨#[1], #[], #[], #[]⟩, pc, 0, [], none, none, [], 0, none⟩
    let machine (routine : LinkedRoutine) (pc : Nat) : Machine Unit :=
      ⟨.standard, .empty, .empty, [.script (frame routine pc)], none⟩
    let natives : Natives Unit := fun _ _ slots => .finish ⟨.ok 0, slots⟩
    ∃ routine listing, AssembledFrom routine listing ∧
      listing.At 1 table [⟨"d0", 6⟩, ⟨"table", 10⟩] ∧ listing.At 2 jump [⟨"out", 5⟩] ∧
      listing.At 3 jump [⟨"top", 5⟩] ∧ listing.Labels "top" 1 ∧ listing.Labels "table" 2 ∧
      listing.Labels "out" 4 ∧
      (machine routine 2).step natives = some ((machine routine 2).moved (frame routine 2) [] 4) ∧
      (machine routine 3).step natives = some ((machine routine 3).moved (frame routine 3) [] 1) ∧
      (machine routine 1).step natives = some ((machine routine 1).moved (frame routine 1) [] 1) := by
  intro jump table frame machine natives
  obtain ⟨routine, found⟩ : ∃ routine, LinkedRoutine.ofSource? picking = some routine :=
    Option.isSome_iff_exists.1 (by decide +kernel)
  have evaluated : ∃ listing ∈ (Listing.ofSource picking)[0]?,
      listing.instructions = [(⟨"LI", 1⟩, [⟨"d0", 4⟩, ⟨"1", 8⟩]),
        (⟨"IJMP", 1⟩, [⟨"d0", 6⟩, ⟨"table", 10⟩]), (⟨"JMP", 1⟩, [⟨"out", 5⟩]),
        (⟨"JMP", 1⟩, [⟨"top", 5⟩]), (⟨"RETI", 1⟩, [⟨"0!", 6⟩, ⟨"7", 10⟩])] ∧
      listing.lines[1]?.bind Line.label? = some "top" ∧
      ((listing.lines.take 1).filterMap Line.instruction?).length = 1 ∧
      listing.lines[3]?.bind Line.label? = some "table" ∧
      ((listing.lines.take 3).filterMap Line.instruction?).length = 2 ∧
      listing.lines[6]?.bind Line.label? = some "out" ∧
      ((listing.lines.take 6).filterMap Line.instruction?).length = 4 := by
    decide +kernel
  obtain ⟨listing, first, instructions, top, one, middle, two, out, four⟩ := evaluated
  have top := one ▸ Listing.labels_of_line top
  have middle := two ▸ Listing.labels_of_line middle
  have out := four ▸ Listing.labels_of_line out
  have assembled := assembledFrom_of_ofSource? found first
  have atTable : listing.At 1 table [⟨"d0", 6⟩, ⟨"table", 10⟩] :=
    ⟨⟨"IJMP", 1⟩, by rw [instructions]; rfl, by decide +kernel⟩
  have atOut : listing.At 2 jump [⟨"out", 5⟩] :=
    ⟨⟨"JMP", 1⟩, by rw [instructions]; rfl, by decide +kernel⟩
  have atTop : listing.At 3 jump [⟨"top", 5⟩] :=
    ⟨⟨"JMP", 1⟩, by rw [instructions]; rfl, by decide +kernel⟩
  have jumps := fun pc => (jumps_land_on_labels.2 routine listing assembled).2 Unit natives
    (machine routine pc) (frame routine pc) [] rfl rfl rfl
  refine ⟨routine, listing, assembled, atTable, atOut, atTop, top, middle, out, ?_, ?_, ?_⟩
  · exact (jumps 2 ⟨"out", 5⟩ 4 (by decide +kernel) out).1 jump rfl atOut
  · exact (jumps 3 ⟨"top", 5⟩ 1 (by decide +kernel) top).1 jump rfl atTop
  · obtain ⟨index, spelled, -, entries⟩ :=
      (jumps 1 ⟨"table", 10⟩ 2 (by decide +kernel) middle).2 table ⟨"d0", 6⟩ rfl atTable
    obtain ⟨digits, split, digit⟩ := spelled
    cases split
    obtain rfl : 0 = index := Option.some.inj digit.readNat?
    have follows := (entries 1 rfl).1 3 rfl jump ⟨"top", 5⟩ _ atTop rfl
      (.label (by decide +kernel) top)
    exact follows.trans (congrArg some (Machine.landed_of_le (assembled.label_le top)))

end Assembly
end GameScript
