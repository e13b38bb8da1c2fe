import GameScript.Proofs.AssembledCode
import GameScript.Proofs.RaisedAborts
import GameScript.Proofs.RunningRegisters

/-! The constants that assembled code asks for. Every constant operand names a place in the pool, for
no literal is without a value. How many float constants a comparison with a vector reads is up to its
opcode, though, and not to its literal: one with too few components makes it read on, into the
constants of others or past the end of the pool. -/

namespace GameScript

namespace Banks

variable {pool : Banks} {count start : Nat}

theorem constant_of_lt {bank : Bank} {index : Nat}
    (inside : index < pool.size bank) (faults : Fault → Prop) :
    FailsOnly faults (pool.constant bank index) := by
  intro fault failed
  exact absurd inside (Nat.not_lt.2 (constant_eq_error failed).1)

theorem getElem?_of_constantVector {read : Vector Double count}
    (found : pool.constantVector count start = .ok read) (i : Nat) (inside : i < count) :
    read.toList[i]? = pool.floats[start + i]? := by
  unfold constantVector at found
  split at found
  next within =>
    cases found
    simp [inside, show start + i < pool.floats.size by omega]
  next => cases found

theorem constantVector_of_values {values : List Double} (positive : 0 < count)
    (held : ∀ (i : Nat) value, values[i]? = some value → pool.floats[start + i]? = some value) :
    (∀ read, pool.constantVector count start = .ok read → values.take count <+: read.toList) ∧
      (count ≤ values.length →
        ∃ read, pool.constantVector count start = .ok read ∧ read.toList = values.take count) := by
  have begins (read : Vector Double count) (found : pool.constantVector count start = .ok read) :
      values.take count <+: read.toList := by
    rw [List.prefix_iff_getElem?]
    intro i inside
    rw [List.length_take] at inside
    rw [getElem?_of_constantVector found i (by omega), List.getElem_take]
    exact held i _ (List.getElem?_eq_getElem (by omega))
  refine ⟨begins, fun long => ?_⟩
  cases found : pool.constantVector count start with
  | ok read =>
    refine ⟨read, rfl, ((begins read found).eq_of_length ?_).symm⟩
    rw [List.length_take, Vector.length_toList, Nat.min_eq_left long]
  | error fault =>
    have last := held (count - 1) _ (List.getElem?_eq_getElem (by omega))
    have inside := (Array.getElem?_eq_some_iff.1 last).1
    have outside := (constantVector_eq_error found).1
    omega

end Banks

def Resources.constants (resources : Resources) : Bank → Nat
  | .int => resources.ints.size
  | .float => resources.floats.size
  | .string => resources.strings.size
  | .pointer => resources.pointers.size

namespace Assembly

namespace Draft

def Takes (draft : Draft) (place : Nat) (field : Field) (kind : OperandKind) (token : String) : Prop :=
  ∃ expected word pools result,
    draft.encodeOperand place field kind expected token word pools = .ok result

variable {draft : Draft} {place line : Nat} {word : Word} {pools : Pools}

theorem takes_of_encodeOperands {items : List ((Field × OperandKind) × Token)}
    {expected : List (Option (Bank × Nat))} {result : Word × Pools}
    (encoded : draft.encodeOperands place line items expected word pools = .ok result) :
    ∀ item ∈ items, draft.Takes place item.1.1 item.1.2 item.2.text := by
  induction items generalizing expected word pools with
  | nil => exact fun item member => by cases member
  | cons first rest ih =>
    obtain ⟨⟨field, kind⟩, token⟩ := first
    unfold encodeOperands at encoded
    split at encoded
    next next more taken =>
      intro item member
      obtain rfl | later := List.mem_cons.1 member
      · exact ⟨_, _, _, _, taken⟩
      · exact ih encoded item later
    next => cases encoded

theorem takes_of_encode {statement : Statement} {result : Word × Pools}
    (encoded : draft.encode place statement pools = .ok result) :
    ∀ item ∈ statement.instruction.operands.zip statement.operands,
      draft.Takes place item.1.1 item.1.2 item.2.text := by
  unfold encode at encoded
  dsimp only at encoded
  split at encoded
  next => cases encoded
  next => exact takes_of_encodeOperands encoded

theorem takes_of_encodeFrom {code : Array Word} {lines : LineTable} {statements : List Statement}
    {result : Array Word × LineTable × Pools}
    (encoded : draft.encodeFrom place code lines pools statements = .ok result) (i : Nat)
    (statement : Statement) (listed : statements[i]? = some statement) :
    ∀ item ∈ statement.instruction.operands.zip statement.operands,
      draft.Takes (place + i) item.1.1 item.1.2 item.2.text := by
  induction statements generalizing place code lines pools i with
  | nil => cases listed
  | cons first rest ih =>
    unfold encodeFrom at encoded
    split at encoded
    next => cases encoded
    next word more taken =>
      cases i with
      | zero =>
        cases listed
        exact takes_of_encode taken
      | succ i =>
        have shifted : place + (i + 1) = place + 1 + i := by omega
        rw [shifted]
        exact ih encoded i listed

/-- Parentheses without a number between them are no literal. -/
theorem not_takes_empty {field : Field} {kind : OperandKind}
    (floats : kind = .constant .float ∨ kind = .tagged) : ¬draft.Takes place field kind "()" := by
  rintro ⟨expected, word, pools, result, taken⟩
  rcases floats with rfl | rfl
  · have refused : (pools.internConstant .float "()").toOption = none := rfl
    obtain ⟨read, found, -⟩ := bind_eq_ok.1 taken
    rw [found] at refused
    cases refused
  · have refused : (pools.tagged "()").toOption = none := rfl
    obtain ⟨read, found, -⟩ := bind_eq_ok.1 taken
    rw [found] at refused
    cases refused

end Draft

theorem Drafted.takes {listing : Listing} {routine : Routine} (drafted : Drafted listing routine)
    {place : Nat} {instruction : Instruction} {operands : List Token}
    (written : listing.At place instruction operands) {j : Nat} {field : Field} {kind : OperandKind}
    {token : Token} (listed : instruction.operands[j]? = some (field, kind))
    (given : operands[j]? = some token) : ∃ draft : Draft, draft.Takes place field kind token.text := by
  obtain ⟨draft, records, finished⟩ := drafted
  obtain ⟨mnemonic, there, found⟩ := written
  obtain ⟨statement, recorded, known, same⟩ := exists_getElem?_of_forall₂ records.body.flip there
  cases known.symm.trans found
  obtain ⟨-, _, encoded, -⟩ := Draft.finish_eq_ok finished
  have taken := Draft.takes_of_encodeFrom encoded place statement recorded ((field, kind), token)
  rw [Nat.zero_add] at taken
  refine ⟨draft, taken (List.mem_of_getElem? (i := j) ?_)⟩
  rw [same]
  exact List.getElem?_zip_eq_some.2 ⟨listed, given⟩

theorem SpellsFloats.some {token : String} {values : List Double} (spelled : SpellsFloats token values)
    (full : token ≠ "()") : values ≠ [] := by
  rintro rfl
  cases spelled with
  | tuple enclosed apart few read =>
    cases read
    exact full (String.toList_injective enclosed)

/-- A literal with a value has a place in the pool. -/
theorem HoldsConstant.inside {resources : Resources} {token : String} {bank : Bank} {place : Nat}
    (holds : HoldsConstant resources token bank place) (full : bank = .float → token ≠ "()") :
    place < resources.constants bank := by
  cases holds with
  | int held spelled | string held spelled | pointer held spelled =>
    exact (Array.getElem?_eq_some_iff.1 held).1
  | @float _ values held spelled =>
    obtain ⟨value, rest, rfl⟩ := List.exists_cons_of_ne_nil (spelled.some (full rfl))
    exact (Array.getElem?_eq_some_iff.1 (held 0 value rfl)).1

/-- The pools of a routine keep their sizes when its symbols become pointers. -/
theorem link_constants {origin : Routine} {routine : LinkedRoutine}
    {resolve : Symbol → Except Fault Pointer} (link : origin.link resolve = .ok routine) (bank : Bank) :
    routine.constants.size bank = origin.resources.constants bank := by
  obtain ⟨pointers, resolved, made⟩ := bind_eq_ok.1 link
  cases made
  cases bank with
  | int | float | string => rfl
  | pointer =>
    have same := (mapM_eq_ok resolved).length_eq
    exact List.size_toArray.trans (same.symm.trans Array.length_toList)

section Operands

variable {routine : LinkedRoutine} {listing : Listing} {place : Nat} {instruction : Instruction}
  {operands : List Token} {word : Word}

/-- The constants that operands name are there. -/
theorem AssembledFrom.draws (assembled : AssembledFrom routine listing)
    (located : routine.code[place]? = some word)
    (decoded : Instruction.ofOpcode? word.opcode = some instruction) (allowed : Abort → Prop) {j : Nat}
    {field : Field} {kind : OperandKind} (listed : instruction.operands[j]? = some (field, kind)) :
    word.Draws routine.constants allowed field kind := by
  obtain ⟨other, operands, written, known⟩ := assembled.written located
  cases known.symm.trans decoded
  obtain ⟨origin, resolve, same, drafted, link, there, -, encoded⟩ := assembled.word written
  cases there.symm.trans located
  obtain ⟨token, given⟩ : ∃ token, operands[j]? = some token := by
    have inside := (List.getElem?_eq_some_iff.1 listed).1
    rw [encoded.arity] at inside
    exact ⟨_, List.getElem?_eq_getElem inside⟩
  obtain ⟨draft, taken⟩ := drafted.takes written listed given
  have denoted := encoded.operands j field kind token listed given
  cases kind with
  | constant bank =>
    cases denoted with
    | constant held =>
      refine Banks.constant_of_lt ?_ _
      rw [link_constants link]
      refine held.inside ?_
      rintro rfl empty
      exact Draft.not_takes_empty (.inl rfl) (empty ▸ taken)
  | tagged =>
    intro some constant
    cases denoted with
    | tagged denoted =>
      cases denoted with
      | nil named tag =>
        rw [tag] at some
        cases some
      | reference marked spelled reads there | vector dimensions marked spelled reads there
      | register spelled reads there =>
        cases reads.constant.symm.trans constant
      | constant reads held =>
        refine Banks.constant_of_lt ?_ _
        rw [link_constants link, reads.bank]
        refine held.inside ?_
        intro _ empty
        exact Draft.not_takes_empty (.inr rfl) (empty ▸ taken)
  | _ => trivial

variable {flags vector literal : Token} {dimension : Dimension} {values : List Double}

theorem SpellsFloats.unique {token : String} {others : List Double}
    (spelled : SpellsFloats token values) (again : SpellsFloats token others) (full : token ≠ "()") :
    others = values := by
  have read := again.floatTuple (again.some full)
  rw [spelled.floatTuple (spelled.some full)] at read
  exact (Except.ok.inj read).symm

/-- A comparison with a vector finds the components of its literal where its operand says. -/
theorem AssembledFrom.holds_literal (assembled : AssembledFrom routine listing)
    (written : listing.At place instruction [flags, vector, literal])
    (compares : instruction.operation = .vectorEqual dimension .constant) :
    literal.text ≠ "()" ∧ ∃ word values, routine.code[place]? = some word ∧
      Instruction.ofOpcode? word.opcode = some instruction ∧ SpellsFloats literal.text values ∧
      ∀ (i : Nat) value, values[i]? = some value →
        routine.constants.floats[word.c.toNat + i]? = some value := by
  obtain ⟨origin, resolve, word, drafted, link, located, decoded, encoded⟩ :=
    assembled.word written
  have listed : instruction.operands[2]? = some (.c, .constant .float) := by
    rw [Instruction.operands, compares]
    rfl
  obtain ⟨draft, taken⟩ := drafted.takes written listed rfl
  have denoted := encoded.operands 2 .c (.constant .float) literal listed rfl
  obtain ⟨pointers, -, made⟩ := bind_eq_ok.1 link
  cases made
  constructor
  · intro empty
    exact Draft.not_takes_empty (.inl rfl) (empty ▸ taken)
  · cases denoted with
    | constant held =>
      cases held with
      | float held spelled => exact ⟨word, _, located, decoded, spelled, held⟩

end Operands

end Assembly

/-- How an instruction of assembled code comes to lack a constant: it has computed the number of the
constant, or it compares a vector with a literal that has too few components. Or nothing is missing,
and the text of a `THROW` says so. -/
inductive Frame.Overreaches (frame : Frame) (abort : Abort) : Prop where
  | computed {bank} (operation : frame.operationAt? frame.pc = some (.loadConstantAt bank))
  | short {listing instruction flags vector literal dimension values}
    (assembled : Assembly.AssembledFrom frame.routine listing)
    (written : listing.At frame.pc instruction [flags, vector, literal])
    (compares : instruction.operation = .vectorEqual dimension .constant)
    (spelled : Assembly.SpellsFloats literal.text values) (few : values.length < dimension.size)
  | thrown (own : frame.Throws abort)

theorem allows_unless_lacking (excused : Abort → Prop) :
    Allows fun abort => abort.LacksConstant → excused abort :=
  allows_unless (fun _ ⟨_, _, _, same⟩ => ⟨_, same⟩)
    (fun _ lacks => Fault.plain_of_lacksConstant (Fault.lacksConstant_of_ofFault lacks)) excused

theorem Frame.overreaches_of_advance {frame : Frame} {listing : Assembly.Listing}
    {setting : Setting ν} {world : World} {abort : Abort} {after : Local}
    (assembled : Assembly.AssembledFrom frame.routine listing)
    (failed : Action.advance setting ⟨frame, world⟩ = .error abort after)
    (lacks : abort.LacksConstant) : frame.Overreaches abort := by
  have fetching : FailsOnly (Permits fun abort => abort.LacksConstant → frame.Overreaches abort)
      (frame.routine.word frame.pc) := by
    intro fault missing lacks
    obtain ⟨-, rfl⟩ | ⟨-, rfl⟩ := LinkedRoutine.word_eq_error missing <;>
      cases Fault.lacksConstant_of_ofFault lacks
  refine Action.allowed_of_advance (allows_unless_lacking frame.Overreaches) fetching
    (fun word instruction located decoded => ?_)
    (fun _ _ _ _ _ _ lacks => nomatch Fault.lacksConstant_of_ofFault lacks) failed lacks
  have operation := Frame.operationAt?_of_word located decoded
  refine ⟨fun j field kind listed => assembled.draws located decoded _ listed, ?_, ?_, ?_, ?_⟩
  · intro bank computed _ _ _
    exact .computed (operation.trans (congrArg some computed))
  · intro dimension compares fault missed _
    obtain ⟨other, operands, written, known⟩ := assembled.written located
    cases known.symm.trans decoded
    obtain ⟨_, _, same, -, -, there, -, encoded⟩ := assembled.word written
    have three : operands.length = 3 := by
      rw [← encoded.arity, Instruction.operands, compares]
      rfl
    obtain ⟨flags, vector, literal, rfl⟩ := List.length_eq_three.1 three
    obtain ⟨-, found, values, placed, -, spelled, held⟩ := assembled.holds_literal written compares
    cases placed.symm.trans located
    refine .short assembled written compares spelled (Nat.lt_of_not_le fun long => ?_)
    obtain ⟨read, found, -⟩ := (Banks.constantVector_of_values dimension.size_pos held).2 long
    cases found.symm.trans missed
  · intro throwing detail listed _
    exact .thrown ⟨operation.trans (congrArg some throwing), detail, listed, rfl⟩
  · intro _ pc length lacks
    cases Fault.lacksConstant_of_ofFault lacks

namespace Action

def compareWith (mnemonic : String) (epsilon : Double) (w : Word) (components : Vector Double count) :
    Action Unit := do
  let x ← vector count w.b.toNat
  branch mnemonic (vectorsEqual (CompareField.mk w.a).approx epsilon x components)
    (CompareField.mk w.a).check

theorem advance_vectorEqual {state : Local} {word : Word} {instruction : Instruction}
    {dimension : Dimension} {components : Vector Double dimension.size} (setting : Setting ν)
    (located : state.frame.routine.code[state.frame.pc]? = some word)
    (decoded : Instruction.ofOpcode? word.opcode = some instruction)
    (compares : instruction.operation = .vectorEqual dimension .constant)
    (read : state.frame.routine.constants.constantVector dimension.size word.c.toNat =
      .ok components) :
    advance setting state =
      (compareWith instruction.mnemonic setting.config.floatEpsilon word components >>= fun _ =>
        pure .proceed) state.fetched := by
  rw [advance_of_word setting located decoded, perform, compares]
  simp only [compute, vectorEqual, compareWith, fetchVector, bind_apply, vector_apply, frame_apply]
  cases Banks.vector state.fetched.frame.registers dimension.size word.b.toNat with
  | error fault => rfl
  | ok x => simp only [ofExcept_ok, Local.fetched, read]

end Action

namespace Machine

variable {natives : Natives ν} {machine : Machine ν} {abort : Abort} {live : List (Activation ν)}

theorem not_lacksConstant_of_enter {id : FunctionId} {arguments : List Value} {slots : List ResultSlot}
    (refused : machine.enter natives id arguments slots = machine.complete (.error abort) slots) :
    ¬abort.LacksConstant :=
  allowed_of_enter (allows_unless_lacking fun _ => False) refused

/-- An abort that lacks a constant when it is raised is up to the instruction, or to a native
function. -/
theorem Raises.overreaches (raises : Raises natives machine abort live)
    (assembled : ∀ frame, .script frame ∈ machine.stack →
      ∃ listing, Assembly.AssembledFrom frame.routine listing) (lacks : abort.LacksConstant) :
    machine.GivesUp abort ∨
      ∃ frame below, machine.stack = .script frame :: below ∧ frame.Overreaches abort := by
  obtain spared | given | ⟨frame, below, after, top, failed⟩ :=
    raises.origin (allows_unless_lacking fun _ => False)
  · exact (spared lacks).elim
  · exact .inl given
  · obtain ⟨listing, assembled⟩ := assembled frame (by rw [top]; exact List.mem_cons_self)
    exact .inr ⟨frame, below, top, Frame.overreaches_of_advance assembled failed lacks⟩

theorem Sends.overreaches (sends : Sends natives machine abort live)
    (assembled : ∀ frame, .script frame ∈ machine.stack →
      ∃ listing, Assembly.AssembledFrom frame.routine listing) (lacks : abort.bare.LacksConstant) :
    machine.GivesUp abort ∨
      ∃ frame below, machine.stack = .script frame :: below ∧ frame.Overreaches abort.bare := by
  cases sends with
  | raised raises =>
    rw [Abort.bare_of_trail raises.trail] at lacks ⊢
    exact raises.overreaches assembled lacks
  | relayed idle top failed => exact .inl ⟨_, _, _, _, top, failed⟩

/-- A run that ends for want of a constant has come to a step that lacked it. -/
theorem overreaches_of_run {start : Machine ν} {count : Nat} (disciplined : Disciplined [] start)
    (fresh : ∀ outcome abort, start.completed = some outcome → outcome.result = .error abort →
      ¬abort.bare.LacksConstant)
    (assembled : ∀ earlier < count, ∀ frame, .script frame ∈ (run natives earlier start).stack →
      ∃ listing, Assembly.AssembledFrom frame.routine listing) {outcome : Outcome}
    (ended : (run natives count start).completed = some outcome)
    (failed : outcome.result = .error abort) (lacks : abort.bare.LacksConstant) :
    ∃ earlier < count,
      (∃ given, (run natives earlier start).GivesUp given ∧ given.bare = abort.bare) ∨
        ∃ frame below, (run natives earlier start).stack = .script frame :: below ∧
          frame.Overreaches abort.bare := by
  induction count with
  | zero => exact (fresh outcome abort ended failed lacks).elim
  | succ count ih =>
    rcases run_succ_cases count start with stepped | ⟨-, same⟩
    · obtain ⟨origin, live, gone, sends, -, rfl⟩ :=
        step_sends (disciplined_run_nil disciplined count) stepped ended failed
      refine ⟨count, Nat.lt_succ_self count, ?_⟩
      obtain given | overreaches :=
        sends.overreaches (assembled count (Nat.lt_succ_self count)) lacks
      · exact .inl ⟨origin, given, rfl⟩
      · exact .inr overreaches
    · rw [same] at ended
      obtain ⟨earlier, before, found⟩ :=
        ih (fun earlier before => assembled earlier (Nat.lt_succ_of_lt before)) ended
      exact ⟨earlier, Nat.lt_succ_of_lt before, found⟩

/-- The constants of assembled code are there. When a call ends for want of one, an instruction had
computed its number or compared a vector with too short a literal, or a native function ended the call
so. A comparison is with the components of its literal as far as they go, and with them alone when
there are enough. -/
theorem assembled_constants_are_there (natives : Natives ν) (machine : Machine ν)
    (idle : machine.completed = none) (bottom : machine.stack = []) (id : FunctionId)
    (arguments : List Value) (slots : List ResultSlot) (count : Nat)
    (assembled : ∀ earlier < count, ∀ frame,
      .script frame ∈ (run natives earlier (machine.enter natives id arguments slots)).stack →
      ∃ listing, Assembly.AssembledFrom frame.routine listing) :
    (∀ outcome abort,
      (run natives count (machine.enter natives id arguments slots)).completed = some outcome →
      outcome.result = .error abort → abort.bare.LacksConstant →
      ∃ earlier < count,
        let before := run natives earlier (machine.enter natives id arguments slots)
        (∃ given, before.GivesUp given ∧ given.bare = abort.bare) ∨
          ∃ frame below, before.stack = .script frame :: below ∧ frame.Overreaches abort.bare) ∧
    ∀ (frame : Frame) listing, Assembly.AssembledFrom frame.routine listing →
      ∀ instruction flags vector literal dimension values,
        listing.At frame.pc instruction [flags, vector, literal] →
        instruction.operation = .vectorEqual dimension .constant →
        Assembly.SpellsFloats literal.text values →
        ∃ word, frame.routine.code[frame.pc]? = some word ∧
          (∀ components, frame.routine.constants.constantVector dimension.size word.c.toNat =
              .ok components → values.take dimension.size <+: components.toList ∧
            ∀ (setting : Setting ν) (world : World), Action.advance setting ⟨frame, world⟩ =
              (Action.compareWith instruction.mnemonic setting.config.floatEpsilon word components
                >>= fun _ => pure .proceed) (Local.fetched ⟨frame, world⟩)) ∧
          (dimension.size ≤ values.length → ∃ components,
            frame.routine.constants.constantVector dimension.size word.c.toNat = .ok components ∧
              components.toList = values.take dimension.size) := by
  constructor
  · intro outcome abort ended failed lacks
    refine overreaches_of_run ?_ ?_ assembled ended failed lacks
    · exact disciplined_enter idle (.inl bottom) id arguments slots
    · intro outcome abort ended failed lacks
      obtain ⟨first, refused⟩ | ⟨_, _, same⟩ | ⟨_, _, _, -, same⟩ :=
        enter_cases machine natives id arguments slots
      · rw [refused] at ended
        cases ended
        cases failed
        rw [Abort.bare_of_trail (trail_of_enter refused)] at lacks
        exact not_lacksConstant_of_enter refused lacks
      all_goals
        rw [same] at ended
        cases idle.symm.trans ended
  · intro frame listing assembled instruction flags vector literal dimension values written compares
      spelled
    obtain ⟨full, word, own, located, decoded, ownSpelled, held⟩ :=
      assembled.holds_literal written compares
    cases ownSpelled.unique spelled full
    obtain ⟨begins, complete⟩ := Banks.constantVector_of_values dimension.size_pos held
    refine ⟨word, located, fun components read => ⟨begins components read, ?_⟩, complete⟩
    exact fun setting world => Action.advance_vectorEqual setting located decoded compares read

def choosing : String := ".func Choose\nLI d0, 5\nLK_R d1, d0, 0\nRET 0!, d1\n.end\n"

/-- The second instruction asks for a sixth constant, and there is none. -/
theorem assembled_constants_are_there_choosing :
    let natives : Natives Unit := fun _ _ slots => .finish ⟨.ok 0, slots⟩
    let entered := fun routine => Machine.enter
      ⟨.standard, ⟨#[.script routine]⟩, .empty, [], none⟩ natives ⟨0⟩ [] []
    let missing := Abort.ofFault (.constantOutOfRange .int 5 0)
    ∃ routine outcome, LinkedRoutine.ofSource? choosing = some routine ∧
      (run natives 2 (entered routine)).completed = some outcome ∧
      outcome.result = .error (missing.passing [.script "Choose" "" (some 3)]) ∧
      ∃ earlier < 2,
        let before := run natives earlier (entered routine)
        (∃ given, before.GivesUp given ∧ given.bare = missing) ∨
          ∃ frame below, before.stack = .script frame :: below ∧ frame.Overreaches missing := by
  intro natives entered missing
  have evaluated : ∃ routine ∈ LinkedRoutine.ofSource? choosing,
      (run natives 2 (entered routine)).completed.map Outcome.result =
        some (.error (missing.passing [.script "Choose" "" (some 3)])) ∧ ∀ steps < 2,
        (run natives steps (entered routine)).stack.all (fun
          | .script frame => frame.routine == routine
          | .native _ => true) = true := by
    decide +kernel
  obtain ⟨routine, found, ended, same⟩ := evaluated
  obtain ⟨outcome, ended, failed⟩ := Option.map_eq_some_iff.1 ended
  obtain ⟨listing, first⟩ : ∃ listing, (Assembly.Listing.ofSource choosing)[0]? = some listing :=
    Option.isSome_iff_exists.1 (by decide +kernel)
  refine ⟨routine, outcome, found, ended, failed, ?_⟩
  refine (assembled_constants_are_there natives _ rfl rfl ⟨0⟩ [] [] 2 ?_).1 outcome _ ended failed
    ⟨_, _, _, rfl⟩
  intro steps bound frame member
  have own := List.all_eq_true.1 (same steps bound) _ member
  rw [beq_iff_eq.1 own]
  exact ⟨listing, Assembly.assembledFrom_of_ofSource? found first⟩

def comparing : String :=
  ".func Main\nEQV2_K true, f0, 1.0\nJMP yes\nRETI 0!, 0\nyes:\nRETI 0!, 1\n.end\n"

/-- The comparison reads a second constant, and there is none. -/
theorem short_literal_reads_past_pool :
    let natives : Natives Unit := fun _ _ slots => .finish ⟨.ok 0, slots⟩
    let entered := fun routine => Machine.enter
      ⟨.standard, ⟨#[.script routine]⟩, .empty, [], none⟩ natives ⟨0⟩ [] []
    ∃ routine ∈ LinkedRoutine.ofSource? comparing,
      (entered routine).stack.any (fun
        | .script frame => frame.operationAt? frame.pc = some (.vectorEqual .two .constant)
        | .native _ => false) = true ∧
      (run natives 1 (entered routine)).completed.map Outcome.result =
        some (.error ((Abort.ofFault (.constantOutOfRange .float 1 1)).passing
          [.script "Main" "" (some 2)])) := by
  decide +kernel

end Machine
end GameScript
