import GameScript.Proofs.AssembledCode
import GameScript.Proofs.InstructionRegisters

/-! The room for parameters that is worked out for a function. It is found by reading the code once
from first to last, without following jumps. It is enough for every run, as long as no jump leads to
where the reading had counted less than at the jump: then a frame never has more staged than the
reading had counted where the frame is. -/

namespace GameScript

open Assembly

def Word.operation? (w : Word) : Option Operation :=
  (Instruction.ofOpcode? w.opcode).map Instruction.operation

namespace Assembly.Draft

theorem stagedAfter_mono {fewer more : Nat} (le : fewer ≤ more) (word : Word) :
    stagedAfter fewer word ≤ stagedAfter more word := by
  unfold stagedAfter
  split
  · exact Nat.add_le_add_right le _
  · exact Nat.add_le_add_right le _
  · exact Nat.sub_le_sub_right le _
  · exact le

section

variable {word : Word} {operation : Operation} (known : word.operation? = some operation)
  (staged : Nat)
include known

/-- What an instruction stages is counted. -/
theorem staging_le_stagedAfter (stages : operation.stages = true) :
    staged + operation.staging word ≤ stagedAfter staged word := by
  rw [stagedAfter, ← Word.operation?, known]
  cases operation with
  | param =>
    have tag : word.tagAIndexBC.tag = ⟨word.a⟩ := rfl
    refine Nat.add_le_add_left ?_ staged
    rw [Operation.staging, tag]
    split
    · exact Nat.zero_le 1
    · exact Nat.le_refl _
  | paramImmediate => exact Nat.le_refl _
  | _ => cases stages

theorem stagedAfter_unchanged (unstaged : operation.stages = false)
    (stays : ∀ target, operation ≠ .call target) : stagedAfter staged word = staged := by
  rw [stagedAfter, ← Word.operation?, known]
  cases operation with
  | param | paramImmediate => cases unstaged
  | call target => exact absurd rfl (stays target)
  | _ => rfl

theorem stagedAfter_call {target : Source} (calls : operation = .call target) :
    stagedAfter staged word = staged - word.b.toNat := by
  rw [stagedAfter, ← Word.operation?, known, calls]

end

theorem le_stagedMost (staged most : Nat) (code : List Word) :
    most ≤ stagedMost staged most code := by
  induction code generalizing staged most with
  | nil => exact Nat.le_refl _
  | cons word rest ih => exact Nat.le_trans (Nat.le_max_left _ _) (ih _ _)

/-- Nowhere is more counted than the most. -/
theorem foldl_take_le_stagedMost {staged most : Nat} (start : staged ≤ most) (code : List Word)
    (place : Nat) : (code.take place).foldl stagedAfter staged ≤ stagedMost staged most code := by
  induction code generalizing staged most place with
  | nil =>
    rw [List.take_nil]
    exact start
  | cons word rest ih =>
    cases place with
    | zero => exact Nat.le_trans start (le_stagedMost staged most _)
    | succ place => exact ih (Nat.le_max_right _ _) place

end Assembly.Draft

namespace LinkedRoutine

variable {routine : LinkedRoutine} {place : Nat} {word : Word}

/-- How many values are counted as staged before the instruction at a place. -/
def stagedBefore (routine : LinkedRoutine) (place : Nat) : Nat :=
  (routine.code.toList.take place).foldl Draft.stagedAfter 0

theorem stagedBefore_succ (located : routine.code[place]? = some word) :
    routine.stagedBefore (place + 1) = Draft.stagedAfter (routine.stagedBefore place) word := by
  rw [← Array.getElem?_toList] at located
  rw [stagedBefore, List.take_add_one, located, List.foldl_append]
  rfl

theorem stagedBefore_le (routine : LinkedRoutine) (place : Nat) :
    routine.stagedBefore place ≤ Draft.stagedMost 0 0 routine.code.toList :=
  Draft.foldl_take_le_stagedMost (Nat.le_refl 0) _ place

/-- No jump leads to where less has been counted than before the jump, and there are no jumps by
table. -/
structure Steady (routine : LinkedRoutine) : Prop where
  tables : ∀ word ∈ routine.code, word.operation? ≠ some .jumpTable
  jumps : ∀ (place target : Nat) word, routine.code[place]? = some word →
    word.operation? = some .jump → (target : Int) = place + 1 + word.abc.toInt →
    target ≤ routine.code.size → routine.stagedBefore place ≤ routine.stagedBefore target

end LinkedRoutine

namespace Frame

variable {frame : Frame} {epsilon : Double} {target : Nat}

/-- Nothing is counted for a jump or a marker. -/
theorem stagedBefore_skip {place : Nat} (passed : frame.operationAt? place = some .jump ∨
      frame.operationAt? place = some .result) :
    frame.routine.stagedBefore (place + 1) = frame.routine.stagedBefore place := by
  rcases passed with passed | passed
  all_goals
    obtain ⟨word, located, known⟩ := Option.bind_eq_some_iff.1 passed
    rw [LinkedRoutine.stagedBefore_succ located]
    exact Draft.stagedAfter_unchanged known _ rfl (by simp)

/-- What has been counted after an instruction is counted wherever the instruction leads. -/
theorem Leads.stagedBefore_le (leads : frame.Leads epsilon target) (steady : frame.routine.Steady) :
    frame.routine.stagedBefore (frame.pc + 1) ≤ frame.routine.stagedBefore target := by
  obtain ⟨word, operation, located, here, follows⟩ := leads
  have known : word.operation? = some operation := by
    rwa [operationAt?, located] at here
  cases follows with
  | next straight => exact Nat.le_refl _
  | jump place inside =>
    rw [stagedBefore_skip (.inl here)]
    exact steady.jumps frame.pc target word located known place inside
  | jumpTable => exact absurd known (steady.tables word (Array.mem_of_getElem? located))
  | comparison compares jump =>
    split
    · exact Nat.le_refl _
    · exact Nat.le_of_eq (stagedBefore_skip (.inl jump)).symm
  | call marked =>
    generalize word.c.toNat = count at marked
    induction count with
    | zero => exact Nat.le_refl _
    | succ count ih =>
      have marker := marked count (Nat.lt_succ_self count)
      rw [← Nat.add_assoc, stagedBefore_skip (.inr marker)]
      exact ih fun position before => marked position (Nat.lt_succ_of_lt before)

end Frame

namespace Action

variable {state after : Local} {w : Word}

theorem sameStaged_effects :
    SteeringEffects fun before after => after.frame.staged = before.frame.staged where
  refl _ := rfl
  trans first second := second.trans first
  registers _ _ _ := rfl
  names _ _ := rfl
  barrier _ _ := rfl
  heap _ _ _ _ _ := rfl
  pc _ _ _ := rfl

theorem sameStaged_return :
    ReturnEffects fun before after => after.frame.staged = before.frame.staged :=
  ⟨sameStaged_effects.toPlainEffects, fun _ _ _ => rfl⟩

theorem staged_of_paramImmediate (done : paramImmediate w state = .ok () after) :
    after.frame.staged.length = state.frame.staged.length + 1 := by
  obtain ⟨_, middle, roomy, done⟩ := bind_eq_ok.1 done
  rw [← (keeps_room sameStaged_effects.toPlainEffects 1).of_ok roomy]
  cases done
  exact List.length_append

theorem staged_of_stageValue {source : Source} {bank : Bank} {index : Nat}
    (done : (do stage [⟨← valueOf source bank index, none⟩]) state = .ok () after) :
    after.frame.staged.length = state.frame.staged.length + 1 := by
  obtain ⟨value, last, read, done⟩ := bind_eq_ok.1 done
  rw [← (keeps_valueOf sameStaged_effects.toPlainEffects _ _ _).of_ok read]
  cases done
  exact List.length_append

theorem staged_of_stageVector {index : UInt16} {count : Nat}
    (done : (do stage (← vectorParams index count)) state = .ok () after) :
    after.frame.staged.length = state.frame.staged.length + count := by
  obtain ⟨params, last, read, done⟩ := bind_eq_ok.1 done
  obtain ⟨others, same, -, length⟩ | ⟨abort, failed⟩ := vectorParams_apply index count state
  · cases same.symm.trans read
    cases done
    rw [List.length_append, length]
  · cases failed.symm.trans read

theorem staged_of_stageReference {bank : Bank} {index : UInt16}
    (done : stageReference bank index state = .ok () after) :
    after.frame.staged.length = state.frame.staged.length + 1 := by
  obtain ⟨value, middle, read, done⟩ := bind_eq_ok.1 done
  rw [← (keeps_valueOf sameStaged_effects.toPlainEffects _ _ _).of_ok read]
  obtain ⟨_, _, ⟨⟩, done⟩ := bind_eq_ok.1 done
  obtain ⟨⟨cell, heap⟩, _, boxed, done⟩ := bind_eq_ok.1 done
  obtain ⟨-, rfl⟩ := ofExcept_eq_ok.1 boxed
  cases done
  exact List.length_append

theorem staged_of_param {mnemonic : String} (done : param mnemonic w state = .ok () after) :
    after.frame.staged.length ≤ state.frame.staged.length + Operation.param.staging w := by
  obtain ⟨tag, _, checked, done⟩ := bind_eq_ok.1 done
  obtain ⟨valid, rfl⟩ := ofExcept_eq_ok.1 checked
  obtain rfl := OperandTag.validate_eq_ok (Fault.ofSelector_eq_ok valid)
  dsimp only at done
  by_cases refused : (decide (1 < w.tagAIndexBC.tag.width) && w.tagAIndexBC.tag.isReference) = true
  · rw [if_pos refused] at done
    cases done
  rw [if_neg refused] at done
  have some : ¬w.tagAIndexBC.tag.isNil = true := fun nil => refused (OperandTag.refused_of_isNil nil)
  rw [Operation.staging, if_neg some]
  obtain ⟨_, middle, roomy, done⟩ := bind_eq_ok.1 done
  rw [← (keeps_room sameStaged_effects.toPlainEffects _).of_ok roomy]
  have single (one : after.frame.staged.length = middle.frame.staged.length + 1) :
      after.frame.staged.length ≤ middle.frame.staged.length + w.tagAIndexBC.tag.width := by
    rw [one]
    exact Nat.add_le_add_left w.tagAIndexBC.tag.width_pos _
  split at done
  next => exact single (staged_of_stageValue done)
  next =>
    split at done
    next => exact Nat.le_of_eq (staged_of_stageVector done)
    next =>
      split at done
      next => exact single (staged_of_stageReference done)
      next => exact single (staged_of_stageValue done)

theorem staged_of_compute {epsilon : Double} {mnemonic : String} {operation : Operation}
    (known : w.operation? = some operation) (stays : ∀ target, operation ≠ .call target)
    (done : compute epsilon mnemonic w operation state = .ok () after) :
    after.frame.staged.length ≤ Draft.stagedAfter state.frame.staged.length w := by
  cases stages : operation.stages with
  | false =>
    rw [(keeps_compute_unstaged sameStaged_effects epsilon mnemonic w stages).of_ok done]
    exact Nat.le_of_eq (Draft.stagedAfter_unchanged known _ stages stays).symm
  | true =>
    refine Nat.le_trans ?_ (Draft.staging_le_stagedAfter known _ stages)
    cases operation with
    | param => exact staged_of_param done
    | paramImmediate => exact Nat.le_of_eq (staged_of_paramImmediate done)
    | _ => cases stages

/-- An instruction leaves no more staged than is counted for it. -/
theorem staged_of_advance {setting : Setting ν} {next : Next ν}
    (done : advance setting state = .ok next after) :
    ∃ word, state.frame.routine.code[state.frame.pc]? = some word ∧
      after.frame.staged.length ≤ Draft.stagedAfter state.frame.staged.length word := by
  rcases advance_cases setting state with
    ⟨word, instruction, located, decoded, same⟩ | ⟨-, _, same⟩ | ⟨-, _, same⟩
  · refine ⟨word, located, ?_⟩
    rw [same] at done
    have known : word.operation? = some instruction.operation := by
      rw [Word.operation?, decoded, Option.map_some]
    rcases perform_cases setting instruction word with
      ⟨target, operation, same⟩ | ⟨operation, same⟩ | ⟨operation, same⟩ | ⟨⟨-, stays⟩, same⟩
    all_goals
      rw [same] at done
      obtain ⟨_, _, done, last⟩ := bind_eq_ok.1 done
      cases last
    · rw [(call_eq_ok done).left, Draft.stagedAfter_call known _ operation]
      exact List.length_take_le _ _
    · rw [(keeps_ret sameStaged_return _ word).of_ok done]
      rw [operation] at known
      exact Nat.le_of_eq (Draft.stagedAfter_unchanged known _ rfl (by simp)).symm
    · rw [(keeps_storeResult sameStaged_return _ _).of_ok done]
      rw [operation] at known
      exact Nat.le_of_eq (Draft.stagedAfter_unchanged known _ rfl (by simp)).symm
    · have counted := staged_of_compute known stays done
      exact counted
  · cases same.symm.trans done
  · cases same.symm.trans done

end Action

/-- How a frame comes to overflow its staging area: more is staged than there is room for. Or there is
room, and the text of a `THROW` says otherwise. -/
inductive Frame.Overfills (frame : Frame) (abort : Abort) : Prop where
  | crammed {word} (located : frame.routine.code[frame.pc]? = some word)
    (full : frame.routine.layout.maxParam.toNat < Draft.stagedAfter frame.staged.length word)
  | thrown (own : frame.Throws abort)

theorem allows_unless_overflowing (excused : Abort → Prop) :
    Allows fun abort => abort.OverflowsStaging → excused abort :=
  allows_unless (fun _ ⟨_, same⟩ => ⟨_, same⟩)
    (fun _ overflows => Fault.plain_of_overflowsStaging (Fault.overflowsStaging_of_ofFault overflows))
    excused

theorem Frame.overfills_of_advance {frame : Frame} {setting : Setting ν} {world : World}
    {abort : Abort} {after : Local}
    (failed : Action.advance setting ⟨frame, world⟩ = .error abort after)
    (overflows : abort.OverflowsStaging) : frame.Overfills abort := by
  have fits {fault : Fault} (fits : fault.overflowsStaging = false) :
      Permits (fun abort => abort.OverflowsStaging → frame.Overfills abort) fault := by
    intro overflows
    cases fits.symm.trans (Fault.overflowsStaging_of_ofFault overflows)
  have fetching : FailsOnly (Permits fun abort => abort.OverflowsStaging → frame.Overfills abort)
      (frame.routine.word frame.pc) := by
    intro fault missing
    obtain ⟨-, rfl⟩ | ⟨-, rfl⟩ := LinkedRoutine.word_eq_error missing <;> exact fits rfl
  refine Action.allowed_of_advance (allows_unless_overflowing frame.Overfills) fetching
    (fun word instruction located decoded => ?_) (fun word instruction located decoded => ?_)
    failed overflows
  · refine .of_missing (fun _ _ _ => fits rfl) (fun throwing detail listed _ => ?_)
      fun _ _ _ => fits rfl
    have operation := Frame.operationAt?_of_word located decoded
    exact .thrown ⟨operation.trans (congrArg some throwing), detail, listed, rfl⟩
  · intro stages full _
    have known : word.operation? = some instruction.operation := by
      rw [Word.operation?, decoded, Option.map_some]
    exact .crammed located (Nat.lt_of_lt_of_le full (Draft.staging_le_stagedAfter known _ stages))

/-- As long as a frame is in the routine, it has no more staged than is counted where it is. -/
def Activation.WithinCount (routine : LinkedRoutine) : Activation ν → Prop
  | .script frame => frame.routine = routine → frame.staged.length ≤ routine.stagedBefore frame.pc
  | .native _ => True

namespace Machine

variable {machine : Machine ν} {natives : Natives ν} {routine : LinkedRoutine}

theorem withinCount_lasting (steady : routine.Steady) :
    Lasting natives (Activation.WithinCount routine) where
  begins begins := by
    cases begins with
    | script first =>
      intro _
      rw [first.2.2]
      exact Nat.zero_le _
    | native => trivial
  native _ := trivial
  same same within := by
    rw [Activation.WithinCount, same.routine, same.pc, same.staged]
    exact within
  advanced {_ state after _} done within := by
    intro executes
    have own : state.frame.routine = routine :=
      (Action.advance_sameActivation done).routine.symm.trans executes
    obtain ⟨word, located, counted⟩ := Action.staged_of_advance done
    have leads := Action.leads_of_advance done
    cases own
    calc after.frame.staged.length
      _ ≤ Draft.stagedAfter state.frame.staged.length word := counted
      _ ≤ Draft.stagedAfter (state.frame.routine.stagedBefore state.frame.pc) word :=
        Draft.stagedAfter_mono (within rfl) word
      _ = state.frame.routine.stagedBefore (state.frame.pc + 1) :=
        (LinkedRoutine.stagedBefore_succ located).symm
      _ ≤ state.frame.routine.stagedBefore after.frame.pc := leads.stagedBefore_le steady

end Machine

/-! ### What is worked out for a function -/

namespace Assembly

def Line.limits : Line → Bool
  | .directive name _ => name == "maxparam"
  | _ => false

namespace Draft

variable {draft after : Draft}

theorem Reads.maxParam {number : Nat} {line : Line} (reads : draft.Reads number line after)
    (unlimited : line.limits = false) : after.maxParam = draft.maxParam := by
  cases reads with
  | blank => rfl
  | directive changed =>
    obtain ⟨-, -, -, -, -, kept⟩ := direct_keeps changed
    exact kept (ne_of_beq_false unlimited)
  | code plain added =>
    unfold addLine at added
    split at added
    next name labelled =>
      obtain ⟨middle, defined, added⟩ := bind_eq_ok.1 added
      obtain ⟨-, rfl⟩ := defineLabel_eq_ok defined
      exact (append_eq_ok added).2.2.2.1
    next => exact (append_eq_ok added).2.2.2.1

theorem unlimited_kept (sourceName : String) :
    State.Kept sourceName fun _ draft listing =>
      (∀ line ∈ listing.lines, line.limits = false) → draft.maxParam = none where
  starts _ _ _ _ _ := rfl
  reads _ line draft after listing kept reads unlimited := by
    rw [Listing.add, List.forall_mem_append, List.forall_mem_singleton] at unlimited
    exact (reads.maxParam unlimited.2).trans (kept unlimited.1)

theorem finish_maxParam {routine : Routine} (finished : draft.finish = .ok routine)
    (unlimited : draft.maxParam = none) :
    routine.layout.maxParam.toNat = min (stagedMost 0 0 routine.code.toList) 65535 := by
  obtain ⟨⟨code, lines, pools⟩, -, finished⟩ := bind_eq_ok.1 finished
  obtain ⟨ints, -, finished⟩ := bind_eq_ok.1 finished
  obtain ⟨floats, -, finished⟩ := bind_eq_ok.1 finished
  obtain ⟨strings, -, finished⟩ := bind_eq_ok.1 finished
  obtain ⟨pointers, -, finished⟩ := bind_eq_ok.1 finished
  cases finished
  rw [unlimited]
  exact UInt16.toNat_ofNat_of_lt' (Nat.lt_succ_of_le (Nat.min_le_right _ _))

end Draft

/-- Without a line that says otherwise, a routine has room for the most that is counted. -/
theorem AssembledFrom.maxParam {routine : LinkedRoutine} {listing : Listing}
    (assembled : AssembledFrom routine listing)
    (unlimited : ∀ line ∈ listing.lines, line.limits = false) :
    routine.layout.maxParam.toNat =
      min (Draft.stagedMost 0 0 routine.code.toList) 65535 := by
  obtain ⟨sourceName, _, _, accepted, index, origin, resolve, listed, member, link⟩ := assembled
  obtain ⟨other, found, _, draft, -, kept, finished⟩ :=
    exists_getElem?_of_forall₂ (assemble_kept (Draft.unlimited_kept sourceName) accepted) listed
  cases found.symm.trans member
  obtain ⟨code, layout⟩ := link_keeps link
  rw [layout, code]
  exact Draft.finish_maxParam finished (kept unlimited)

end Assembly

namespace Machine

/-- The room that is worked out for an assembled function is enough for every run, if no jump leads to
where less is counted than before it and there are no jumps by table. Between steps, every frame of
the function has at most as much staged as is counted where the frame is, so there is room for what
its next instruction stages; and the staging area overflows in another function only, unless the text
comes from a `THROW` or from a native function. -/
theorem inferred_staging_suffices {routine : LinkedRoutine} {listing : Listing}
    (assembled : AssembledFrom routine listing)
    (unlimited : ∀ line ∈ listing.lines, line.limits = false)
    (countable : Draft.stagedMost 0 0 routine.code.toList ≤ 65535) (steady : routine.Steady)
    (natives : Natives ν) (machine : Machine ν) (bottom : machine.stack = []) (id : FunctionId)
    (arguments : List Value) (slots : List ResultSlot) (count : Nat) :
    let now := run natives count (machine.enter natives id arguments slots)
    (∀ frame, .script frame ∈ now.stack → frame.routine = routine →
      frame.staged.length ≤ routine.stagedBefore frame.pc ∧
      ∀ word, routine.code[frame.pc]? = some word →
        Draft.stagedAfter frame.staged.length word ≤ routine.layout.maxParam.toNat) ∧
    ∀ abort live, Raises natives now abort live → abort.OverflowsStaging →
      now.GivesUp abort ∨ ∃ frame below, now.stack = .script frame :: below ∧
        (frame.routine = routine → frame.Throws abort) := by
  intro now
  have lasting : Lasting natives (Activation.WithinCount routine) := withinCount_lasting steady
  have within : ∀ activation ∈ now.stack, activation.WithinCount routine :=
    lasting.run (lasting.enter bottom id arguments slots) count
  have capacity : routine.layout.maxParam.toNat = Draft.stagedMost 0 0 routine.code.toList :=
    (assembled.maxParam unlimited).trans (Nat.min_eq_left countable)
  have roomy (frame : Frame) (member : .script frame ∈ now.stack) (own : frame.routine = routine)
      (word : Word) (located : routine.code[frame.pc]? = some word) :
      Draft.stagedAfter frame.staged.length word ≤ routine.layout.maxParam.toNat := by
    calc Draft.stagedAfter frame.staged.length word
      _ ≤ Draft.stagedAfter (routine.stagedBefore frame.pc) word :=
        Draft.stagedAfter_mono (within _ member own) word
      _ = routine.stagedBefore (frame.pc + 1) := (LinkedRoutine.stagedBefore_succ located).symm
      _ ≤ routine.layout.maxParam.toNat := capacity ▸ routine.stagedBefore_le _
  refine ⟨fun frame member own => ⟨within _ member own, roomy frame member own⟩, ?_⟩
  intro abort live raises overflows
  obtain spared | given | ⟨frame, below, after, top, failed⟩ :=
    raises.origin (allows_unless_overflowing fun _ => False)
  · exact (spared overflows).elim
  · exact .inl given
  · refine .inr ⟨frame, below, top, fun own => ?_⟩
    cases Frame.overfills_of_advance failed overflows with
    | crammed located full =>
      cases own
      have member : .script frame ∈ now.stack := by
        rw [top]
        exact List.mem_cons_self
      exact absurd (roomy frame member rfl _ located) (Nat.not_le.2 full)
    | thrown own => exact own

def feeding : String :=
  ".func Feed\nLI d0, 4\nagain:\nPARAMI 3\nPARAM d0\nCALL_K @Take, 2, 1\nRESULT d1\n" ++
    "JMP again\n.end\n"

def executing? : Activation ν → Option (LinkedRoutine × Nat)
  | .script frame => some (frame.routine, frame.staged.length)
  | .native _ => none

/-- In the second round both parameters are staged again, and that is what there is room for. -/
theorem inferred_staging_suffices_feeding :
    let natives : Natives Unit := fun _ _ slots => .finish ⟨.ok 0, slots⟩
    ∃ routine ∈ LinkedRoutine.ofSource? feeding, routine.layout.maxParam = 2 ∧
      let now := run natives 8 (enter
        ⟨.standard, ⟨#[.native "Take" (), .script routine]⟩, .empty, [], none⟩ natives ⟨1⟩ [] [])
      ∃ frame, now.stack = [.script frame] ∧ frame.staged.length = 2 ∧
        frame.staged.length ≤ routine.stagedBefore frame.pc := by
  intro natives
  have evaluated : ∃ routine ∈ LinkedRoutine.ofSource? feeding, routine.layout.maxParam = 2 ∧
      Draft.stagedMost 0 0 routine.code.toList ≤ 65535 ∧
      (∀ word ∈ routine.code.toList, word.operation? ≠ some .jumpTable) ∧
      (∀ place < routine.code.size, ∀ target ≤ routine.code.size, ∀ word ∈ routine.code[place]?,
        word.operation? = some .jump → (target : Int) = place + 1 + word.abc.toInt →
        routine.stagedBefore place ≤ routine.stagedBefore target) ∧
      (run natives 8 (enter ⟨.standard, ⟨#[.native "Take" (), .script routine]⟩, .empty, [], none⟩
        natives ⟨1⟩ [] [])).stack.map executing? = [some (routine, 2)] := by
    decide +kernel
  obtain ⟨routine, found, room, countable, tables, jumps, reached⟩ := evaluated
  refine ⟨routine, found, room, ?_⟩
  intro now
  have listed : ∃ listing ∈ (Listing.ofSource feeding)[0]?,
      ∀ line ∈ listing.lines, line.limits = false := by
    decide +kernel
  obtain ⟨listing, first, unlimited⟩ := listed
  obtain ⟨activation, stack, there⟩ := List.map_eq_singleton_iff.1 reached
  cases activation with
  | native call => cases there
  | script frame =>
    obtain ⟨own, staged⟩ := Prod.mk.inj (Option.some.inj there)
    have steady : routine.Steady := by
      refine ⟨fun word member => tables word (Array.mem_toList_iff.2 member), ?_⟩
      intro place target word located jump leads inside
      have before := (Array.getElem?_eq_some_iff.1 located).1
      exact jumps place before target inside word located jump leads
    have member : .script frame ∈ now.stack := by
      rw [stack]
      exact List.mem_cons_self
    obtain ⟨within, -⟩ := inferred_staging_suffices (assembledFrom_of_ofSource? found first)
      unlimited countable steady natives
      ⟨.standard, ⟨#[.native "Take" (), .script routine]⟩, .empty, [], none⟩ rfl ⟨1⟩ [] [] 8
    exact ⟨frame, stack, staged, (within frame member own).1⟩

end Machine

end GameScript
