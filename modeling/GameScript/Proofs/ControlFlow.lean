import GameScript.Proofs.RaisedAborts
import GameScript.Proofs.StackChanges

/-! Where code leads, whatever its words are. An instruction goes on with the next word, unless it
jumps, compares or calls: a jump goes to a place that was checked, a comparison passes over the jump
behind it or does not, and a call passes over the markers of its results. So no frame ever gets past
the end of its code, and nothing else is skipped. -/

namespace GameScript

def Operation.compares : Operation → Bool
  | .test | .testNegated | .compareStrings | .intCompare .. | .floatCompare .. | .vectorEqual ..
  | .pointerEqual .. => true
  | _ => false

namespace Frame

def operand (frame : Frame) (source : Source) (bank : Bank) (index : Nat) :
    Except Fault bank.Content :=
  match source with
  | .register => frame.registers.register bank index
  | .constant => frame.routine.constants.constant bank index

def intOperand (frame : Frame) (source : IntSource) (field : UInt16) : Except Fault Int32 :=
  match source with
  | .register => frame.registers.register .int field.toNat
  | .constant => frame.routine.constants.constant .int field.toNat
  | .byte | .half => .ok (Int32.ofNat field.toNat)
  | .signedByte => .ok field.toUInt8.toInt8.toInt32

def vectorOperand (frame : Frame) (source : Source) (count start : Nat) :
    Except Fault (Vector Double count) :=
  match source with
  | .register => frame.registers.vector count start
  | .constant => frame.routine.constants.constantVector count start

/-- What a comparison or a test finds out, and what it is to check for. Other operations compare
nothing. -/
def comparison? (frame : Frame) (epsilon : Double) (w : Word) :
    Operation → Option (Except Fault (Bool × Bool))
  | .test => some do
    let value : Int32 ← frame.registers.register .int w.a.toNat
    return (value == Int32.ofNat w.bc.toNat, true)
  | .testNegated => some do
    let value : Int32 ← frame.registers.register .int w.a.toNat
    return (-value == Int32.ofNat w.bc.toNat, true)
  | .compareStrings => some do
    let left : String ← frame.registers.register .string w.b.toNat
    let right : String ← frame.registers.register .string w.c.toNat
    let flags := CompareField.mk w.a
    let left := if flags.approx then Text.fold left else left
    let right := if flags.approx then Text.fold right else right
    let mode ← Fault.ofSelector flags.mode
    let outcome := match mode with
      | .eq => left == right
      | .lt => decide (left < right)
      | .le => !decide (right < left)
    return (outcome, flags.check)
  | .intCompare relation left right => some do
    let x ← frame.intOperand left w.b.toUInt16
    let y ← frame.intOperand right w.c.toUInt16
    return (relation.holds x y, (CompareField.mk w.a).check)
  | .floatCompare relation left right => some do
    let x ← frame.operand left .float w.b.toNat
    let y ← frame.operand right .float w.c.toNat
    let flags := CompareField.mk w.a
    return (if flags.approx then relation.nearly epsilon x y else relation.holds x y, flags.check)
  | .vectorEqual dimension right => some do
    let x ← frame.registers.vector dimension.size w.b.toNat
    let y ← frame.vectorOperand right dimension.size w.c.toNat
    let flags := CompareField.mk w.a
    return (vectorsEqual flags.approx epsilon x y, flags.check)
  | .pointerEqual right => some do
    let x : Pointer ← frame.registers.register .pointer w.b.toNat
    let y : Pointer ← frame.operand right .pointer w.c.toNat
    return (x == y, (CompareField.mk w.a).check)
  | _ => none

theorem compares_of_comparison? {frame : Frame} {epsilon : Double} {w : Word} {operation : Operation}
    {compared : Except Fault (Bool × Bool)}
    (found : frame.comparison? epsilon w operation = some compared) : operation.compares = true := by
  cases operation <;> first | rfl | cases found

/-- Where a word of a frame leads to, if it neither aborts nor ends the frame. -/
inductive Follows (frame : Frame) (epsilon : Double) (w : Word) : Operation → Nat → Prop where
  | next {operation} (straight : operation.steers = false) :
      Follows frame epsilon w operation (frame.pc + 1)
  | jump {target : Nat} (place : (target : Int) = frame.pc + 1 + w.abc.toInt)
      (inside : target ≤ frame.routine.code.size) : Follows frame epsilon w .jump target
  /-- The entry of a table is a jump, and it is followed from where it stands. -/
  | jumpTable {entry : Int32} {slot target : Nat} {listed : Word}
      (read : frame.registers.register .int w.a.toNat = .ok entry)
      (chosen : (slot : Int) = frame.pc + 1 + w.signedBC.toInt + entry.toInt)
      (located : frame.routine.code[slot]? = some listed)
      (jumps : frame.operationAt? slot = some .jump)
      (place : (target : Int) = slot + 1 + listed.abc.toInt)
      (inside : target ≤ frame.routine.code.size) : Follows frame epsilon w .jumpTable target
  /-- The jump behind a comparison comes next, or is passed over. -/
  | comparison {operation outcome check}
      (compares : frame.comparison? epsilon w operation = some (.ok (outcome, check)))
      (jump : frame.operationAt? (frame.pc + 1) = some .jump) :
      Follows frame epsilon w operation
        (if outcome == check then frame.pc + 1 else frame.pc + 2)
  /-- The markers behind a call are passed over, one for each result. -/
  | call {source} (marked : ∀ position < w.c.toNat,
        frame.operationAt? (frame.pc + 1 + position) = some .result) :
      Follows frame epsilon w (.call source) (frame.pc + 1 + w.c.toNat)

def Leads (frame : Frame) (epsilon : Double) (target : Nat) : Prop :=
  ∃ word operation, frame.routine.code[frame.pc]? = some word ∧
    frame.operationAt? frame.pc = some operation ∧ frame.Follows epsilon word operation target

end Frame

namespace Action

variable {state after : Local} {w : Word} {epsilon : Double}

theorem fetchInt_apply (source : IntSource) (field : UInt16) (state : Local) :
    fetchInt source field state = ofExcept (state.frame.intOperand source field) state := by
  cases source <;> rfl

theorem fetchVector_apply (source : Source) (count start : Nat) (state : Local) :
    fetchVector source count start state =
      ofExcept (state.frame.vectorOperand source count start) state := by
  cases source <;> rfl

theorem branch_of_reads {first : Action α} {second : Action β} {left : Except Fault α}
    {right : Except Fault β} (mnemonic : String) (compare : α → β → Bool × Bool)
    (one : first state = ofExcept left state) (two : second state = ofExcept right state) :
    (do
      let x ← first
      let y ← second
      branch mnemonic (compare x y).1 (compare x y).2 : Action Unit) state =
      (ofExcept (do return compare (← left) (← right)) >>=
        fun (outcome, check) => branch mnemonic outcome check) state := by
  rw [bind_apply, one]
  cases left with
  | error fault => rfl
  | ok x =>
    simp only [ofExcept_ok, bind_apply, two]
    cases right <;> rfl

/-- A comparison is the finding out of its outcome and then a branch. -/
theorem compute_comparison (mnemonic : String) {operation : Operation}
    {compared : Except Fault (Bool × Bool)}
    (compares : state.frame.comparison? epsilon w operation = some compared) :
    compute epsilon mnemonic w operation state =
      (ofExcept compared >>= fun (outcome, check) => branch mnemonic outcome check) state := by
  cases operation with
  | test | testNegated =>
    cases compares
    simp only [compute, bind_apply, register_apply]
    cases state.frame.registers.register .int w.a.toNat <;> rfl
  | compareStrings =>
    cases compares
    simp only [compute, compareStrings, bind_apply, register_apply]
    cases state.frame.registers.register .string w.b.toNat with
    | error fault => rfl
    | ok left =>
      simp only [ofExcept_ok]
      cases state.frame.registers.register .string w.c.toNat with
      | error fault => rfl
      | ok right =>
        simp only [ofExcept_ok]
        cases Fault.ofSelector (CompareField.mk w.a).mode <;> rfl
  | intCompare relation left right =>
    cases compares
    exact branch_of_reads mnemonic (fun x y => (relation.holds x y, (CompareField.mk w.a).check))
      (fetchInt_apply _ _ _) (fetchInt_apply _ _ _)
  | floatCompare relation left right =>
    cases compares
    exact branch_of_reads mnemonic (fun x y => (if (CompareField.mk w.a).approx then
      relation.nearly epsilon x y else relation.holds x y, (CompareField.mk w.a).check))
      (fetch_eq _ _ _ _) (fetch_eq _ _ _ _)
  | vectorEqual dimension right =>
    cases compares
    exact branch_of_reads mnemonic (fun x y =>
      (vectorsEqual (CompareField.mk w.a).approx epsilon x y, (CompareField.mk w.a).check))
      (vector_apply _ _) (fetchVector_apply _ _ _ _)
  | pointerEqual right =>
    cases compares
    exact branch_of_reads mnemonic
      (fun (x y : Pointer) => (x == y, (CompareField.mk w.a).check))
      (register_apply _ _) (fetch_eq _ _ _ _)
  | _ => cases compares

theorem branch_eq_ok {mnemonic : String} {outcome check : Bool}
    (done : branch mnemonic outcome check state = .ok () after) :
    state.frame.operationAt? state.frame.pc = some .jump ∧
      after.frame.pc = if outcome == check then state.frame.pc else state.frame.pc + 1 := by
  simp only [branch, bind_apply, frame_apply] at done
  split at done
  next jump =>
    refine ⟨jump, ?_⟩
    split at done
    next differs =>
      cases done
      simp [differs]
    next same =>
      cases done
      simp [Decidable.not_not.1 same]
  next => cases done

theorem jump_eq_ok (jumped : jump w state = .ok () after) :
    ∃ target : Nat, (target : Int) = state.frame.pc + w.abc.toInt ∧
      target ≤ state.frame.routine.code.size ∧ after.frame.pc = target := by
  obtain ⟨_, _, ⟨⟩, jumped⟩ := bind_eq_ok.1 jumped
  obtain ⟨moved, _, checked, last⟩ := bind_eq_ok.1 jumped
  obtain ⟨checked, rfl⟩ := ofExcept_eq_ok.1 checked
  obtain ⟨target, place, inside, rfl⟩ := Frame.jump_eq_ok checked
  cases last
  exact ⟨target, place, inside, rfl⟩

theorem jumpTable_eq_ok {mnemonic : String} (jumped : jumpTable mnemonic w state = .ok () after) :
    ∃ (entry : Int32) (slot target : Nat) (listed : Word),
      state.frame.registers.register .int w.a.toNat = .ok entry ∧
      (slot : Int) = state.frame.pc + w.signedBC.toInt + entry.toInt ∧
      state.frame.routine.code[slot]? = some listed ∧
      state.frame.operationAt? slot = some .jump ∧
      (target : Int) = slot + 1 + listed.abc.toInt ∧
      target ≤ state.frame.routine.code.size ∧ after.frame.pc = target := by
  cases read : state.frame.registers.register .int w.a.toNat with
  | error fault => simp [jumpTable, bind_apply, register_apply, read] at jumped
  | ok entry =>
    simp only [jumpTable, bind_apply, frame_apply, register_apply, read, ofExcept_ok] at jumped
    by_cases inside : 0 ≤ state.frame.pc + w.signedBC.toInt + entry.toInt
    · rw [if_pos inside] at jumped
      generalize chosen : (state.frame.pc + w.signedBC.toInt + entry.toInt).toNat = slot at jumped
      cases located : state.frame.routine.code[slot]? with
      | none => simp [located] at jumped
      | some listed =>
        simp only [located] at jumped
        split at jumped
        next jumps =>
          obtain ⟨moved, _, checked, last⟩ := bind_eq_ok.1 jumped
          obtain ⟨checked, rfl⟩ := ofExcept_eq_ok.1 checked
          obtain ⟨target, place, bound, rfl⟩ := Frame.jump_eq_ok checked
          cases last
          exact ⟨entry, slot, target, listed, rfl, by omega, located, jumps, place, bound, rfl⟩
        next => cases jumped
    · rw [if_neg inside] at jumped
      cases jumped

theorem samePc_effects :
    StillEffects fun before after => after.frame.pc = before.frame.pc where
  refl _ := rfl
  trans first second := second.trans first
  registers _ _ _ := rfl
  names _ _ := rfl
  barrier _ _ := rfl
  heap _ _ _ _ _ := rfl
  staged _ _ _ := rfl
  boxed _ _ _ _ _ _ _ := rfl

theorem samePc_return : ReturnEffects fun before after => after.frame.pc = before.frame.pc :=
  ⟨samePc_effects.toPlainEffects, fun _ _ _ => rfl⟩

theorem comparison?_fetched (state : Local) (operation : Operation) :
    state.fetched.frame.comparison? epsilon w operation =
      state.frame.comparison? epsilon w operation := by
  cases operation <;> rfl

theorem follows_of_comparison {mnemonic : String} {operation : Operation}
    {compared : Except Fault (Bool × Bool)}
    (compares : state.frame.comparison? epsilon w operation = some compared)
    (done : compute epsilon mnemonic w operation state.fetched = .ok () after) :
    state.frame.Follows epsilon w operation after.frame.pc := by
  rw [compute_comparison mnemonic ((comparison?_fetched state operation).trans compares)] at done
  obtain ⟨⟨outcome, check⟩, _, found, branched⟩ := bind_eq_ok.1 done
  obtain ⟨rfl, rfl⟩ := ofExcept_eq_ok.1 found
  obtain ⟨jump, moved⟩ := branch_eq_ok branched
  rw [moved]
  exact .comparison compares jump

theorem follows_of_compute {mnemonic : String} {operation : Operation}
    (stays : ∀ target, operation ≠ .call target)
    (done : compute epsilon mnemonic w operation state.fetched = .ok () after) :
    state.frame.Follows epsilon w operation after.frame.pc := by
  cases operation with
  | jump =>
    obtain ⟨target, place, inside, moved⟩ := jump_eq_ok done
    rw [moved]
    exact .jump place inside
  | jumpTable =>
    obtain ⟨entry, slot, target, listed, read, chosen, located, jumps, place, inside, moved⟩ :=
      jumpTable_eq_ok done
    rw [moved]
    exact .jumpTable read chosen located jumps place inside
  | test | testNegated | compareStrings | intCompare | floatCompare | vectorEqual | pointerEqual =>
    exact follows_of_comparison rfl done
  | call target => exact absurd rfl (stays target)
  | _ =>
    rw [(keeps_compute_straight samePc_effects epsilon mnemonic w rfl).of_ok done]
    exact .next rfl

theorem follows_of_perform {setting : Setting ν} {instruction : Instruction} {next : Next ν}
    (done : perform setting instruction w state.fetched = .ok next after) :
    state.frame.Follows setting.config.floatEpsilon w instruction.operation after.frame.pc := by
  rcases perform_cases setting instruction w with
    ⟨target, operation, same⟩ | ⟨operation, same⟩ | ⟨operation, same⟩ | ⟨⟨-, stays⟩, same⟩
  all_goals
    rw [same] at done
    obtain ⟨_, _, done, last⟩ := bind_eq_ok.1 done
    cases last
  · have called := call_eq_ok done
    rw [operation, called.left]
    refine .call fun position inside => ?_
    rw [← called.wanted] at inside
    obtain ⟨word, -, marker, -⟩ :=
      called.markers.named position _ (List.getElem?_eq_getElem inside)
    exact marker
  · rw [operation, (keeps_ret samePc_return _ w).of_ok done]
    exact .next rfl
  · rw [operation, (keeps_storeResult samePc_return _ _).of_ok done]
    exact .next rfl
  · exact follows_of_compute stays done

theorem leads_of_advance {setting : Setting ν} {next : Next ν}
    (done : advance setting state = .ok next after) :
    state.frame.Leads setting.config.floatEpsilon after.frame.pc := by
  rcases advance_cases setting state with
    ⟨word, instruction, located, decoded, same⟩ | ⟨-, _, same⟩ | ⟨-, _, same⟩
  · rw [same] at done
    exact ⟨word, instruction.operation, located, Frame.operationAt?_of_word located decoded,
      follows_of_perform done⟩
  · cases same.symm.trans done
  · cases same.symm.trans done

end Action

namespace Frame

variable {frame : Frame} {epsilon : Double} {target offset : Nat}

theorem lt_size_of_operationAt? {operation : Operation}
    (found : frame.operationAt? offset = some operation) : offset < frame.routine.code.size := by
  obtain ⟨word, located, -⟩ := Option.bind_eq_some_iff.1 found
  exact (Array.getElem?_eq_some_iff.1 located).1

theorem Leads.inside (leads : frame.Leads epsilon target) : target ≤ frame.routine.code.size := by
  obtain ⟨word, operation, located, -, follows⟩ := leads
  have here := (Array.getElem?_eq_some_iff.1 located).1
  cases follows with
  | next | jump | jumpTable => assumption
  | comparison compares jump =>
    have behind := lt_size_of_operationAt? jump
    split <;> omega
  | call marked =>
    cases count : word.c.toNat with
    | zero => exact here
    | succ last =>
      have marker := marked last (by omega)
      exact lt_size_of_operationAt? marker

/-- A word is passed over without a jump only if it is a jump behind a comparison or a marker behind
a call. -/
theorem Leads.skipped (leads : frame.Leads epsilon target) (behind : frame.pc < offset)
    (before : offset < target) :
    frame.operationAt? frame.pc = some .jump ∨ frame.operationAt? frame.pc = some .jumpTable ∨
      (∃ operation, frame.operationAt? frame.pc = some operation ∧ operation.compares ∧
        frame.operationAt? offset = some .jump) ∨
      ∃ source, frame.operationAt? frame.pc = some (.call source) ∧
        frame.operationAt? offset = some .result := by
  obtain ⟨word, operation, -, here, follows⟩ := leads
  cases follows with
  | next => omega
  | jump => exact .inl here
  | jumpTable => exact .inr (.inl here)
  | comparison compares jump =>
    refine .inr (.inr (.inl ⟨operation, here, compares_of_comparison? compares, ?_⟩))
    have second : offset = frame.pc + 1 := by
      split at before <;> omega
    rw [second]
    exact jump
  | call marked =>
    refine .inr (.inr (.inr ⟨_, here, ?_⟩))
    have marker := marked (offset - (frame.pc + 1)) (by omega)
    rwa [Nat.add_sub_cancel' behind] at marker

/-- How an instruction comes to leave its code: it is a jump. Or nothing is left, and the text of a
`THROW` says so. -/
inductive Strays (frame : Frame) (abort : Abort) : Prop where
  | jump (operation : frame.operationAt? frame.pc = some .jump)
  | jumpTable (operation : frame.operationAt? frame.pc = some .jumpTable)
  | thrown (own : frame.Throws abort)

end Frame

theorem allows_unless_leaving (excused : Abort → Prop) :
    Allows fun abort => abort.LeavesCode → excused abort :=
  allows_unless (fun _ ⟨_, _, same⟩ => ⟨_, same⟩)
    (fun _ leaves => Fault.plain_of_leavesCode (Fault.leavesCode_of_ofFault leaves)) excused

theorem Frame.strays_of_advance {frame : Frame} {setting : Setting ν} {world : World} {abort : Abort}
    {after : Local} (inside : frame.pc ≤ frame.routine.code.size)
    (failed : Action.advance setting ⟨frame, world⟩ = .error abort after)
    (leaves : abort.LeavesCode) : frame.Strays abort := by
  have stays {fault : Fault} (stays : fault.leavesCode = false) :
      Permits (fun abort => abort.LeavesCode → frame.Strays abort) fault := by
    intro leaves
    cases stays.symm.trans (Fault.leavesCode_of_ofFault leaves)
  have fetching : FailsOnly (Permits fun abort => abort.LeavesCode → frame.Strays abort)
      (frame.routine.word frame.pc) := by
    intro fault missing
    obtain ⟨-, rfl⟩ | ⟨outside, -⟩ := LinkedRoutine.word_eq_error missing
    · exact stays rfl
    · exact absurd inside (Nat.not_le.2 outside)
  refine Action.allowed_of_advance (allows_unless_leaving frame.Strays) fetching
    (fun word instruction located decoded => ?_) (fun _ _ _ _ _ _ => stays rfl) failed leaves
  have operation := Frame.operationAt?_of_word located decoded
  refine .of_missing (fun _ _ _ => stays rfl) (fun throwing detail listed _ => ?_)
    fun jumps _ _ _ => ?_
  · exact .thrown ⟨operation.trans (congrArg some throwing), detail, listed, rfl⟩
  · obtain jumps | jumps := jumps
    · exact .jump (operation.trans (congrArg some jumps))
    · exact .jumpTable (operation.trans (congrArg some jumps))

def Activation.InsideCode : Activation ν → Prop
  | .script frame => frame.pc ≤ frame.routine.code.size
  | .native _ => True

namespace Machine

variable {machine next : Machine ν} {natives : Natives ν}

theorem insideCode_lasting : Lasting natives Activation.InsideCode where
  begins begins := by
    cases begins with
    | script first => exact Nat.le_trans (Nat.le_of_eq first.2.1) (Nat.zero_le _)
    | native => trivial
  native _ := trivial
  same same inside := by
    rw [Activation.InsideCode, same.pc, same.routine]
    exact inside
  advanced done _ := by
    rw [Activation.InsideCode, (Action.advance_sameActivation done).routine]
    exact (Action.leads_of_advance done).inside

section Steps

variable {after below rest : List (Activation ν)} {frame : Frame} {top : Activation ν}

/-- A frame that goes on or calls a function gets to where its code leads. -/
theorem Restacks.leads (restacks : Restacks natives machine after)
    (innermost : machine.stack = .script frame :: below) (stays : below.length < after.length) :
    ∃ moved, .script moved :: below <:+ after ∧ moved.routine = frame.routine ∧
      frame.Leads machine.config.floatEpsilon moved.pc := by
  cases restacks with
  | ended stack left =>
    cases innermost.symm.trans stack
    exact absurd left.length_le (Nat.not_le.2 stays)
  | resumed stack same =>
    cases innermost.symm.trans stack
    exact absurd stays (Nat.lt_irrefl _)
  | advanced idle stack done =>
    cases innermost.symm.trans stack
    exact ⟨_, List.suffix_refl _, (Action.advance_sameActivation done).routine,
      Action.leads_of_advance done⟩
  | called idle stack done same begins =>
    cases innermost.symm.trans stack
    refine ⟨_, List.suffix_cons _ _, ?_, ?_⟩
    · exact same.routine.trans (Action.advance_sameActivation done).routine
    · rw [same.pc]
      exact Action.leads_of_advance done
  | dealt stack => cases innermost.symm.trans stack
  | entered stack => cases innermost.symm.trans stack
  | refused stack => cases innermost.symm.trans stack

/-- A frame that waits stays where it is, also when the call returns to it. -/
theorem Restacks.waits (restacks : Restacks natives machine after)
    (stack : machine.stack = top :: rest) (waiting : .script frame :: below <:+ rest)
    (stays : below.length < after.length) :
    ∃ moved, .script moved :: below <:+ after ∧ SamePlace frame moved := by
  have still : SamePlace frame frame := ⟨rfl, rfl, rfl, rfl⟩
  cases restacks with
  | ended same left =>
    cases stack.symm.trans same
    exact ⟨frame, List.suffix_of_suffix_length_le waiting left stays, still⟩
  | resumed same place =>
    cases stack.symm.trans same
    obtain equal | deeper := List.suffix_cons_iff.1 waiting
    · cases equal
      exact ⟨_, List.suffix_refl _, place⟩
    · exact ⟨frame, deeper.trans (List.suffix_cons _ _), still⟩
  | advanced idle same done =>
    cases stack.symm.trans same
    exact ⟨frame, waiting.trans (List.suffix_cons _ _), still⟩
  | called idle same done place begins =>
    cases stack.symm.trans same
    exact ⟨frame, waiting.trans ((List.suffix_cons _ _).trans (List.suffix_cons _ _)), still⟩
  | dealt same deals =>
    cases stack.symm.trans same
    exact ⟨frame, waiting.trans (List.suffix_cons _ _), still⟩
  | entered same begins =>
    cases stack.symm.trans same
    exact ⟨frame, waiting.trans ((List.suffix_cons _ _).trans (List.suffix_cons _ _)), still⟩
  | refused same =>
    rw [stack]
    exact ⟨frame, waiting.trans (List.suffix_cons _ _), still⟩

end Steps

/-- Only jumps leave the code. When a step raises that abort, the innermost frame is at a jump, or the
text comes from a `THROW` or from a native function. -/
theorem Raises.strays {abort : Abort} {live : List (Activation ν)}
    (raises : Raises natives machine abort live)
    (inside : ∀ activation ∈ machine.stack, activation.InsideCode) (leaves : abort.LeavesCode) :
    machine.GivesUp abort ∨
      ∃ frame below, machine.stack = .script frame :: below ∧ frame.Strays abort := by
  obtain spared | given | ⟨frame, below, after, top, failed⟩ :=
    raises.origin (allows_unless_leaving fun _ => False)
  · exact (spared leaves).elim
  · exact .inl given
  · have here : frame.pc ≤ frame.routine.code.size :=
      inside (.script frame) (by rw [top]; exact List.mem_cons_self)
    exact .inr ⟨frame, below, top, Frame.strays_of_advance here failed leaves⟩

/-- Control flow on any code, in every state of a call. All frames are in their code or right behind
it, so an instruction that cannot be fetched is one past the end, and only jumps leave the code. A step
that leaves a frame on the stack takes it to where its code leads if it is innermost, and not
elsewhere if it waits; and the words that it passes over without a jump are jumps behind a comparison
or markers behind a call. -/
theorem control_flow_stays_inside (natives : Natives ν) (machine : Machine ν)
    (bottom : machine.stack = []) (id : FunctionId) (arguments : List Value) (slots : List ResultSlot)
    (count : Nat) :
    let now := run natives count (machine.enter natives id arguments slots)
    (∀ frame, .script frame ∈ now.stack →
      frame.pc ≤ frame.routine.code.size ∧ ∀ fault, frame.routine.word frame.pc = .error fault →
        fault = .fellOffEnd frame.routine.name) ∧
    (∀ abort live, Raises natives now abort live → abort.LeavesCode →
      now.GivesUp abort ∨
        ∃ frame below, now.stack = .script frame :: below ∧ frame.Strays abort) ∧
    ∀ next frame below, now.step natives = some next → .script frame :: below <:+ now.stack →
      below.length < next.depth →
      ∃ moved, .script moved :: below <:+ next.stack ∧ moved.routine = frame.routine ∧
        (now.stack ≠ .script frame :: below → moved.pc = frame.pc) ∧
        (now.stack = .script frame :: below →
          frame.Leads now.config.floatEpsilon moved.pc ∧
          ∀ offset, frame.pc < offset → offset < moved.pc →
            frame.operationAt? frame.pc = some .jump ∨
            frame.operationAt? frame.pc = some .jumpTable ∨
            (∃ operation, frame.operationAt? frame.pc = some operation ∧ operation.compares ∧
              frame.operationAt? offset = some .jump) ∨
            ∃ source, frame.operationAt? frame.pc = some (.call source) ∧
              frame.operationAt? offset = some .result) := by
  intro now
  have inside : ∀ activation ∈ now.stack, activation.InsideCode :=
    insideCode_lasting.run (insideCode_lasting.enter bottom id arguments slots) count
  refine ⟨fun frame member => ⟨inside _ member, fun fault failed => ?_⟩, ?_, ?_⟩
  · obtain ⟨-, ended⟩ | ⟨outside, -⟩ := LinkedRoutine.word_eq_error failed
    · exact ended
    · exact absurd (inside _ member) (Nat.not_le.2 outside)
  · exact fun abort live raises leaves => raises.strays inside leaves
  · intro next frame below stepped placed stays
    have restacks := step_restacks stepped
    by_cases innermost : now.stack = .script frame :: below
    · obtain ⟨moved, left, routine, leads⟩ := restacks.leads innermost stays
      exact ⟨moved, left, routine, fun other => absurd innermost other,
        fun _ => ⟨leads, fun offset behind before => leads.skipped behind before⟩⟩
    · cases stack : now.stack with
      | nil =>
        rw [stack] at placed
        cases List.suffix_nil.1 placed
      | cons top rest =>
        have waiting := (List.suffix_cons_iff.1 (stack ▸ placed)).resolve_left
          fun same => innermost (stack.trans same.symm)
        obtain ⟨moved, left, same⟩ := restacks.waits stack waiting stays
        exact ⟨moved, left, same.routine, fun _ => same.pc, fun here => absurd here (stack ▸ innermost)⟩

def testing : LinkedRoutine where
  name := "testing"
  sourceFile := ""
  code := #[⟨0x00010058⟩, ⟨0x7fffff5a⟩]
  constants := ⟨#[], #[], #[], #[]⟩
  layout := ⟨1, 0, 0, 0, 0, 0⟩
  lines := .empty

def position? : Activation ν → Option Nat
  | .script frame => some frame.pc
  | .native _ => none

/-- The jump is passed over, and the frame is right behind its code. -/
theorem control_flow_stays_inside_testing :
    let natives : Natives Unit := fun _ _ slots => .finish ⟨.ok 0, slots⟩
    let machine : Machine Unit := ⟨.standard, ⟨#[.script testing]⟩, .empty, [], none⟩
    let now := machine.enter natives ⟨0⟩ [] []
    ∃ frame, now.stack = [.script frame] ∧
      frame.Leads now.config.floatEpsilon testing.code.size := by
  intro natives machine now
  have evaluated : ∃ next ∈ now.step natives, next.depth = 1 ∧
      next.stack.filterMap position? = [testing.code.size] := by
    decide +kernel
  obtain ⟨next, stepped, shallow, positions⟩ := evaluated
  refine ⟨_, rfl, ?_⟩
  obtain ⟨-, -, passes⟩ := control_flow_stays_inside natives machine rfl ⟨0⟩ [] [] 0
  obtain ⟨moved, left, -, -, leads⟩ :=
    passes next _ [] stepped (List.suffix_refl _) (Nat.lt_of_lt_of_eq Nat.one_pos shallow.symm)
  have last := left.filterMap position?
  rw [positions] at last
  have place : moved.pc = testing.code.size := List.singleton_inj.1 (last.eq_of_length rfl)
  exact place ▸ (leads rfl).1

end Machine
end GameScript
