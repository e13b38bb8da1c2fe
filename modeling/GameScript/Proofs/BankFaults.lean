import GameScript.Machine.Perform
import GameScript.Proofs.HeapBlocks

/-! Failing for want of a register, of a constant or of room to stage, or by leaving the code. An abort
keeps only the text of the fault behind it, but the texts of these faults are unlike each other and
that of any other fault; and only the registers, the pools, the staging area and the code themselves
give them. -/

namespace GameScript

def Fault.lacksRegister : Fault → Bool
  | .registerOutOfRange .. => true
  | _ => false

def Fault.lacksConstant : Fault → Bool
  | .constantOutOfRange .. => true
  | _ => false

def Fault.leavesCode : Fault → Bool
  | .codeOutOfRange .. => true
  | _ => false

def Fault.overflowsStaging : Fault → Bool
  | .stagingOverflow .. => true
  | _ => false

/-- The abort of a routine that named a register its frame has not. -/
def Abort.LacksRegister (abort : Abort) : Prop :=
  ∃ bank index available, abort = .ofFault (.registerOutOfRange bank index available)

def Abort.LacksConstant (abort : Abort) : Prop :=
  ∃ bank index available, abort = .ofFault (.constantOutOfRange bank index available)

def Abort.LeavesCode (abort : Abort) : Prop :=
  ∃ pc length, abort = .ofFault (.codeOutOfRange pc length)

def Abort.OverflowsStaging (abort : Abort) : Prop :=
  ∃ capacity, abort = .ofFault (.stagingOverflow capacity)

/-- The next instruction ends the frame with a text of its own, which may be any. -/
def Frame.Throws (frame : Frame) (abort : Abort) : Prop :=
  frame.operationAt? frame.pc = some .throw ∧
    ∃ detail ∈ frame.routine.constants.strings, abort = .withDetail .contractViolation detail

def Opens (first text : String) : Prop := first.toList <+: text.toList

namespace Opens

variable {first text : String}

theorem refl (text : String) : Opens text text := List.prefix_refl _

theorem append (opens : Opens first text) (more : String) : Opens first (text ++ more) := by
  rw [Opens, String.toList_append]
  exact opens.trans (List.prefix_append _ _)

theorem after (opens : Opens first text) (before : String) :
    Opens (before ++ first) (before ++ text) := by
  rw [Opens, String.toList_append, String.toList_append]
  exact (List.prefix_append_right_inj _).2 opens

end Opens

def clash : List Char → List Char → Bool
  | c :: rest, d :: others => c != d || clash rest others
  | _, _ => false

theorem append_ne_of_clash {first second rest others : List Char}
    (clashing : clash first second = true) : first ++ rest ≠ second ++ others := by
  induction first generalizing second with
  | nil => cases clashing
  | cons c front ih =>
    cases second with
    | nil => cases clashing
    | cons d back =>
      intro same
      obtain ⟨rfl, tails⟩ := List.cons.inj same
      refine ih ?_ tails
      simpa [clash] using clashing

theorem Opens.ne_of_clash {first second text other : String} (opens : Opens first text)
    (opensOther : Opens second other) (clashing : clash first.toList second.toList = true) :
    text ≠ other := by
  rintro rfl
  obtain ⟨rest, joined⟩ := opens
  obtain ⟨others, joinedOther⟩ := opensOther
  exact append_ne_of_clash clashing (joined.trans joinedOther.symm)

/-- A byte is shown with a digit at its end. -/
theorem getLast?_hexByte (byte : UInt8) :
    ∃ digit : Nat, (Text.hexByte byte).toList.getLast? = some digit.digitChar := by
  have last : ∃ digit : Nat, (Text.hex byte.toNat).toList.getLast? = some digit.digitChar := by
    rw [Text.hex, String.toList_ofList, Nat.toDigits_eq_if (by decide)]
    split
    · exact ⟨byte.toNat, rfl⟩
    · exact ⟨byte.toNat % 16, List.getLast?_concat⟩
  obtain ⟨digit, last⟩ := last
  refine ⟨digit, ?_⟩
  unfold Text.hexByte
  split
  · rw [String.toList_append, List.getLast?_append, last, Option.some_or]
  · exact last

theorem Pointer.opens_text (pointer : Pointer) :
    Opens "null" pointer.text ∨ Opens "0x" pointer.text := by
  cases pointer with
  | null => exact .inl (.refl _)
  | _ => exact .inr ((Opens.refl _).append _)

namespace Fault

variable {fault : Fault} {bank : Bank} {index available : Nat}

theorem opens_registerOutOfRange :
    Opens (bank.name ++ " register ") (registerOutOfRange bank index available).message :=
  (((((Opens.refl _).append _).append _).append _).append _).after _

theorem opens_constantOutOfRange :
    Opens (bank.name ++ " constant ") (constantOutOfRange bank index available).message :=
  (((((Opens.refl _).append _).append _).append _).append _).after _

theorem opens_codeOutOfRange {pc length : Nat} :
    Opens "instruction pointer " (codeOutOfRange pc length).message :=
  ((((Opens.refl _).append _).append _).append _).append _

theorem opens_stagingOverflow {capacity : Nat} :
    Opens "parameter staging overflow (" (stagingOverflow capacity).message :=
  ((Opens.refl _).append _).append _

theorem getLast?_registerOutOfRange :
    (registerOutOfRange bank index available).message.toList.getLast? = some ')' := by
  have shown : (registerOutOfRange bank index available).message =
      bank.name ++ (" register " ++ toString index ++ " out of range (" ++ toString available ++
        " declared)") := rfl
  have last : " declared)".toList.getLast? = some ')' := by decide
  rw [shown, String.toList_append, String.toList_append, List.getLast?_append,
    List.getLast?_append, last]
  rfl

theorem getLast?_constantOutOfRange :
    (constantOutOfRange bank index available).message.toList.getLast? = some ')' := by
  have shown : (constantOutOfRange bank index available).message =
      bank.name ++ (" constant " ++ toString index ++ " out of range (" ++ toString available ++
        " in pool)") := rfl
  have last : " in pool)".toList.getLast? = some ')' := by decide
  rw [shown, String.toList_append, String.toList_append, List.getLast?_append,
    List.getLast?_append, last]
  rfl

theorem getLast?_codeOutOfRange {pc length : Nat} :
    (codeOutOfRange pc length).message.toList.getLast? = some 's' := by
  have shown : (codeOutOfRange pc length).message =
      ("instruction pointer " ++ toString pc ++ " outside code of " ++ toString length) ++ " words" :=
    rfl
  have last : " words".toList.getLast? = some 's' := by decide
  rw [shown, String.toList_append, List.getLast?_append, last]
  rfl

theorem getLast?_stagingOverflow {capacity : Nat} :
    (stagingOverflow capacity).message.toList.getLast? = some ')' := by
  have shown : (stagingOverflow capacity).message =
      ("parameter staging overflow (" ++ toString capacity) ++ " slots declared)" := rfl
  have last : " slots declared)".toList.getLast? = some ')' := by decide
  rw [shown, String.toList_append, List.getLast?_append, last]
  rfl

theorem getLast?_unsupportedOperand {mnemonic : String} {tag : OperandTag} :
    ∃ digit : Nat,
      (unsupportedOperand mnemonic tag).message.toList.getLast? = some digit.digitChar := by
  have shown : (unsupportedOperand mnemonic tag).message =
      mnemonic ++ " does not accept operand type 0x" ++ Text.hexByte tag.bits := rfl
  obtain ⟨digit, last⟩ := getLast?_hexByte tag.bits
  exact ⟨digit, by rw [shown, String.toList_append, List.getLast?_append, last, Option.some_or]⟩

def lacking : Fault → Option String
  | registerOutOfRange .. => some " register "
  | constantOutOfRange .. => some " constant "
  | _ => none

/-- A fault that lacks neither a register nor a constant, does not leave the code and does not overflow
the staging area. -/
def Ordinary (fault : Fault) : Prop :=
  fault.lacking = none ∧ fault.leavesCode = false ∧ fault.overflowsStaging = false

theorem Ordinary.lacksRegister {fault : Fault} (ordinary : fault.Ordinary) :
    fault.lacksRegister = false := by
  cases fault <;> first | rfl | cases ordinary.1

/-- Whether a fault may come from any instruction whose constants are there and that stages no more
than there is room for. -/
def plain : Fault → Bool
  | constantOutOfRange .. | codeOutOfRange .. | stagingOverflow .. => false
  | _ => true

theorem Ordinary.plain {fault : Fault} (ordinary : fault.Ordinary) : fault.plain = true := by
  cases fault with
  | constantOutOfRange => cases ordinary.1
  | codeOutOfRange => cases ordinary.2.1
  | stagingOverflow => cases ordinary.2.2
  | _ => rfl

theorem plain_of_lacksConstant (lacks : fault.lacksConstant = true) : fault.plain = false := by
  cases fault <;> first | rfl | cases lacks

theorem plain_of_leavesCode (leaves : fault.leavesCode = true) : fault.plain = false := by
  cases fault <;> first | rfl | cases leaves

theorem plain_of_overflowsStaging (overflows : fault.overflowsStaging = true) :
    fault.plain = false := by
  cases fault <;> first | rfl | cases overflows

def ordinaryOpenings : List String :=
  ["invalid opcode 0x", "instruction after ", "expected RESULT marker at ", "RESULT marker at ",
    "unknown ", "call consumes ", "arguments overflow the ", "return slot ", "pointer null",
    "pointer 0x", "pointers ", "access of ", "offset ", "dangling ", "unknown name index ",
    "undefined function: ", "undefined function id ", "undefined class: ", "class ",
    "no active frame", "execution ran past the end of ", "duplicate function: "]

theorem opens_of_ordinary (ordinary : fault.Ordinary)
    (supported : ∀ mnemonic tag, fault ≠ unsupportedOperand mnemonic tag) :
    ∃ first ∈ ordinaryOpenings, Opens first fault.message := by
  have pointed {rest : String} {pointer : Pointer}
      (shown : fault.message = "pointer " ++ pointer.text ++ rest) :
      ∃ first ∈ ordinaryOpenings, Opens first fault.message := by
    rw [shown]
    rcases pointer.opens_text with null | shows
    · exact ⟨_, by decide, (null.after "pointer ").append rest⟩
    · exact ⟨_, by decide, (shows.after "pointer ").append rest⟩
  cases fault with
  | registerOutOfRange | constantOutOfRange => cases ordinary.1
  | codeOutOfRange => cases ordinary.2.1
  | stagingOverflow => cases ordinary.2.2
  | unsupportedOperand mnemonic tag => exact absurd rfl (supported mnemonic tag)
  | notAFunction | notAnObject | notAClass | notAddressable => exact pointed rfl
  | noActiveFrame => exact ⟨_, by decide, .refl _⟩
  | expectedResult | unknownName | undefinedFunction | undefinedFunctionId | undefinedClass
  | fellOffEnd | duplicateFunction => exact ⟨_, by decide, (Opens.refl _).append _⟩
  | strayResult => exact ⟨_, by decide, ((Opens.refl _).append _).append _⟩
  | invalidOpcode | unknownSelector | argumentsExceedFrame | slotMismatch | dangling
  | virtualOutOfRange => exact ⟨_, by decide, (((Opens.refl _).append _).append _).append _⟩
  | expectedJump | stagingUnderflow | unrelatedPointers =>
    exact ⟨_, by decide, ((((Opens.refl _).append _).append _).append _).append _⟩
  | returnMismatch =>
    exact ⟨_, by decide, (((((Opens.refl _).append _).append _).append _).append _).append _⟩
  | addressOutOfRange =>
    exact ⟨_, by decide,
      ((((((Opens.refl _).append _).append _).append _).append _).append _).append _⟩

/-- A message that begins like none of the others and does not end with a digit is not that of an
ordinary fault. -/
theorem not_ordinary_of_opens {special : String} {letter : Char}
    (clashing : (ordinaryOpenings.all fun first => clash first.toList special.toList) = true)
    (opening : Opens special fault.message) (last : fault.message.toList.getLast? = some letter)
    (unlike : ∀ digit : Nat, digit.digitChar ≠ letter) : ¬fault.Ordinary := by
  intro ordinary
  have supported (mnemonic : String) (tag : OperandTag) : fault ≠ unsupportedOperand mnemonic tag := by
    rintro rfl
    -- It may begin with anything, but it ends with a digit.
    obtain ⟨digit, shown⟩ := getLast?_unsupportedOperand
    exact unlike digit (Option.some.inj (shown.symm.trans last))
  obtain ⟨first, listed, opens⟩ := opens_of_ordinary ordinary supported
  exact opens.ne_of_clash opening (List.all_eq_true.1 clashing first listed) rfl

/-- Only a missing register or constant is reported as one. -/
theorem lacking_of_opens {row : String} (listed : row = " register " ∨ row = " constant ")
    (opening : Opens (bank.name ++ row) fault.message)
    (last : fault.message.toList.getLast? = some ')') : fault.lacking = some row := by
  have other {first : String} (opens : Opens first fault.message)
      (clashing : (Bank.all.all fun bank =>
        clash first.toList (bank.name ++ row).toList) = true) :
      fault.lacking = some row := by
    have mine := List.all_eq_true.1 clashing bank (by cases bank <;> decide)
    exact absurd rfl (opens.ne_of_clash opening mine)
  have special : ¬fault.Ordinary := by
    refine not_ordinary_of_opens ?_ opening last fun digit => Nat.digitChar_ne _ (by decide)
    rcases listed with rfl | rfl <;> cases bank <;> decide
  cases fault with
  | registerOutOfRange registers =>
    rcases listed with rfl | rfl
    · rfl
    · refine other opens_registerOutOfRange ?_
      cases registers <;> decide
  | constantOutOfRange constants =>
    rcases listed with rfl | rfl
    · refine other opens_constantOutOfRange ?_
      cases constants <;> decide
    · rfl
  | codeOutOfRange =>
    refine other opens_codeOutOfRange ?_
    rcases listed with rfl | rfl <;> decide
  | stagingOverflow =>
    refine other opens_stagingOverflow ?_
    rcases listed with rfl | rfl <;> decide
  | _ => exact absurd ⟨rfl, rfl, rfl⟩ special

theorem lacksRegister_of_ofFault (lacks : (Abort.ofFault fault).LacksRegister) :
    fault.lacksRegister = true := by
  obtain ⟨bank, index, available, same⟩ := lacks
  have shown := Option.some.inj (congrArg Abort.detail same)
  have lacking : fault.lacking = some " register " :=
    lacking_of_opens (.inl rfl) (shown ▸ opens_registerOutOfRange)
      (shown ▸ getLast?_registerOutOfRange)
  cases fault <;> first | rfl | simp [Fault.lacking] at lacking

theorem lacksConstant_of_ofFault (lacks : (Abort.ofFault fault).LacksConstant) :
    fault.lacksConstant = true := by
  obtain ⟨bank, index, available, same⟩ := lacks
  have shown := Option.some.inj (congrArg Abort.detail same)
  have lacking : fault.lacking = some " constant " :=
    lacking_of_opens (.inr rfl) (shown ▸ opens_constantOutOfRange)
      (shown ▸ getLast?_constantOutOfRange)
  cases fault <;> first | rfl | simp [Fault.lacking] at lacking

/-- What begins neither like an ordinary fault nor with a bank leaves the code or overflows. -/
theorem leaves_or_overflows_of_opens {first : String} {letter : Char}
    (clashing : (ordinaryOpenings.all fun other => clash other.toList first.toList) = true)
    (apart : (Bank.all.all fun bank => clash (bank.name ++ " register ").toList first.toList &&
      clash (bank.name ++ " constant ").toList first.toList) = true)
    (opening : Opens first fault.message) (last : fault.message.toList.getLast? = some letter)
    (unlike : ∀ digit : Nat, digit.digitChar ≠ letter) :
    fault.leavesCode = true ∨ fault.overflowsStaging = true := by
  have special : ¬fault.Ordinary := not_ordinary_of_opens clashing opening last unlike
  have named (bank : Bank) := List.all_eq_true.1 apart bank (by cases bank <;> decide)
  simp only [Bool.and_eq_true] at named
  cases fault with
  | registerOutOfRange bank =>
    exact absurd rfl (opens_registerOutOfRange.ne_of_clash opening (named bank).1)
  | constantOutOfRange bank =>
    exact absurd rfl (opens_constantOutOfRange.ne_of_clash opening (named bank).2)
  | codeOutOfRange => exact .inl rfl
  | stagingOverflow => exact .inr rfl
  | _ => exact absurd ⟨rfl, rfl, rfl⟩ special

theorem leavesCode_of_ofFault (leaves : (Abort.ofFault fault).LeavesCode) :
    fault.leavesCode = true := by
  obtain ⟨pc, length, same⟩ := leaves
  have shown := Option.some.inj (congrArg Abort.detail same)
  have opening : Opens "instruction pointer " fault.message := shown ▸ opens_codeOutOfRange
  refine (leaves_or_overflows_of_opens (by decide +kernel) (by decide +kernel) opening
    (shown ▸ getLast?_codeOutOfRange)
    fun digit => Nat.digitChar_ne _ (by decide)).resolve_right fun overflows => ?_
  cases fault with
  | stagingOverflow => exact opens_stagingOverflow.ne_of_clash opening (by decide) rfl
  | _ => cases overflows

theorem overflowsStaging_of_ofFault (overflows : (Abort.ofFault fault).OverflowsStaging) :
    fault.overflowsStaging = true := by
  obtain ⟨capacity, same⟩ := overflows
  have shown := Option.some.inj (congrArg Abort.detail same)
  have opening : Opens "parameter staging overflow (" fault.message := shown ▸ opens_stagingOverflow
  refine (leaves_or_overflows_of_opens (by decide +kernel) (by decide +kernel) opening
    (shown ▸ getLast?_stagingOverflow)
    fun digit => Nat.digitChar_ne _ (by decide)).resolve_left fun leaves => ?_
  cases fault with
  | codeOutOfRange => exact opens_codeOutOfRange.ne_of_clash opening (by decide) rfl
  | _ => cases leaves

end Fault

def FailsOnly (faults : Fault → Prop) (result : Except Fault α) : Prop :=
  ∀ fault, result = .error fault → faults fault

section FailsOnly

variable {faults : Fault → Prop}

@[grind ←] theorem failsOnly_ok (value : α) : FailsOnly faults (.ok value) := by
  intro fault failed
  cases failed

@[grind ←] theorem failsOnly_pure (value : α) : FailsOnly faults (pure value : Except Fault α) :=
  failsOnly_ok value

@[grind ←] theorem failsOnly_error {fault : Fault} (member : faults fault) :
    FailsOnly faults (.error fault : Except Fault α) := by
  intro other failed
  cases failed
  exact member

@[grind ←] theorem failsOnly_bind {first : Except Fault α} {next : α → Except Fault β}
    (fails : FailsOnly faults first) (rest : ∀ value, FailsOnly faults (next value)) :
    FailsOnly faults (first >>= next) := by
  cases first with
  | ok value => exact rest value
  | error fault => exact failsOnly_error (fails fault rfl)

@[grind ←] theorem failsOnly_map {result : Except Fault α} (f : α → β)
    (fails : FailsOnly faults result) : FailsOnly faults (result.map f) := by
  cases result with
  | ok value => exact failsOnly_ok _
  | error fault => exact failsOnly_error (fails fault rfl)

end FailsOnly

def Spares (result : Except Fault α) : Prop :=
  ∀ fault, result = .error fault → fault.lacksRegister = false

@[grind ←] theorem FailsOnly.spares {result : Except Fault α}
    (ordinary : FailsOnly Fault.Ordinary result) : Spares result :=
  fun fault failed => (ordinary fault failed).lacksRegister

attribute [grind =] Fault.lacking Fault.lacksRegister Fault.leavesCode Fault.overflowsStaging
  Fault.Ordinary

@[grind ←] theorem ordinary_ofSelector (result : Except UnknownSelector α) :
    FailsOnly Fault.Ordinary (Fault.ofSelector result) := by
  cases result with
  | ok value => exact failsOnly_ok value
  | error unknown => exact failsOnly_error ⟨rfl, rfl, rfl⟩

namespace Block

variable (block : Block) (offset : UInt32)

@[grind ←] theorem ordinary_check (width : Nat) :
    FailsOnly Fault.Ordinary (block.check offset width) := by
  unfold check
  grind

@[grind ←] theorem ordinary_read (width : Nat) :
    FailsOnly Fault.Ordinary (block.read offset width) := by
  unfold read
  grind

@[grind ←] theorem ordinary_write (data : List UInt8) :
    FailsOnly Fault.Ordinary (block.write offset data) := by
  unfold write
  grind

@[grind ←] theorem ordinary_readString : FailsOnly Fault.Ordinary (block.readString offset) := by
  unfold readString
  grind

@[grind ←] theorem ordinary_readPointer : FailsOnly Fault.Ordinary (block.readPointer offset) := by
  unfold readPointer
  grind

@[grind ←] theorem ordinary_store (value : Stored) :
    FailsOnly Fault.Ordinary (block.store offset value) := by
  unfold store
  grind

@[grind ←] theorem ordinary_writePointer (value : Pointer) :
    FailsOnly Fault.Ordinary (block.writePointer offset value) := by
  unfold writePointer
  grind

end Block

namespace Heap

variable (heap : Heap) (position : Address)

@[grind ←] theorem ordinary_block (id : BlockId) : FailsOnly Fault.Ordinary (heap.block id) := by
  unfold block
  grind

@[grind ←] theorem ordinary_object (ref : ObjectRef) :
    FailsOnly Fault.Ordinary (heap.object ref) := by
  unfold object
  grind

@[grind ←] theorem ordinary_objectClass (ref : ObjectRef) :
    FailsOnly Fault.Ordinary (heap.objectClass ref) := by
  unfold objectClass
  grind

@[grind ←] theorem ordinary_resolve (pointer : Pointer) :
    FailsOnly Fault.Ordinary (heap.resolve pointer) := by
  unfold resolve
  grind

@[grind ←] theorem ordinary_displace (delta : Int) :
    FailsOnly Fault.Ordinary (heap.displace position delta) := by
  unfold displace
  grind

@[grind ←] theorem ordinary_update {change : Block → UInt32 → Except Fault Block}
    (changes : ∀ block offset, FailsOnly Fault.Ordinary (change block offset)) :
    FailsOnly Fault.Ordinary (heap.update position change) := by
  unfold update
  grind

@[grind ←] theorem ordinary_readBytes (width : Nat) :
    FailsOnly Fault.Ordinary (heap.readBytes position width) := by
  unfold readBytes
  grind

@[grind ←] theorem ordinary_writeBytes (data : List UInt8) :
    FailsOnly Fault.Ordinary (heap.writeBytes position data) :=
  ordinary_update heap position fun block offset => block.ordinary_write offset data

@[grind ←] theorem ordinary_readString : FailsOnly Fault.Ordinary (heap.readString position) := by
  unfold readString
  grind

@[grind ←] theorem ordinary_writeString (value : String) :
    FailsOnly Fault.Ordinary (heap.writeString position value) :=
  ordinary_update heap position fun block offset => block.ordinary_store offset _

@[grind ←] theorem ordinary_readPointer : FailsOnly Fault.Ordinary (heap.readPointer position) := by
  unfold readPointer
  grind

@[grind ←] theorem ordinary_writePointer (value : Pointer) :
    FailsOnly Fault.Ordinary (heap.writePointer position value) :=
  ordinary_update heap position fun block offset => block.ordinary_writePointer offset value

@[grind ←] theorem ordinary_readText : FailsOnly Fault.Ordinary (heap.readText position) := by
  unfold readText
  grind

@[grind ←] theorem ordinary_free (id : BlockId) : FailsOnly Fault.Ordinary (heap.free id) := by
  unfold free
  grind

@[grind ←] theorem ordinary_writeValue (value : Value) :
    FailsOnly Fault.Ordinary (heap.writeValue position value) := by
  unfold writeValue
  grind

@[grind ←] theorem ordinary_unbox (bank : Bank) (cell : BlockId) :
    FailsOnly Fault.Ordinary (heap.unbox bank cell) := by
  unfold unbox readValue
  cases bank <;> grind

@[grind ←] theorem ordinary_box (value : Value) : FailsOnly Fault.Ordinary (heap.box value) := by
  unfold box
  grind

end Heap

namespace Banks

variable {pool : Banks} {fault : Fault}

theorem get?_of_constant {bank : Bank} {index : Nat} {content : bank.Content}
    (read : pool.constant bank index = .ok content) : pool.get? bank index = some content := by
  unfold constant at read
  split at read
  next held =>
    cases read
    exact held
  next => cases read

theorem constant_eq_error {bank : Bank} {index : Nat}
    (failed : pool.constant bank index = .error fault) :
    pool.size bank ≤ index ∧ fault = .constantOutOfRange bank index (pool.size bank) := by
  unfold constant at failed
  split at failed
  next => cases failed
  next missing =>
    cases failed
    exact ⟨Array.getElem?_eq_none_iff.1 missing, rfl⟩

theorem constantVector_eq_error {count start : Nat}
    (failed : pool.constantVector count start = .error fault) :
    pool.floats.size < start + count ∧
      fault = .constantOutOfRange .float (max start pool.floats.size) pool.floats.size := by
  unfold constantVector at failed
  split at failed
  next => cases failed
  next outside =>
    cases failed
    exact ⟨Nat.lt_of_not_le outside, rfl⟩

@[grind ←] theorem spares_constant (pool : Banks) (bank : Bank) (index : Nat) :
    Spares (pool.constant bank index) := by
  intro fault failed
  rw [(constant_eq_error failed).2]
  rfl

@[grind ←] theorem spares_constantVector (pool : Banks) (count start : Nat) :
    Spares (pool.constantVector count start) := by
  intro fault failed
  rw [(constantVector_eq_error failed).2]
  rfl

end Banks

@[grind ←] theorem Library.ordinary_get (library : Library ν) (id : FunctionId) :
    FailsOnly Fault.Ordinary (library.get id) := by
  unfold get
  grind

namespace Frame

theorem jump_eq_error {frame : Frame} {start : Nat} {delta : Int} {fault : Fault}
    (failed : frame.jump start delta = .error fault) :
    ∃ target, fault = .codeOutOfRange target frame.routine.code.size := by
  unfold jump at failed
  dsimp only at failed
  split at failed
  next => cases failed
  next => exact ⟨_, (Except.error.inj failed).symm⟩

theorem spares_jump (frame : Frame) (start : Nat) (delta : Int) : Spares (frame.jump start delta) := by
  intro fault failed
  obtain ⟨target, rfl⟩ := jump_eq_error failed
  rfl

@[grind ←] theorem ordinary_storeResult (frame : Frame) (position : Nat) (value : Value) :
    FailsOnly Fault.Ordinary (frame.storeResult position value) := by
  unfold storeResult ResultSlot.set
  grind

end Frame

namespace LinkedRoutine

/-- One past the end, the code has been run through; further out it has been left. -/
theorem word_eq_error {routine : LinkedRoutine} {offset : Nat} {fault : Fault}
    (failed : routine.word offset = .error fault) :
    offset = routine.code.size ∧ fault = .fellOffEnd routine.name ∨
      routine.code.size < offset ∧ fault = .codeOutOfRange offset routine.code.size := by
  unfold word at failed
  split at failed
  next ended => exact .inl ⟨ended, (Except.error.inj failed).symm⟩
  next inside =>
    split at failed
    next => cases failed
    next missing =>
      have outside := Array.getElem?_eq_none_iff.1 missing
      exact .inr ⟨by omega, (Except.error.inj failed).symm⟩

theorem spares_word (routine : LinkedRoutine) (offset : Nat) : Spares (routine.word offset) := by
  intro fault failed
  obtain ⟨-, rfl⟩ | ⟨-, rfl⟩ := word_eq_error failed <;> rfl

end LinkedRoutine

/-- The fault of a restored state comes from before, from the copying or from the freeing. -/
theorem Restored.step_fails {faults : Fault → Prop} {state : Restored} {writeback : Writeback}
    (earlier : ∀ fault, state.fault = some fault → faults fault)
    (copied : FailsOnly faults (do
      state.registers.put writeback.register.toNat
        (← state.heap.unbox writeback.bank writeback.cell)))
    (freed : FailsOnly faults (state.heap.free writeback.cell)) (fault : Fault)
    (found : (state.step writeback).fault = some fault) : faults fault := by
  unfold Restored.step at found
  dsimp only at found
  cases known : state.fault with
  | some old =>
    rw [known] at found
    exact earlier fault (known.trans found)
  | none =>
    rw [known] at found
    split at found
    next =>
      split at found
      next => cases found
      next failed =>
        cases found
        exact freed fault failed
    next failed =>
      cases found
      exact copied fault failed

/-- If the computation aborts, it says no more than the kind of the abort. -/
def Terse (result : Except Abort α) : Prop :=
  ∀ abort, result = .error abort → ∃ kind, abort = .of kind

theorem terse_ok (value : α) : Terse (.ok value) := by
  intro abort failed
  cases failed

theorem terse_map {result : Except Abort α} (terse : Terse result) (f : α → β) :
    Terse (f <$> result) := by
  cases result with
  | ok value => exact terse_ok _
  | error abort =>
    intro other failed
    cases failed
    exact terse abort rfl

theorem terse_divisor (value : Int32) : Terse (divisor value) := by
  intro abort failed
  unfold divisor at failed
  split at failed
  next => exact ⟨_, (Except.error.inj failed).symm⟩
  next => cases failed

@[grind ←] theorem terse_floatDivisor (value : Double) : Terse (floatDivisor value) := by
  intro abort failed
  unfold floatDivisor at failed
  split at failed
  next => exact ⟨_, (Except.error.inj failed).symm⟩
  next => cases failed

theorem IntFunction.terse_apply (f : IntFunction) (x y : Int32) : Terse (f.apply x y) := by
  cases f with
  | div | divUnsigned | mod | modUnsigned => exact terse_map (terse_divisor y) _
  | _ => exact terse_ok _

theorem FloatBinary.terse_apply (f : FloatBinary) (x y : Double) : Terse (f.apply x y) := by
  cases f with
  | div | mod => exact terse_map (terse_floatDivisor y) _
  | _ => exact terse_ok _

end GameScript
