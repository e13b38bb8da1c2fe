import GameScript.Proofs.RunningRegisters

/-! Where a new frame has its arguments. Those of a bank fill its registers in the order given, whatever
stands between them, so a frame is refused exactly if a bank is too small for its arguments. Numbers of
registers have 16 bits, and counting them never goes round. -/

namespace GameScript

def Bank.among (bank : Bank) (values : List Value) : List Value :=
  values.filter fun value => value.bank == bank

namespace Bank

variable {bank : Bank} {value : Value} {values : List Value}

theorem among_append (bank : Bank) (front rest : List Value) :
    bank.among (front ++ rest) = bank.among front ++ bank.among rest := List.filter_append ..

theorem among_self (value : Value) : value.bank.among [value] = [value] := by
  simp [among]

theorem among_other (apart : value.bank ≠ bank) : bank.among [value] = [] := by
  simp [among, apart]

theorem length_among_reverse (bank : Bank) (values : List Value) :
    (bank.among values.reverse).length = (bank.among values).length := by
  rw [among, List.filter_reverse, List.length_reverse, among]

end Bank

theorem Banks.value?_blank (count : Bank → Nat) (bank : Bank) (index : Nat) :
    (blank count).value? bank index =
      if index < count bank then some (Value.of bank bank.blank) else none := by
  cases bank <;> simp only [value?, get?, row, blank, Array.getElem?_replicate] <;> split <;> rfl

/-- Registers, as many as `count` says, after values were put into them: those of a bank in its first
ones, the rest blank. -/
structure Banks.Filled (count : Bank → Nat) (values : List Value) (registers : Banks) : Prop where
  size : ∀ bank, registers.size bank = count bank
  fits : ∀ bank, (bank.among values).length ≤ count bank
  value : ∀ bank index, registers.value? bank index =
    (bank.among values)[index]?.or ((blank count).value? bank index)

namespace Banks.Filled

variable {count : Bank → Nat} {values : List Value} {registers after : Banks} {value : Value}

theorem nil (count : Bank → Nat) : Filled count [] (.blank count) :=
  ⟨size_blank count, fun _ => Nat.zero_le _, fun _ _ => rfl⟩

theorem put (filled : Filled count values registers)
    (inside : (value.bank.among values).length < count value.bank)
    (written : registers.put (value.bank.among values).length value = .ok after) :
    Filled count (values ++ [value]) after := by
  refine ⟨fun bank => (setRegister_size written bank).trans (filled.size bank), fun bank => ?_,
    fun bank index => ?_⟩
  all_goals
    rw [Bank.among_append]
    by_cases same : value.bank = bank
  · subst same
    rw [Bank.among_self, List.length_append]
    exact inside
  · rw [Bank.among_other same, List.append_nil]
    exact filled.fits bank
  · subst same
    rw [Bank.among_self, value?_put written, filled.value]
    split
    next here => simp [here.2]
    next elsewhere =>
      have apart : index ≠ (value.bank.among values).length := fun here => elsewhere ⟨rfl, here.symm⟩
      rcases Nat.lt_or_gt_of_ne apart with before | behind
      · rw [List.getElem?_append_left before]
      · rw [List.getElem?_eq_none (Nat.le_of_lt behind), List.getElem?_eq_none]
        rw [List.length_append]
        exact behind
  · rw [Bank.among_other same, List.append_nil, value?_put written, filled.value,
      if_neg fun both => same both.1]

end Banks.Filled

namespace Frame

variable {function : String} {registers : Banks} {earlier arguments : List Value} {count : Bank → Nat}

theorem place_cons (value : Value) (rest : List Value) :
    place function registers earlier (value :: rest) =
      if (value.bank.among earlier).length < registers.size value.bank then
        registers.put (value.bank.among earlier).length value >>= fun registers =>
          place function registers (value :: earlier) rest
      else .error (.argumentsExceedFrame function value.bank) := by
  rw [place, List.countP_eq_length_filter]
  rfl

/-- The first of the arguments that its bank has no register for, after those that `earlier` were
placed. -/
structure Exceeds (count : Bank → Nat) (earlier arguments front : List Value) (value : Value) :
    Prop where
  first : front ++ [value] <+: arguments
  fits : ∀ bank, (bank.among (earlier ++ front)).length ≤ count bank
  full : (value.bank.among (earlier ++ front)).length = count value.bank

/-- Each argument goes behind those of its bank that are placed already, until one has no room. -/
theorem place_cases (function : String) (arguments : List Value)
    (filled : Banks.Filled count earlier.reverse registers) :
    (∃ after, place function registers earlier arguments = .ok after ∧
      Banks.Filled count (earlier.reverse ++ arguments) after) ∨
    ∃ front value, Exceeds count earlier.reverse arguments front value ∧
      place function registers earlier arguments =
        .error (.argumentsExceedFrame function value.bank) := by
  induction arguments generalizing registers earlier with
  | nil => exact .inl ⟨registers, rfl, by rwa [List.append_nil]⟩
  | cons value rest ih =>
    rw [place_cons, ← Bank.length_among_reverse, filled.size]
    split
    next inside =>
      have written : registers.put (value.bank.among earlier.reverse).length value = .ok _ :=
        if_pos ((filled.size value.bank).symm ▸ inside)
      rw [written]
      have placed := filled.put inside written
      rw [← List.reverse_cons] at placed
      rcases ih placed with ⟨after, done, filled⟩ | ⟨front, other, ⟨first, fits, full⟩, failed⟩
      · refine .inl ⟨after, done, ?_⟩
        rwa [List.reverse_cons, List.append_assoc] at filled
      · rw [List.reverse_cons, List.append_assoc] at full
        simp only [List.reverse_cons, List.append_assoc] at fits
        exact .inr ⟨value :: front, other, ⟨List.cons_prefix_cons.2 ⟨rfl, first⟩, fits, full⟩, failed⟩
    next full =>
      refine .inr ⟨[], value, ⟨by simp, ?_, ?_⟩, rfl⟩
      · simpa using filled.fits
      · rw [List.append_nil]
        exact Nat.le_antisymm (filled.fits _) (Nat.le_of_not_lt full)

/-- Placing with a counter of 16 bits for every bank; none if one of them goes round. -/
def placeCounting (function : String) (registers : Banks) (next : Bank → UInt16) :
    List Value → Option (Except Fault Banks)
  | [] => some (.ok registers)
  | value :: rest =>
    let index := next value.bank
    if index.toNat < registers.size value.bank then
      match registers.put index.toNat value with
      | .ok registers =>
        if index + 1 = 0 then none
        else
          placeCounting function registers
            (fun bank => if value.bank = bank then index + 1 else next bank) rest
      | .error fault => some (.error fault)
    else some (.error (.argumentsExceedFrame function value.bank))

/-- A counter that counts registers of a bank stays below their number, which has 16 bits itself. -/
theorem placeCounting_eq {next : Bank → UInt16}
    (counts : ∀ bank, (next bank).toNat = (bank.among earlier).length)
    (small : ∀ bank, registers.size bank < UInt16.size) :
    placeCounting function registers next arguments =
      some (place function registers earlier arguments) := by
  induction arguments generalizing registers earlier next with
  | nil => rfl
  | cons value rest ih =>
    rw [place_cons, placeCounting, ← counts]
    split
    next inside =>
      cases written : registers.put (next value.bank).toNat value with
      | error fault => rfl
      | ok after =>
        have below := Nat.lt_of_le_of_lt inside (small value.bank)
        have more : (next value.bank + 1).toNat = (next value.bank).toNat + 1 := by
          rw [UInt16.toNat_add]
          exact Nat.mod_eq_of_lt below
        have goes : next value.bank + 1 ≠ 0 := fun round => by
          rw [round] at more
          cases more
        dsimp only
        rw [if_neg goes]
        refine ih (fun bank => ?_) fun bank => ?_
        · split
          next same =>
            subst same
            rw [more, counts]
            simp [Bank.among]
          next apart =>
            rw [counts]
            simp [Bank.among, apart]
        · rw [Banks.setRegister_size written]
          exact small bank
    next => rfl

/-- A new frame of a routine with its arguments. Memory was `heap` before and is `after`. -/
structure Starts (routine : LinkedRoutine) (arguments : List Value) (heap : Heap) (frame : Frame)
    (after : Heap) : Prop where
  size : ∀ bank, frame.registers.size bank = routine.layout.registers bank
  placed : ∀ bank index value, (bank.among arguments)[index]? = some value →
    frame.registers.value? bank index = some value
  blank : ∀ bank index, (bank.among arguments).length ≤ index →
    index < routine.layout.registers bank →
    frame.registers.value? bank index = some (.of bank bank.blank)
  without : routine.layout.extraSpace = 0 → frame.extra = none ∧ after = heap
  /-- With less slots than an index can number, the block has a handle that named nothing before. -/
  extra : routine.layout.extraSpace ≠ 0 → ∃ block, frame.extra = some block ∧
    heap.alloc routine.layout.extraSpace = (block, after) ∧ after.liveBlocks = heap.liveBlocks + 1 ∧
    (after.blocks.Indexed → ¬heap.blocks.Live block.handle ∧
      ∀ handle, after.blocks.get? handle =
        if handle = block.handle then some (.zeroed routine.layout.extraSpace)
        else heap.blocks.get? handle)

variable {routine : LinkedRoutine}

theorem starts_of_enter {results : List Bank} {host : Option (List ResultSlot)} {heap after : Heap}
    {frame : Frame} (entered : enter routine arguments results host heap = .ok (frame, after)) :
    Starts routine arguments heap frame after ∧
      ∀ bank, (bank.among arguments).length ≤ routine.layout.registers bank := by
  obtain ⟨registers, placed, entered⟩ := enter_eq_ok_iff.1 entered
  have blank : Banks.Filled routine.layout.registers ([] : List Value).reverse
    (.blank routine.layout.registers) := .nil _
  have filled : Banks.Filled routine.layout.registers arguments registers := by
    rcases place_cases routine.name arguments blank with ⟨_, same, filled⟩ | ⟨_, _, -, failed⟩
    · cases placed.symm.trans same
      exact filled
    · cases placed.symm.trans failed
  have given : ∀ bank index value, (bank.among arguments)[index]? = some value →
      registers.value? bank index = some value := by
    intro bank index value given
    rw [filled.value, given, Option.some_or]
  have left : ∀ bank index, (bank.among arguments).length ≤ index →
      index < routine.layout.registers bank →
      registers.value? bank index = some (.of bank bank.blank) := by
    intro bank index behind inside
    rw [filled.value, List.getElem?_eq_none behind, Option.none_or, Banks.value?_blank, if_pos inside]
  refine ⟨?_, filled.fits⟩
  unfold fresh at entered
  by_cases none : routine.layout.extraSpace = 0
  · rw [if_pos none] at entered
    cases entered
    exact ⟨filled.size, given, left, fun _ => ⟨rfl, rfl⟩, fun some => absurd none some⟩
  · rw [if_neg none] at entered
    cases entered
    refine ⟨filled.size, given, left, fun empty => absurd empty none, fun _ => ?_⟩
    exact ⟨_, rfl, rfl, Arena.insert_live _ _, Heap.alloc_spec heap routine.layout.extraSpace⟩

theorem enter_eq_error {results : List Bank} {host : Option (List ResultSlot)} {heap left : Heap}
    {fault : Fault} (failed : enter routine arguments results host heap = .error (fault, left)) :
    left = heap ∧ ∃ front value, Exceeds routine.layout.registers [] arguments front value ∧
      fault = .argumentsExceedFrame routine.name value.bank := by
  have blank : Banks.Filled routine.layout.registers ([] : List Value).reverse
    (.blank routine.layout.registers) := .nil _
  obtain ⟨failed, untouched⟩ := enter_eq_error_iff.1 failed
  refine ⟨untouched, ?_⟩
  rcases place_cases routine.name arguments blank with
    ⟨registers, placed, -⟩ | ⟨front, value, exceeds, refused⟩
  · rw [placed] at failed
    cases failed
  · rw [refused] at failed
    cases failed
    exact ⟨front, value, exceeds, rfl⟩

/-- The arguments up to the one that is refused are too many already. -/
theorem Exceeds.not_fits {front : List Value} {value : Value}
    (exceeds : Exceeds count [] arguments front value) :
    ¬∀ bank, (bank.among arguments).length ≤ count bank := by
  intro fits
  have whole : (value.bank.among (front ++ [value])).length ≤ (value.bank.among arguments).length :=
    (exceeds.first.filter _).length_le
  rw [Bank.among_append, Bank.among_self, List.length_append] at whole
  have full := exceeds.full
  rw [List.nil_append] at full
  have room := Nat.le_trans whole (fits value.bank)
  rw [full] at room
  exact Nat.not_succ_le_self _ room

end Frame

theorem Heap.Shrunk.trans {first second third : Heap} (former : Heap.Shrunk first second)
    (latter : Heap.Shrunk second third) : Heap.Shrunk first third :=
  fun block content found => former block content (latter block content found)

theorem Machine.shrunk_unwind (machine : Machine ν) (abort : Abort) :
    Heap.Shrunk machine.world.heap (machine.unwind abort).world.heap := by
  have frees : ∀ (stack : List (Activation ν)) abort heap,
      Heap.Shrunk heap (unwindStack abort heap stack).2.1 := by
    intro stack
    induction stack with
    | nil => exact fun _ _ _ _ found => found
    | cons activation below ih =>
      intro abort heap
      cases activation with
      | native call => exact fun _ _ found => found
      | script frame =>
        have released : Heap.Shrunk heap (frame.release heap) := Heap.shrunk_freeAll heap frame.owned
        rw [unwindStack]
        cases frame.host with
        | some slots => exact released
        | none => exact released.trans (ih _ _)
  exact frees machine.stack abort machine.world.heap

/-- A frame is entered exactly if each bank has a register for all of its arguments. They are in its
first registers then, and the frame has a new block if its layout asks for memory. Otherwise no
memory is taken, and the fault names the bank of the first argument that has no register. -/
theorem arguments_fill_banks (routine : LinkedRoutine) (arguments : List Value) :
    (∀ results host heap,
      ((∃ entered, Frame.enter routine arguments results host heap = .ok entered) ↔
        ∀ bank, (bank.among arguments).length ≤ routine.layout.registers bank) ∧
      (∀ frame after, Frame.enter routine arguments results host heap = .ok (frame, after) →
        Frame.Starts routine arguments heap frame after) ∧
      ∀ fault left, Frame.enter routine arguments results host heap = .error (fault, left) →
        left = heap ∧ ∃ front value, Frame.Exceeds routine.layout.registers [] arguments front value ∧
          fault = .argumentsExceedFrame routine.name value.bank) ∧
    (∀ {ν : Type} (natives : Natives ν) (machine : Machine ν),
      (∀ id slots failed, machine.library.get id = .ok (.script routine) →
        Frame.enter routine arguments (slots.map ResultSlot.bank) (some slots) machine.world.heap =
          .error failed →
        (machine.enter natives id arguments slots).world = machine.world) ∧
      ∀ frame below request failed, request.callee = .script routine → request.arguments = arguments →
        Frame.enter routine arguments (request.pending.targets.map ResultTarget.bank) none
          machine.world.heap = .error failed →
        Heap.Shrunk machine.world.heap
          (machine.callFromFrame natives frame below request).world.heap) ∧
    Frame.placeCounting routine.name (.blank routine.layout.registers) (fun _ => 0) arguments =
      some (Frame.place routine.name (.blank routine.layout.registers) [] arguments) := by
  refine ⟨fun results host heap => ?_, fun natives machine => ⟨?_, ?_⟩, ?_⟩
  · cases entered : Frame.enter routine arguments results host heap with
    | ok made =>
      obtain ⟨starts, fits⟩ := Frame.starts_of_enter entered
      refine ⟨iff_of_true ⟨made, rfl⟩ fits, fun frame after same => ?_, nofun⟩
      cases same
      exact starts
    | error failed =>
      obtain ⟨fault, left⟩ := failed
      obtain ⟨untouched, front, value, exceeds, named⟩ := Frame.enter_eq_error entered
      refine ⟨iff_of_false nofun exceeds.not_fits, nofun, fun other after same => ?_⟩
      cases same
      exact ⟨untouched, front, value, exceeds, named⟩
  · rintro id slots ⟨fault, left⟩ script refused
    obtain ⟨rfl, -⟩ := Frame.enter_eq_error refused
    unfold Machine.enter
    split
    next => rfl
    next => simp only [script, refused]; rfl
  · rintro frame below request ⟨fault, left⟩ script rfl refused
    obtain ⟨rfl, -⟩ := Frame.enter_eq_error refused
    simp only [Machine.callFromFrame, script, refused]
    exact Machine.shrunk_unwind _ _
  · refine Frame.placeCounting_eq (fun _ => rfl) fun bank => ?_
    rw [Banks.size_blank]
    exact routine.layout.registers_lt bank

def supplied : LinkedRoutine :=
  ⟨"supplied", "", #[], .blank fun _ => 0, ⟨3, 0, 0, 1, 0, 8⟩, .empty⟩

/-- The pointer does not keep the second number from the second register; a text has no register at
all. -/
theorem arguments_fill_banks_supplied :
    (∃ frame after, Frame.enter supplied [.int 5, .pointer .null, .int 7] [] none .empty =
        .ok (frame, after) ∧
      frame.registers.value? .int 1 = some (.int 7) ∧
      frame.registers.value? .int 2 = some (.int 0) ∧ after.liveBlocks = 1) ∧
    ∃ front value, Frame.Exceeds supplied.layout.registers [] [.int 5, .string "six", .int 7] front
      value ∧ value.bank = .string := by
  constructor
  · obtain ⟨enters, starts, -⟩ :=
      (arguments_fill_banks supplied [.int 5, .pointer .null, .int 7]).1 [] none .empty
    obtain ⟨⟨frame, after⟩, entered⟩ := enters.2 fun bank => by cases bank <;> decide
    have starts := starts frame after entered
    refine ⟨frame, after, entered, starts.placed .int 1 (.int 7) rfl, ?_, ?_⟩
    · exact starts.blank .int 2 (Nat.le_refl 2) (by decide)
    · obtain ⟨_, -, -, count, -⟩ := starts.extra (by decide)
      exact count
  · obtain ⟨-, front, value, exceeds, named⟩ :=
      ((arguments_fill_banks supplied [.int 5, .string "six", .int 7]).1 [] none .empty).2.2
        (.argumentsExceedFrame "supplied" .string) _ rfl
    exact ⟨front, value, exceeds, (Fault.argumentsExceedFrame.inj named).2.symm⟩

end GameScript
