import GameScript.Assembly.Source
import GameScript.Machine.Call

/-! Native functions that come with the machine: for output, for arithmetic, for looking into the
machine and for handling its memory. -/

namespace GameScript

inductive Service where
  /-- Writes all arguments on a line. -/
  | print
  /-- The sum of the integers. -/
  | add
  /-- The sum of the floats. -/
  | sumFloats
  /-- Gives its arguments back. -/
  | echo
  /-- Gives its arguments back, whatever banks the caller asked for. -/
  | echoUnchecked
  /-- Writes the banks that the caller asked for. -/
  | banks
  /-- Calls the function given first with the other arguments. -/
  | invoke
  /-- Like `invoke`, but only writes an abort on a line. -/
  | attempt
  /-- Aborts. -/
  | throw
  /-- Collects garbage, with the pointers given as further roots, and gives the number of objects
  freed. -/
  | collect
  /-- Writes the roots on a line. -/
  | roots
  /-- How many functions are running. -/
  | depth
  /-- Assembles and loads the program text given, and gives the number of its routines. -/
  | reload
  /-- A new object of the class given. -/
  | newObject
  /-- The address of a new block of the size given, cut to 16 bits. -/
  | alloc
  | free
  /-- Doubles the integer at the address given. -/
  | double
deriving DecidableEq, Repr

namespace Service

/-- Gives one value as the first result, if the caller wants one. -/
def give (slots : List ResultSlot) (value : Value) : Behaviour Service :=
  match slots with
  | [] => .done 0 []
  | slot :: rest =>
    match slot.set 0 value with
    | .ok slot => .done 1 (slot :: rest)
    | .error fault => .fault fault slots

def say (line : String) (next : Behaviour Service) : Behaviour Service :=
  .look fun view => .changeWorld view (view.world.print line) next

/-- Replaces memory and goes on, or aborts with a fault. -/
def changeHeap (view : View Service) (slots : List ResultSlot) (heap : Except Fault Heap)
    (next : Behaviour Service) : Behaviour Service :=
  match heap with
  | .ok heap => .changeWorld view { view.world with heap } next
  | .error fault => .fault fault slots

/-- Fills slots with arguments as far as there are both; `position` is the number of the first
slot. Stops at an argument of the wrong bank. -/
def fill (position : Nat) : List ResultSlot → List Value → List ResultSlot × Option Fault
  | slot :: slots, value :: values =>
    match slot.set position value with
    | .ok slot =>
      let (rest, fault) := fill (position + 1) slots values
      (slot :: rest, fault)
    | .error fault => (slot :: slots, some fault)
  | slots, _ => (slots, none)

/-- Fills slots with arguments of any bank. -/
def fillUnchecked : List ResultSlot → List Value → List ResultSlot
  | slot :: slots, value :: values =>
    { slot with value := some value } :: fillUnchecked slots values
  | slots, _ => slots

/-- Calls the function that the first argument names or points to. -/
def forward (arguments : List Value) (slots : List ResultSlot)
    (resume : Outcome → Behaviour Service) : Behaviour Service :=
  match arguments with
  | .string name :: rest => .callNamed name rest slots resume
  | .pointer (.function id) :: rest => .call id rest slots resume
  | _ => resume ⟨.error (.of .badSelf), slots⟩

def firstInt (arguments : List Value) : Int32 := (arguments.findSome? Value.int?).getD 0

def firstPointer (arguments : List Value) : Pointer :=
  (arguments.findSome? Value.pointer?).getD .null

/-- Assembles a program text and loads it. No native function can end the program, so an overflow is an
abort here. -/
def reloadFrom (view : View Service) (slots : List ResultSlot) (source : String) :
    Behaviour Service :=
  match Assembly.assemble "reload" source with
  | .error (.failed failure) => .abort (.withDetail .contractViolation failure.message) slots
  | .error .overflow => .abort (.of .other) slots
  | .ok program =>
    match view.library.load view.world.heap.classes program with
    | .error fault => .fault fault slots
    | .ok loaded =>
      .change loaded.library view.world (give slots (.int (Int32.ofNat loaded.ids.length)))

def behaviour (service : Service) (arguments : List Value) (slots : List ResultSlot) :
    Behaviour Service :=
  match service with
  | .print => say (" ".intercalate (arguments.map Value.text)) (.done 0 slots)
  | .add => give slots (.int ((arguments.filterMap Value.int?).foldl (· + ·) 0))
  | .sumFloats => give slots (.float ((arguments.filterMap Value.float?).foldl (· + ·) .zero))
  | .echo =>
    match fill 0 slots arguments with
    | (slots, none) => .done arguments.length slots
    | (slots, some fault) => .fault fault slots
  | .echoUnchecked => .done arguments.length (fillUnchecked slots arguments)
  | .banks => say (",".intercalate (slots.map fun slot => slot.bank.name)) (.done 0 slots)
  | .invoke => forward arguments slots .finish
  | .attempt => forward arguments slots fun outcome =>
    match outcome.result with
    | .ok _ => .finish outcome
    | .error abort => say ("caught: " ++ abort.text) (.done 0 outcome.slots)
  | .throw =>
    match AbortKind.ofCode (firstInt arguments).toUInt32.toUInt8 with
    | .error unknown => .fault (.unknownSelector unknown) slots
    | .ok kind =>
      match arguments.findSome? Value.string? with
      | some detail => .abort (.withDetail kind detail) slots
      | none => .abort (.of kind) slots
  | .collect => .look fun view =>
    let (count, heap) := view.world.heap.collect
      (view.roots ++ arguments.filterMap Value.pointer?)
    .changeWorld view { view.world with heap } (give slots (.int (Int32.ofNat count)))
  | .roots => .look fun view =>
    say (" ".intercalate (view.roots.map Pointer.text)) (.done 0 slots)
  | .depth => .look fun view => give slots (.int (Int32.ofNat view.depth))
  | .reload => .look fun view =>
    reloadFrom view slots ((arguments.findSome? Value.string?).getD "")
  | .newObject => .look fun view =>
    match firstPointer arguments with
    | .class_ id =>
      match view.world.heap.newObject id with
      | .ok (ref, heap) =>
        .changeWorld view { view.world with heap } (give slots (.pointer (.object ref)))
      | .error fault => .fault fault slots
    | _ => .abort (.of .badSelf) slots
  | .alloc => .look fun view =>
    let (block, heap) := view.world.heap.alloc ((firstInt arguments).toUInt32 &&& 0xffff)
    .changeWorld view { view.world with heap } (give slots (.pointer (.address ⟨block, 0⟩)))
  | .free => .look fun view =>
    match firstPointer arguments with
    | .address position =>
      changeHeap view slots (view.world.heap.free position.block) (.done 0 slots)
    | _ => .abort (.of .badSelf) slots
  | .double => .look fun view =>
    match firstPointer arguments with
    | .address position =>
      match view.world.heap.readValue .int position with
      | .ok (.int value) =>
        changeHeap view slots (view.world.heap.writeValue position (.int (value + value)))
          (.done 0 slots)
      | .ok _ => .done 0 slots
      | .error fault => .fault fault slots
    | _ => .abort (.of .badSelf) slots

end Service
end GameScript
