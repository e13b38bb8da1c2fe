import GameScript.Proofs.HeapSurvival
import GameScript.Proofs.MachineSteps
import GameScript.Services

/-! The places from which a machine keeps objects alive: of an installed routine those constants
that are objects, of a running frame its pointer registers, staged values, the cells of the routine
it waits for, all constants and its own memory. What a frame has stored for its caller is not among
them, nor is an address that is a constant of a routine that does not run. -/

namespace GameScript

inductive Frame.Holds (frame : Frame) : Pointer → Prop where
  | register {pointer} (member : pointer ∈ frame.registers.pointers) : Holds frame pointer
  | staged {param pointer} (member : param ∈ frame.staged) (value : param.value = .pointer pointer) :
      Holds frame pointer
  | cell {pending writeback} (waiting : frame.pending = some pending)
      (member : writeback ∈ pending.writebacks) : Holds frame writeback.pointer
  | constant {pointer} (member : pointer ∈ frame.routine.constants.pointers) : Holds frame pointer
  | memory {block} (own : frame.extra = some block) : Holds frame (.address ⟨block, 0⟩)

theorem Pointer.ne_null_iff {pointer : Pointer} : (!pointer.isNull) = true ↔ pointer ≠ .null := by
  cases pointer <;> simp [Pointer.isNull]

theorem Value.pointer?_eq_some_iff {value : Value} {pointer : Pointer} :
    value.pointer? = some pointer ↔ value = .pointer pointer := by
  cases value <;> simp [Value.pointer?]

theorem Frame.mem_roots_iff {frame : Frame} {pointer : Pointer} :
    pointer ∈ frame.roots ↔ pointer ≠ .null ∧ frame.Holds pointer := by
  rw [roots, List.mem_filter, and_comm, Pointer.ne_null_iff]
  refine and_congr_right fun present => ?_
  simp only [List.mem_append, Array.mem_toList_iff, List.mem_filterMap, List.mem_singleton]
  constructor
  · rintro ((((register | ⟨param, member, value⟩) | cell) | constant) | own)
    · exact .register register
    · exact .staged member (Value.pointer?_eq_some_iff.1 value)
    · split at cell
      next pending waiting =>
        obtain ⟨writeback, member, rfl⟩ := List.mem_map.1 cell
        exact .cell waiting member
      next => cases cell
    · exact .constant constant
    · unfold extraPointer at own
      split at own
      next block held =>
        subst own
        exact .memory held
      next => exact absurd own present
  · intro held
    cases held with
    | register member => exact .inl (.inl (.inl (.inl member)))
    | staged member value => exact .inl (.inl (.inl (.inr ⟨_, member, Value.pointer?_eq_some_iff.2 value⟩)))
    | cell waiting member =>
      refine .inl (.inl (.inr ?_))
      rw [waiting]
      exact List.mem_map_of_mem member
    | constant member => exact .inl (.inr member)
    | memory own => exact .inr (by rw [extraPointer, own])

namespace Machine

inductive Rooted (machine : Machine ν) : Pointer → Prop where
  | installed {routine ref} (member : .script routine ∈ machine.library.entries)
      (constant : .object ref ∈ routine.constants.pointers) : Rooted machine (.object ref)
  | running {frame pointer} (member : .script frame ∈ machine.stack) (held : frame.Holds pointer) :
      Rooted machine pointer

variable {machine : Machine ν} {pointer : Pointer} {extra : List Pointer} {ref : ObjectRef}
  {object : Object}

theorem mem_library_roots_iff {library : Library ν} :
    pointer ∈ library.roots ↔ ∃ routine ref, .script routine ∈ library.entries ∧
      .object ref ∈ routine.constants.pointers ∧ pointer = .object ref := by
  rw [Library.roots, List.mem_flatMap]
  constructor
  · rintro ⟨callable, member, inside⟩
    cases callable with
    | native name function => cases inside
    | script routine =>
      obtain ⟨constant, isObject⟩ := List.mem_filter.1 inside
      cases pointer with
      | object ref => exact ⟨routine, ref, by simpa using member, by simpa using constant, rfl⟩
      | _ => cases isObject
  · rintro ⟨routine, ref, member, constant, rfl⟩
    exact ⟨.script routine, by simpa using member, List.mem_filter.2 ⟨by simpa using constant, rfl⟩⟩

theorem mem_roots_iff : pointer ∈ machine.roots ↔ pointer ≠ .null ∧ machine.Rooted pointer := by
  rw [roots, List.mem_append, mem_library_roots_iff, List.mem_flatMap]
  constructor
  · rintro (⟨routine, ref, member, constant, rfl⟩ | ⟨activation, member, inside⟩)
    · exact ⟨by simp, .installed member constant⟩
    · cases activation with
      | native call => cases inside
      | script frame =>
        obtain ⟨present, held⟩ := Frame.mem_roots_iff.1 inside
        exact ⟨present, .running (List.mem_reverse.1 member) held⟩
  · rintro ⟨present, rooted⟩
    cases rooted with
    | installed member constant => exact .inl ⟨_, _, member, constant, rfl⟩
    | running member held =>
      exact .inr ⟨_, List.mem_reverse.2 member, Frame.mem_roots_iff.2 ⟨present, held⟩⟩

/-- An object outlives a collection exactly if it can be reached from one of the places or from the
pointers given in addition. -/
theorem collect_keeps_iff (live : machine.world.heap.objects.get? ref.handle = some object) :
    (machine.collect extra).2.world.heap.objects.get? ref.handle = some object ↔
      ∃ root, (machine.Rooted root ∨ root ∈ extra) ∧
        Heap.Reached machine.world.heap [root] (.object ref) := by
  have kept : (machine.collect extra).2.world.heap.objects.get? ref.handle = some object ↔
      Heap.Reached machine.world.heap (machine.roots ++ extra) (.object ref) :=
    Heap.collect_object_iff live
  rw [kept, Heap.reached_iff_exists_root]
  refine exists_congr fun root => and_congr_left fun reached => ?_
  have present : root ≠ .null := by
    rintro rfl
    have member := reached.mem_of_dead_ends (by simp [Heap.leadsTo])
    simp at member
  simp [mem_roots_iff, present]

theorem collect_keeps_rooted_iff (live : machine.world.heap.objects.get? ref.handle = some object) :
    (machine.collect []).2.world.heap.objects.get? ref.handle = some object ↔
      ∃ root, machine.Rooted root ∧ Heap.Reached machine.world.heap [root] (.object ref) := by
  rw [collect_keeps_iff live]
  simp

structure Returning (machine : Machine ν) (frame : Frame) (ref : ObjectRef) : Prop where
  active : .script frame ∈ machine.stack
  stored : ∃ slot ∈ frame.results, slot.value = some (.pointer (.object ref))

/-- A collection leaves the result slots of frames alone and does not look at them: what they hold
goes unless it can be reached from one of the places. -/
theorem collect_keeps_returned_iff (machine : Machine ν) (frame : Frame) (ref : ObjectRef)
    (object : Object) (returning : machine.Returning frame ref)
    (live : machine.world.heap.objects.get? ref.handle = some object) :
    (machine.collect []).2.Returning frame ref ∧
      ((machine.collect []).2.world.heap.objects.get? ref.handle = some object ↔
        ∃ root, machine.Rooted root ∧ Heap.Reached machine.world.heap [root] (.object ref)) :=
  ⟨⟨returning.active, returning.stored⟩, collect_keeps_rooted_iff live⟩

def collecting (machine : Machine Service) (frame : Frame) : Machine Service :=
  { machine with stack :=
      [.native ⟨"Collect", Service.behaviour .collect [] [], some ⟨[], []⟩⟩, .script frame] }

theorem run_collecting {machine : Machine Service} {frame : Frame}
    (idle : machine.completed = none) :
    run Service.behaviour 3 (machine.collecting frame) =
      { ((machine.collecting frame).collect []).2 with stack := [.script frame] } := by
  simp only [run, step, stepOr, collecting, idle, stepNative, Service.behaviour,
    Behaviour.changeWorld]
  rfl

/-- A routine that returns its parameter, forgets it, lets garbage be collected and ends. -/
def lending : LinkedRoutine where
  name := "lending"
  sourceFile := ""
  code := #[⟨0x00030062⟩, ⟨0x00000005⟩, ⟨0x0000015f⟩, ⟨0x00008163⟩]
  constants := ⟨#[], #[], #[], #[.null, .function ⟨0⟩]⟩
  layout := ⟨0, 0, 0, 1, 0, 0⟩
  lines := .empty

def lent : Frame where
  routine := lending
  registers := ⟨#[], #[], #[], #[.null]⟩
  pc := 3
  current := 2
  staged := []
  extra := none
  pending := none
  results := [⟨.pointer, some (.pointer (.object ⟨⟨0, 0⟩⟩))⟩]
  returned := 1
  host := some [.empty .pointer]

def lender : Machine Service :=
  ⟨.standard, ⟨#[.native "Collect" .collect, .script lending]⟩,
    { World.empty with heap := .single }, [], none⟩

theorem collect_keeps_returned_in_register :
    let frame := { lent with registers := ⟨#[], #[], #[], #[.object ⟨⟨0, 0⟩⟩]⟩ }
    let machine := lender.collecting frame
    machine.Returning frame ⟨⟨0, 0⟩⟩ ∧
      (machine.collect []).2.world.heap.objects.get? ⟨0, 0⟩ = some ⟨⟨0⟩, ⟨⟨0, 0⟩⟩⟩ := by
  intro frame machine
  have active : .script frame ∈ machine.stack := .tail _ (.head _)
  have returning : machine.Returning frame ⟨⟨0, 0⟩⟩ := ⟨active, _, .head _, rfl⟩
  have held : frame.Holds (.object ⟨⟨0, 0⟩⟩) :=
    .register (Array.mem_singleton.2 rfl)
  obtain ⟨-, kept⟩ := collect_keeps_returned_iff machine frame ⟨⟨0, 0⟩⟩ ⟨⟨0⟩, ⟨⟨0, 0⟩⟩⟩ returning rfl
  exact ⟨returning, kept.2 ⟨_, .running active held, .root List.mem_cons_self⟩⟩

theorem run_lending :
    run Service.behaviour 3
        (lender.enter Service.behaviour ⟨1⟩ [.pointer (.object ⟨⟨0, 0⟩⟩)] [.empty .pointer]) =
      lender.collecting lent := by
  have stored : step { lender with stack := [.script { lent with
        registers := ⟨#[], #[], #[], #[.object ⟨⟨0, 0⟩⟩]⟩, pc := 0, current := 0
        results := [.empty .pointer], returned := 0 }] } Service.behaviour =
      some { lender with stack := [.script { lent with
        registers := ⟨#[], #[], #[], #[.object ⟨⟨0, 0⟩⟩]⟩, pc := 1, current := 0 }] } := rfl
  have forgotten : step { lender with stack := [.script { lent with
        registers := ⟨#[], #[], #[], #[.object ⟨⟨0, 0⟩⟩]⟩, pc := 1, current := 0 }] }
        Service.behaviour =
      some { lender with stack := [.script { lent with pc := 2, current := 1 }] } := rfl
  have called : step { lender with stack := [.script { lent with pc := 2, current := 1 }] }
      Service.behaviour = some (lender.collecting lent) := rfl
  exact (run_step stored 2).trans ((run_step forgotten 1).trans (run_step called 0))

/-- The routine's caller is given an object that is gone. -/
theorem collect_frees_returned :
    let arguments := [Value.pointer (.object ⟨⟨0, 0⟩⟩)]
    let slots := [ResultSlot.empty .pointer]
    let during := run Service.behaviour 3 (lender.enter Service.behaviour ⟨1⟩ arguments slots)
    during = lender.collecting lent ∧ during.Returning lent ⟨⟨0, 0⟩⟩ ∧
      during.world.heap.objects.Live ⟨0, 0⟩ ∧
      (during.collect []).2.world.heap.objects.get? ⟨0, 0⟩ = none ∧
      ∃ ended, lender.call Service.behaviour 7 ⟨1⟩ arguments slots =
          some (⟨.ok 1, [⟨.pointer, some (.pointer (.object ⟨⟨0, 0⟩⟩))⟩]⟩, ended) ∧
        ended.world.heap.objects.get? ⟨0, 0⟩ = none := by
  intro arguments slots
  have reached : run Service.behaviour 3 (lender.enter Service.behaviour ⟨1⟩ arguments slots) =
      lender.collecting lent := run_lending
  have roots : (lender.collecting lent).roots ++ [] = [.function ⟨0⟩] := rfl
  have unreached : ¬Heap.Reached .single ((lender.collecting lent).roots ++ [])
      (.object ⟨⟨0, 0⟩⟩) := roots ▸ Heap.not_reached_from_function
  have gone : ((lender.collecting lent).collect []).2.world.heap.objects.get? ⟨0, 0⟩ = none :=
    Heap.collect_object_eq_none unreached
  have finished : step { ((lender.collecting lent).collect []).2 with stack := [.script lent] }
        Service.behaviour =
      some { ((lender.collecting lent).collect []).2 with
        stack := []
        completed := some ⟨.ok 1, lent.results⟩ } := rfl
  have ended : run Service.behaviour 7 (lender.enter Service.behaviour ⟨1⟩ arguments slots) =
      { ((lender.collecting lent).collect []).2 with
        stack := []
        completed := some ⟨.ok 1, lent.results⟩ } := by
    rw [run_add 3 4, reached, run_add 3 1, run_collecting rfl, run_step finished, run_zero]
  rw [reached]
  refine ⟨rfl, ⟨.tail _ (.head _), _, .head _, rfl⟩, rfl, gone,
    { ((lender.collecting lent).collect []).2 with stack := [] }, ?_, gone⟩
  simp only [call, ended]
  rfl

/-- What can be reached from a constant of an installed routine stays if the constant is an object
or the routine runs. From an address that is a constant of a routine that does not run nothing is
kept; whether it stays is up to the other places. -/
theorem collect_keeps_constants (machine : Machine ν) (extra : List Pointer)
    (routine : LinkedRoutine) (constant : Pointer) (ref : ObjectRef) (object : Object)
    (installed : .script routine ∈ machine.library.entries)
    (member : constant ∈ routine.constants.pointers)
    (reached : Heap.Reached machine.world.heap [constant] (.object ref))
    (live : machine.world.heap.objects.get? ref.handle = some object) :
    let kept := (machine.collect extra).2.world.heap.objects.get? ref.handle = some object
    (∀ direct, constant = .object direct → kept) ∧
      (∀ frame, .script frame ∈ machine.stack → frame.routine = routine → kept) ∧
      (kept ↔ ∃ root, (machine.Rooted root ∨ root ∈ extra) ∧
        Heap.Reached machine.world.heap [root] (.object ref)) := by
  intro kept
  have exactly : kept ↔ ∃ root, (machine.Rooted root ∨ root ∈ extra) ∧
      Heap.Reached machine.world.heap [root] (.object ref) := collect_keeps_iff live
  refine ⟨?_, ?_, exactly⟩
  · rintro direct rfl
    exact exactly.2 ⟨_, .inl (.installed installed member), reached⟩
  · rintro frame active rfl
    exact exactly.2 ⟨_, .inl (.running active (.constant member)), reached⟩

def holding : LinkedRoutine where
  name := "holding"
  sourceFile := ""
  code := #[⟨0x00000005⟩, ⟨0x0000012a⟩, ⟨0x01038062⟩]
  constants := ⟨#[], #[], #[], #[.address ⟨⟨⟨1, 0⟩⟩, 0⟩]⟩
  layout := ⟨0, 0, 0, 2, 0, 0⟩
  lines := .empty

def holder : Machine Unit :=
  ⟨.standard, ⟨#[.script holding]⟩, { World.empty with heap := .referring }, [], none⟩

theorem collect_keeps_constants_running :
    let machine := holder.enter (fun _ _ _ => .done 0 []) ⟨0⟩ [] []
    .script holding ∈ machine.library.entries ∧
      Heap.Reached machine.world.heap [.address ⟨⟨⟨1, 0⟩⟩, 0⟩] (.object ⟨⟨0, 0⟩⟩) ∧
      (machine.collect []).2.world.heap.objects.get? ⟨0, 0⟩ = some ⟨⟨0⟩, ⟨⟨0, 0⟩⟩⟩ := by
  intro machine
  have installed : .script holding ∈ machine.library.entries := Array.mem_singleton.2 rfl
  obtain ⟨-, running, -⟩ := collect_keeps_constants machine [] holding (.address ⟨⟨⟨1, 0⟩⟩, 0⟩)
    ⟨⟨0, 0⟩⟩ ⟨⟨0⟩, ⟨⟨0, 0⟩⟩⟩ installed (Array.mem_singleton.2 rfl) Heap.reached_referring rfl
  exact ⟨installed, Heap.reached_referring, running _ (.head _) rfl⟩

/-- The same routine loses what its constant leads to while it does not run. -/
theorem collect_frees_addressed_constant :
    (Heap.single.alloc 8).2.writePointer ⟨⟨⟨1, 0⟩⟩, 0⟩ (.object ⟨⟨0, 0⟩⟩) = .ok .referring ∧
      .script holding ∈ holder.library.entries ∧
      .address ⟨⟨⟨1, 0⟩⟩, 0⟩ ∈ holding.constants.pointers ∧
      Heap.Reached holder.world.heap [.address ⟨⟨⟨1, 0⟩⟩, 0⟩] (.object ⟨⟨0, 0⟩⟩) ∧
      holder.world.heap.objects.Live ⟨0, 0⟩ ∧
      (holder.collect []).2.world.heap.objects.get? ⟨0, 0⟩ = none := by
  have unreached : ¬Heap.Reached .referring (holder.roots ++ []) (.object ⟨⟨0, 0⟩⟩) := by
    intro found
    cases found.mem_of_dead_ends (fun _ member => nomatch member)
  have gone : (holder.collect []).2.world.heap.objects.get? ⟨0, 0⟩ = none :=
    Heap.collect_object_eq_none unreached
  exact ⟨rfl, Array.mem_singleton.2 rfl, Array.mem_singleton.2 rfl, Heap.reached_referring, rfl, gone⟩

end Machine
end GameScript
