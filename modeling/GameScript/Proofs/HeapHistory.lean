import Mathlib.Data.List.Nodup
import GameScript.Proofs.ArenaHistory
import GameScript.Proofs.HeapSurvival

/-! Memory after any sequence of requests, with a record of the handles that were given out and taken
back on the way. A block is given out on its own or as the memory of one object, so collecting an
object whose memory was freed by hand takes nothing from whoever has the slot since. -/

namespace GameScript.Heap

inductive Content where
  | bytes (data : List UInt8)
  | string (value : String)
  | pointer (value : Pointer)
deriving DecidableEq, Repr

def Content.change : Content → Block → UInt32 → Except Fault Block
  | .bytes data, block, offset => block.write offset data
  | .string value, block, offset => block.writeString offset value
  | .pointer value, block, offset => block.writePointer offset value

def write (heap : Heap) (position : Address) : Content → Except Fault Heap
  | .bytes data => heap.writeBytes position data
  | .string value => heap.writeString position value
  | .pointer value => heap.writePointer position value

theorem write_eq (heap : Heap) (position : Address) (content : Content) :
    heap.write position content = heap.update position content.change := by
  cases content <;> rfl

inductive Request where
  | define (classes : Classes)
  | alloc (size : UInt32)
  | free (block : BlockId)
  | create (id : ClassId)
  | collect (roots : List Pointer)
  | write (position : Address) (content : Content)

def serve (heap : Heap) : Request → Except Fault Heap
  | .define classes => .ok { heap with classes }
  | .alloc size => .ok (heap.alloc size).2
  | .free block => heap.free block
  | .create id => (heap.newObject id).map Prod.snd
  | .collect roots => .ok (heap.collect roots).2
  | .write position content => heap.write position content

/-- The heap after a request; one that fails changes nothing. -/
def next (heap : Heap) (request : Request) : Heap :=
  match heap.serve request with
  | .ok after => after
  | .error _ => heap

def history (requests : List Request) : Heap := requests.foldl next .empty

/-- A heap and what it gave out and took back, the latest first. -/
structure Record where
  heap : Heap
  blocks : List Event
  objects : List Event
  /-- The blocks given out on their own. -/
  raw : List Handle
  /-- The objects given out, each with the block that is its memory. -/
  owned : List (Handle × Handle)

namespace Record

def empty : Record := ⟨.empty, [], [], [], []⟩

def alloc (record : Record) (size : UInt32) : Record :=
  let (block, heap) := record.heap.alloc size
  { record with
    heap
    blocks := .gave block.handle :: record.blocks
    raw := block.handle :: record.raw }

def free (record : Record) (block : BlockId) : Record :=
  match record.heap.free block with
  | .ok heap => { record with heap, blocks := .took block.handle :: record.blocks }
  | .error _ => record

def create (record : Record) (id : ClassId) : Record :=
  match record.heap.classes.get? id, record.heap.newObject id with
  | some info, .ok (ref, heap) =>
    let memory := (record.heap.alloc info.size).1.handle
    { record with
      heap
      blocks := .gave memory :: record.blocks
      objects := .gave ref.handle :: record.objects
      owned := (ref.handle, memory) :: record.owned }
  | _, _ => record

def discard (record : Record) (handle : Handle) : Record :=
  match record.heap.objects.remove? handle with
  | some (object, objects) =>
    { record with
      heap := { record.heap with objects }
      objects := .took handle :: record.objects : Record }.free object.block
  | none => record

def serve (record : Record) : Request → Record
  | .alloc size => record.alloc size
  | .free block => record.free block
  | .create id => record.create id
  | .collect roots => (record.heap.garbage roots).foldl discard record
  | request => { record with heap := record.heap.next request }

def of (requests : List Request) : Record := requests.foldl serve .empty

theorem heap_free (record : Record) (block : BlockId) :
    (record.free block).heap = record.heap.freeIfLive block := by
  unfold free freeIfLive
  cases record.heap.free block <;> rfl

theorem heap_discard (record : Record) (handle : Handle) :
    (record.discard handle).heap = record.heap.discard handle := by
  unfold discard Heap.discard
  cases record.heap.objects.remove? handle with
  | none => rfl
  | some taken => exact heap_free _ _

theorem heap_foldl_discard (garbage : List Handle) (record : Record) :
    (garbage.foldl discard record).heap = garbage.foldl Heap.discard record.heap :=
  (List.foldl_hom Record.heap fun record handle => (heap_discard record handle).symm).symm

theorem newObject_eq {heap : Heap} {id : ClassId} {info : ClassInfo}
    (known : heap.classes.get? id = some info) :
    let memory := heap.blocks.insert (.zeroed info.size)
    let object := heap.objects.insert ⟨id, ⟨memory.1⟩⟩
    heap.newObject id = .ok (⟨object.1⟩, { heap with blocks := memory.2, objects := object.2 }) := by
  simp only [newObject, known]
  rfl

theorem heap_create (record : Record) (id : ClassId) :
    (record.create id).heap = record.heap.next (.create id) := by
  simp only [create, Heap.next, Heap.serve]
  cases known : record.heap.classes.get? id with
  | none =>
    simp only [newObject, known]
    rfl
  | some info =>
    rw [newObject_eq known]
    rfl

theorem heap_serve (record : Record) (request : Request) :
    (record.serve request).heap = record.heap.next request := by
  cases request with
  | define classes => rfl
  | alloc size => rfl
  | free block => exact heap_free record block
  | create id => exact heap_create record id
  | collect roots => exact heap_foldl_discard _ record
  | write position content => rfl

theorem heap_of (requests : List Request) : (of requests).heap = history requests :=
  (List.foldl_hom Record.heap fun record request => (heap_serve record request).symm).symm

/-- The record is that of the two arenas, and every block given out is either on its own or the
memory of an object. -/
structure Faithful (record : Record) : Prop where
  blocks : record.heap.blocks.Recorded record.blocks
  objects : record.heap.objects.Recorded record.objects
  memory : ∀ owner object, record.heap.objects.get? owner = some object →
    (owner, object.block.handle) ∈ record.owned
  owners : record.owned.map Prod.fst = Event.given record.objects
  parts : (record.raw ++ record.owned.map Prod.snd).Perm (Event.given record.blocks)

variable {record : Record}

theorem Faithful.empty : Faithful .empty where
  blocks := .empty
  objects := .empty
  memory owner object found := by cases found
  owners := rfl
  parts := .nil

theorem Faithful.alloc (faithful : Faithful record) (size : UInt32) :
    Faithful (record.alloc size) where
  blocks := faithful.blocks.insert _
  objects := faithful.objects
  memory := faithful.memory
  owners := faithful.owners
  parts := faithful.parts.cons _

theorem Faithful.free (faithful : Faithful record) (block : BlockId) :
    Faithful (record.free block) := by
  unfold Record.free Heap.free
  cases removed : record.heap.blocks.remove? block.handle with
  | none => exact faithful
  | some taken =>
    exact ⟨faithful.blocks.remove removed, faithful.objects, faithful.memory, faithful.owners,
      faithful.parts⟩

theorem Faithful.create (faithful : Faithful record) (id : ClassId) :
    Faithful (record.create id) := by
  unfold Record.create
  cases known : record.heap.classes.get? id with
  | none => exact faithful
  | some info =>
    rw [newObject_eq known]
    refine ⟨faithful.blocks.insert _, faithful.objects.insert _, ?_,
      congrArg (List.cons _) faithful.owners, ?_⟩
    · intro owner object found
      rcases Arena.get?_insert_cases found with ⟨rfl, rfl⟩ | known
      · exact List.mem_cons_self
      · exact List.mem_cons_of_mem _ (faithful.memory owner object known)
    · exact List.perm_middle.trans (faithful.parts.cons _)

theorem Faithful.discard (faithful : Faithful record) (handle : Handle) :
    Faithful (record.discard handle) := by
  unfold Record.discard
  split
  next object objects removed =>
    apply Faithful.free
    refine ⟨faithful.blocks, faithful.objects.remove removed, ?_, faithful.owners, faithful.parts⟩
    intro owner other found
    rw [(Arena.remove?_eq_some removed).2.1] at found
    split at found
    next => cases found
    next => exact faithful.memory owner other found
  next => exact faithful

theorem Faithful.foldl_discard (faithful : Faithful record) (garbage : List Handle) :
    Faithful (garbage.foldl Record.discard record) :=
  List.foldlRecOn garbage Record.discard faithful fun _ faithful handle _ => faithful.discard handle

theorem Faithful.write (faithful : Faithful record) (position : Address) (content : Content) :
    Faithful { record with heap := record.heap.next (.write position content) } := by
  simp only [Heap.next, Heap.serve, write_eq]
  cases written : record.heap.update position content.change with
  | error _ => exact faithful
  | ok after =>
    obtain ⟨_, changed, -, -, rfl⟩ := update_eq_ok written
    exact ⟨faithful.blocks.set _ _, faithful.objects, faithful.memory, faithful.owners,
      faithful.parts⟩

theorem Faithful.serve (faithful : Faithful record) (request : Request) :
    Faithful (record.serve request) := by
  cases request with
  | define classes =>
    exact ⟨faithful.blocks, faithful.objects, faithful.memory, faithful.owners, faithful.parts⟩
  | alloc size => exact faithful.alloc size
  | free block => exact faithful.free block
  | create id => exact faithful.create id
  | collect roots => exact faithful.foldl_discard _
  | write position content => exact faithful.write position content

theorem faithful_of (requests : List Request) : Faithful (of requests) :=
  List.foldlRecOn requests Record.serve .empty fun _ faithful request _ => faithful.serve request

/-- Collecting leaves a block given out on its own, and the memory of an object unless the object is
out of reach itself. -/
theorem Faithful.collect_block (faithful : Faithful record)
    (blocks : (Event.given record.blocks).Nodup) (objects : (Event.given record.objects).Nodup)
    (roots : List Pointer) {handle : Handle} {block : Block}
    (found : record.heap.blocks.get? handle = some block) :
    (handle ∈ record.raw → (record.heap.collect roots).2.blocks.get? handle = some block) ∧
      ∀ owner, (owner, handle) ∈ record.owned →
        ((record.heap.collect roots).2.blocks.get? handle = some block ↔
          (record.heap.objects.Live owner → Reached record.heap roots (.object ⟨owner⟩))) := by
  obtain ⟨-, memoryOnce, apart⟩ := List.nodup_append.1 (faithful.parts.nodup_iff.2 blocks)
  have ownersOnce : (record.owned.map Prod.fst).Nodup := faithful.owners ▸ objects
  rw [collect_block_iff found]
  constructor
  · rintro raw owner object owns rfl
    have memory := List.mem_map_of_mem (f := Prod.snd) (faithful.memory owner object owns)
    exact absurd rfl (apart _ raw _ memory)
  · intro owner owned
    constructor
    · intro reached live
      obtain ⟨object, owns⟩ := Arena.live_iff.1 live
      have same := List.inj_on_of_nodup_map ownersOnce owned (faithful.memory owner object owns) rfl
      exact reached owner object owns (congrArg Prod.snd same).symm
    · rintro reached other object owns rfl
      have same := List.inj_on_of_nodup_map memoryOnce owned (faithful.memory other object owns) rfl
      cases congrArg Prod.fst same
      exact reached (Arena.live_iff.2 ⟨object, owns⟩)

end Record

/-- A handle names what it was given out for until it is taken back and nothing from then on, however
often its slot is used again, until a slot runs out of uses or the slots out of indices. A block is
given out on its own or as the memory of one object, and is collected only along with that object. -/
theorem handles_never_alias (requests : List Request)
    (blocksFit : (Record.of requests).heap.blocks.Fits (Record.of requests).blocks)
    (objectsFit : (Record.of requests).heap.objects.Fits (Record.of requests).objects) :
    let record := Record.of requests
    record.heap = history requests ∧
      record.heap.blocks.Accounts record.blocks ∧ record.heap.objects.Accounts record.objects ∧
      (record.raw ++ record.owned.map Prod.snd).Perm (Event.given record.blocks) ∧
      record.owned.map Prod.fst = Event.given record.objects ∧
      (∀ owner object, record.heap.objects.get? owner = some object →
        (owner, object.block.handle) ∈ record.owned) ∧
      ∀ roots handle block, record.heap.blocks.get? handle = some block →
        (handle ∈ record.raw → (record.heap.collect roots).2.blocks.get? handle = some block) ∧
        ∀ owner, (owner, handle) ∈ record.owned →
          ((record.heap.collect roots).2.blocks.get? handle = some block ↔
            (record.heap.objects.Live owner → Reached record.heap roots (.object ⟨owner⟩))) := by
  intro record
  have faithful : record.Faithful := Record.faithful_of requests
  have blocks := faithful.blocks.accounts blocksFit
  have objects := faithful.objects.accounts objectsFit
  refine ⟨Record.heap_of requests, blocks, objects, faithful.parts, faithful.owners,
    faithful.memory, fun roots handle block found => ?_⟩
  exact faithful.collect_block blocks.distinct objects.distinct roots found

def reclaimed : List Request :=
  [.define ⟨#[⟨"Thing", none, 8, #[]⟩]⟩, .create ⟨0⟩, .free ⟨⟨0, 0⟩⟩, .alloc 16, .free ⟨⟨0, 0⟩⟩,
    .collect []]

theorem record_reclaimed :
    let record := Record.of reclaimed
    record.blocks = [.gave ⟨0, 1⟩, .took ⟨0, 0⟩, .gave ⟨0, 0⟩] ∧
      record.objects = [.took ⟨0, 0⟩, .gave ⟨0, 0⟩] ∧
      record.heap.blocks.entries.size = 1 ∧ record.heap.objects.entries.size = 1 := by
  have swept : (Record.of (reclaimed.take 5)).heap.garbage [] = [⟨0, 0⟩] := by
    simp only [garbage, mark]
    decide +kernel
  have last : Record.of reclaimed =
      [(⟨0, 0⟩ : Handle)].foldl Record.discard (Record.of (reclaimed.take 5)) := by
    rw [← swept]
    rfl
  rw [last]
  decide +kernel

theorem fits_of_few {arena : Arena α} {events : List Event} (slots : arena.entries.size = 1)
    (few : (Event.taken events).length < UInt32.size) : arena.Fits events :=
  ⟨by rw [Arena.Indexed, slots]; decide, fun _ => Nat.lt_of_le_of_lt List.countP_le_length few⟩

theorem handles_never_alias_reclaimed :
    let record := Record.of reclaimed
    record.heap.blocks.Fits record.blocks ∧ record.heap.objects.Fits record.objects ∧
      record.heap.blocks.Live ⟨0, 1⟩ ∧ ¬record.heap.blocks.Live ⟨0, 0⟩ ∧
      ¬record.heap.objects.Live ⟨0, 0⟩ := by
  intro record
  obtain ⟨blockEvents, objectEvents, blockSlots, objectSlots⟩ := record_reclaimed
  have blocksFit : record.heap.blocks.Fits record.blocks :=
    fits_of_few blockSlots (by rw [blockEvents]; decide)
  have objectsFit : record.heap.objects.Fits record.objects :=
    fits_of_few objectSlots (by rw [objectEvents]; decide)
  obtain ⟨-, blocks, objects, -⟩ := handles_never_alias reclaimed blocksFit objectsFit
  refine ⟨blocksFit, objectsFit, ?_, ?_, ?_⟩
  · exact (blocks.resolves [] _ ⟨0, 1⟩ blockEvents).2 List.not_mem_nil
  · exact blocks.dangling ⟨0, 0⟩ (by rw [blockEvents]; decide)
  · exact objects.dangling ⟨0, 0⟩ (by rw [objectEvents]; decide)

end GameScript.Heap
