import GameScript.Proofs.HeapCollection

/-! What outlives a collection. An object does exactly if it is reached, a block exactly if no
object out of reach owns it. Heaps that the operations make give every object a block of its own,
so whoever holds on to an object keeps its memory. An address into that memory does not. -/

namespace GameScript.Heap

variable {heap after : Heap} {roots others : List Pointer} {pointer : Pointer} {handle : Handle}
  {object : Object} {block : Block}

theorem Reached.onward (reached : Reached heap roots pointer)
    (known : ∀ root ∈ roots, Reached heap others root) : Reached heap others pointer := by
  induction reached with
  | root member => exact known _ member
  | stored _ leads live inside ih => exact .stored ih leads live inside

theorem reached_iff_exists_root :
    Reached heap roots pointer ↔ ∃ root ∈ roots, Reached heap [root] pointer := by
  constructor
  · intro reached
    induction reached with
    | root member => exact ⟨_, member, .root List.mem_cons_self⟩
    | stored _ leads live inside ih =>
      obtain ⟨root, member, reached⟩ := ih
      exact ⟨root, member, .stored reached leads live inside⟩
  · rintro ⟨root, member, reached⟩
    refine reached.onward ?_
    intro other here
    cases List.mem_singleton.1 here
    exact .root member

/-- Roots that lead to no other pointers are all that is reached. -/
theorem Reached.mem_of_closed (reached : Reached heap roots pointer)
    (closed : ∀ root ∈ roots, ∀ handle block, heap.leadsTo root = some handle →
      heap.blocks.get? handle = some block → ∀ inside ∈ block.pointers, inside ∈ roots) :
    pointer ∈ roots := by
  induction reached with
  | root member => exact member
  | stored _ leads live inside ih => exact closed _ ih _ _ leads live _ inside

theorem Reached.mem_of_dead_ends (reached : Reached heap roots pointer)
    (ends : ∀ root ∈ roots, heap.leadsTo root = none) : pointer ∈ roots := by
  refine reached.mem_of_closed ?_
  intro root member handle block leads
  cases (ends root member).symm.trans leads

theorem not_reached_from_function {id : FunctionId} {ref : ObjectRef} :
    ¬Reached heap [.function id] (.object ref) := by
  intro reached
  have member := reached.mem_of_dead_ends (by simp [leadsTo])
  simp at member

theorem collect_object_eq_none (unreached : ¬Reached heap roots (.object ⟨handle⟩)) :
    (heap.collect roots).2.objects.get? handle = none := by
  rw [collect, foldl_discard_objects]
  split
  next => rfl
  next spared =>
    cases found : heap.objects.get? handle with
    | none => rfl
    | some object =>
      have live := Arena.live_iff.2 ⟨object, found⟩
      exact absurd ((mem_garbage_of_live live).2 unreached) spared

theorem collect_object_iff (found : heap.objects.get? handle = some object) :
    (heap.collect roots).2.objects.get? handle = some object ↔
      Reached heap roots (.object ⟨handle⟩) := by
  by_cases reached : Reached heap roots (.object ⟨handle⟩)
  · have live := Arena.live_iff.2 ⟨object, found⟩
    rw [collect, foldl_discard_objects]
    rw [if_neg fun member => (mem_garbage_of_live live).1 member reached]
    exact iff_of_true found reached
  · rw [collect_object_eq_none reached]
    exact iff_of_false (by simp) reached

theorem collect_block_eq_none {owner : Handle} (unreached : ¬Reached heap roots (.object ⟨owner⟩))
    (owns : heap.objects.get? owner = some object) (same : object.block.handle = handle) :
    (heap.collect roots).2.blocks.get? handle = none := by
  cases kept : (heap.collect roots).2.blocks.get? handle with
  | none => rfl
  | some block =>
    rw [collect, foldl_discard_blocks] at kept
    have live := Arena.live_iff.2 ⟨object, owns⟩
    have garbage := (mem_garbage_of_live live).2 unreached
    exact absurd same (kept.2 owner garbage object owns)

theorem collect_block_iff (found : heap.blocks.get? handle = some block) :
    (heap.collect roots).2.blocks.get? handle = some block ↔
      ∀ owner object, heap.objects.get? owner = some object → object.block.handle = handle →
        Reached heap roots (.object ⟨owner⟩) := by
  constructor
  · intro kept owner object owns same
    apply Classical.byContradiction
    intro unreached
    cases (collect_block_eq_none unreached owns same).symm.trans kept
  · intro reached
    rw [collect, foldl_discard_blocks]
    refine ⟨found, fun owner member object owns same => ?_⟩
    have live := Arena.live_iff.2 ⟨object, owns⟩
    exact (mem_garbage_of_live live).1 member (reached owner object owns same)

structure Owning (heap : Heap) : Prop where
  issued : ∀ owner object, heap.objects.get? owner = some object →
    heap.blocks.Issued object.block.handle
  alone : ∀ first second object other, heap.objects.get? first = some object →
    heap.objects.get? second = some other → object.block.handle = other.block.handle →
    first = second

/-- Every block in use can be freed without its slot starting over with its first use. -/
def Lasting (heap : Heap) : Prop :=
  ∀ handle, heap.blocks.Live handle → handle.generation.toNat + 1 < UInt32.size

/-- The heaps that the operations make of the empty one. A handle has 32 bits for the slot and 32
for the use of it: neither ever runs out. -/
inductive Built : Heap → Prop where
  | empty : Built .empty
  | define {heap : Heap} (built : Built heap) (classes : Classes) : Built { heap with classes }
  | alloc {heap : Heap} (built : Built heap) (size : UInt32)
      (indexed : (heap.alloc size).2.blocks.Indexed) : Built (heap.alloc size).2
  | update {heap after : Heap} {position change} (built : Built heap)
      (written : heap.update position change = .ok after) : Built after
  | free {heap after : Heap} {id} (built : Built heap) (lasting : heap.Lasting)
      (freed : heap.free id = .ok after) : Built after
  | newObject {heap after : Heap} {id ref} (built : Built heap)
      (created : heap.newObject id = .ok (ref, after))
      (indexed : after.blocks.Indexed ∧ after.objects.Indexed) : Built after
  | collect {heap : Heap} (built : Built heap) (lasting : heap.Lasting) (roots : List Pointer) :
      Built (heap.collect roots).2

theorem Owning.fewer (owning : Owning heap)
    (objects : ∀ owner object, after.objects.get? owner = some object →
      heap.objects.get? owner = some object)
    (blocks : Arena.Later heap.blocks after.blocks) : Owning after where
  issued owner object owns := (owning.issued owner object (objects owner object owns)).later blocks
  alone first second object other owns ownsToo :=
    owning.alone first second object other (objects _ _ owns) (objects _ _ ownsToo)

theorem later_update {position : Address} {change : Block → UInt32 → Except Fault Block}
    (written : heap.update position change = .ok after) :
    after.objects = heap.objects ∧ Arena.Later heap.blocks after.blocks := by
  obtain ⟨_, _, -, -, rfl⟩ := update_eq_ok written
  exact ⟨rfl, Arena.later_set⟩

theorem later_free {id : BlockId} (lasting : heap.Lasting) (freed : heap.free id = .ok after) :
    after.objects = heap.objects ∧ Arena.Later heap.blocks after.blocks := by
  have live := (free_eq_ok freed).1
  unfold free at freed
  split at freed
  next content blocks removed =>
    cases freed
    exact ⟨rfl, Arena.later_remove? removed (lasting _ live)⟩
  next => cases freed

theorem later_freeIfLive (lasting : heap.Lasting) (id : BlockId) :
    Arena.Later heap.blocks (heap.freeIfLive id).blocks := by
  unfold freeIfLive
  split
  next freed => exact (later_free lasting freed).2
  next => exact .refl _

theorem Owning.discard (owning : Owning heap) (lasting : heap.Lasting) (handle : Handle) :
    Owning (heap.discard handle) ∧ (heap.discard handle).Lasting := by
  obtain ⟨objects, blocks, -⟩ := discard_spec heap handle
  refine ⟨owning.fewer ?_ ?_, ?_⟩
  · intro owner object owns
    rw [objects] at owns
    split at owns
    next => cases owns
    next => exact owns
  · unfold Heap.discard
    split
    next object objects removed =>
      have lastingToo : Lasting { heap with objects } := lasting
      exact later_freeIfLive lastingToo object.block
    next => exact .refl _
  · intro other live
    apply lasting other
    rw [Arena.Live, blocks] at live
    split at live
    next => cases live
    next => exact live

theorem Owning.collect (owning : Owning heap) (lasting : heap.Lasting) (roots : List Pointer) :
    Owning (heap.collect roots).2 := by
  have swept : ∀ (garbage : List Handle) (heap : Heap), Owning heap → heap.Lasting →
      Owning (garbage.foldl Heap.discard heap) := by
    intro garbage
    induction garbage with
    | nil => exact fun _ owning _ => owning
    | cons first rest ih =>
      intro heap owning lasting
      obtain ⟨owningNext, lastingNext⟩ := owning.discard lasting first
      exact ih (heap.discard first) owningNext lastingNext
  exact swept _ heap owning lasting

/-- The block of a new object was never given out before, so no other object has it. -/
theorem Owning.newObject {id : ClassId} {ref : ObjectRef} (owning : Owning heap)
    (created : heap.newObject id = .ok (ref, after)) (blocks : after.blocks.Indexed)
    (objects : after.objects.Indexed) : Owning after := by
  unfold Heap.newObject at created
  split at created
  next => cases created
  next info _ =>
    cases created
    have fresh := Arena.not_issued_insert heap.blocks (.zeroed info.size) blocks
    have later := Arena.later_insert heap.blocks (.zeroed info.size)
    have own : (heap.alloc info.size).2.blocks.Issued (heap.alloc info.size).1.handle := by
      apply Arena.Live.issued
      obtain ⟨-, held⟩ := alloc_spec heap info.size blocks
      rw [Arena.Live, held, if_pos rfl]
      rfl
    obtain ⟨-, held⟩ := Arena.insert_spec heap.objects ⟨id, (heap.alloc info.size).1⟩ objects
    have old : ∀ owner object, heap.objects.get? owner = some object →
        object.block.handle ≠ (heap.alloc info.size).1.handle := by
      intro owner object owns same
      have issued := owning.issued owner object owns
      rw [same] at issued
      exact fresh issued
    have cases : ∀ owner object,
        (heap.objects.insert ⟨id, (heap.alloc info.size).1⟩).2.get? owner = some object →
        owner = (heap.objects.insert ⟨id, (heap.alloc info.size).1⟩).1 ∧
            object.block = (heap.alloc info.size).1 ∨
          heap.objects.get? owner = some object := by
      intro owner object owns
      rw [held] at owns
      split at owns
      next here =>
        cases owns
        exact .inl ⟨here, rfl⟩
      next => exact .inr owns
    constructor
    · intro owner object owns
      rcases cases owner object owns with ⟨-, isNew⟩ | known
      · rw [isNew]
        exact own
      · exact (owning.issued owner object known).later later
    · intro first second object other owns ownsToo same
      rcases cases first object owns with ⟨here, isNew⟩ | known <;>
        rcases cases second other ownsToo with ⟨hereToo, isNewToo⟩ | knownToo
      · exact here.trans hereToo.symm
      · exact absurd (same.symm.trans (congrArg BlockId.handle isNew)) (old second other knownToo)
      · exact absurd (same.trans (congrArg BlockId.handle isNewToo)) (old first object known)
      · exact owning.alone first second object other known knownToo same

theorem Built.owning (built : Built heap) : Owning heap := by
  induction built with
  | empty =>
    have none : ∀ owner, Heap.empty.objects.get? owner = none := fun _ => rfl
    exact ⟨fun owner object owns => (nomatch (none owner).symm.trans owns),
      fun first _ object _ owns => (nomatch (none first).symm.trans owns)⟩
  | define _ classes ih => exact ⟨ih.issued, ih.alone⟩
  | alloc _ size _ ih => exact ih.fewer (fun _ _ owns => owns) (Arena.later_insert _ _)
  | update _ written ih =>
    obtain ⟨objects, later⟩ := later_update written
    exact ih.fewer (fun _ _ owns => objects ▸ owns) later
  | free _ lasting freed ih =>
    obtain ⟨objects, later⟩ := later_free lasting freed
    exact ih.fewer (fun _ _ owns => objects ▸ owns) later
  | newObject _ created indexed ih => exact ih.newObject created indexed.1 indexed.2
  | collect _ lasting roots ih => exact ih.collect lasting roots

/-- Memory that can be got at stays with its contents unless it belongs to an object that is out of
reach. An object that can be reached keeps its own memory. -/
theorem collect_keeps_reached_block (heap : Heap) (roots : List Pointer) (pointer : Pointer)
    (handle : Handle) (block : Block) (reached : Reached heap roots pointer)
    (leads : heap.leadsTo pointer = some handle) (live : heap.blocks.get? handle = some block) :
    ((heap.collect roots).2.blocks.get? handle = some block ↔
      ∀ owner object, heap.objects.get? owner = some object → object.block.handle = handle →
        Reached heap roots (.object ⟨owner⟩)) ∧
    (heap.Built → ∀ ref, pointer = .object ref →
      (heap.collect roots).2.leadsTo pointer = some handle ∧
        (heap.collect roots).2.blocks.get? handle = some block) := by
  refine ⟨collect_block_iff live, ?_⟩
  rintro built ref rfl
  obtain ⟨object, found, rfl⟩ := Option.map_eq_some_iff.1 leads
  have kept := (collect_object_iff found).2 reached
  refine ⟨Option.map_eq_some_iff.2 ⟨object, kept, rfl⟩, (collect_block_iff live).2 ?_⟩
  intro owner other owns same
  cases built.owning.alone ref.handle owner object other found owns same.symm
  exact reached

def single : Heap where
  blocks := (Arena.empty.insert (.zeroed 8)).2
  objects := (Arena.empty.insert ⟨⟨0⟩, ⟨⟨0, 0⟩⟩⟩).2
  classes := ⟨#[⟨"Thing", none, 8, #[]⟩]⟩

theorem built_single : single.Built := by
  have created : ({ Heap.empty with classes := single.classes } : Heap).newObject ⟨0⟩ =
      .ok (⟨⟨0, 0⟩⟩, single) := rfl
  refine .newObject (.define .empty single.classes) created ?_
  unfold Arena.Indexed
  decide

def referring : Heap where
  blocks := (single.blocks.insert ⟨List.replicate 8 0, 0, [(0, .pointer (.object ⟨⟨0, 0⟩⟩))]⟩).2
  objects := single.objects
  classes := single.classes

theorem reached_referring : Reached referring [.address ⟨⟨⟨1, 0⟩⟩, 0⟩] (.object ⟨⟨0, 0⟩⟩) :=
  .stored (.root List.mem_cons_self) rfl rfl (.head _)

theorem collect_keeps_reached_block_single :
    let roots := [Pointer.object ⟨⟨0, 0⟩⟩]
    Reached single roots (.object ⟨⟨0, 0⟩⟩) ∧ single.Built ∧
      (single.collect roots).2.leadsTo (.object ⟨⟨0, 0⟩⟩) = some ⟨0, 0⟩ ∧
      (single.collect roots).2.blocks.get? ⟨0, 0⟩ = some (.zeroed 8) := by
  intro roots
  have reached : Reached single roots (.object ⟨⟨0, 0⟩⟩) := .root List.mem_cons_self
  obtain ⟨-, kept⟩ := collect_keeps_reached_block single roots (.object ⟨⟨0, 0⟩⟩) ⟨0, 0⟩ (.zeroed 8)
    reached rfl rfl
  exact ⟨reached, built_single, kept built_single ⟨⟨0, 0⟩⟩ rfl⟩

/-- An address four bytes into an object, as a script can compute it, does not keep the object's
memory. -/
theorem collect_frees_addressed_memory :
    let start : Address := ⟨⟨⟨0, 0⟩⟩, 0⟩
    let inside : Address := ⟨⟨⟨0, 0⟩⟩, 4⟩
    single.Built ∧ single.resolve (.object ⟨⟨0, 0⟩⟩) = .ok (some start) ∧
      single.displace start 4 = .ok inside ∧
      Reached single [.address inside] (.address inside) ∧
      single.blocks.get? ⟨0, 0⟩ = some (.zeroed 8) ∧
      (single.collect [.address inside]).2.blocks.get? ⟨0, 0⟩ = none := by
  intro start inside
  have unreached : ¬Reached single [.address inside] (.object ⟨⟨0, 0⟩⟩) := by
    intro reached
    have member : Pointer.object ⟨⟨0, 0⟩⟩ ∈ [Pointer.address inside] := by
      refine reached.mem_of_closed ?_
      intro root here handle block leads live pointer stored
      cases List.mem_singleton.1 here
      cases leads
      cases live
      cases stored
    simp at member
  have gone : (single.collect [.address inside]).2.blocks.get? ⟨0, 0⟩ = none :=
    collect_block_eq_none unreached rfl rfl
  exact ⟨built_single, rfl, rfl, .root List.mem_cons_self, rfl, gone⟩

end GameScript.Heap
