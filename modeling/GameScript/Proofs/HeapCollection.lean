import GameScript.Heap.Collect
import GameScript.Proofs.HeapBlocks

/-! Collection removes exactly the objects that cannot be reached. Marking stops with a set of
objects and a set of searched blocks from which no pointer leads out, and everything in them was
reached from a root. -/

namespace GameScript.Heap

/-- The block that is searched on behalf of a pointer. Null, classes, functions and objects that
are gone lead nowhere. -/
def leadsTo (heap : Heap) : Pointer → Option Handle
  | .object ref => (heap.objects.get? ref.handle).map fun object => object.block.handle
  | .address position => some position.block.handle
  | _ => none

/-- The pointers that a program holding the roots can get at. -/
inductive Reached (heap : Heap) (roots : List Pointer) : Pointer → Prop where
  | root {pointer} (member : pointer ∈ roots) : Reached heap roots pointer
  | stored {pointer target handle block} (reached : Reached heap roots pointer)
      (leads : heap.leadsTo pointer = some handle)
      (live : heap.blocks.get? handle = some block) (inside : target ∈ block.pointers) :
      Reached heap roots target

structure Settled (heap : Heap) (marked searched : List Handle) (pointer : Pointer) : Prop where
  object : ∀ ref, pointer = .object ref → heap.objects.Live ref.handle → ref.handle ∈ marked
  block : ∀ handle, heap.leadsTo pointer = some handle → heap.blocks.Live handle →
    handle ∈ searched

/-- What marking maintains. Every pointer met so far is still pending or settled. -/
structure Marking (heap : Heap) (roots : List Pointer) (marked searched : List Handle)
    (pending : List Pointer) : Prop where
  reached : ∀ pointer ∈ pending, Reached heap roots pointer
  marked_reached : ∀ handle ∈ marked, Reached heap roots (.object ⟨handle⟩)
  owners : ∀ handle ∈ marked, ∀ object, heap.objects.get? handle = some object →
    heap.blocks.Live object.block.handle → object.block.handle ∈ searched
  roots_met : ∀ pointer ∈ roots, pointer ∈ pending ∨ Settled heap marked searched pointer
  slots_met : ∀ handle ∈ searched, ∀ block, heap.blocks.get? handle = some block →
    ∀ pointer ∈ block.pointers, pointer ∈ pending ∨ Settled heap marked searched pointer

variable {heap : Heap} {roots pending : List Pointer} {pointer : Pointer}
  {marked marked' searched searched' : List Handle} {handle : Handle}

theorem Settled.mono (settled : Settled heap marked searched pointer)
    (grownMarks : marked ⊆ marked') (grownSearch : searched ⊆ searched') :
    Settled heap marked' searched' pointer :=
  ⟨fun ref same live => grownMarks (settled.object ref same live),
    fun handle leads live => grownSearch (settled.block handle leads live)⟩

theorem Marking.initial : Marking heap roots [] [] roots where
  reached _ member := .root member
  marked_reached := by simp
  owners := by simp
  roots_met _ member := .inl member
  slots_met := by simp

/-- Following a pointer marks the object it names, if it names one, and searches its block. -/
theorem follow_eq_some (followed : heap.follow marked pointer = some (handle, marked')) :
    heap.leadsTo pointer = some handle ∧ marked ⊆ marked' ∧
      (∀ ref, pointer = .object ref → ref.handle ∈ marked') ∧
      ∀ other ∈ marked', other ∈ marked ∨
        pointer = .object ⟨other⟩ ∧ ∃ object, heap.objects.get? other = some object ∧
          object.block.handle = handle := by
  cases pointer with
  | object ref =>
    simp only [follow] at followed
    split at followed
    next object found =>
      split at followed
      next => simp at followed
      next =>
        cases followed
        refine ⟨by simp [leadsTo, found], List.subset_cons_self _ _, ?_, ?_⟩
        · rintro _ ⟨⟩
          exact List.mem_cons_self
        · intro other member
          rcases List.mem_cons.1 member with rfl | member
          · exact .inr ⟨rfl, object, found, rfl⟩
          · exact .inl member
    next => simp at followed
  | address position =>
    cases followed
    exact ⟨rfl, List.Subset.refl _, by simp, fun _ member => .inl member⟩
  | null => simp [follow] at followed
  | class_ id => simp [follow] at followed
  | function id => simp [follow] at followed

/-- A pointer that is not followed is settled. -/
theorem Marking.settled_of_follow (marking : Marking heap roots marked searched pending)
    (ignored : heap.follow marked pointer = none) : Settled heap marked searched pointer := by
  cases pointer with
  | object ref =>
    simp only [follow] at ignored
    split at ignored
    next object found =>
      split at ignored
      next known =>
        have known : ref.handle ∈ marked := by simpa using known
        refine ⟨fun _ same _ => by cases same; exact known, fun handle leads live => ?_⟩
        simp only [leadsTo, found, Option.map_some, Option.some.injEq] at leads
        subst leads
        exact marking.owners _ known object found live
      next => simp at ignored
    next missing =>
      refine ⟨fun _ same live => ?_, by simp [leadsTo, missing]⟩
      cases same
      simp [Arena.Live, missing] at live
  | address position => simp [follow] at ignored
  | null => exact ⟨by simp, by simp [leadsTo]⟩
  | class_ id => exact ⟨by simp, by simp [leadsTo]⟩
  | function id => exact ⟨by simp, by simp [leadsTo]⟩

theorem Marking.skip (marking : Marking heap roots marked searched (pointer :: pending))
    (settled : Settled heap marked searched pointer) :
    Marking heap roots marked searched pending := by
  have drop : ∀ other, other ∈ pointer :: pending ∨ Settled heap marked searched other →
      other ∈ pending ∨ Settled heap marked searched other := by
    rintro other (member | done)
    · rcases List.mem_cons.1 member with rfl | member
      · exact .inr settled
      · exact .inl member
    · exact .inr done
  exact { marking with
    reached := fun other member => marking.reached other (List.mem_cons_of_mem _ member)
    roots_met := fun other member => drop other (marking.roots_met other member)
    slots_met := fun block member content live other inside =>
      drop other (marking.slots_met block member content live other inside) }

/-- Following a pointer to a block that is searched by now, with all pointers of newly searched
blocks pending. -/
theorem Marking.followed (more : List Pointer)
    (marking : Marking heap roots marked searched (pointer :: pending))
    (followed : heap.follow marked pointer = some (handle, marked'))
    (grown : searched ⊆ searched') (covered : heap.blocks.Live handle → handle ∈ searched')
    (reached : ∀ other ∈ more, Reached heap roots other)
    (fresh : ∀ other ∈ searched', other ∈ searched ∨
      ∀ block, heap.blocks.get? other = some block → block.pointers ⊆ more) :
    Marking heap roots marked' searched' (more ++ pending) := by
  obtain ⟨leads, kept, own, origin⟩ := follow_eq_some followed
  have here : Reached heap roots pointer := marking.reached _ List.mem_cons_self
  have settled : Settled heap marked' searched' pointer := by
    refine ⟨fun ref same _ => own ref same, fun other leadsToo live => ?_⟩
    cases leads.symm.trans leadsToo
    exact covered live
  have met : ∀ other, other ∈ pointer :: pending ∨ Settled heap marked searched other →
      other ∈ more ++ pending ∨ Settled heap marked' searched' other := by
    rintro other (member | done)
    · rcases List.mem_cons.1 member with rfl | member
      · exact .inr settled
      · exact .inl (List.mem_append_right _ member)
    · exact .inr (done.mono kept grown)
  refine ⟨?_, ?_, ?_, fun other member => met other (marking.roots_met other member), ?_⟩
  · intro other member
    rcases List.mem_append.1 member with member | member
    · exact reached other member
    · exact marking.reached other (List.mem_cons_of_mem _ member)
  · intro other member
    rcases origin other member with known | ⟨rfl, -⟩
    · exact marking.marked_reached other known
    · exact here
  · intro other member object found live
    rcases origin other member with known | ⟨rfl, named, foundToo, rfl⟩
    · exact grown (marking.owners other known object found live)
    · cases found.symm.trans foundToo
      exact covered live
  · intro other member block live target inside
    rcases fresh other member with known | new
    · exact met target (marking.slots_met other known block live target inside)
    · exact .inl (List.mem_append_left _ (new block live inside))

/-- Marking ends with nothing pending and some set of searched blocks. -/
theorem Marking.mark (marking : Marking heap roots marked searched pending) :
    ∃ searched', Marking heap roots (heap.mark marked searched pending) searched' [] := by
  fun_induction Heap.mark heap marked searched pending with
  | case1 => exact ⟨_, marking⟩
  | case2 marked searched pointer pending ignored ih =>
    exact ih (marking.skip (marking.settled_of_follow ignored))
  | case3 marked searched pointer pending handle marked' followed known ih =>
    have known : handle ∈ searched := by simpa using known
    exact ih (marking.followed [] followed (List.Subset.refl _) (fun _ => known) (by simp)
      fun _ member => .inl member)
  | case4 marked searched pointer pending handle marked' followed unknown missing ih =>
    refine ih (marking.followed [] followed (List.Subset.refl _) (fun live => ?_) (by simp)
      fun _ member => .inl member)
    simp [Arena.Live, missing] at live
  | case5 marked searched pointer pending handle marked' followed unknown block live ih =>
    have leads := (follow_eq_some followed).1
    refine ih (marking.followed block.pointers followed (List.subset_cons_self _ _)
      (fun _ => List.mem_cons_self) ?_ ?_)
    · exact fun other inside => .stored (marking.reached _ List.mem_cons_self) leads live inside
    · intro other member
      rcases List.mem_cons.1 member with rfl | member
      · refine .inr fun found liveToo => ?_
        cases live.symm.trans liveToo
        exact List.Subset.refl _
      · exact .inl member

/-- Once nothing is pending, everything that can be reached is settled. -/
theorem Marking.settled (marking : Marking heap roots marked searched [])
    (reached : Reached heap roots pointer) : Settled heap marked searched pointer := by
  induction reached with
  | root member => exact (marking.roots_met _ member).resolve_left List.not_mem_nil
  | stored _ leads live inside ih =>
    have known := ih.block _ leads (Arena.live_iff.2 ⟨_, live⟩)
    exact (marking.slots_met _ known _ live _ inside).resolve_left List.not_mem_nil

theorem mem_mark_iff (live : heap.objects.Live handle) :
    handle ∈ heap.mark [] [] roots ↔ Reached heap roots (.object ⟨handle⟩) := by
  obtain ⟨searched, marking⟩ := (Marking.initial : Marking heap roots [] [] roots).mark
  exact ⟨marking.marked_reached handle, fun reached => (marking.settled reached).object _ rfl live⟩

theorem mem_garbage_of_live (live : heap.objects.Live handle) :
    handle ∈ heap.garbage roots ↔ ¬Reached heap roots (.object ⟨handle⟩) := by
  obtain ⟨object, found⟩ := Arena.live_iff.1 live
  simp [garbage, Arena.mem_handles_of_get? found, mem_mark_iff live]

/-- Removing an object concerns that object and its block. -/
theorem discard_spec (heap : Heap) (handle : Handle) :
    (∀ other, (heap.discard handle).objects.get? other =
        if other = handle then none else heap.objects.get? other) ∧
      (∀ block, (heap.discard handle).blocks.get? block =
        if (heap.objects.get? handle).map (fun object => object.block.handle) = some block then none
        else heap.blocks.get? block) ∧
      (heap.discard handle).classes = heap.classes := by
  unfold discard
  split
  next object objects removed =>
    obtain ⟨found, others, -⟩ := Arena.remove?_eq_some removed
    obtain ⟨blocks, sameObjects, sameClasses⟩ := freeIfLive_spec { heap with objects } object.block
    refine ⟨fun other => by rw [sameObjects, others], fun block => ?_, sameClasses⟩
    simp [blocks, found, eq_comm]
  next missing =>
    have gone : heap.objects.get? handle = none := by
      simpa [Arena.Live] using Arena.remove?_eq_none_iff.1 missing
    refine ⟨fun other => ?_, fun block => by simp [gone], rfl⟩
    split
    next same => rw [same, gone]
    next => rfl

theorem foldl_discard_objects (garbage : List Handle) (heap : Heap) (handle : Handle) :
    (garbage.foldl discard heap).objects.get? handle =
      if handle ∈ garbage then none else heap.objects.get? handle := by
  induction garbage generalizing heap with
  | nil => simp
  | cons first rest ih =>
    rw [List.foldl_cons, ih, (discard_spec heap first).1]
    by_cases here : handle = first <;> simp [here]

theorem foldl_discard_blocks (garbage : List Handle) (heap : Heap) (handle : Handle) (block : Block) :
    (garbage.foldl discard heap).blocks.get? handle = some block ↔
      heap.blocks.get? handle = some block ∧
        ∀ owner ∈ garbage, ∀ object, heap.objects.get? owner = some object →
          object.block.handle ≠ handle := by
  induction garbage generalizing heap with
  | nil => simp
  | cons first rest ih =>
    obtain ⟨objects, blocks, -⟩ := discard_spec heap first
    rw [List.foldl_cons, ih, blocks]
    constructor
    · rintro ⟨kept, spared⟩
      split at kept
      next => cases kept
      next notOwn =>
        refine ⟨kept, fun owner member object found same => ?_⟩
        by_cases here : owner = first
        · exact notOwn (by rw [← here, found, Option.map_some, same])
        · have later := (List.mem_cons.1 member).resolve_left here
          exact spared owner later object (by rw [objects, if_neg here, found]) same
    · rintro ⟨kept, spared⟩
      constructor
      · rw [if_neg, kept]
        intro own
        obtain ⟨object, found, same⟩ := Option.map_eq_some_iff.1 own
        exact spared first List.mem_cons_self object found same
      · intro owner member object found
        rw [objects] at found
        split at found
        next => cases found
        next => exact spared owner (List.mem_cons_of_mem _ member) object found

theorem foldl_discard_classes (garbage : List Handle) (heap : Heap) :
    (garbage.foldl discard heap).classes = heap.classes := by
  induction garbage generalizing heap with
  | nil => rfl
  | cons first rest ih => rw [List.foldl_cons, ih, (discard_spec heap first).2.2]

theorem foldl_discard_liveObjects (garbage : List Handle) (heap : Heap) (unique : garbage.Nodup)
    (live : ∀ handle ∈ garbage, heap.objects.Live handle) :
    garbage.length + (garbage.foldl discard heap).liveObjects = heap.liveObjects := by
  induction garbage generalizing heap with
  | nil => simp
  | cons first rest ih =>
    obtain ⟨notLater, unique⟩ := List.nodup_cons.1 unique
    have counted : (heap.discard first).liveObjects + 1 = heap.liveObjects := by
      unfold discard
      split
      next object objects removed =>
        obtain ⟨-, -, count, -⟩ := Arena.remove?_eq_some removed
        simpa only [liveObjects, (freeIfLive_spec _ _).2.1] using count
      next missing => exact absurd (live first List.mem_cons_self) (Arena.remove?_eq_none_iff.1 missing)
    have remaining : ∀ handle ∈ rest, (heap.discard first).objects.Live handle := by
      intro handle member
      have apart : handle ≠ first := fun same => notLater (same ▸ member)
      unfold Arena.Live
      rw [(discard_spec heap first).1, if_neg apart]
      exact live handle (List.mem_cons_of_mem _ member)
    have rest := ih (heap.discard first) unique remaining
    rw [List.foldl_cons, List.length_cons]
    omega

/-- A collection ends with exactly the objects that were live and reachable and with exactly the
blocks that no unreachable object owned, each with the contents it had, so memory that belongs to no
object always stays. It answers how many objects it removed, for as long as every object has an
index of its own. -/
theorem collect_removes_exactly_garbage (heap : Heap) (roots : List Pointer) :
    (∀ handle object, (heap.collect roots).2.objects.get? handle = some object ↔
      heap.objects.get? handle = some object ∧ Reached heap roots (.object ⟨handle⟩)) ∧
    (∀ handle block, (heap.collect roots).2.blocks.get? handle = some block ↔
      heap.blocks.get? handle = some block ∧
        ¬∃ owner object, heap.objects.get? owner = some object ∧ object.block.handle = handle ∧
          ¬Reached heap roots (.object ⟨owner⟩)) ∧
    (heap.collect roots).2.classes = heap.classes ∧
    (heap.objects.Indexed →
      (heap.collect roots).1 = heap.liveObjects - (heap.collect roots).2.liveObjects ∧
        (heap.collect roots).2.liveObjects ≤ heap.liveObjects) := by
  refine ⟨fun handle object => ?_, fun handle block => ?_, foldl_discard_classes _ _, fun indexed => ?_⟩
  · rw [collect, foldl_discard_objects]
    by_cases found : heap.objects.get? handle = some object
    · have live := Arena.live_iff.2 ⟨object, found⟩
      by_cases reached : Reached heap roots (.object ⟨handle⟩) <;>
        simp [mem_garbage_of_live live, found, reached]
    · simp [found]
  · rw [collect, foldl_discard_blocks]
    refine and_congr_right fun _ => ⟨?_, ?_⟩
    · rintro spared ⟨owner, object, found, same, unreached⟩
      have live := Arena.live_iff.2 ⟨object, found⟩
      exact spared owner ((mem_garbage_of_live live).2 unreached) object found same
    · intro spared owner member object found same
      have live := Arena.live_iff.2 ⟨object, found⟩
      exact spared ⟨owner, object, found, same, (mem_garbage_of_live live).1 member⟩
  · have listed : heap.garbage roots ⊆ heap.objects.handles := fun _ member => (List.mem_filter.1 member).1
    have count := foldl_discard_liveObjects (heap.garbage roots) heap
      ((Arena.handles_nodup indexed).filter _)
      fun handle member => Arena.live_of_mem_handles indexed (listed member)
    simp only [collect]
    omega

/-- Of two objects the second is out of reach. -/
theorem collect_removes_exactly_garbage_of_two :
    let heap : Heap := { Heap.empty.alloc 8 |>.2.alloc 8 |>.2 with
      objects := ((Arena.empty.insert ⟨⟨0⟩, ⟨⟨0, 0⟩⟩⟩).2.insert ⟨⟨0⟩, ⟨⟨1, 0⟩⟩⟩).2 }
    let roots := [Pointer.object ⟨⟨0, 0⟩⟩]
    heap.objects.Indexed ∧ heap.liveObjects = 2 ∧
      (heap.collect roots).1 = heap.liveObjects - (heap.collect roots).2.liveObjects := by
  intro heap roots
  have indexed : heap.objects.Indexed := by
    unfold Arena.Indexed
    decide +kernel
  obtain ⟨-, -, -, count⟩ := collect_removes_exactly_garbage heap roots
  exact ⟨indexed, by decide +kernel, (count indexed).1⟩

end GameScript.Heap
