import GameScript.Heap.Basic

/-! Collection of objects that nothing refers to. Marking follows pointers from the roots: an object
is marked and its block is searched, an address has its block searched. Objects that are not marked
are removed together with their blocks; other blocks stay. -/

namespace GameScript.Heap

def unsearched (heap : Heap) (searched : List Handle) : List Handle :=
  heap.blocks.handles.filter fun handle => !searched.contains handle

theorem unsearched_cons_length_lt {heap : Heap} {searched : List Handle} {handle : Handle}
    {block : Block} (live : heap.blocks.get? handle = some block)
    (fresh : ¬searched.contains handle) :
    (heap.unsearched (handle :: searched)).length < (heap.unsearched searched).length := by
  have split : heap.unsearched (handle :: searched) =
      (heap.unsearched searched).filter fun other => decide (other ≠ handle) := by
    simp only [unsearched, List.filter_filter]
    congr 1
    funext other
    simp
  rw [split]
  refine List.length_filter_lt_length_iff_exists.2 ⟨handle, ?_, by simp⟩
  exact List.mem_filter.2 ⟨Arena.mem_handles_of_get? live, by simpa using fresh⟩

/-- The block a pointer leads to and the objects marked once it is followed; none where it leads
nowhere or to an object that is marked already. -/
def follow (heap : Heap) (marked : List Handle) : Pointer → Option (Handle × List Handle)
  | .object ref =>
    match heap.objects.get? ref.handle with
    | some object =>
      if marked.contains ref.handle then none
      else some (object.block.handle, ref.handle :: marked)
    | none => none
  | .address position => some (position.block.handle, marked)
  | _ => none

/-- Marks what is reachable. `pending` holds pointers still to follow, `searched` the blocks whose
pointers have been added to it. Every block is searched once. -/
def mark (heap : Heap) (marked searched : List Handle) : List Pointer → List Handle
  | [] => marked
  | pointer :: pending =>
    match heap.follow marked pointer with
    | none => heap.mark marked searched pending
    | some (handle, marked) =>
      if _ : searched.contains handle then heap.mark marked searched pending
      else
        match _ : heap.blocks.get? handle with
        | none => heap.mark marked searched pending
        | some block => heap.mark marked (handle :: searched) (block.pointers ++ pending)
termination_by pending => ((heap.unsearched searched).length, pending.length)
decreasing_by
  · exact Prod.Lex.right _ (by simp)
  · exact Prod.Lex.right _ (by simp)
  · exact Prod.Lex.right _ (by simp)
  · exact Prod.Lex.left _ _ (unsearched_cons_length_lt (by assumption) (by assumption))

/-- The objects that a search from the roots does not reach, by slot. -/
def garbage (heap : Heap) (roots : List Pointer) : List Handle :=
  let marked := heap.mark [] [] roots
  heap.objects.handles.filter fun handle => !marked.contains handle

def discard (heap : Heap) (handle : Handle) : Heap :=
  match heap.objects.remove? handle with
  | some (object, objects) => { heap with objects }.freeIfLive object.block
  | none => heap

def collect (heap : Heap) (roots : List Pointer) : Nat × Heap :=
  let garbage := heap.garbage roots
  (garbage.length, garbage.foldl discard heap)

end GameScript.Heap
