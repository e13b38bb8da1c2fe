import GameScript.Pointer

/-! Slots with handles. Removing a value frees its slot and changes the slot's generation, so a
handle from before never names what is stored there later. Free slots are used again, the one freed
last first. -/

namespace GameScript

structure ArenaEntry (α : Type) where
  generation : UInt32
  value : Option α
deriving Repr

/-- Whether a slot has no value; a slot that does not exist is not vacant. -/
def ArenaEntry.Vacant (entries : Array (ArenaEntry α)) (index : UInt32) : Prop :=
  ∃ entry, entries[index.toNat]? = some entry ∧ entry.value = none

structure Arena (α : Type) where
  entries : Array (ArenaEntry α)
  /-- The empty slots, the one freed last first. -/
  free : List UInt32
  /-- How many slots hold a value. -/
  live : Nat
  free_nodup : free.Nodup
  mem_free : ∀ index, index ∈ free ↔ ArenaEntry.Vacant entries index
  live_eq : live = entries.countP fun entry => entry.value.isSome
deriving Repr

namespace Arena

def empty : Arena α where
  entries := #[]
  free := []
  live := 0
  free_nodup := .nil
  mem_free := by simp [ArenaEntry.Vacant]
  live_eq := by simp

instance : Inhabited (Arena α) := ⟨empty⟩

def get? (arena : Arena α) (handle : Handle) : Option α :=
  match arena.entries[handle.index.toNat]? with
  | some entry => if entry.generation = handle.generation then entry.value else none
  | none => none

theorem get?_eq_some_iff {arena : Arena α} {handle : Handle} {value : α} :
    arena.get? handle = some value ↔
      arena.entries[handle.index.toNat]? = some ⟨handle.generation, some value⟩ := by
  unfold get?
  constructor
  · intro found
    split at found
    next entry located =>
      split at found
      next sameUse => rw [located, ← sameUse, ← found]
      next => simp at found
    next => simp at found
  · intro located
    simp [located]

private theorem vacant_setIfInBounds {entries : Array (ArenaEntry α)} {index other : UInt32}
    {entry : ArenaEntry α} (inside : index.toNat < entries.size) :
    ArenaEntry.Vacant (entries.setIfInBounds index.toNat entry) other ↔
      if other = index then entry.value = none else ArenaEntry.Vacant entries other := by
  unfold ArenaEntry.Vacant
  by_cases same : other = index
  · subst same
    simp [inside]
  · have apart : index.toNat ≠ other.toNat := fun equal => same (UInt32.toNat_inj.1 equal).symm
    simp [same, Array.getElem?_setIfInBounds_ne apart]

def append (arena : Arena α) (value : α) : Handle × Arena α :=
  (⟨UInt32.ofNat arena.entries.size, 0⟩,
    { arena with
      entries := arena.entries.push ⟨0, some value⟩
      live := arena.live + 1
      mem_free := by
        intro index
        rw [arena.mem_free]
        unfold ArenaEntry.Vacant
        rw [Array.getElem?_push]
        split
        next last => simp [last]
        next => rfl
      live_eq := by simp [arena.live_eq] })

/-- Stores a value in the free slot that is used next. -/
def reuse (arena : Arena α) (value : α) {index : UInt32} {rest : List UInt32}
    {entry : ArenaEntry α} (next : arena.free = index :: rest)
    (located : arena.entries[index.toNat]? = some entry) : Arena α where
  entries := arena.entries.setIfInBounds index.toNat { entry with value := some value }
  free := rest
  live := arena.live + 1
  free_nodup := (next ▸ arena.free_nodup).of_cons
  mem_free := by
    intro other
    have unique : (index :: rest).Nodup := next ▸ arena.free_nodup
    rw [vacant_setIfInBounds (Array.getElem?_eq_some_iff.1 located).1, ← arena.mem_free, next]
    split
    next same => simpa [same] using (List.nodup_cons.1 unique).1
    next other => simp [other]
  live_eq := by
    obtain ⟨inside, equal⟩ := Array.getElem?_eq_some_iff.1 located
    obtain ⟨_, found, vacant⟩ := (arena.mem_free index).1 (by simp [next])
    cases located.symm.trans found
    simp [Array.setIfInBounds, inside, Array.countP_set, equal, vacant, arena.live_eq]

/-- Stores a value, in the slot freed last if any is free. -/
def insert (arena : Arena α) (value : α) : Handle × Arena α :=
  match next : arena.free with
  | [] => arena.append value
  | index :: _ =>
    match located : arena.entries[index.toNat]? with
    -- never met: free slots exist
    | none => arena.append value
    | some entry => (⟨index, entry.generation⟩, arena.reuse value next located)

def set (arena : Arena α) (handle : Handle) (value : α) : Arena α :=
  match found : arena.get? handle with
  | some _ =>
    { arena with
      entries := arena.entries.setIfInBounds handle.index.toNat ⟨handle.generation, some value⟩
      mem_free := by
        intro other
        have located := get?_eq_some_iff.1 found
        rw [vacant_setIfInBounds (Array.getElem?_eq_some_iff.1 located).1, arena.mem_free]
        split
        next same => simp [same, ArenaEntry.Vacant, located]
        next => rfl
      live_eq := by
        obtain ⟨inside, equal⟩ := Array.getElem?_eq_some_iff.1 (get?_eq_some_iff.1 found)
        have occupied : 0 < arena.entries.countP fun entry => entry.value.isSome :=
          Array.countP_pos_iff.2 ⟨_, Array.getElem_mem inside, by simp [equal]⟩
        simp [Array.setIfInBounds, inside, Array.countP_set, equal, arena.live_eq]
        omega }
  | none => arena

def vacate (arena : Arena α) {handle : Handle} {value : α}
    (found : arena.get? handle = some value) : Arena α where
  entries := arena.entries.setIfInBounds handle.index.toNat ⟨handle.generation + 1, none⟩
  free := handle.index :: arena.free
  live := arena.live - 1
  free_nodup := by
    refine List.nodup_cons.2 ⟨?_, arena.free_nodup⟩
    rw [arena.mem_free]
    simp [ArenaEntry.Vacant, get?_eq_some_iff.1 found]
  mem_free := by
    intro other
    rw [vacant_setIfInBounds (Array.getElem?_eq_some_iff.1 (get?_eq_some_iff.1 found)).1]
    split
    next same => simp [same]
    next other => simp [other, arena.mem_free]
  live_eq := by
    obtain ⟨inside, equal⟩ := Array.getElem?_eq_some_iff.1 (get?_eq_some_iff.1 found)
    simp [Array.setIfInBounds, inside, Array.countP_set, equal, arena.live_eq]

/-- Takes a value out, unless the handle names none. -/
def remove? (arena : Arena α) (handle : Handle) : Option (α × Arena α) :=
  match found : arena.get? handle with
  | some value => some (value, arena.vacate found)
  | none => none

def handles (arena : Arena α) : List Handle :=
  arena.entries.toList.zipIdx.filterMap fun (entry, index) =>
    entry.value.map fun _ => ⟨UInt32.ofNat index, entry.generation⟩

theorem mem_handles_of_get? {arena : Arena α} {handle : Handle} {value : α}
    (found : arena.get? handle = some value) : handle ∈ arena.handles := by
  refine List.mem_filterMap.2 ⟨(⟨handle.generation, some value⟩, handle.index.toNat), ?_, ?_⟩
  · rw [List.mem_zipIdx_iff_getElem?]
    simpa using get?_eq_some_iff.1 found
  · simp

end Arena
end GameScript
