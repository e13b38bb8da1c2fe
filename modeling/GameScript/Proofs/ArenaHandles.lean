import GameScript.Heap.Arena

/-! What a handle names before and after each change of an arena. A change concerns one handle and
leaves all others alone, also when a slot is used again. -/

namespace GameScript.Arena

variable {arena : Arena α} {handle other : Handle} {value : α}

def Live (arena : Arena α) (handle : Handle) : Prop := (arena.get? handle).isSome

instance : Decidable (arena.Live handle) := inferInstanceAs (Decidable (_ = true))

/-- Every slot has an index of its own. -/
def Indexed (arena : Arena α) : Prop := arena.entries.size ≤ UInt32.size

theorem live_iff : arena.Live handle ↔ ∃ value, arena.get? handle = some value :=
  Option.isSome_iff_exists

theorem get?_congr {first second : Arena α}
    (same : first.entries[handle.index.toNat]? = second.entries[handle.index.toNat]?) :
    first.get? handle = second.get? handle := by
  simp only [get?, same]

private theorem get?_generation {entry : ArenaEntry α}
    (located : arena.entries[handle.index.toNat]? = some entry)
    (differs : entry.generation ≠ handle.generation) : arena.get? handle = none := by
  simp [get?, located, differs]

private theorem index_ne (apart : other ≠ handle) (generation : other.generation = handle.generation) :
    handle.index.toNat ≠ other.index.toNat := by
  intro same
  apply apart
  cases other
  cases handle
  simp_all [UInt32.toNat_inj]

/-- A slot that holds a use of `handle` holds no other use. -/
private theorem get?_other_use (handle : Handle) {generation : UInt32} {content : Option α}
    (located : arena.entries[handle.index.toNat]? = some ⟨generation, content⟩)
    (vacantOrOwn : content = none ∨ generation = handle.generation) (apart : other ≠ handle)
    (sameIndex : handle.index.toNat = other.index.toNat) : arena.get? other = none := by
  rw [sameIndex] at located
  rcases vacantOrOwn with rfl | rfl
  · simp [get?, located]
  · exact get?_generation located fun same => index_ne apart same.symm sameIndex

theorem get?_vacate (found : arena.get? handle = some value) (other : Handle) :
    (arena.vacate found).get? other = if other = handle then none else arena.get? other := by
  have located := get?_eq_some_iff.1 found
  have inside := (Array.getElem?_eq_some_iff.1 located).1
  have emptied : (arena.vacate found).entries[handle.index.toNat]? =
      some ⟨handle.generation + 1, none⟩ := by simp [vacate, inside]
  by_cases same : other = handle
  · subst same
    simp [get?, emptied]
  · rw [if_neg same]
    by_cases sameIndex : handle.index.toNat = other.index.toNat
    · rw [get?_other_use handle emptied (.inl rfl) same sameIndex,
        get?_other_use handle located (.inr rfl) same sameIndex]
    · exact get?_congr (by simp [vacate, Array.getElem?_setIfInBounds_ne sameIndex])

theorem remove?_eq_none_iff : arena.remove? handle = none ↔ ¬arena.Live handle := by
  unfold remove? Live
  split <;> simp_all

/-- Taking a value out concerns its handle alone. -/
theorem remove?_eq_some {rest : Arena α} (removed : arena.remove? handle = some (value, rest)) :
    arena.get? handle = some value ∧
      (∀ other, rest.get? other = if other = handle then none else arena.get? other) ∧
      rest.live + 1 = arena.live ∧ rest.entries.size = arena.entries.size := by
  unfold remove? at removed
  split at removed
  next held found =>
    cases removed
    refine ⟨found, get?_vacate found, ?_, by simp [vacate]⟩
    obtain ⟨inside, equal⟩ := Array.getElem?_eq_some_iff.1 (get?_eq_some_iff.1 found)
    have occupied : 0 < arena.entries.countP fun entry => entry.value.isSome :=
      Array.countP_pos_iff.2 ⟨_, Array.getElem_mem inside, by simp [equal]⟩
    simp only [vacate, arena.live_eq]
    omega
  next => simp at removed

theorem get?_set (arena : Arena α) (handle : Handle) (value : α) (other : Handle) :
    (arena.set handle value).get? other =
      if other = handle ∧ arena.Live handle then some value else arena.get? other := by
  unfold set
  split
  next held found =>
    have located := get?_eq_some_iff.1 found
    have inside := (Array.getElem?_eq_some_iff.1 located).1
    have live : arena.Live handle := live_iff.2 ⟨held, found⟩
    by_cases same : other = handle
    · subst same
      simp [get?, inside, live]
    · rw [if_neg fun both => same both.1]
      by_cases sameIndex : handle.index.toNat = other.index.toNat
      · rw [get?_other_use handle located (.inr rfl) same sameIndex]
        exact get?_generation (by simp [← sameIndex, inside]; rfl)
          fun equal => index_ne same equal.symm sameIndex
      · exact get?_congr (by simp [Array.getElem?_setIfInBounds_ne sameIndex])
  next missing =>
    simp [Live, missing]

theorem live_set : (arena.set handle value).Live other ↔ arena.Live other := by
  unfold Live
  rw [get?_set]
  split
  next both =>
    obtain ⟨rfl, live⟩ := both
    exact iff_of_true rfl live
  next => rfl

theorem set_size : (arena.set handle value).entries.size = arena.entries.size := by
  unfold set
  split <;> simp

theorem set_live : (arena.set handle value).live = arena.live := by
  unfold set
  split <;> rfl

/-- A new slot has a handle that names nothing yet, unless the indices are used up. -/
private theorem append_spec (arena : Arena α) (value : α)
    (indexed : (arena.append value).2.Indexed) :
    arena.get? (arena.append value).1 = none ∧
      ∀ other, (arena.append value).2.get? other =
        if other = (arena.append value).1 then some value else arena.get? other := by
  have size : arena.entries.size < UInt32.size := by
    have bound : (arena.entries.push ⟨0, some value⟩).size ≤ UInt32.size := indexed
    rwa [Array.size_push] at bound
  have index : (UInt32.ofNat arena.entries.size).toNat = arena.entries.size :=
    UInt32.toNat_ofNat_of_lt' size
  refine ⟨by simp [append, get?, index], fun other => ?_⟩
  have named : other = (arena.append value).1 ↔
      other.index.toNat = arena.entries.size ∧ other.generation = 0 := by
    cases other
    rw [append, Handle.mk.injEq, ← UInt32.toNat_inj, index]
  by_cases last : other.index.toNat = arena.entries.size
  · have before : arena.get? other = none := by simp [get?, last]
    have after : (arena.append value).2.get? other =
        if 0 = other.generation then some value else none := by simp [append, get?, last]
    simp [after, before, named, last, eq_comm]
  · rw [if_neg fun same => last (named.1 same).1]
    exact get?_congr (by simp [append, Array.getElem?_push, last])

private theorem reuse_spec {index : UInt32} {rest : List UInt32} {entry : ArenaEntry α}
    (next : arena.free = index :: rest) (located : arena.entries[index.toNat]? = some entry) :
    arena.get? ⟨index, entry.generation⟩ = none ∧
      ∀ other, (arena.reuse value next located).get? other =
        if other = ⟨index, entry.generation⟩ then some value else arena.get? other := by
  obtain ⟨inside, -⟩ := Array.getElem?_eq_some_iff.1 located
  obtain ⟨_, found, vacant⟩ := (arena.mem_free index).1 (by simp [next])
  cases located.symm.trans found
  have filled : (arena.reuse value next located).entries[index.toNat]? =
      some { entry with value := some value } := by simp [reuse, inside]
  refine ⟨by simp [get?, located, vacant], fun other => ?_⟩
  by_cases same : other = ⟨index, entry.generation⟩
  · subst same
    simp [get?, filled]
  · rw [if_neg same]
    by_cases sameIndex : index.toNat = other.index.toNat
    · rw [get?_other_use ⟨index, entry.generation⟩ filled (.inr rfl) same sameIndex,
        get?_other_use ⟨index, entry.generation⟩ located (.inl vacant) same sameIndex]
    · exact get?_congr (by simp [reuse, Array.getElem?_setIfInBounds_ne sameIndex])

private theorem insert_cases (arena : Arena α) (value : α) :
    arena.insert value = arena.append value ∨
      ∃ (index : UInt32) (rest : List UInt32) (entry : ArenaEntry α)
        (next : arena.free = index :: rest)
        (located : arena.entries[index.toNat]? = some entry),
        arena.insert value = (⟨index, entry.generation⟩, arena.reuse value next located) := by
  unfold insert
  split
  next => exact .inl rfl
  next index rest next =>
    split
    next => exact .inl rfl
    next entry located => exact .inr ⟨index, rest, entry, next, located, rfl⟩

/-- Storing a value gives a handle that named nothing before and leaves all others alone. -/
theorem insert_spec (arena : Arena α) (value : α) (indexed : (arena.insert value).2.Indexed) :
    arena.get? (arena.insert value).1 = none ∧
      ∀ other, (arena.insert value).2.get? other =
        if other = (arena.insert value).1 then some value else arena.get? other := by
  rcases insert_cases arena value with same | ⟨index, rest, entry, next, located, same⟩
  · rw [same] at indexed ⊢
    exact append_spec arena value indexed
  · rw [same]
    exact reuse_spec next located

/-- A handle that names something after a value is stored named it before or is the new one. -/
theorem get?_insert_cases {held : α} (found : (arena.insert value).2.get? handle = some held) :
    handle = (arena.insert value).1 ∧ held = value ∨ arena.get? handle = some held := by
  have named : (arena.insert value).2.get? handle =
        (if handle = (arena.insert value).1 then some value else arena.get? handle) →
      handle = (arena.insert value).1 ∧ held = value ∨ arena.get? handle = some held := by
    intro spec
    rw [spec] at found
    split at found
    next here => exact .inl ⟨here, (Option.some.inj found).symm⟩
    next => exact .inr found
  by_cases indexed : (arena.insert value).2.Indexed
  · exact named ((insert_spec arena value indexed).2 handle)
  rcases insert_cases arena value with same | ⟨index, rest, entry, next, located, same⟩
  · right
    have many : ¬(arena.entries.push ⟨0, some value⟩).size ≤ UInt32.size := by
      intro few
      rw [same] at indexed
      exact indexed few
    rw [Array.size_push] at many
    have small : handle.index.toNat < UInt32.size := handle.index.toNat_lt
    have inside : handle.index.toNat ≠ arena.entries.size := by omega
    rw [← found, same]
    exact get?_congr (by simp [append, Array.getElem?_push, inside])
  · exact named (by rw [same]; exact (reuse_spec next located).2 handle)

theorem insert_size (arena : Arena α) (value : α) :
    arena.entries.size ≤ (arena.insert value).2.entries.size := by
  rcases insert_cases arena value with same | ⟨index, rest, entry, next, located, same⟩
  · simp [same, append]
  · simp [same, reuse]

theorem insert_live (arena : Arena α) (value : α) :
    (arena.insert value).2.live = arena.live + 1 := by
  rcases insert_cases arena value with same | ⟨index, rest, entry, next, located, same⟩ <;>
    rw [same] <;> rfl

def generations (arena : Arena α) : Array UInt32 := arena.entries.map ArenaEntry.generation

private theorem generations_setIfInBounds {entries : Array (ArenaEntry α)} {index : Nat}
    {entry next : ArenaEntry α} (located : entries[index]? = some entry)
    (same : next.generation = entry.generation) :
    (entries.setIfInBounds index next).map ArenaEntry.generation =
      entries.map ArenaEntry.generation := by
  obtain ⟨inside, equal⟩ := Array.getElem?_eq_some_iff.1 located
  apply Array.ext_getElem?
  intro slot
  rw [Array.map_setIfInBounds, Array.getElem?_setIfInBounds]
  split
  next here => simp [← here, inside, equal, same]
  next => rfl

theorem generations_set : (arena.set handle value).generations = arena.generations := by
  unfold set
  split
  next held found => exact generations_setIfInBounds (get?_eq_some_iff.1 found) rfl
  next => rfl

/-- Storing a value leaves every slot in its use; a new slot is in its first. -/
theorem generations_insert (arena : Arena α) (value : α) :
    (arena.insert value).2.generations = arena.generations ∨
      (arena.insert value).2.generations = arena.generations.push 0 := by
  rcases insert_cases arena value with same | ⟨index, rest, entry, next, located, same⟩
  · exact .inr (by simp [same, append, generations])
  · rw [same]
    exact .inl (generations_setIfInBounds located rfl)

theorem generations_remove? {rest : Arena α} (removed : arena.remove? handle = some (value, rest)) :
    rest.generations =
      arena.generations.setIfInBounds handle.index.toNat (handle.generation + 1) := by
  unfold remove? at removed
  split at removed
  next =>
    cases removed
    simp [generations, vacate]
  next => cases removed

theorem mem_handles_iff : handle ∈ arena.handles ↔
    ∃ (index : Nat) (value : α), handle.index = UInt32.ofNat index ∧
      arena.entries[index]? = some ⟨handle.generation, some value⟩ := by
  simp only [handles, List.mem_filterMap, Prod.exists, List.mem_zipIdx_iff_getElem?]
  constructor
  · rintro ⟨⟨generation, content⟩, index, located, named⟩
    obtain ⟨value, rfl, rfl⟩ := Option.map_eq_some_iff.1 named
    exact ⟨index, value, rfl, by simpa using located⟩
  · rintro ⟨index, value, same, located⟩
    exact ⟨⟨handle.generation, some value⟩, index, by simpa using located, by simp [← same]⟩

theorem live_of_mem_handles (indexed : arena.Indexed) (member : handle ∈ arena.handles) :
    arena.Live handle := by
  obtain ⟨index, value, same, located⟩ := mem_handles_iff.1 member
  have small : index < UInt32.size :=
    Nat.lt_of_lt_of_le (Array.getElem?_eq_some_iff.1 located).1 indexed
  refine live_iff.2 ⟨value, get?_eq_some_iff.2 ?_⟩
  rw [same, UInt32.toNat_ofNat_of_lt' small]
  exact located

theorem handles_nodup (indexed : arena.Indexed) : arena.handles.Nodup := by
  have apart : arena.entries.toList.zipIdx.Pairwise fun first second => first.2 ≠ second.2 := by
    rw [← List.pairwise_map (f := Prod.snd), List.zipIdx_map_snd]
    exact List.nodup_range'
  refine List.pairwise_filterMap.2 (apart.imp_of_mem ?_)
  rintro ⟨first, i⟩ ⟨second, j⟩ firstMember secondMember different handle named other namedToo same
  have inside : ∀ {entry : ArenaEntry α} {index : Nat},
      (entry, index) ∈ arena.entries.toList.zipIdx → index < UInt32.size := by
    intro entry index member
    have located := List.mem_zipIdx_iff_getElem?.1 member
    exact Nat.lt_of_lt_of_le (by simpa using (List.getElem?_eq_some_iff.1 located).1) indexed
  obtain ⟨_, -, rfl⟩ := Option.map_eq_some_iff.1 named
  obtain ⟨_, -, rfl⟩ := Option.map_eq_some_iff.1 namedToo
  have sameIndex := congrArg (fun handle => handle.index.toNat) same
  simp only [UInt32.toNat_ofNat_of_lt' (inside firstMember),
    UInt32.toNat_ofNat_of_lt' (inside secondMember)] at sameIndex
  exact different sameIndex

theorem length_handles (arena : Arena α) : arena.handles.length = arena.live := by
  rw [handles, List.length_filterMap_eq_countP, arena.live_eq, ← Array.countP_toList]
  rw [← List.zipIdx_map_fst 0 arena.entries.toList, List.countP_map]
  simp [Function.comp_def]

/-- A handle that was given out: it names the present use of its slot or an earlier one. -/
def Issued (arena : Arena α) (handle : Handle) : Prop :=
  ∃ entry, arena.entries[handle.index.toNat]? = some entry ∧
    (handle.generation < entry.generation ∨
      handle.generation = entry.generation ∧ entry.value.isSome)

def Later (before after : Arena α) : Prop :=
  ∀ (index : Nat) (entry : ArenaEntry α), before.entries[index]? = some entry →
    ∃ next, after.entries[index]? = some next ∧
      (entry.generation < next.generation ∨
        entry.generation = next.generation ∧ (entry.value.isSome → next.value.isSome))

theorem Later.refl (arena : Arena α) : Later arena arena :=
  fun _ entry located => ⟨entry, located, .inr ⟨rfl, id⟩⟩

theorem Issued.later {before after : Arena α} (issued : before.Issued handle)
    (later : Later before after) : after.Issued handle := by
  obtain ⟨entry, located, use⟩ := issued
  obtain ⟨next, locatedNext, order⟩ := later _ entry located
  refine ⟨next, locatedNext, ?_⟩
  rcases use with earlier | ⟨same, occupied⟩
  · rcases order with further | ⟨same, -⟩
    · exact .inl (UInt32.lt_trans earlier further)
    · exact .inl (same ▸ earlier)
  · rcases order with further | ⟨sameNext, kept⟩
    · exact .inl (same ▸ further)
    · exact .inr ⟨same.trans sameNext, kept occupied⟩

private theorem later_setIfInBounds {after : Arena α} {index : Nat} {entry next : ArenaEntry α}
    (located : arena.entries[index]? = some entry)
    (entries : after.entries = arena.entries.setIfInBounds index next)
    (order : entry.generation < next.generation ∨
      entry.generation = next.generation ∧ (entry.value.isSome → next.value.isSome)) :
    Later arena after := by
  intro place held found
  rw [entries]
  by_cases same : index = place
  · subst same
    cases located.symm.trans found
    have inside := (Array.getElem?_eq_some_iff.1 located).1
    exact ⟨next, by simp [inside], order⟩
  · rw [Array.getElem?_setIfInBounds_ne same]
    exact ⟨held, found, .inr ⟨rfl, id⟩⟩

theorem later_set : Later arena (arena.set handle value) := by
  unfold set
  split
  next held found =>
    exact later_setIfInBounds (get?_eq_some_iff.1 found) rfl (.inr ⟨rfl, fun _ => rfl⟩)
  next => exact .refl arena

/-- Taking a value out moves its slot on to the next use, if there is one. -/
theorem later_remove? {rest : Arena α} (removed : arena.remove? handle = some (value, rest))
    (lasting : handle.generation.toNat + 1 < UInt32.size) : Later arena rest := by
  unfold remove? at removed
  split at removed
  next held found =>
    cases removed
    have next : handle.generation < handle.generation + 1 := by
      rw [UInt32.lt_iff_toNat_lt, UInt32.toNat_add]
      have one : (1 : UInt32).toNat = 1 := rfl
      have small : handle.generation.toNat + 1 < 2 ^ 32 := lasting
      omega
    exact later_setIfInBounds (get?_eq_some_iff.1 found) rfl (.inl next)
  next => cases removed

theorem Live.issued (live : arena.Live handle) : arena.Issued handle := by
  obtain ⟨value, found⟩ := live_iff.1 live
  exact ⟨_, get?_eq_some_iff.1 found, .inr ⟨rfl, rfl⟩⟩

/-- A handle is given out once: one for a new value was not given out before. -/
theorem not_issued_insert (arena : Arena α) (value : α)
    (indexed : (arena.insert value).2.Indexed) : ¬arena.Issued (arena.insert value).1 := by
  rintro ⟨entry, located, use⟩
  rcases insert_cases arena value with same | ⟨index, rest, vacated, next, found, same⟩
  · rw [same] at indexed located
    have bound : (arena.entries.push ⟨0, some value⟩).size ≤ UInt32.size := indexed
    rw [Array.size_push] at bound
    have last : (UInt32.ofNat arena.entries.size).toNat = arena.entries.size :=
      UInt32.toNat_ofNat_of_lt' bound
    simp [append, last] at located
  · rw [same] at located use
    cases found.symm.trans located
    obtain ⟨_, foundToo, vacant⟩ := (arena.mem_free index).1 (by simp [next])
    cases found.symm.trans foundToo
    rcases use with earlier | ⟨-, occupied⟩
    · exact UInt32.lt_irrefl _ earlier
    · simp [vacant] at occupied

theorem later_insert (arena : Arena α) (value : α) : Later arena (arena.insert value).2 := by
  rcases insert_cases arena value with same | ⟨index, rest, entry, next, located, same⟩
  · intro place entry found
    have inside := (Array.getElem?_eq_some_iff.1 found).1
    refine ⟨entry, ?_, .inr ⟨rfl, id⟩⟩
    rw [same]
    simp only [append, Array.getElem?_push, if_neg (Nat.ne_of_lt inside), found]
  · rw [same]
    exact later_setIfInBounds located rfl (.inr ⟨rfl, fun _ => rfl⟩)

end GameScript.Arena
