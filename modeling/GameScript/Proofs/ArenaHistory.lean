import GameScript.Proofs.ArenaHandles

/-! What an arena gave out and took back, from its first value on. The use that a slot is in counts
how often the slot was emptied, so as long as the count fits its 32 bits every handle given out is a
new one, and one that was taken back names nothing ever after. -/

namespace GameScript

inductive Event where
  | gave (handle : Handle)
  | took (handle : Handle)
deriving DecidableEq, Repr

namespace Event

def handle : Event → Handle
  | gave handle => handle
  | took handle => handle

variable {events : List Event} {handle : Handle}

def given (events : List Event) : List Handle :=
  events.filterMap fun
    | gave handle => some handle
    | took _ => none

def taken (events : List Event) : List Handle :=
  events.filterMap fun
    | gave _ => none
    | took handle => some handle

def takes (events : List Event) (slot : Nat) : Nat :=
  (taken events).countP fun handle => handle.index.toNat = slot

def latest (events : List Event) (handle : Handle) : Option Event :=
  events.find? fun event => event.handle = handle

@[simp] theorem given_gave : given (gave handle :: events) = handle :: given events := rfl
@[simp] theorem given_took : given (took handle :: events) = given events := rfl
@[simp] theorem taken_gave : taken (gave handle :: events) = taken events := rfl
@[simp] theorem taken_took : taken (took handle :: events) = handle :: taken events := rfl

theorem takes_took (handle : Handle) (events : List Event) (slot : Nat) :
    takes (took handle :: events) slot =
      takes events slot + if handle.index.toNat = slot then 1 else 0 := by
  simp [takes, List.countP_cons]

theorem mem_given : handle ∈ given events ↔ gave handle ∈ events := by
  simp only [given, List.mem_filterMap]
  constructor
  · rintro ⟨_ | _, member, same⟩ <;> simp_all
  · exact fun member => ⟨_, member, rfl⟩

theorem mem_taken : handle ∈ taken events ↔ took handle ∈ events := by
  simp only [taken, List.mem_filterMap]
  constructor
  · rintro ⟨_ | _, member, same⟩ <;> simp_all
  · exact fun member => ⟨_, member, rfl⟩

theorem latest_cons (event : Event) (events : List Event) (handle : Handle) :
    latest (event :: events) handle =
      if event.handle = handle then some event else latest events handle := by
  rw [latest, List.find?_cons]
  split <;> simp_all [latest]

theorem latest_of_given_once {newer older : List Event}
    (once : (given (newer ++ gave handle :: older)).Nodup) :
    latest (newer ++ gave handle :: older) handle = some (gave handle) ↔ took handle ∉ newer := by
  induction newer with
  | nil => simp [latest_cons, Event.handle]
  | cons event newer ih =>
    rw [List.cons_append, latest_cons]
    cases event with
    | gave other =>
      rw [List.cons_append, given_gave, List.nodup_cons] at once
      have apart : other ≠ handle := by
        rintro rfl
        exact once.1 (mem_given.2 (by simp))
      simp [Event.handle, apart, ih once.2]
    | took other =>
      by_cases same : other = handle
      · simp [Event.handle, same]
      · simp [Event.handle, same, Ne.symm same, ih once]

end Event

namespace Arena

open Event

variable {arena rest : Arena α} {events : List Event} {handle : Handle} {value : α}

/-- What an arena gave out and took back, the latest first. Replacing a value does neither. -/
inductive Recorded : Arena α → List Event → Prop where
  | empty : Recorded .empty []
  | insert {arena : Arena α} {events : List Event} (recorded : Recorded arena events) (value : α) :
      Recorded (arena.insert value).2 (.gave (arena.insert value).1 :: events)
  | remove {arena rest : Arena α} {events : List Event} {handle : Handle} {value : α}
      (recorded : Recorded arena events) (removed : arena.remove? handle = some (value, rest)) :
      Recorded rest (.took handle :: events)
  | set {arena : Arena α} {events : List Event} (recorded : Recorded arena events) (handle : Handle)
      (value : α) : Recorded (arena.set handle value) events

/-- Every slot has an index of its own, and none was emptied so often that its uses start over. -/
def Fits (arena : Arena α) (events : List Event) : Prop :=
  arena.Indexed ∧ ∀ slot, takes events slot < UInt32.size

def emptySlots (arena : Arena α) : List Nat :=
  (List.range arena.entries.size).filter fun slot =>
    (arena.entries[slot]?.bind ArenaEntry.value).isNone

structure Accounts (arena : Arena α) (events : List Event) : Prop where
  /-- A handle names a value from when it is given out until it is taken back. -/
  resolves : ∀ newer older handle, events = newer ++ .gave handle :: older →
    (arena.Live handle ↔ .took handle ∉ newer)
  given_of_live : ∀ handle, arena.Live handle → .gave handle ∈ events
  dangling : ∀ handle, .took handle ∈ events → ¬arena.Live handle
  distinct : (given events).Nodup
  free_once : (arena.free.map UInt32.toNat).Perm arena.emptySlots
  handles_once : arena.handles.Nodup
  mem_handles : ∀ handle, handle ∈ arena.handles ↔ arena.Live handle
  counted : arena.live = arena.handles.length
  balanced : arena.live + (taken events).length = (given events).length

structure Tallied (arena : Arena α) (events : List Event) : Prop where
  standing : ∀ handle, arena.Live handle ↔ latest events handle = some (.gave handle)
  issued : ∀ handle ∈ given events, arena.Issued handle
  dangling : ∀ handle ∈ taken events, arena.Issued handle ∧ ¬arena.Live handle
  distinct : (given events).Nodup
  uses : ∀ (slot : Nat) (generation : UInt32), arena.generations[slot]? = some generation →
    generation.toNat = takes events slot
  balanced : arena.live + (taken events).length = (given events).length

theorem Tallied.empty : Tallied (.empty : Arena α) [] where
  standing _ := by simp [Live, get?, Arena.empty, latest]
  issued := by simp [given]
  dangling := by simp [taken]
  distinct := List.nodup_nil
  uses _ _ located := by simp [generations, Arena.empty] at located
  balanced := rfl

theorem Tallied.takes_size (tallied : Tallied arena events) :
    takes events arena.entries.size = 0 := by
  refine List.countP_eq_zero.2 ?_
  intro handle member last
  obtain ⟨⟨entry, located, -⟩, -⟩ := tallied.dangling handle member
  rw [of_decide_eq_true last] at located
  simp at located

theorem Tallied.insert (tallied : Tallied arena events) (value : α)
    (indexed : (arena.insert value).2.Indexed) :
    Tallied (arena.insert value).2 (.gave (arena.insert value).1 :: events) := by
  obtain ⟨-, found⟩ := insert_spec arena value indexed
  have fresh := not_issued_insert arena value indexed
  have later := later_insert arena value
  have live : ∀ handle, (arena.insert value).2.Live handle ↔
      handle = (arena.insert value).1 ∨ arena.Live handle := by
    intro handle
    rw [Live, found]
    split <;> simp_all [Live]
  refine ⟨fun handle => ?_, fun handle member => ?_, fun handle member => ?_, ?_, ?_, ?_⟩
  · rw [live, latest_cons, tallied.standing]
    by_cases here : handle = (arena.insert value).1
    · simp [here, Event.handle]
    · simp [here, Ne.symm here, Event.handle]
  · rcases List.mem_cons.1 member with rfl | member
    · exact ((live _).2 (.inl rfl)).issued
    · exact (tallied.issued handle member).later later
  · obtain ⟨issued, dead⟩ := tallied.dangling handle member
    refine ⟨issued.later later, fun again => ?_⟩
    rcases (live handle).1 again with rfl | again
    · exact fresh issued
    · exact dead again
  · exact List.nodup_cons.2 ⟨fun member => fresh (tallied.issued _ member), tallied.distinct⟩
  · intro slot generation located
    rcases generations_insert arena value with same | same <;> rw [same] at located
    · exact tallied.uses slot generation located
    · rw [Array.getElem?_push] at located
      split at located
      next last =>
        cases located
        rw [last, show arena.generations.size = arena.entries.size from Array.size_map ..]
        exact tallied.takes_size.symm
      next => exact tallied.uses slot generation located
  · rw [insert_live, taken_gave, given_gave, List.length_cons, ← tallied.balanced]
    omega

theorem Tallied.remove (tallied : Tallied arena events)
    (removed : arena.remove? handle = some (value, rest))
    (lasting : ∀ slot, takes (.took handle :: events) slot < UInt32.size) :
    Tallied rest (.took handle :: events) := by
  obtain ⟨named, found, count, -⟩ := remove?_eq_some removed
  have wasLive : arena.Live handle := live_iff.2 ⟨value, named⟩
  have use : arena.generations[handle.index.toNat]? = some handle.generation := by
    simp [generations, get?_eq_some_iff.1 named]
  have takesHere : takes (.took handle :: events) handle.index.toNat =
      handle.generation.toNat + 1 := by
    rw [takes_took, if_pos rfl, tallied.uses _ _ use]
  have following : handle.generation.toNat + 1 < UInt32.size :=
    takesHere ▸ lasting handle.index.toNat
  have later := later_remove? removed following
  have live : ∀ other, rest.Live other ↔ other ≠ handle ∧ arena.Live other := by
    intro other
    rw [Live, found]
    split <;> simp_all [Live]
  refine ⟨fun other => ?_, fun other member => ?_, fun other member => ?_, tallied.distinct, ?_, ?_⟩
  · rw [live, latest_cons, tallied.standing]
    by_cases here : other = handle
    · simp [here, Event.handle]
    · simp [here, Ne.symm here, Event.handle]
  · exact (tallied.issued other member).later later
  · rcases List.mem_cons.1 member with rfl | member
    · exact ⟨wasLive.issued.later later, fun again => ((live _).1 again).1 rfl⟩
    · obtain ⟨issued, dead⟩ := tallied.dangling other member
      exact ⟨issued.later later, fun again => dead ((live _).1 again).2⟩
  · intro slot generation located
    rw [generations_remove? removed, Array.getElem?_setIfInBounds] at located
    split at located
    next here =>
      split at located
      next =>
        cases located
        rw [← here, takesHere, UInt32.toNat_add]
        exact Nat.mod_eq_of_lt following
      next => cases located
    next elsewhere =>
      rw [takes_took, if_neg elsewhere]
      exact tallied.uses slot generation located
  · rw [taken_took, given_took, List.length_cons, ← tallied.balanced]
    omega

theorem Tallied.set (tallied : Tallied arena events) (handle : Handle) (value : α) :
    Tallied (arena.set handle value) events where
  standing other := live_set.trans (tallied.standing other)
  issued other member := (tallied.issued other member).later later_set
  dangling other member :=
    ⟨(tallied.dangling other member).1.later later_set,
      fun again => (tallied.dangling other member).2 (live_set.1 again)⟩
  distinct := tallied.distinct
  uses slot generation located := tallied.uses slot generation (generations_set ▸ located)
  balanced := by rw [set_live, tallied.balanced]

theorem Recorded.tallied (recorded : Recorded arena events) (fits : Fits arena events) :
    Tallied arena events := by
  induction recorded with
  | empty => exact .empty
  | insert recorded value ih =>
    have before : Indexed _ := Nat.le_trans (insert_size _ value) fits.1
    exact (ih ⟨before, fits.2⟩).insert value fits.1
  | @remove arena rest events handle value recorded removed ih =>
    obtain ⟨-, -, -, size⟩ := remove?_eq_some removed
    have before : Indexed arena := Nat.le_trans (Nat.le_of_eq size.symm) fits.1
    refine (ih ⟨before, fun slot => ?_⟩).remove removed fits.2
    exact Nat.lt_of_le_of_lt (takes_took handle events slot ▸ Nat.le_add_right _ _) (fits.2 slot)
  | @set arena events recorded handle value ih =>
    have before : Indexed arena := Nat.le_trans (Nat.le_of_eq set_size.symm) fits.1
    exact (ih ⟨before, fits.2⟩).set handle value

theorem free_perm_emptySlots (indexed : arena.Indexed) :
    (arena.free.map UInt32.toNat).Perm arena.emptySlots := by
  have once : (arena.free.map UInt32.toNat).Nodup :=
    List.pairwise_map.2 (arena.free_nodup.imp fun apart same => apart (UInt32.toNat_inj.1 same))
  refine (List.perm_ext_iff_of_nodup once (List.nodup_range.sublist List.filter_sublist)).2 ?_
  intro slot
  simp only [List.mem_map, List.mem_filter, List.mem_range, arena.mem_free]
  constructor
  · rintro ⟨index, ⟨entry, located, vacant⟩, rfl⟩
    exact ⟨(Array.getElem?_eq_some_iff.1 located).1, by simp [located, vacant]⟩
  · rintro ⟨inside, vacant⟩
    have index : (UInt32.ofNat slot).toNat = slot :=
      UInt32.toNat_ofNat_of_lt' (Nat.lt_of_lt_of_le inside indexed)
    refine ⟨UInt32.ofNat slot, ⟨arena.entries[slot], ?_, ?_⟩, index⟩
    · simp [index, inside]
    · simpa [inside] using vacant

theorem Recorded.accounts (recorded : Recorded arena events) (fits : Fits arena events) :
    Accounts arena events := by
  have tallied := recorded.tallied fits
  have mem_handles : ∀ handle, handle ∈ arena.handles ↔ arena.Live handle := by
    intro handle
    refine ⟨live_of_mem_handles fits.1, fun live => ?_⟩
    obtain ⟨value, found⟩ := live_iff.1 live
    exact mem_handles_of_get? found
  refine ⟨?_, ?_, ?_, tallied.distinct, free_perm_emptySlots fits.1, handles_nodup fits.1,
    mem_handles, (length_handles arena).symm, tallied.balanced⟩
  · rintro newer older handle rfl
    rw [tallied.standing, latest_of_given_once tallied.distinct]
  · intro handle live
    exact List.mem_of_find?_eq_some ((tallied.standing handle).1 live)
  · exact fun handle member => (tallied.dangling handle (mem_taken.2 member)).2

end Arena
end GameScript
