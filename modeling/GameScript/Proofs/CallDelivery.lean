import GameScript.Proofs.CallInstructions

/-! What a call writes to the registers of its caller: results first, by slot, then the cells of
parameters passed by reference, in the order they were staged. Of several values for one register
the last stays. -/

namespace GameScript

/-- A value is put into one register, and no other changes. -/
theorem Banks.value?_put {before after : Banks} {position : Nat} {value : Value}
    (written : before.put position value = .ok after) (bank : Bank) (index : Nat) :
    after.value? bank index =
      if value.bank = bank ∧ position = index then some value else before.value? bank index := by
  unfold put setRegister at written
  split at written
  next inside =>
    cases written
    by_cases same : value.bank = bank
    · subst same
      by_cases here : position = index
      · subst here
        have stored : Value.of value.bank value.content = value := by cases value <;> rfl
        have bound : position < (before.row value.bank).size := inside
        simp [value?, get?, bound, stored]
      · simp [value?, get?, here, Array.getElem?_setIfInBounds_ne here]
    · rw [value?, get?, row_withRow_ne _ _ (Ne.symm same)]
      simp [same, value?, get?]
  next => cases written

structure Update where
  bank : Bank
  register : UInt16
  value : Value
deriving DecidableEq, Repr

def latest (updates : List Update) (bank : Bank) (index : Nat) : Option Value :=
  (updates.reverse.find? fun update => update.bank = bank ∧ update.register.toNat = index).map
    Update.value

/-- The updates are made one after the other, and no other register changes. -/
def Updated (updates : List Update) (before after : Banks) : Prop :=
  ∀ bank index, after.value? bank index =
    (latest updates bank index).or (before.value? bank index)

namespace Updated

variable {first second : List Update} {before middle after : Banks}

theorem refl (registers : Banks) : Updated [] registers registers := fun _ _ => rfl

theorem trans (former : Updated first before middle) (latter : Updated second middle after) :
    Updated (first ++ second) before after := by
  intro bank index
  rw [latter, former, ← Option.or_assoc]
  congr 1
  simp only [latest, List.reverse_append, List.find?_append, Option.map_or]

theorem put {register : UInt16} {value : Value}
    (written : before.put register.toNat value = .ok after) :
    Updated [⟨value.bank, register, value⟩] before after := by
  intro bank index
  rw [Banks.value?_put written]
  split
  next here => simp [latest, here]
  next elsewhere => simp [latest, elsewhere]

end Updated

def delivered (targets : List ResultTarget) (slots : List ResultSlot) : List Update :=
  (targets.zip slots).filterMap fun (target, slot) =>
    slot.value.map fun value => ⟨target.bank, target.register, value⟩

theorem deliver_eq_ok {registers after : Banks} {position : Nat} {targets : List ResultTarget}
    {slots : List ResultSlot} (done : deliver registers position targets slots = .ok after) :
    Updated (delivered targets slots) registers after := by
  induction targets generalizing registers position slots with
  | nil =>
    cases done
    exact .refl _
  | cons target targets ih =>
    cases slots with
    | nil =>
      cases done
      exact .refl _
    | cons slot slots =>
      unfold deliver at done
      split at done
      next none =>
        have rest := ih done
        simpa [delivered, none] using rest
      next value held =>
        split at done
        next bank =>
          obtain ⟨middle, written, rest⟩ := bind_eq_ok.1 done
          have here := Updated.put written
          rw [bank] at here
          have whole := here.trans (ih rest)
          simpa [delivered, held] using whole
        next => cases done

def cellContents (heap : Heap) (writebacks : List Writeback) : List Update :=
  writebacks.filterMap fun writeback =>
    (heap.unbox writeback.bank writeback.cell).toOption.map fun value =>
      ⟨writeback.bank, writeback.register, value⟩

def Readable (heap : Heap) (writebacks : List Writeback) : Prop :=
  ∀ writeback ∈ writebacks, ∃ value, heap.unbox writeback.bank writeback.cell = .ok value

namespace Heap

variable {heap after : Heap} {bank : Bank} {cell : BlockId} {value : Value}

theorem unbox_bank (read : heap.unbox bank cell = .ok value) : value.bank = bank := by
  cases bank <;>
    · obtain ⟨_, -, done⟩ := bind_eq_ok.1 read
      cases done
      rfl

theorem unbox_congr (same : after.block cell = heap.block cell) :
    after.unbox bank cell = heap.unbox bank cell := by
  cases bank <;> simp only [unbox, readValue, readBytes, readString, readPointer, same]

theorem live_of_unbox (read : heap.unbox bank cell = .ok value) :
    ∃ content, heap.block cell = .ok content := by
  cases bank <;>
    · obtain ⟨_, found, -⟩ := bind_eq_ok.1 read
      obtain ⟨content, found, -⟩ := bind_eq_ok.1 found
      exact ⟨content, found⟩

/-- Blocks that are left have the contents they had. -/
def Shrunk (heap after : Heap) : Prop :=
  ∀ block content, after.block block = .ok content → heap.block block = .ok content

theorem Shrunk.unbox (shrunk : Shrunk heap after) (read : after.unbox bank cell = .ok value) :
    heap.unbox bank cell = .ok value := by
  obtain ⟨content, found⟩ := live_of_unbox read
  rw [← unbox_congr (found.trans (shrunk cell content found).symm)]
  exact read

theorem shrunk_freeIfLive (heap : Heap) (block : BlockId) : Shrunk heap (heap.freeIfLive block) := by
  intro other content found
  obtain ⟨others, -, -⟩ := freeIfLive_spec heap block
  rw [block_eq_ok_iff, others] at found
  rw [block_eq_ok_iff]
  split at found
  next => cases found
  next => exact found

theorem shrunk_freeAll (heap : Heap) (blocks : List BlockId) :
    Shrunk heap (blocks.foldl freeIfLive heap) := by
  induction blocks generalizing heap with
  | nil => exact fun _ _ found => found
  | cons block blocks ih =>
    exact fun other content found =>
      shrunk_freeIfLive heap block other content (ih (heap.freeIfLive block) other content found)

end Heap

/-- Cells that can still be read after blocks were freed were not concerned. -/
theorem cellContents_of_shrunk {heap after : Heap} {writebacks : List Writeback}
    (shrunk : Heap.Shrunk heap after) (readable : Readable after writebacks) :
    Readable heap writebacks ∧ cellContents heap writebacks = cellContents after writebacks := by
  induction writebacks with
  | nil => exact ⟨by simp [Readable], rfl⟩
  | cons writeback writebacks ih =>
    obtain ⟨value, read⟩ := readable writeback (.head _)
    obtain ⟨others, same⟩ := ih fun other member => readable other (.tail _ member)
    have before := shrunk.unbox read
    constructor
    · intro other member
      cases member with
      | head => exact ⟨value, before⟩
      | tail _ member => exact others other member
    · unfold cellContents at same ⊢
      rw [List.filterMap_cons, List.filterMap_cons, before, read, same]

namespace Restored

variable {state : Restored} {writeback : Writeback} {writebacks : List Writeback}

theorem step_sound (sound : (state.step writeback).fault = none) :
    state.fault = none ∧ ∃ value,
      state.heap.unbox writeback.bank writeback.cell = .ok value ∧
      state.registers.put writeback.register.toNat value = .ok (state.step writeback).registers ∧
      (state.step writeback).heap = state.heap.freeIfLive writeback.cell := by
  have heap : (state.step writeback).heap = state.heap.freeIfLive writeback.cell := by
    simp only [step, Heap.freeIfLive]
    cases state.heap.free writeback.cell <;> rfl
  refine ⟨?_, ?_⟩
  · cases known : state.fault with
    | none => rfl
    | some fault => simp [step, known] at sound
  · cases read : state.heap.unbox writeback.bank writeback.cell with
    | error fault => simp [step, read, bind, Except.bind] at sound
    | ok value =>
      refine ⟨value, rfl, ?_, heap⟩
      cases written : state.registers.put writeback.register.toNat value with
      | error fault => simp [step, read, written, bind, Except.bind] at sound
      | ok registers => simp [step, read, written, bind, Except.bind]

/-- If nothing goes wrong, every cell ends up in its register. -/
theorem foldl_step_sound (sound : (writebacks.foldl step state).fault = none) :
    state.fault = none ∧ Readable state.heap writebacks ∧
      Updated (cellContents state.heap writebacks) state.registers
        (writebacks.foldl step state).registers := by
  induction writebacks generalizing state with
  | nil => exact ⟨sound, by simp [Readable], .refl _⟩
  | cons writeback writebacks ih =>
    obtain ⟨here, readable, rest⟩ := ih sound
    obtain ⟨sound, value, read, written, heap⟩ := step_sound here
    rw [heap] at readable rest
    obtain ⟨others, same⟩ := cellContents_of_shrunk (Heap.shrunk_freeIfLive _ _) readable
    refine ⟨sound, fun other member => ?_, ?_⟩
    · cases member with
      | head => exact ⟨value, read⟩
      | tail _ member => exact others other member
    · have first := Updated.put written
      rw [Heap.unbox_bank read] at first
      have whole := first.trans rest
      rw [← same] at whole
      unfold cellContents at whole ⊢
      rw [List.filterMap_cons, read]
      exact whole

end Restored

theorem restore_sound {registers : Banks} {heap : Heap} {writebacks : List Writeback}
    (sound : (restore registers heap writebacks).fault = none) :
    Readable heap writebacks ∧
      Updated (cellContents heap writebacks) registers
        (restore registers heap writebacks).registers :=
  (Restored.foldl_step_sound sound).2

def lastStored (stores : List (Nat × Value)) (slot : Nat) : Option Value :=
  (stores.reverse.find? fun store => store.1 = slot).map Prod.snd

def slotsAfter (banks : List Bank) (stores : List (Nat × Value)) : List ResultSlot :=
  banks.mapIdx fun slot bank => ⟨bank, lastStored stores slot⟩

theorem slotsAfter_nil (banks : List Bank) : slotsAfter banks [] = banks.map ResultSlot.empty := by
  refine List.ext_getElem? fun index => ?_
  rw [slotsAfter, List.getElem?_mapIdx, List.getElem?_map]
  rfl

theorem handOver_slotsAfter (banks : List Bank) (stores : List (Nat × Value))
    (handed : Option (Nat × Value)) :
    handOver (slotsAfter banks stores) handed = slotsAfter banks (stores ++ handed.toList) := by
  cases handed with
  | none => simp [handOver]
  | some store =>
    refine List.ext_getElem? fun index => ?_
    rw [handOver, List.getElem?_modify, slotsAfter, slotsAfter, List.getElem?_mapIdx,
      List.getElem?_mapIdx]
    cases banks[index]? with
    | none => simp
    | some bank => by_cases here : store.1 = index <;> simp [lastStored, here]

def storedResults (targets : List ResultTarget) (stores : List (Nat × Value)) : List Update :=
  targets.zipIdx.filterMap fun (target, slot) =>
    (lastStored stores slot).map fun value => ⟨target.bank, target.register, value⟩

theorem delivered_slotsAfter (targets : List ResultTarget) (stores : List (Nat × Value)) :
    delivered targets (slotsAfter (targets.map ResultTarget.bank) stores) =
      storedResults targets stores := by
  have paired : targets.zip (slotsAfter (targets.map ResultTarget.bank) stores) =
      targets.zipIdx.map fun (target, slot) => (target, ⟨target.bank, lastStored stores slot⟩) := by
    refine List.ext_getElem? fun index => ?_
    simp only [List.zip, List.getElem?_zipWith, slotsAfter, List.getElem?_mapIdx, List.getElem?_map,
      List.getElem?_zipIdx, Nat.zero_add]
    cases targets[index]? <;> rfl
  rw [delivered, paired, List.filterMap_map]
  rfl

end GameScript
