import GameScript.Proofs.CallBalance
import GameScript.Proofs.CallProtocol

/-! What a caller outside of scripts gets from a routine. The routine is entered with empty slots of
the banks that the caller's have, and the caller's own change only when it returns: an abort, and
whatever native functions called meanwhile do with slots of theirs, leaves them alone. -/

namespace GameScript

/-- One more than the highest of the first `count` slots that something was stored in, 0 if nothing
was. -/
structure Produced (count : Nat) (stored : List (Nat × Value)) (produced : Nat) : Prop where
  above : ∀ store ∈ stored, store.1 < count → store.1 < produced
  reached : produced = 0 ∨ ∃ store ∈ stored, store.1 < count ∧ produced = store.1 + 1

namespace Produced

variable {count produced : Nat} {stored : List (Nat × Value)} {store : Nat × Value}

theorem nil (count : Nat) : Produced count [] 0 := ⟨by simp, .inl rfl⟩

theorem outside (before : Produced count stored produced) (beyond : count ≤ store.1) :
    Produced count (stored ++ [store]) produced where
  above other member inside := by
    rcases List.mem_append.1 member with earlier | latest
    · exact before.above other earlier inside
    · rw [List.mem_singleton.1 latest] at inside
      exact absurd inside (Nat.not_lt_of_le beyond)
  reached := before.reached.imp_right fun ⟨other, member, rest⟩ =>
    ⟨other, List.mem_append_left _ member, rest⟩

theorem inside (before : Produced count stored produced) (within : store.1 < count) :
    Produced count (stored ++ [store]) (max produced (store.1 + 1)) where
  above other member bound := by
    rcases List.mem_append.1 member with earlier | latest
    · exact Nat.lt_of_lt_of_le (before.above other earlier bound) (Nat.le_max_left _ _)
    · rw [List.mem_singleton.1 latest]
      exact Nat.lt_of_lt_of_le (Nat.lt_succ_self _) (Nat.le_max_right _ _)
  reached := by
    right
    rcases Nat.le_total produced (store.1 + 1) with low | high
    · exact ⟨store, by simp, within, Nat.max_eq_right low⟩
    · rw [Nat.max_eq_left high]
      rcases before.reached with rfl | ⟨other, member, rest⟩
      · cases high
      · exact ⟨other, List.mem_append_left _ member, rest⟩

end Produced

theorem getElem?_mergeSlots (slots updates : List ResultSlot) (same : updates.length = slots.length)
    (index : Nat) : (mergeSlots slots updates)[index]? =
      slots[index]?.bind fun slot => updates[index]?.map slot.merge := by
  induction slots generalizing updates index with
  | nil => rfl
  | cons slot slots ih =>
    cases updates with
    | nil => cases same
    | cons update updates =>
      cases index with
      | zero => rfl
      | succ index => exact ih updates (Nat.succ.inj same) index

/-- Slots take over what was stored last and keep what they had if nothing was. -/
theorem mergeSlots_slotsAfter (slots : List ResultSlot) (stored : List (Nat × Value)) :
    mergeSlots slots (slotsAfter (slots.map ResultSlot.bank) stored) =
      slots.mapIdx fun index slot =>
        { slot with value := (lastStored stored index).or slot.value } := by
  refine List.ext_getElem? fun index => ?_
  rw [getElem?_mergeSlots _ _ (by simp [slotsAfter]), slotsAfter, List.getElem?_mapIdx,
    List.getElem?_mapIdx, List.getElem?_map]
  cases slots[index]? with
  | none => rfl
  | some slot => cases lastStored stored index <;> simp [ResultSlot.merge]

/-- What a frame owes its caller are the values stored so far, all of the banks asked for. -/
structure Frame.Owes (frame : Frame) (banks : List Bank) (stored : List (Nat × Value)) : Prop where
  results : frame.results = slotsAfter banks stored
  fitting : ∀ store ∈ stored, ∀ bank, banks[store.1]? = some bank → store.2.bank = bank
  returned : Produced banks.length stored frame.returned

namespace Frame

variable {frame after : Frame} {banks : List Bank} {stored : List (Nat × Value)}
  {given : Option (Nat × Value)}

theorem owes_of_enter {routine : LinkedRoutine} {arguments : List Value}
    {host : Option (List ResultSlot)} {heap left : Heap}
    (entered : enter routine arguments banks host heap = .ok (frame, left)) : frame.Owes banks [] := by
  obtain ⟨-, -, -, results, -⟩ := enter_eq_ok entered
  obtain ⟨_, -, entered⟩ := enter_eq_ok_iff.1 entered
  cases entered
  exact ⟨results.trans (slotsAfter_nil banks).symm, by simp, .nil _⟩

theorem Owes.storeResult {position : Nat} {value : Value} (owes : frame.Owes banks stored)
    (done : frame.storeResult position value = .ok after) :
    after.Owes banks (stored ++ [(position, value)]) := by
  have results : after.results = slotsAfter banks (stored ++ [(position, value)]) := by
    rw [storeResult_results done, owes.results, handOver_slotsAfter]
    rfl
  have asked : frame.results[position]? =
      banks[position]?.map fun bank => ⟨bank, lastStored stored position⟩ := by
    rw [owes.results, slotsAfter, List.getElem?_mapIdx]
  unfold Frame.storeResult at done
  rw [asked] at done
  cases wanted : banks[position]? with
  | none =>
    rw [wanted] at done
    cases done
    refine ⟨results, fun store member bank named => ?_, ?_⟩
    · rcases List.mem_append.1 member with earlier | latest
      · exact owes.fitting store earlier bank named
      · rw [List.mem_singleton.1 latest, wanted] at named
        cases named
    · exact owes.returned.outside (List.getElem?_eq_none_iff.1 wanted)
  | some bank =>
    rw [wanted] at done
    obtain ⟨slot, set, done⟩ := bind_eq_ok.1 done
    cases done
    refine ⟨results, fun store member other named => ?_, ?_⟩
    · rcases List.mem_append.1 member with earlier | latest
      · exact owes.fitting store earlier other named
      · rw [List.mem_singleton.1 latest, wanted] at named
        cases named
        rw [List.mem_singleton.1 latest]
        unfold ResultSlot.set at set
        split at set
        next same => exact same
        next => cases set
    · exact owes.returned.inside (List.getElem?_eq_some_iff.1 wanted).1

theorem Owes.handed (owes : frame.Owes banks stored) (done : frame.Handed given after) :
    after.Owes banks (stored ++ given.toList) := by
  cases done with
  | nothing results returned =>
    rw [Option.toList_none, List.append_nil]
    exact ⟨results.trans owes.results, owes.fitting, returned ▸ owes.returned⟩
  | value done => exact owes.storeResult done

end Frame

namespace Machine

variable {machine next : Machine ν} {natives : Natives ν} {base : List (Activation ν)}
  {slots : List ResultSlot} {stored : List (Nat × Value)} {id : FunctionId} {arguments : List Value}

/-- What a call that stored these values gives a caller with these slots. -/
structure Answers (slots : List ResultSlot) (stored : List (Nat × Value)) (outcome : Outcome) :
    Prop where
  aborted : ∀ abort, outcome.result = .error abort → outcome.slots = slots
  merged : ∀ produced, outcome.result = .ok produced → outcome.slots =
    slots.mapIdx fun index slot => { slot with value := (lastStored stored index).or slot.value }
  fitting : ∀ produced, outcome.result = .ok produced → ∀ position value slot,
    (position, value) ∈ stored → slots[position]? = some slot → value.bank = slot.bank
  counted : ∀ produced, outcome.result = .ok produced → Produced slots.length stored produced

theorem answers_abort (slots : List ResultSlot) (stored : List (Nat × Value)) (abort : Abort) :
    Answers slots stored ⟨.error abort, slots⟩ :=
  ⟨fun _ _ => rfl, nofun, nofun, nofun⟩

def Answering (base : List (Activation ν)) (slots : List ResultSlot) (stored : List (Nat × Value))
    (machine : Machine ν) : Prop :=
  ∃ upper callee, machine.stack = upper ++ .script callee :: base ∧ callee.host = some slots ∧
    callee.Owes (slots.map ResultSlot.bank) stored

def Answered (base : List (Activation ν)) (slots : List ResultSlot) (stored : List (Nat × Value))
    (machine : Machine ν) : Prop :=
  machine.stack = base ∧ ∃ outcome, machine.completed = some outcome ∧ Answers slots stored outcome

theorem answered_unwind {callee : Frame} {abort : Abort}
    (placed : machine.stack = .script callee :: base) (host : callee.host = some slots) :
    Answered base slots stored (machine.unwind abort) := by
  unfold Answered Machine.unwind
  rw [placed, unwindStack, host]
  exact ⟨rfl, _, rfl, answers_abort slots stored _⟩

/-- A step of the routine itself. -/
theorem step_answering {callee : Frame} (placed : machine.stack = .script callee :: base)
    (host : callee.host = some slots) (owes : callee.Owes (slots.map ResultSlot.bank) stored)
    (stepped : machine.step natives = some next) :
    Answering base slots (stored ++ callee.handing.toList) next ∨
      Answered base slots (stored ++ callee.handing.toList) next := by
  have fetched :
      (Local.fetched ⟨callee, machine.world⟩).frame.Owes (slots.map ResultSlot.bank) stored :=
    ⟨owes.results, owes.fitting, owes.returned⟩
  simp only [step, stepOr, idle_of_step placed stepped, placed, Option.some.injEq] at stepped
  subst stepped
  unfold stepFrame
  split
  next abort state advanced =>
    have same := Action.keeps_advance_error sameActivation_effects advanced
    exact .inr (answered_unwind rfl (same.host.trans host))
  next following state advanced =>
    have same := Action.advance_sameActivation advanced
    have owes := fetched.handed (Action.advance_handed advanced).1
    cases following with
    | proceed => exact .inl ⟨[], _, rfl, same.host.trans host, owes⟩
    | finish =>
      simp only [finishFrame, same.host.trans host]
      refine .inr ⟨rfl, _, rfl, ?_, ?_, ?_, ?_⟩
      · rintro _ ⟨⟩
      · rintro _ ⟨⟩
        rw [owes.results, mergeSlots_slotsAfter]
      · rintro _ ⟨⟩ position value slot member asked
        exact owes.fitting _ member slot.bank (by rw [List.getElem?_map, asked]; rfl)
      · rintro _ ⟨⟩
        simpa using owes.returned
    | call request =>
      simp only [callFromFrame]
      split
      next => exact .inl ⟨[_], _, rfl, same.host.trans host, owes⟩
      next =>
        split
        next => exact .inr (answered_unwind rfl (same.host.trans host))
        next =>
          refine .inl ⟨[_], _, rfl, same.host.trans host, ?_⟩
          exact ⟨owes.results, owes.fitting, owes.returned⟩

/-- Whatever runs, what the routine owes grows by what the routine itself stores. -/
theorem Answering.step (answering : Answering base slots stored machine)
    (stepped : machine.step natives = some next) :
    Answering base slots (stored ++ (machine.storing base.length).toList) next ∨
      Answered base slots (stored ++ (machine.storing base.length).toList) next := by
  obtain ⟨upper, callee, placed, host, owes⟩ := answering
  cases upper with
  | nil =>
    have storing : machine.storing base.length = callee.handing := by
      have top : machine.stack = .script callee :: base := placed
      simp only [Machine.storing, idle_of_step top stepped, top, if_true]
    rw [storing]
    exact step_answering placed host owes stepped
  | cons activation upper =>
    rw [List.cons_append] at placed
    have silent : machine.storing base.length = none :=
      storing_deeper placed (by rw [List.length_append, List.length_cons]; omega)
    rw [silent, Option.toList_none, List.append_nil]
    obtain ⟨registers, pending, ⟨left, stack⟩ | ⟨abort, heap, stack, ended⟩⟩ :=
      step_upper placed stepped
    · exact .inl ⟨left, _, stack, host, owes.results, owes.fitting, owes.returned⟩
    · rw [unwindStack, host] at stack ended
      exact .inr ⟨stack, _, ended, answers_abort slots stored _⟩

theorem answering_enter {routine : LinkedRoutine}
    (script : machine.library.get id = .ok (.script routine)) :
    Answering machine.stack slots [] (machine.enter natives id arguments slots) ∨
      Answered machine.stack slots [] (machine.enter natives id arguments slots) := by
  unfold enter
  split
  next => exact .inr ⟨rfl, _, rfl, answers_abort slots [] _⟩
  next =>
    simp only [script]
    split
    next => exact .inr ⟨rfl, _, rfl, answers_abort slots [] _⟩
    next frame heap entered =>
      obtain ⟨host, -⟩ := Frame.enter_eq_ok entered
      exact .inl ⟨[], frame, rfl, host, Frame.owes_of_enter entered⟩

theorem Answering.length_lt (answering : Answering base slots stored machine) :
    base.length < machine.depth := by
  obtain ⟨upper, callee, placed, -, -⟩ := answering
  rw [depth, placed, List.length_append, List.length_cons]
  omega

/-- Until it has ended, the routine stands on its base with what it has stored. -/
theorem answering_or_answered {start : Machine ν} {count : Nat}
    (begins : Answering base slots [] start ∨ Answered base slots [] start)
    (running : ∀ now < count, base.length < (run natives now start).depth) :
    Answering base slots (stores natives base.length start count) (run natives count start) ∨
      Answered base slots (stores natives base.length start count) (run natives count start) := by
  induction count with
  | zero => exact begins
  | succ count ih =>
    rw [stores_succ]
    have deep := running count (Nat.lt_succ_self count)
    rcases ih fun now bound => running now (Nat.lt_succ_of_lt bound) with answering | ⟨stack, -⟩
    · rcases run_succ_cases count start with stepped | ⟨stuck, same⟩
      · exact answering.step stepped
      · rw [storing_stuck stuck, Option.toList_none, List.append_nil, same]
        exact .inl answering
    · exact absurd (congrArg List.length stack) (Nat.ne_of_gt deep)

structure Concludes (natives : Natives ν) (machine : Machine ν) (id : FunctionId)
    (arguments : List Value) (slots : List ResultSlot) (count : Nat) (outcome : Outcome) : Prop where
  answers : Answers slots
    (stores natives machine.depth (machine.enter natives id arguments slots) count) outcome
  /-- A value of another bank than that of its slot ends the call at once. -/
  mismatched : ∀ now < count, ∀ position value slot,
    (run natives now (machine.enter natives id arguments slots)).storing machine.depth =
      some (position, value) →
    slots[position]? = some slot → value.bank ≠ slot.bank →
    now + 1 = count ∧ ∃ abort, outcome.result = .error abort

/-- However a call of a routine from outside ends, the stack is as it was and an outcome is there. If
results were produced, each slot holds what the routine stored in it last, of the bank asked for, or
else what it held before; if not, no slot has changed. -/
theorem call_answers_slots (natives : Natives ν) (machine : Machine ν) (id : FunctionId)
    (arguments : List Value) (slots : List ResultSlot) (routine : LinkedRoutine)
    (script : machine.library.get id = .ok (.script routine)) :
    (∀ count, CallEnds natives machine id arguments slots count →
      let ended := run natives count (machine.enter natives id arguments slots)
      ended.stack = machine.stack ∧ ∃ outcome, ended.completed = some outcome ∧
        Concludes natives machine id arguments slots count outcome) ∧
    (machine.stack = [] → ∀ fuel outcome after,
      machine.call natives fuel id arguments slots = some (outcome, after) →
      ∃ count ≤ fuel, CallEnds natives machine id arguments slots count ∧
        Concludes natives machine id arguments slots count outcome) := by
  have begins : Answering machine.stack slots [] (machine.enter natives id arguments slots) ∨
      Answered machine.stack slots [] (machine.enter natives id arguments slots) :=
    answering_enter script
  have concludes : ∀ count, CallEnds natives machine id arguments slots count →
      let ended := run natives count (machine.enter natives id arguments slots)
      ended.stack = machine.stack ∧ ∃ outcome, ended.completed = some outcome ∧
        Concludes natives machine id arguments slots count outcome := by
    intro count ends
    rcases answering_or_answered begins ends.running with
      answering | ⟨stack, outcome, ended, answers⟩
    · exact absurd ends.ended (Nat.not_le_of_lt answering.length_lt)
    refine ⟨stack, outcome, ended, answers, ?_⟩
    intro now earlier position value slot storing asked apart
    have member : (position, value) ∈ stores natives machine.depth
        (machine.enter natives id arguments slots) (now + 1) := by
      rw [stores_succ, storing]
      exact List.mem_append_right _ (List.mem_singleton_self _)
    have sofar : ∀ before < now + 1, machine.depth < _ := fun before bound =>
      ends.running before (Nat.lt_of_lt_of_le bound earlier)
    rcases answering_or_answered begins sofar with ⟨_, callee, -, -, owes⟩ | ⟨gone, other, same, fits⟩
    · exact absurd (owes.fitting _ member slot.bank (by rw [List.getElem?_map, asked]; rfl)) apart
    · have last : now + 1 = count := by
        refine Nat.le_antisymm earlier (Nat.le_of_not_lt fun more => ?_)
        exact absurd (congrArg List.length gone) (Nat.ne_of_gt (ends.running (now + 1) more))
      subst last
      cases ended.symm.trans same
      refine ⟨rfl, ?_⟩
      cases result : outcome.result with
      | error abort => exact ⟨abort, rfl⟩
      | ok produced => exact absurd (fits.fitting produced result _ _ _ member asked) apart
  refine ⟨concludes, fun empty fuel outcome after called => ?_⟩
  obtain ⟨count, bound, ends, ended, -⟩ := call_eq_some empty called
  obtain ⟨-, other, same, conclusion⟩ := concludes count ends
  cases ended.symm.trans same
  exact ⟨count, bound, ends, conclusion⟩

def replying : LinkedRoutine where
  name := "replying"
  sourceFile := ""
  code := #[⟨0x00050063⟩, ⟨0x00070263⟩, ⟨0x00088063⟩]
  constants := ⟨#[], #[], #[], #[]⟩
  layout := ⟨0, 0, 0, 0, 0, 0⟩
  lines := .empty

/-- A slot that nothing was stored in keeps its text; a number does not go into a slot for text. -/
theorem call_answers_slots_replying :
    let natives : Natives Unit := fun _ _ slots => .finish ⟨.ok 0, slots⟩
    let machine : Machine Unit := ⟨.standard, ⟨#[.script replying]⟩, .empty, [], none⟩
    let ended := fun count slots => run natives count (machine.enter natives ⟨0⟩ [] slots)
    (∃ outcome, (ended 3 [⟨.int, some (.int 1)⟩, ⟨.string, some (.string "kept")⟩]).completed =
        some outcome ∧
      outcome.slots = [⟨.int, some (.int 8)⟩, ⟨.string, some (.string "kept")⟩]) ∧
    ∃ outcome abort, (ended 1 [⟨.string, some (.string "kept")⟩]).completed = some outcome ∧
      outcome.result = .error abort ∧ outcome.slots = [⟨.string, some (.string "kept")⟩] := by
  intro natives machine ended
  have concludes := fun slots => (call_answers_slots natives machine ⟨0⟩ [] slots replying rfl).1
  constructor
  · let slots : List ResultSlot := [⟨.int, some (.int 1)⟩, ⟨.string, some (.string "kept")⟩]
    obtain ⟨-, outcome, done, conclusion⟩ :=
      concludes slots 3 ⟨by decide +kernel, by decide +kernel⟩
    have stored : stores natives 0 (machine.enter natives ⟨0⟩ [] slots) 3 =
        [(0, .int 5), (2, .int 7), (0, .int 8)] := by decide +kernel
    have counted :
        (ended 3 slots).completed.bind (fun outcome => outcome.result.toOption) = some 1 := by
      decide +kernel
    rw [done, Option.bind_some] at counted
    cases result : outcome.result with
    | error abort => cases (congrArg Except.toOption result).symm.trans counted
    | ok produced =>
      have merged := conclusion.answers.merged produced result
      rw [show machine.depth = 0 from rfl, stored] at merged
      exact ⟨outcome, done, merged⟩
  · obtain ⟨-, outcome, done, conclusion⟩ :=
      concludes [⟨.string, some (.string "kept")⟩] 1 ⟨by decide +kernel, by decide +kernel⟩
    obtain ⟨-, abort, result⟩ := conclusion.mismatched 0 Nat.one_pos 0 (.int 5)
      ⟨.string, some (.string "kept")⟩ (by decide +kernel) rfl (by decide)
    exact ⟨outcome, abort, done, result, conclusion.answers.aborted abort result⟩

end Machine
end GameScript
