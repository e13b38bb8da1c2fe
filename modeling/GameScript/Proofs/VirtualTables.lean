import GameScript.Proofs.StoreLoadLaws

/-! What putting a function into a slot of a virtual table changes. A table has no gaps: one that ends
before the slot grows up to it, and the slots it grows by hold the same function. Every other slot of
the class and every other class are looked up as before, by an instruction too. -/

namespace GameScript

/-- A slot is the one that a function is put into, or one of those that the table grows by to reach
it. -/
def ClassInfo.Fills (info : ClassInfo) (slot other : Nat) : Prop :=
  other = slot ∨ info.virtuals.size ≤ other ∧ other < slot

instance (info : ClassInfo) (slot other : Nat) : Decidable (info.Fills slot other) :=
  inferInstanceAs (Decidable (_ ∨ _))

namespace Classes

variable {classes after : Classes} {id : ClassId} {info : ClassInfo} {slot : Nat}
  {function : FunctionId}

def lookupVirtual (classes : Classes) (id : ClassId) (slot : Nat) : Except Fault FunctionId :=
  match classes.get? id with
  | none => .error (.dangling .class_ id.index)
  | some info =>
    match info.virtuals[slot]? with
    | some function => .ok function
    | none => .error (.virtualOutOfRange info.name slot)

theorem lookupVirtual_congr (same : after.get? id = classes.get? id) :
    after.lookupVirtual id slot = classes.lookupVirtual id slot := by
  unfold lookupVirtual
  rw [same]

def grown (info : ClassInfo) (slot : Nat) (function : FunctionId) : Array FunctionId :=
  (info.virtuals ++ Array.replicate (slot + 1 - info.virtuals.size) function).setIfInBounds slot
    function

theorem getElem?_grown (info : ClassInfo) (slot : Nat) (function : FunctionId) (other : Nat) :
    (grown info slot function)[other]? =
      if info.Fills slot other then some function else info.virtuals[other]? := by
  rw [grown, Array.getElem?_setIfInBounds, Array.size_append, Array.size_replicate,
    Array.getElem?_append, Array.getElem?_replicate]
  by_cases here : slot = other
  · rw [if_pos here, if_pos (by omega), if_pos (.inl here.symm)]
  · rw [if_neg here]
    by_cases inside : other < info.virtuals.size
    · have apart : ¬info.Fills slot other := by
        unfold ClassInfo.Fills
        omega
      rw [if_pos inside, if_neg apart]
    · have reached : other - info.virtuals.size < slot + 1 - info.virtuals.size ↔
          info.Fills slot other := by
        unfold ClassInfo.Fills
        omega
      rw [if_neg inside, Array.getElem?_eq_none (Nat.le_of_not_lt inside)]
      exact if_congr reached rfl rfl

theorem setVirtual_eq_error {fault : Fault} :
    classes.setVirtual id slot function = .error fault ↔
      classes.get? id = none ∧ fault = .dangling .class_ id.index := by
  unfold setVirtual
  cases classes.get? id with
  | none => simp [eq_comm]
  | some info => simp

theorem setVirtual_eq_ok :
    classes.setVirtual id slot function = .ok after ↔
      ∃ info, classes.get? id = some info ∧
        after = ⟨classes.entries.setIfInBounds id.index.toNat
          { info with virtuals := grown info slot function }⟩ := by
  unfold setVirtual
  cases classes.get? id with
  | none => simp
  | some info => simp [grown, eq_comm]

theorem get?_setVirtual (found : classes.get? id = some info)
    (done : classes.setVirtual id slot function = .ok after) (other : ClassId) :
    after.get? other =
      if other = id then some { info with virtuals := grown info slot function }
      else classes.get? other := by
  obtain ⟨_, same, rfl⟩ := setVirtual_eq_ok.1 done
  cases found.symm.trans same
  have registered : id.index.toNat < classes.entries.size := (Array.getElem?_eq_some_iff.1 found).1
  rw [get?, Array.getElem?_setIfInBounds, if_pos registered]
  refine if_congr ?_ rfl rfl
  rw [UInt32.toNat_inj]
  exact ⟨fun index => by cases other; cases id; simp_all, fun same => by rw [same]⟩

/-- Two registries differ in the lookup of the slots that are filled when `function` is put into `slot`
of a class, and in no other lookup. -/
structure Filled (id : ClassId) (info : ClassInfo) (slot : Nat) (function : FunctionId)
    (before after : Classes) : Prop where
  here : ∀ other, info.Fills slot other → after.lookupVirtual id other = .ok function
  slots : ∀ other, ¬info.Fills slot other →
    after.lookupVirtual id other = before.lookupVirtual id other
  classes : ∀ ref, ref ≠ id → ∀ other,
    after.lookupVirtual ref other = before.lookupVirtual ref other

theorem setVirtual_filled (found : classes.get? id = some info)
    (done : classes.setVirtual id slot function = .ok after) :
    Filled id info slot function classes after := by
  have changed : after.get? id = some { info with virtuals := grown info slot function } :=
    (get?_setVirtual found done id).trans (if_pos rfl)
  refine ⟨fun other fills => ?_, fun other apart => ?_,
    fun ref distinct other => lookupVirtual_congr ?_⟩
  · simp only [lookupVirtual, changed, getElem?_grown, if_pos fills]
  · simp only [lookupVirtual, changed, found, getElem?_grown, if_neg apart]
  · rw [get?_setVirtual found done, if_neg distinct]

end Classes

def Heap.lookupVirtual (heap : Heap) (ref : ObjectRef) (slot : Nat) : Except Fault FunctionId := do
  heap.classes.lookupVirtual (← heap.objectClass ref) slot

def Frame.LooksUp (frame : Frame) (heap : Heap) (w : Word) (id : ClassId) (slot : Nat) : Prop :=
  ∃ ref, frame.registers.register .pointer w.b.toNat = .ok (.object ref) ∧
    heap.objectClass ref = .ok id ∧ w.c.toNat = slot

def World.withClasses (world : World) (classes : Classes) : World :=
  { world with heap := { world.heap with classes } }

namespace Action

variable {state : Local} {w : Word} {ref : ObjectRef}

theorem compute_virtual (epsilon : Double) (mnemonic : String)
    (held : state.frame.registers.register .pointer w.b.toNat = .ok (.object ref)) :
    compute epsilon mnemonic w .virtual state =
      (ofExcept (state.world.heap.lookupVirtual ref w.c.toNat) >>=
        fun function => setRegister .pointer w.a.toNat (.function function)) state := by
  simp only [compute, virtual, objectAt, bind_apply, register_apply, held, ofExcept_ok, pure_apply,
    heap_apply, Heap.lookupVirtual]
  cases state.world.heap.objectClass ref with
  | error fault => rfl
  | ok id =>
    simp only [ofExcept_ok, bind, Except.bind, Classes.lookupVirtual]
    cases state.world.heap.classes.get? id with
    | none => rfl
    | some info =>
      dsimp only
      cases info.virtuals[w.c.toNat]? <;> rfl

/-- A virtual function that is found alike in two worlds is looked up with the same end. -/
theorem virtual_inWorld {frame : Frame} {world other : World} (epsilon : Double) (mnemonic : String)
    (same : ∀ ref, frame.registers.register .pointer w.b.toNat = .ok (.object ref) →
      world.heap.lookupVirtual ref w.c.toNat = other.heap.lookupVirtual ref w.c.toNat) :
    compute epsilon mnemonic w .virtual ⟨frame, world⟩ =
      inWorld world (compute epsilon mnemonic w .virtual ⟨frame, other⟩) := by
  cases held : frame.registers.register .pointer w.b.toNat with
  | error fault =>
    simp only [compute, virtual, objectAt, bind_apply, register_apply, held]
    rfl
  | ok pointer =>
    cases pointer with
    | object ref =>
      rw [@compute_virtual ⟨frame, world⟩ w ref epsilon mnemonic held,
        @compute_virtual ⟨frame, other⟩ w ref epsilon mnemonic held]
      change (ofExcept (world.heap.lookupVirtual ref w.c.toNat) >>= _) _ =
        inWorld world ((ofExcept (other.heap.lookupVirtual ref w.c.toNat) >>= _) _)
      rw [same ref held]
      cases other.heap.lookupVirtual ref w.c.toNat with
      | error fault => rfl
      | ok function => exact put_inWorld _ (.of .pointer .register) (.function function) ..
    | _ =>
      simp only [compute, virtual, objectAt, bind_apply, register_apply, held]
      rfl

/-- A function is put into any slot of a registered class, and is found there and in the slots that the
table grows by. All other lookups, of instructions too, end as they did. -/
theorem setVirtual_fills_slots (classes : Classes) (id : ClassId) (slot : Nat)
    (function : FunctionId) :
    (∀ fault, classes.setVirtual id slot function = .error fault ↔
      classes.get? id = none ∧ fault = .dangling .class_ id.index) ∧
    ∀ after, classes.setVirtual id slot function = .ok after →
      after.lookupVirtual id slot = .ok function ∧
      ∃ info, classes.get? id = some info ∧ Classes.Filled id info slot function classes after ∧
        ∀ (epsilon : Double) (mnemonic : String) (w : Word) (frame : Frame) (world : World),
          world.heap.classes = classes →
          (∀ other, info.Fills slot other → frame.LooksUp world.heap w id other →
            compute epsilon mnemonic w .virtual ⟨frame, world.withClasses after⟩ =
              setRegister .pointer w.a.toNat (.function function)
                ⟨frame, world.withClasses after⟩) ∧
          ((∀ other, info.Fills slot other → ¬frame.LooksUp world.heap w id other) →
            compute epsilon mnemonic w .virtual ⟨frame, world.withClasses after⟩ =
              inWorld (world.withClasses after)
                (compute epsilon mnemonic w .virtual ⟨frame, world⟩)) := by
  refine ⟨fun fault => Classes.setVirtual_eq_error, fun after done => ?_⟩
  obtain ⟨info, found, -⟩ := Classes.setVirtual_eq_ok.1 done
  have filled := Classes.setVirtual_filled found done
  refine ⟨filled.here slot (.inl rfl), info, found, filled, ?_⟩
  rintro epsilon mnemonic w frame world rfl
  constructor
  · rintro other fills ⟨ref, held, ofClass, rfl⟩
    have looked : (world.withClasses after).heap.lookupVirtual ref w.c.toNat = .ok function := by
      change (world.heap.objectClass ref >>= _) = _
      rw [ofClass]
      exact filled.here _ fills
    rw [compute_virtual epsilon mnemonic held, looked]
    rfl
  · intro apart
    refine virtual_inWorld epsilon mnemonic fun ref held => ?_
    change (world.heap.objectClass ref >>= _) = (world.heap.objectClass ref >>= _)
    cases ofClass : world.heap.objectClass ref with
    | error fault => rfl
    | ok other =>
      by_cases same : other = id
      · subst same
        exact filled.slots _ fun fills => apart _ fills ⟨ref, held, ofClass, rfl⟩
      · exact filled.classes other same _

def dispatching : Local where
  frame := {
    routine := ⟨"Main", "", #[], .blank fun _ => 0, ⟨0, 0, 0, 2, 0, 0⟩, .empty⟩
    registers := ⟨#[], #[], #[], #[.object ⟨⟨0, 0⟩⟩, .null]⟩
    pc := 0
    current := 0
    staged := []
    extra := none
    pending := none
    results := []
    returned := 0
    host := some [] }
  world := { World.empty with
    heap := { Heap.empty with
      classes := ⟨#[⟨"V", none, 0, #[⟨0⟩]⟩]⟩
      objects := (Heap.empty.objects.insert ⟨⟨0⟩, ⟨⟨0, 0⟩⟩⟩).2 } }

/-- With a function in slot 3, slot 2 has that function as well; slot 0 has the one it had, and there
is no slot 4. -/
theorem setVirtual_fills_slots_dispatching :
    ∃ after, dispatching.world.heap.classes.setVirtual ⟨0⟩ 3 ⟨1⟩ = .ok after ∧
      compute ⟨0⟩ "VTBL" ⟨0x02000160⟩ .virtual
          ⟨dispatching.frame, dispatching.world.withClasses after⟩ =
        setRegister .pointer 1 (.function ⟨1⟩)
          ⟨dispatching.frame, dispatching.world.withClasses after⟩ ∧
      compute ⟨0⟩ "VTBL" ⟨0x00000160⟩ .virtual
          ⟨dispatching.frame, dispatching.world.withClasses after⟩ =
        setRegister .pointer 1 (.function ⟨0⟩)
          ⟨dispatching.frame, dispatching.world.withClasses after⟩ ∧
      after.lookupVirtual ⟨0⟩ 4 = .error (.virtualOutOfRange "V" 4) := by
  have found : dispatching.world.heap.classes.get? ⟨0⟩ = some ⟨"V", none, 0, #[⟨0⟩]⟩ := rfl
  obtain ⟨fails, grows⟩ := setVirtual_fills_slots dispatching.world.heap.classes ⟨0⟩ 3 ⟨1⟩
  obtain ⟨after, done⟩ : ∃ after,
      dispatching.world.heap.classes.setVirtual ⟨0⟩ 3 ⟨1⟩ = .ok after := by
    cases done : dispatching.world.heap.classes.setVirtual ⟨0⟩ 3 ⟨1⟩ with
    | ok after => exact ⟨after, rfl⟩
    | error fault => exact absurd (found.symm.trans ((fails fault).1 done).1) nofun
  obtain ⟨-, info, same, filled, looks⟩ := grows after done
  cases found.symm.trans same
  refine ⟨after, done, ?_, ?_, ?_⟩
  · exact (looks ⟨0⟩ "VTBL" ⟨0x02000160⟩ dispatching.frame dispatching.world rfl).1 2 (by decide)
      ⟨_, rfl, rfl, rfl⟩
  · refine ((looks ⟨0⟩ "VTBL" ⟨0x00000160⟩ dispatching.frame dispatching.world rfl).2 ?_).trans rfl
    rintro other fills ⟨ref, -, -, rfl⟩
    exact absurd fills (by decide)
  · exact (filled.slots 4 (by decide)).trans rfl

/-- Slot 2 of the class, out of range before, has a function after one is put into slot 3. -/
theorem setVirtual_fills_other_slot :
    ∃ after, dispatching.world.heap.classes.setVirtual ⟨0⟩ 3 ⟨1⟩ = .ok after ∧
      dispatching.world.heap.classes.lookupVirtual ⟨0⟩ 2 = .error (.virtualOutOfRange "V" 2) ∧
      after.lookupVirtual ⟨0⟩ 2 = .ok ⟨1⟩ :=
  ⟨_, rfl, rfl, rfl⟩

end Action
end GameScript
