import GameScript.Proofs.InstructionAborts
import GameScript.Proofs.InstructionRegisters

/-! Float vectors as parameters. The registers of a vector are read one after the other, their numbers
counted in 16 bits. A bank has fewer than 2 ^ 16 registers and reading stops at the first that is not
there, so the count never gets back to register 0. -/

namespace GameScript

namespace OperandTag

variable {tag : OperandTag}

/-- Constants are no vectors. -/
theorem isConstant_of_vector (sound : tag.wellFormed = true) (vector : 1 < tag.width)
    (byValue : tag.isReference = false) : tag.isConstant = false := by
  have some : tag.isNil = false := Bool.eq_false_iff.2 fun nil => by
    have refused := refused_of_isNil nil
    rw [byValue, Bool.and_false] at refused
    cases refused
  simp only [wellFormed, some, Bool.false_or, Bool.and_eq_true, decide_eq_true vector,
    Bool.true_or, Bool.and_true, Bool.not_eq_true'] at sound
  exact sound.2

end OperandTag

namespace Action

variable {state after : Local} {w : Word} {index : UInt16} {count : Nat} {params : List StagedParam}

def floatParams (floats : List Double) : List StagedParam := floats.map fun x => ⟨.float x, none⟩

theorem valueOf_float {number : Nat} {x : Double}
    (held : state.frame.registers.floats[number]? = some x) :
    valueOf .register .float number state = .ok (.float x) state := by
  have read : state.frame.registers.register .float number = .ok x := by
    rw [Banks.register, show state.frame.registers.get? .float number = some x from held]
  simp only [valueOf, fetch, bind_apply, register_apply, read, ofExcept_ok]
  rfl

theorem valueOf_float_missing {number : Nat}
    (missing : state.frame.registers.floats.size ≤ number) :
    valueOf .register .float number state =
      .error (.ofFault (.registerOutOfRange .float number state.frame.registers.floats.size)) state := by
  have read : state.frame.registers.register .float number =
      .error (.registerOutOfRange .float number state.frame.registers.floats.size) := by
    rw [Banks.register,
      show state.frame.registers.get? .float number = none from Array.getElem?_eq_none missing]
    rfl
  simp only [valueOf, fetch, bind_apply, register_apply, read, ofExcept_error]

section Bank

variable (few : state.frame.registers.floats.size < 2 ^ 16)
include few

/-- Behind a register that is there, the count goes on as natural numbers do. -/
theorem toNat_next (inside : index.toNat < state.frame.registers.floats.size) :
    (index + 1).toNat = index.toNat + 1 := by
  rw [UInt16.toNat_add, UInt16.toNat_one]
  exact Nat.mod_eq_of_lt (by omega)

theorem vectorParams_of_le (inside : index.toNat + count ≤ state.frame.registers.floats.size) :
    vectorParams index count state =
      .ok (floatParams ((state.frame.registers.floats.toList.drop index.toNat).take count)) state := by
  induction count generalizing index with
  | zero => rfl
  | succ count ih =>
    have here : index.toNat < state.frame.registers.floats.toList.length := by
      rw [Array.length_toList]
      omega
    have next : (index + 1).toNat = index.toNat + 1 := toNat_next few here
    have rest := ih (show (index + 1).toNat + count ≤ _ by omega)
    rw [List.drop_eq_getElem_cons here, List.take_succ_cons, ← next]
    simp only [vectorParams, bind_apply, valueOf_float (Array.getElem?_eq_getElem here), rest]
    rfl

/-- The first register that is not there ends the reading. -/
theorem vectorParams_of_lt (some : 0 < count)
    (beyond : state.frame.registers.floats.size < index.toNat + count) :
    vectorParams index count state = .error (.ofFault (.registerOutOfRange .float
      (max index.toNat state.frame.registers.floats.size) state.frame.registers.floats.size)) state := by
  induction count generalizing index with
  | zero => cases some
  | succ count ih =>
    by_cases here : index.toNat < state.frame.registers.floats.size
    · have next := toNat_next few here
      have rest := ih (by omega) (show _ < (index + 1).toNat + count by omega)
      simp only [vectorParams, bind_apply, valueOf_float (Array.getElem?_eq_getElem here), rest]
      rw [next, max_eq_right here, max_eq_right here.le]
    · simp only [vectorParams, bind_apply, valueOf_float_missing (Nat.le_of_not_lt here)]
      rw [max_eq_left (Nat.le_of_not_lt here)]

/-- After as many registers as have been read, the number of the next one is that of natural numbers. -/
theorem toNat_add_of_vectorParams (read : vectorParams index count state = .ok params after) :
    (index + UInt16.ofNat count).toNat = index.toNat + count := by
  have below : index.toNat + count < 2 ^ 16 := by
    rcases Nat.eq_zero_or_pos count with rfl | some
    · exact index.toNat_lt
    · by_contra beyond
      cases (vectorParams_of_lt few some (by omega)).symm.trans read
  rw [UInt16.toNat_add, UInt16.toNat_ofNat', Nat.mod_eq_of_lt (show count < 2 ^ 16 by omega)]
  exact Nat.mod_eq_of_lt below

end Bank

/-- There is room for a value or vector of so many registers. -/
theorem room_of_le
    (space : state.frame.staged.length + count ≤ state.frame.routine.layout.maxParam.toNat) :
    room count state = .ok () state := by
  simp only [room, bind_apply, frame_apply, if_neg (Nat.not_lt.2 space), pure_apply]

theorem param_vector (mnemonic : String)
    (valid : w.tagAIndexBC.tag.validate = .ok w.tagAIndexBC.tag) (vector : 1 < w.tagAIndexBC.tag.width)
    (byValue : w.tagAIndexBC.tag.isReference = false)
    (space : state.frame.staged.length + w.tagAIndexBC.tag.width ≤
      state.frame.routine.layout.maxParam.toNat) :
    param mnemonic w state =
      (vectorParams w.tagAIndexBC.index w.tagAIndexBC.tag.width >>= stage) state := by
  have constant :=
    OperandTag.isConstant_of_vector (OperandTag.wellFormed_of_validate valid) vector byValue
  simp only [param, bind_apply, valid, Fault.ofSelector, Except.mapError, ofExcept_ok, byValue,
    Bool.and_false, room_of_le space, constant, if_pos vector, if_neg Bool.false_ne_true]

/-- A float vector is staged exactly if all of its registers are there. Its floats then stand behind the
parameters that were staged, in the order of the registers and by value. If not, the first register that
is missing is named, which is never one below the vector: wherever the reading has got to, the number of
the next register is what it is without the bound of 16 bits. -/
theorem vector_parameters_never_wrap (mnemonic : String) (w : Word) (state : Local)
    (few : state.frame.registers.size .float ≤ 65535)
    (valid : w.tagAIndexBC.tag.validate = .ok w.tagAIndexBC.tag)
    (vector : 1 < w.tagAIndexBC.tag.width) (byValue : w.tagAIndexBC.tag.isReference = false)
    (space : state.frame.staged.length + w.tagAIndexBC.tag.width ≤
      state.frame.routine.layout.maxParam.toNat) :
    let index := w.tagAIndexBC.index
    let width := w.tagAIndexBC.tag.width
    let floats := state.frame.registers.floats
    ((∃ after, param mnemonic w state = .ok () after) ↔ index.toNat + width ≤ floats.size) ∧
    (∀ after, param mnemonic w state = .ok () after →
      after = { state with frame := { state.frame with
        staged := state.frame.staged ++
          floatParams (floats.extract index.toNat (index.toNat + width)).toList } }) ∧
    (∀ abort after, param mnemonic w state = .error abort after → after = state ∧
      abort = .ofFault (.registerOutOfRange .float (max index.toNat floats.size) floats.size)) ∧
    ∀ count params after, vectorParams index count state = .ok params after →
      (index + UInt16.ofNat count).toNat = index.toNat + count := by
  intro index width floats
  have bounded : floats.size < 2 ^ 16 := Nat.lt_succ_of_le few
  have steps := param_vector mnemonic valid vector byValue space 
  rw [bind_apply] at steps
  have last : ∀ count params after, vectorParams index count state = .ok params after →
      (index + UInt16.ofNat count).toNat = index.toNat + count :=
    fun count params after => toNat_add_of_vectorParams bounded
  by_cases inside : index.toNat + width ≤ floats.size
  · rw [vectorParams_of_le bounded inside] at steps
    have slice : (floats.extract index.toNat (index.toNat + width)).toList =
        (floats.toList.drop index.toNat).take width := by
      rw [Array.toList_extract, List.extract_eq_take_drop, Nat.add_sub_cancel_left]
    refine ⟨iff_of_true ⟨_, steps⟩ inside, fun after done => ?_, fun abort after failed => ?_, last⟩
    · cases steps.symm.trans done
      rw [slice]
    · cases steps.symm.trans failed
  · have some : 0 < width := Nat.lt_trans Nat.zero_lt_one vector
    rw [vectorParams_of_lt bounded some (Nat.lt_of_not_le inside)] at steps
    refine ⟨iff_of_false ?_ inside, fun after done => ?_, fun abort after failed => ?_, last⟩
    · rintro ⟨after, done⟩
      cases steps.symm.trans done
    · cases steps.symm.trans done
    · cases steps.symm.trans failed
      exact ⟨rfl, rfl⟩

def widest : Local where
  frame :=
    let frame := Frame.holding (.blank fun bank => if bank = .float then 65535 else 0)
    { frame with routine.layout.maxParam := 3 }
  world := .empty

/-- Three registers up to the last one, and three that would go on with register 0. -/
theorem vector_parameters_never_wrap_at_end :
    (∃ after, param "PARAM" ⟨0xfffc115c⟩ widest = .ok () after) ∧
      ∀ after, param "PARAM" ⟨0xfffe115c⟩ widest ≠ .ok () after := by
  have size : widest.frame.registers.floats.size = 65535 := Array.size_replicate
  have few : widest.frame.registers.size .float ≤ 65535 := Nat.le_of_eq size
  have space : widest.frame.staged.length + 3 ≤ widest.frame.routine.layout.maxParam.toNat :=
    Nat.le_refl 3
  obtain ⟨fits, -⟩ := vector_parameters_never_wrap "PARAM" ⟨0xfffc115c⟩ widest few rfl (by decide) rfl space
  obtain ⟨exceeds, -⟩ := vector_parameters_never_wrap "PARAM" ⟨0xfffe115c⟩ widest few rfl (by decide) rfl space
  rw [size] at fits exceeds
  exact ⟨fits.2 (by decide), fun after done => absurd (exceeds.1 ⟨after, done⟩) (by decide)⟩

end Action
end GameScript
