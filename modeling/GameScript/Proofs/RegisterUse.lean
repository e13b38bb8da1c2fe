import GameScript.Proofs.CallInstructions
import GameScript.Proofs.BankFaults
import GameScript.Proofs.WordFields

/-! Using registers. An action uses named registers if it writes to no others, passes no others by
reference and fails for want of no others. -/

namespace GameScript

namespace Banks

variable {registers after : Banks}

theorem register_eq_error {bank : Bank} {index : Nat} {fault : Fault}
    (failed : registers.register bank index = .error fault) : registers.size bank ≤ index := by
  unfold register at failed
  split at failed
  next => cases failed
  next missing => exact Array.getElem?_eq_none_iff.1 missing

theorem setRegister_eq_error {bank : Bank} {index : Nat} {content : bank.Content} {fault : Fault}
    (failed : registers.setRegister bank index content = .error fault) :
    registers.size bank ≤ index := by
  unfold setRegister at failed
  split at failed
  next => cases failed
  next outside => exact Nat.le_of_not_lt outside

theorem register_setRegister {bank : Bank} {index : Nat} {content : bank.Content}
    (written : registers.setRegister bank index content = .ok after) :
    after.register bank index = .ok content := by
  unfold setRegister at written
  split at written
  next inside =>
    cases written
    have stored : (registers.withRow bank
        ((registers.row bank).setIfInBounds index content)).get? bank index = some content := by
      rw [get?, row_withRow]
      exact Array.getElem?_setIfInBounds_self_of_lt inside
    rw [register, stored]
  next => cases written

theorem setRegister_others {bank : Bank} {index : Nat} {content : bank.Content}
    (written : registers.setRegister bank index content = .ok after) {other : Bank} {place : Nat}
    (apart : other = bank → place ≠ index) : after.get? other place = registers.get? other place := by
  unfold setRegister at written
  split at written
  next =>
    cases written
    by_cases same : other = bank
    · subst same
      rw [get?, row_withRow, Array.getElem?_setIfInBounds_ne (apart rfl).symm, get?]
    · rw [get?, row_withRow_ne _ _ same, get?]
  next => cases written

theorem vector_eq_error {count start : Nat} {fault : Fault}
    (failed : registers.vector count start = .error fault) :
    registers.size .float < start + count := by
  unfold vector at failed
  split at failed
  next => cases failed
  next outside => exact Nat.lt_of_not_le outside

theorem setVector_eq_error {start : Nat} {components : Vector Double count} {fault : Fault}
    (failed : registers.setVector start components = .error fault) :
    registers.size .float < start + count := by
  unfold setVector at failed
  split at failed
  next => cases failed
  next outside => exact Nat.lt_of_not_le outside

theorem setVector_others {start : Nat} {components : Vector Double count}
    (written : registers.setVector start components = .ok after) {other : Bank} {place : Nat}
    (apart : other = .float → ∀ i < count, place ≠ start + i) :
    after.get? other place = registers.get? other place := by
  unfold setVector at written
  split at written
  next =>
    cases written
    cases other with
    | float =>
      have kept : ∀ (positions : List (Fin count)) (floats : Array Double),
          (positions.foldl (fun floats i => floats.setIfInBounds (start + i) components[i])
            floats)[place]? = floats[place]? := by
        intro positions
        induction positions with
        | nil => simp
        | cons i rest ih =>
          intro floats
          rw [List.foldl_cons, ih, Array.getElem?_setIfInBounds_ne (apart rfl i i.isLt).symm]
      exact kept _ _
    | _ => rfl
  next => cases written

end Banks

def Frame.holding (registers : Banks) : Frame where
  routine := {
    name := "Main"
    sourceFile := ""
    code := #[]
    constants := .blank fun _ => 0
    layout := {
      ints := .ofNat (registers.size .int)
      floats := .ofNat (registers.size .float)
      strings := .ofNat (registers.size .string)
      pointers := .ofNat (registers.size .pointer)
      maxParam := 0
      extraSpace := 0 }
    lines := .empty }
  registers
  pc := 0
  current := 0
  staged := []
  extra := none
  pending := none
  results := []
  returned := 0
  host := some []

/-- The registers that are to be written back when a call is over. -/
def Frame.passed (frame : Frame) : List Writeback := frame.staged.filterMap StagedParam.writeback

/-- What is left of a frame when only named registers are written to or passed by reference. -/
structure Touches (named : Bank → Nat → Prop) (before after : Frame) : Prop where
  routine : after.routine = before.routine
  sizes : ∀ bank, after.registers.size bank = before.registers.size bank
  others : ∀ bank index, ¬named bank index →
    after.registers.get? bank index = before.registers.get? bank index
  passed : ∀ writeback ∈ after.passed,
    writeback ∈ before.passed ∨ named writeback.bank writeback.register.toNat

namespace Touches

variable {named : Bank → Nat → Prop} {first second third : Frame}

theorem of_same (routine : second.routine = first.routine) (registers : second.registers = first.registers)
    (passed : ∀ writeback ∈ second.passed, writeback ∈ first.passed) : Touches named first second where
  routine := routine
  sizes _ := by rw [registers]
  others _ _ _ := by rw [registers]
  passed writeback member := .inl (passed writeback member)

theorem refl (frame : Frame) : Touches named frame frame := of_same rfl rfl fun _ member => member

theorem trans (former : Touches named first second) (latter : Touches named second third) :
    Touches named first third where
  routine := latter.routine.trans former.routine
  sizes bank := (latter.sizes bank).trans (former.sizes bank)
  others bank index free := (latter.others bank index free).trans (former.others bank index free)
  passed writeback member := by
    obtain before | new := latter.passed writeback member
    · exact former.passed writeback before
    · exact .inr new

end Touches

namespace Abort

theorem not_lacksRegister_of (kind : AbortKind) : ¬(Abort.of kind).LacksRegister := by
  rintro ⟨_, _, _, same⟩
  cases congrArg Abort.detail same

theorem not_lacksRegister_withDetail {kind : AbortKind} (detail : String)
    (other : kind ≠ .contractViolation) : ¬(Abort.withDetail kind detail).LacksRegister := by
  rintro ⟨_, _, _, same⟩
  exact other (congrArg Abort.kind same)

end Abort

namespace Action

/-- The register that an action has stored to holds what was stored; the world is as it was. -/
theorem setRegister_eq_ok {bank : Bank} {index : Nat} {content : bank.Content} {state after : Local}
    (done : setRegister bank index content state = .ok () after) :
    after.frame.registers.register bank index = .ok content ∧ after.world = state.world := by
  obtain ⟨frame, _, ⟨⟩, done⟩ := bind_eq_ok.1 done
  obtain ⟨registers, _, written, ⟨⟩⟩ := bind_eq_ok.1 done
  obtain ⟨written, rfl⟩ := ofExcept_eq_ok.1 written
  exact ⟨Banks.register_setRegister written, rfl⟩

/-- From a state on, an action writes to named registers only and lacks none but them. -/
def UsesAt (named : Bank → Nat → Prop) (action : Action α) (state : Local) : Prop :=
  match action state with
  | .ok _ after => Touches named state.frame after.frame
  | .error abort _ => abort.LacksRegister →
    ∃ bank index, named bank index ∧ state.frame.registers.size bank ≤ index

def Uses (named : Bank → Nat → Prop) (action : Action α) : Prop := ∀ state, UsesAt named action state

variable {named : Bank → Nat → Prop}

theorem usesAt_bind {first : Action α} {next : α → Action β} {state : Local}
    (uses : UsesAt named first state)
    (rest : ∀ value after, first state = .ok value after → UsesAt named (next value) after) :
    UsesAt named (first >>= next) state := by
  unfold UsesAt at uses ⊢
  rw [bind_apply]
  cases result : first state with
  | error abort after => simpa only [result] using uses
  | ok value middle =>
    rw [result] at uses
    have later := rest value middle result
    unfold UsesAt at later
    dsimp only at uses ⊢
    cases final : next value middle with
    | ok last after =>
      rw [final] at later
      exact uses.trans later
    | error abort after =>
      rw [final] at later
      intro lacks
      obtain ⟨bank, index, known, outside⟩ := later lacks
      exact ⟨bank, index, known, uses.sizes bank ▸ outside⟩

@[grind ←] theorem uses_bind {first : Action α} {next : α → Action β} (uses : Uses named first)
    (rest : ∀ value, Uses named (next value)) : Uses named (first >>= next) :=
  fun state => usesAt_bind (uses state) fun value after _ => rest value after

theorem uses_frame_bind {next : Frame → Action α}
    (uses : ∀ state, UsesAt named (next state.frame) state) : Uses named (frame >>= next) := uses

@[grind ←] theorem uses_pure (value : α) : Uses named (pure value : Action α) := fun _ => .refl _

theorem uses_throw {abort : Abort} (other : ¬abort.LacksRegister) :
    Uses named (throw abort : Action α) := fun _ lacks => absurd lacks other

@[grind ←] theorem uses_throw_detail {kind : AbortKind} (detail : String)
    (other : kind ≠ .contractViolation) :
    Uses named (throw (Abort.withDetail kind detail) : Action α) :=
  uses_throw (Abort.not_lacksRegister_withDetail detail other)

@[grind ←] theorem uses_abort (kind : AbortKind) : Uses named (abort kind : Action α) :=
  uses_throw (Abort.not_lacksRegister_of kind)

theorem usesAt_ofExcept {result : Except Fault α} (spares : Spares result) (state : Local) :
    UsesAt named (ofExcept result) state := by
  cases result with
  | ok value => exact .refl _
  | error fault =>
    intro lacks
    exact absurd (Fault.lacksRegister_of_ofFault lacks) (by simp [spares fault rfl])

@[grind ←] theorem uses_ofExcept {result : Except Fault α} (spares : Spares result) :
    Uses named (ofExcept result) := usesAt_ofExcept spares

@[grind ←] theorem uses_fault {fault : Fault} (other : fault.lacksRegister = false) :
    Uses named (Action.fault fault : Action α) :=
  uses_ofExcept (failsOnly_error other)

/-- After a fault nothing happens. -/
theorem uses_fault_bind {fault : Fault} (other : fault.lacksRegister = false) (next : α → Action β) :
    Uses named (Action.fault fault >>= next) := uses_ofExcept (failsOnly_error other)

theorem uses_ofAbort {result : Except Abort α} (terse : Terse result) :
    Uses named (ofAbort result) := by
  cases result with
  | ok value => exact uses_pure value
  | error abort =>
    obtain ⟨kind, rfl⟩ := terse abort rfl
    exact uses_throw (Abort.not_lacksRegister_of kind)

@[grind ←] theorem uses_get : Uses named (get : Action Local) := fun _ => .refl _

@[grind ←] theorem uses_frame : Uses named frame := fun _ => .refl _

@[grind ←] theorem uses_heap : Uses named heap := fun _ => .refl _

@[grind ←] theorem uses_setWorld (world : World) : Uses named (setWorld world) := fun _ => .refl _

@[grind ←] theorem uses_register {bank : Bank} {index : Nat} (known : named bank index) :
    Uses named (register bank index) := by
  refine uses_frame_bind fun state => ?_
  cases read : state.frame.registers.register bank index with
  | ok content => exact .refl _
  | error fault => exact fun _ => ⟨bank, index, known, Banks.register_eq_error read⟩

@[grind ←] theorem uses_constant (bank : Bank) (index : Nat) : Uses named (constant bank index) :=
  uses_bind uses_frame fun _ => uses_ofExcept (Banks.spares_constant _ _ _)

@[grind ←] theorem uses_setRegister {bank : Bank} {index : Nat} (content : bank.Content)
    (known : named bank index) : Uses named (setRegister bank index content) := by
  refine uses_frame_bind fun state => ?_
  cases written : state.frame.registers.setRegister bank index content with
  | ok registers =>
    refine ⟨rfl, Banks.setRegister_size written, fun other place free => ?_, fun _ old => .inl old⟩
    refine Banks.setRegister_others written ?_
    rintro rfl rfl
    exact free known
  | error fault => exact fun _ => ⟨bank, index, known, Banks.setRegister_eq_error written⟩

@[grind ←] theorem uses_vector {count start : Nat} (some : 0 < count)
    (known : ∀ i < count, named .float (start + i)) : Uses named (vector count start) := by
  refine uses_frame_bind fun state => ?_
  cases read : state.frame.registers.vector count start with
  | ok components => exact .refl _
  | error fault =>
    have outside := Banks.vector_eq_error read
    exact fun _ => ⟨.float, start + (count - 1), known _ (by omega), by omega⟩

@[grind ←] theorem uses_setVector {count start : Nat} (components : Vector Double count)
    (some : 0 < count) (known : ∀ i < count, named .float (start + i)) :
    Uses named (setVector start components) := by
  refine uses_frame_bind fun state => ?_
  cases written : state.frame.registers.setVector start components with
  | ok registers =>
    refine ⟨rfl, Banks.setVector_size written, fun other place free => ?_, fun _ old => .inl old⟩
    refine Banks.setVector_others written ?_
    rintro rfl i inside rfl
    exact free (known i inside)
  | error fault =>
    have outside := Banks.setVector_eq_error written
    exact fun _ => ⟨.float, start + (count - 1), known _ (by omega), by omega⟩

end Action
end GameScript
