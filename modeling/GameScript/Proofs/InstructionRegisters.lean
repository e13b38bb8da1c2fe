import GameScript.Proofs.RegisterUse

/-! The registers that each instruction uses are those that its word names, by field, kind and
selector. -/

namespace GameScript

def Operation.asked (operation : Operation) (w : Word) : List (Option (Bank × Nat)) :=
  match operation with
  | .cast =>
    match Conversion.ofCode w.c with
    | .ok conversion => [some (conversion.target, 1), some conversion.source]
    | .error _ => []
  | .castBool =>
    match TruthTest.ofCode w.c with
    | .ok truth => [none, some (truth.source, 1)]
    | .error _ => []
  | _ => []

namespace Word

/-- The registers that an operand names are among the named ones. The nil tag has all flags, also
that of a constant. -/
def NamesIn (w : Word) (named : Bank → Nat → Prop) (asked : Option (Bank × Nat)) (field : Field) :
    OperandKind → Prop
  | .register bank => named bank (w.numberAt field)
  | .vector dimension => ∀ i < dimension.size, named .float (w.numberAt field + i)
  | .anyRegister => ∀ bank width, asked = some (bank, width) →
    ∀ i < width, named bank (w.numberAt field + i)
  | .tagged => (w.taggedAt field).tag.isConstant = false →
    ∀ i < (w.taggedAt field).tag.width,
      named (w.taggedAt field).tag.bank ((w.taggedAt field).index + UInt16.ofNat i).toNat
  | _ => True

def Within (w : Word) (named : Bank → Nat → Prop) (operation : Operation) : Prop :=
  ∀ (j : Nat) field kind, operation.operands[j]? = some (field, kind) →
    w.NamesIn named (operation.asked w)[j]?.join field kind

end Word

namespace OperandTag

theorem wellFormed_of_validate {tag valid : OperandTag}
    (checked : tag.validate = .ok valid) : tag.wellFormed = true := by
  unfold validate at checked
  split at checked
  next sound => exact sound
  next => cases checked

/-- Only floats have vectors; the nil tag is no reference only by name. -/
theorem bank_of_vector {tag : OperandTag} (sound : tag.wellFormed = true)
    (wide : 1 < tag.width) (plain : tag.isReference = false) : tag.bank = .float := by
  by_cases nil : tag.isNil = true
  · have all : tag.bits = 255 := by simpa [isNil] using nil
    rw [isReference, all] at plain
    cases plain
  · simp only [wellFormed, nil, Bool.false_or, Bool.and_eq_true, decide_eq_true wide,
      Bool.true_and, Bool.not_eq_true'] at sound
    simpa using sound.1.2

theorem width_pos (tag : OperandTag) : 0 < tag.width := by
  unfold width
  split
  next => decide
  next => split <;> decide

end OperandTag

theorem Dimension.size_pos (dimension : Dimension) : 0 < dimension.size := by
  cases dimension <;> decide

namespace Action

variable {named : Bank → Nat → Prop} {w : Word}

theorem uses_fetch (w : Word) (field : Field) {source : Source} {bank : Bank}
    {asked : Option (Bank × Nat)} (within : w.NamesIn named asked field (source.operand bank)) :
    Uses named (fetch source bank (w.numberAt field)) := by
  cases source with
  | register => exact uses_register within
  | constant => exact uses_constant _ _

theorem uses_readAt (w : Word) (field : Field) {dimension : Dimension}
    {asked : Option (Bank × Nat)} (within : w.NamesIn named asked field (.vector dimension)) :
    Uses named (vector dimension.size (w.numberAt field)) := uses_vector dimension.size_pos within

theorem uses_writeAt (w : Word) (field : Field) {dimension : Dimension}
    {asked : Option (Bank × Nat)} (within : w.NamesIn named asked field (.vector dimension))
    (components : Vector Double dimension.size) :
    Uses named (setVector (w.numberAt field) components) :=
  uses_setVector components dimension.size_pos within

theorem uses_fetchInt {source : IntSource} {number : UInt16}
    (known : source = .register → named .int number.toNat) : Uses named (fetchInt source number) := by
  cases source with
  | register => exact uses_register (known rfl)
  | constant => exact uses_constant _ _
  | byte | half | signedByte => exact uses_pure _

theorem uses_branch (mnemonic : String) (outcome check : Bool) :
    Uses named (branch mnemonic outcome check) := by
  refine uses_frame_bind fun state => ?_
  split
  next =>
    split
    next => exact .of_same rfl rfl fun _ old => old
    next => exact .refl _
  next => exact uses_fault rfl state

theorem usesAt_jump (state : Local) (start : Nat) (delta : Int) :
    UsesAt named (ofExcept (state.frame.jump start delta) >>= setFrame) state := by
  refine usesAt_bind (usesAt_ofExcept (Frame.spares_jump _ _ _) state)
    fun moved after jumped => ?_
  obtain ⟨jumped, rfl⟩ := ofExcept_eq_ok.1 jumped
  obtain ⟨target, -, -, rfl⟩ := Frame.jump_eq_ok jumped
  exact .of_same rfl rfl fun _ old => old

theorem uses_jump (w : Word) : Uses named (jump w) :=
  uses_frame_bind fun state => usesAt_jump state _ _

theorem uses_jumpTable (mnemonic : String) (within : w.Within named .jumpTable) :
    Uses named (jumpTable mnemonic w) := by
  refine uses_frame_bind fun state => ?_
  refine usesAt_bind (uses_register (within 0 .a _ rfl) state) fun entry after read => ?_
  rw [register_apply] at read
  obtain ⟨-, rfl⟩ := ofExcept_eq_ok.1 read
  dsimp only
  split
  next word found =>
    split
    next => exact usesAt_jump after _ _
    next => exact uses_fault rfl after
  next => exact uses_fault rfl after

theorem uses_updateHeap {change : Heap → Except Fault Heap} (spares : ∀ heap, Spares (change heap)) :
    Uses named (updateHeap change) :=
  uses_bind uses_get fun _ => uses_bind (uses_ofExcept (spares _)) fun _ => uses_setWorld _

@[grind ←] theorem uses_writeBytes (position : Address) (data : List UInt8) :
    Uses named (writeBytes position data) :=
  uses_updateHeap fun heap => (heap.ordinary_writeBytes _ _).spares

@[grind ←] theorem uses_writeString (position : Address) (value : String) :
    Uses named (writeString position value) :=
  uses_updateHeap fun heap => (heap.ordinary_writeString _ _).spares

@[grind ←] theorem uses_writePointer (position : Address) (value : Pointer) :
    Uses named (writePointer position value) :=
  uses_updateHeap fun heap => (heap.ordinary_writePointer _ _).spares

@[grind ←] theorem uses_intern (name : String) : Uses named (intern name) := fun _ => .refl _

@[grind ←] theorem uses_notify (stored : Option ObjectRef) : Uses named (notify stored) :=
  fun _ => .refl _

@[grind ←] theorem uses_locate {base : Nat} {offset : Action Int32} (nil : AbortKind)
    (known : named .pointer base) (uses : Uses named offset) : Uses named (locate base offset nil) := by
  refine uses_bind (uses_register known) fun pointer => ?_
  refine uses_bind uses fun offset => ?_
  refine uses_bind uses_heap fun heap => ?_
  refine uses_bind (uses_ofExcept (heap.ordinary_resolve _).spares) fun position => ?_
  cases position <;> grind

@[grind ←] theorem uses_readNat (position : Address) (width : Nat) :
    Uses named (readNat position width) := by
  unfold readNat
  grind

@[grind ←] theorem uses_readDouble (position : Address) : Uses named (readDouble position) := by
  unfold readDouble
  grind

@[grind ←] theorem uses_readVector (position : Address) (count : Nat) :
    Uses named (readVector position count) := by
  induction count with
  | zero => exact uses_pure _
  | succ count ih =>
    unfold readVector
    grind

@[grind ←] theorem uses_readIndirect (position : Address) : Uses named (readIndirect position) := by
  refine uses_bind uses_heap fun heap => ?_
  refine uses_bind (uses_ofExcept (heap.ordinary_readPointer _).spares) fun target => ?_
  refine uses_bind uses_heap fun heap => ?_
  refine uses_bind (uses_ofExcept (heap.ordinary_resolve _).spares) fun start => ?_
  cases start <;> grind

theorem uses_load {kind : LoadKind} {offset : Source} (within : w.Within named (.load kind offset)) :
    Uses named (load w kind offset) := by
  have target : w.NamesIn named none .a kind.operand := within 0 .a _ rfl
  have base : named .pointer w.b.toNat := within 1 .b _ rfl
  have distance : Uses named (fetch offset .int w.c.toNat) := uses_fetch w .c (within 2 .c _ rfl)
  unfold load
  refine uses_bind (uses_locate _ base distance) fun position => ?_
  cases kind with
  | vector dimension =>
    exact uses_bind (uses_readVector _ _) fun components =>
      uses_setVector components dimension.size_pos target
  | _ =>
    have target : named _ w.a.toNat := target
    grind

theorem uses_store {kind : StoreKind} {offset : Source}
    (within : w.Within named (.store kind offset)) : Uses named (store w kind offset) := by
  have base : named .pointer w.a.toNat := within 0 .a _ rfl
  have source : w.NamesIn named none .b kind.operand := within 1 .b _ rfl
  have distance : Uses named (fetch offset .int w.c.toNat) := uses_fetch w .c (within 2 .c _ rfl)
  have target := uses_locate .writeNil base distance
  unfold store
  cases kind with
  | vector dimension =>
    refine uses_bind (uses_vector dimension.size_pos source) fun components => ?_
    exact uses_bind target fun position => uses_writeBytes _ _
  | object =>
    refine uses_bind (uses_register source) fun value => ?_
    have rest := uses_bind target fun position =>
      uses_bind (uses_writePointer position value) fun _ => uses_notify value.object?
    split
    next => exact rest
    next => exact uses_bind (uses_fault rfl) fun _ => rest
  | _ =>
    have source : named _ w.b.toNat := source
    grind

theorem uses_loadBits (within : w.Within named .loadBits) : Uses named (loadBits w) := by
  have target : named .int w.a.toNat := within 0 .a _ rfl
  have base : named .pointer w.b.toNat := within 1 .b _ rfl
  unfold loadBits
  grind

theorem uses_storeBits (within : w.Within named .storeBits) : Uses named (storeBits w) := by
  have base : named .pointer w.a.toNat := within 0 .a _ rfl
  have source : named .int w.b.toNat := within 1 .b _ rfl
  unfold storeBits
  grind

theorem uses_addressAdd {offset : Source} (within : w.Within named (.addressAdd offset)) :
    Uses named (addressAdd w offset) := by
  have target : named .pointer w.a.toNat := within 0 .a _ rfl
  refine uses_bind (uses_register (within 1 .b _ rfl)) fun base => ?_
  refine uses_bind (uses_fetch w .c (within 2 .c _ rfl)) fun delta => ?_
  refine uses_bind uses_heap fun heap => ?_
  refine uses_bind (uses_ofExcept (heap.ordinary_resolve _).spares) fun position => ?_
  cases position <;> grind

theorem uses_addressDistance (within : w.Within named .addressDistance) :
    Uses named (addressDistance w) := by
  have target : named .int w.a.toNat := within 0 .a _ rfl
  refine uses_bind (uses_register (within 1 .b _ rfl)) fun left => ?_
  refine uses_bind (uses_register (within 2 .c _ rfl)) fun right => ?_
  refine uses_bind uses_heap fun heap => ?_
  refine uses_bind (uses_ofExcept (heap.ordinary_resolve _).spares) fun leftPosition => ?_
  refine uses_bind uses_heap fun heap => ?_
  refine uses_bind (uses_ofExcept (heap.ordinary_resolve _).spares) fun rightPosition => ?_
  cases leftPosition <;> cases rightPosition <;> grind

/-- A cast uses registers of the banks that its selector names. -/
theorem uses_cast (within : w.Within named .cast) : Uses named (cast w) := by
  intro state
  refine usesAt_bind (usesAt_ofExcept (ordinary_ofSelector _).spares state)
    fun conversion after selected => ?_
  obtain ⟨found, rfl⟩ := ofExcept_eq_ok.1 selected
  have asked : Operation.cast.asked w = [some (conversion.target, 1), some conversion.source] := by
    rw [Operation.asked, Fault.ofSelector_eq_ok found]
  have target : named conversion.target w.a.toNat :=
    within 0 .a _ rfl _ 1 (by rw [asked]; rfl) 0 Nat.one_pos
  have source : ∀ i < conversion.source.2, named conversion.source.1 (w.b.toNat + i) :=
    within 1 .b _ rfl _ _ (by rw [asked]; rfl)
  have first (some : 0 < conversion.source.2) : named conversion.source.1 w.b.toNat := source 0 some
  suffices uses : Uses named _ from uses after
  cases conversion with
  | pairToString =>
    exact uses_bind (uses_vector (by decide) source) fun _ => uses_setRegister _ target
  | tripleToString =>
    exact uses_bind (uses_vector (by decide) source) fun _ => uses_setRegister _ target
  | stringToName =>
    refine uses_bind (uses_register (first Nat.one_pos)) fun text => ?_
    exact uses_bind (uses_intern text) fun _ => uses_setRegister _ target
  | nameToString =>
    refine uses_bind (uses_register (first Nat.one_pos)) fun id => ?_
    refine uses_bind uses_get fun state => ?_
    split
    next => exact uses_setRegister _ target
    next => exact uses_fault rfl
  | _ => exact uses_bind (uses_register (first Nat.one_pos)) fun _ => uses_setRegister _ target

theorem uses_castBool (within : w.Within named .castBool) : Uses named (castBool w) := by
  intro state
  refine usesAt_bind (usesAt_ofExcept (ordinary_ofSelector _).spares state)
    fun truth after selected => ?_
  obtain ⟨found, rfl⟩ := ofExcept_eq_ok.1 selected
  have asked : Operation.castBool.asked w = [none, some (truth.source, 1)] := by
    rw [Operation.asked, Fault.ofSelector_eq_ok found]
  have source : named truth.source w.b.toNat :=
    within 1 .b _ rfl _ 1 (by rw [asked]; rfl) 0 Nat.one_pos
  suffices uses : Uses named _ from uses after
  cases truth <;>
    exact uses_bind (uses_register source) fun _ =>
      uses_bind (uses_pure _) fun _ => uses_setRegister _ (within 0 .a _ rfl)

@[grind ←] theorem uses_classOf (pointer : Pointer) : Uses named (classOf pointer) := by
  unfold classOf
  grind

theorem uses_castObject {target : Source} (within : w.Within named (.castObject target)) :
    Uses named (castObject w target) := by
  have result : named .pointer w.a.toNat := within 0 .a _ rfl
  refine uses_bind (uses_fetch w .c (within 2 .c _ rfl)) fun pointer => ?_
  refine uses_bind (uses_classOf _) fun id => ?_
  refine uses_bind (uses_register (within 1 .b _ rfl)) fun pointer => ?_
  cases pointer <;> grind

theorem uses_castClass {target : Source} (within : w.Within named (.castClass target)) :
    Uses named (castClass w target) := by
  have result : named .pointer w.a.toNat := within 0 .a _ rfl
  refine uses_bind (uses_fetch w .c (within 2 .c _ rfl)) fun pointer => ?_
  refine uses_bind (uses_classOf _) fun ancestor => ?_
  refine uses_bind (uses_register (within 1 .b _ rfl)) fun pointer => ?_
  cases pointer <;> grind

theorem uses_objectAt {index : Nat} (known : named .pointer index) : Uses named (objectAt index) := by
  refine uses_bind (uses_register known) fun pointer => ?_
  cases pointer <;> grind

theorem uses_objectClass (within : w.Within named .objectClass) : Uses named (objectClass w) := by
  refine uses_bind (uses_objectAt (within 1 .b _ rfl)) fun ref => ?_
  refine uses_bind uses_heap fun heap => ?_
  refine uses_bind (uses_ofExcept (heap.ordinary_objectClass ref).spares) fun id => ?_
  exact uses_setRegister _ (within 0 .a _ rfl)

theorem uses_virtual (within : w.Within named .virtual) : Uses named (virtual w) := by
  have target : named .pointer w.a.toNat := within 0 .a _ rfl
  refine uses_bind (uses_objectAt (within 1 .b _ rfl)) fun ref => ?_
  refine uses_bind uses_heap fun heap => ?_
  refine uses_bind (uses_ofExcept (heap.ordinary_objectClass ref).spares) fun id => ?_
  grind

theorem uses_intOperand {source : IntSource} {asked : Option (Bank × Nat)} {field : Field}
    {number : UInt16} (within : w.NamesIn named asked field source.operand)
    (same : number.toNat = w.numberAt field) : Uses named (fetchInt source number) := by
  refine uses_fetchInt ?_
  rintro rfl
  exact same ▸ within

theorem uses_intBinary {f : IntFunction} {left right : IntSource}
    (within : w.Within named (.intBinary f left right)) : Uses named (intBinary w f left right) := by
  refine uses_bind (uses_intOperand (within 1 .b _ rfl) (UInt8.toNat_toUInt16 _)) fun x => ?_
  refine uses_bind (uses_intOperand (within 2 .c _ rfl) (UInt8.toNat_toUInt16 _)) fun y => ?_
  exact uses_bind (uses_ofAbort (f.terse_apply x y)) fun _ => uses_setRegister _ (within 0 .a _ rfl)

theorem uses_intCompare {relation : IntRelation} {left right : IntSource} (mnemonic : String)
    (within : w.Within named (.intCompare relation left right)) :
    Uses named (intCompare mnemonic w relation left right) := by
  refine uses_bind (uses_intOperand (within 1 .b _ rfl) (UInt8.toNat_toUInt16 _)) fun x => ?_
  refine uses_bind (uses_intOperand (within 2 .c _ rfl) (UInt8.toNat_toUInt16 _)) fun y => ?_
  exact uses_branch _ _ _

theorem uses_floatBinary {f : FloatBinary} {left right : Source}
    (within : w.Within named (.floatBinary f left right)) : Uses named (floatBinary w f left right) := by
  refine uses_bind (uses_fetch w .b (within 1 .b _ rfl)) fun x => ?_
  refine uses_bind (uses_fetch w .c (within 2 .c _ rfl)) fun y => ?_
  exact uses_bind (uses_ofAbort (f.terse_apply x y)) fun _ => uses_setRegister _ (within 0 .a _ rfl)

theorem uses_floatCompare {relation : FloatRelation} {left right : Source} (mnemonic : String)
    (epsilon : Double) (within : w.Within named (.floatCompare relation left right)) :
    Uses named (floatCompare mnemonic epsilon w relation left right) := by
  refine uses_bind (uses_fetch w .b (within 1 .b _ rfl)) fun x => ?_
  refine uses_bind (uses_fetch w .c (within 2 .c _ rfl)) fun y => ?_
  exact uses_branch _ _ _

theorem uses_vectorScale {divide : Bool} {dimension : Dimension} {scalar : Source}
    (within : w.Within named (.vectorScale divide dimension scalar)) :
    Uses named (vectorScale w divide dimension.size scalar) := by
  have target (components : Vector Double dimension.size) : Uses named (setVector w.a.toNat components) :=
    uses_writeAt w .a (within 0 .a _ rfl) components
  refine uses_bind (uses_fetch w .c (within 2 .c _ rfl)) fun factor => ?_
  refine uses_bind (uses_readAt w .b (within 1 .b _ rfl)) fun components => ?_
  split
  next =>
    exact uses_bind (uses_ofAbort (terse_floatDivisor factor)) fun _ => target _
  next => exact target _

theorem uses_vectorEqual {dimension : Dimension} {right : Source} (mnemonic : String)
    (epsilon : Double) (within : w.Within named (.vectorEqual dimension right)) :
    Uses named (vectorEqual mnemonic epsilon w dimension.size right) := by
  have left : w.NamesIn named none .b (.vector dimension) := by
    cases right <;> exact within 1 .b _ rfl
  refine uses_bind (uses_vector dimension.size_pos left) fun x => ?_
  refine uses_bind ?_ fun y => uses_branch _ _ _
  cases right with
  | register => exact uses_readAt w .c (within 2 .c _ rfl)
  | constant =>
    exact uses_bind uses_frame fun _ => uses_ofExcept (Banks.spares_constantVector _ _ _)

theorem uses_bound {limit : IntSource} (within : w.Within named (.bound limit)) :
    Uses named (bound w limit) := by
  have index : named .int w.a.toNat := by
    cases limit <;> exact within 0 .a _ rfl
  refine uses_bind (uses_register index) fun index => ?_
  refine uses_bind (uses_fetchInt ?_) fun limit => ?_
  · rintro rfl
    have other : named .int w.b.toNat := within 1 .b _ rfl
    rwa [← UInt8.toNat_toUInt16] at other
  · grind

theorem uses_constantAt {bank : Bank} (within : w.Within named (.loadConstantAt bank)) :
    Uses named (constantAt bank w) := by
  have target : named bank w.a.toNat := within 0 .a _ rfl
  refine uses_bind (uses_register (within 1 .b _ rfl)) fun base => ?_
  grind

theorem uses_compareStrings (mnemonic : String) (within : w.Within named .compareStrings) :
    Uses named (compareStrings mnemonic w) := by
  refine uses_bind (uses_register (within 1 .b _ rfl)) fun left => ?_
  refine uses_bind (uses_register (within 2 .c _ rfl)) fun right => ?_
  exact uses_bind (uses_ofExcept (ordinary_ofSelector _).spares) fun mode => uses_branch _ _ _

@[grind ←] theorem uses_room (count : Nat) : Uses named (room count) := by
  unfold room
  grind

theorem uses_stage {params : List StagedParam}
    (known : ∀ writeback ∈ params.filterMap StagedParam.writeback,
      named writeback.bank writeback.register.toNat) : Uses named (stage params) := by
  refine uses_frame_bind fun state => ⟨rfl, fun _ => rfl, fun _ _ _ => rfl, fun writeback member => ?_⟩
  rw [Frame.passed, List.filterMap_append, List.mem_append] at member
  obtain old | new := member
  · exact .inl old
  · exact .inr (known writeback new)

theorem uses_stage_value (value : Value) : Uses named (stage [⟨value, none⟩]) :=
  uses_stage fun _ member => by cases member

theorem uses_valueOf_register {bank : Bank} {index : Nat} (known : named bank index) :
    Uses named (valueOf .register bank index) :=
  uses_bind (uses_register known) fun _ => uses_pure _

theorem uses_valueOf_constant (bank : Bank) (index : Nat) :
    Uses named (valueOf .constant bank index) :=
  uses_bind (uses_constant bank index) fun _ => uses_pure _

theorem uses_vectorParams {index : UInt16} {count : Nat}
    (known : ∀ i < count, named .float (index + UInt16.ofNat i).toNat) :
    Uses named (vectorParams index count) := by
  induction count generalizing index with
  | zero => exact uses_pure _
  | succ count ih =>
    have first : named .float index.toNat := by
      simpa using known 0 (Nat.succ_pos _)
    refine uses_bind (uses_valueOf_register first) fun value => ?_
    refine uses_bind (ih fun i inside => ?_) fun params => uses_pure _
    have next := known (i + 1) (Nat.succ_lt_succ inside)
    rwa [UInt16.ofNat_add, UInt16.add_comm (UInt16.ofNat i), ← UInt16.add_assoc] at next

theorem uses_stageVector {index : UInt16} {count : Nat}
    (known : ∀ i < count, named .float (index + UInt16.ofNat i).toNat) :
    Uses named (vectorParams index count >>= stage) := by
  intro state
  refine usesAt_bind (uses_vectorParams known state) fun params after read => ?_
  obtain ⟨others, same, plain, -⟩ | ⟨abort, failed⟩ := vectorParams_apply index count state
  · cases read.symm.trans same
    exact uses_stage (fun _ member => by rw [plain] at member; cases member) _
  · cases read.symm.trans failed

theorem uses_stageReference {bank : Bank} {index : UInt16} (known : named bank index.toNat) :
    Uses named (stageReference bank index) := by
  refine uses_bind (uses_valueOf_register known) fun value => ?_
  refine uses_bind uses_get fun state => ?_
  refine uses_bind (uses_ofExcept (Heap.ordinary_box _ _).spares) fun (cell, heap) => ?_
  refine uses_bind (uses_setWorld _) fun _ => uses_stage fun writeback member => ?_
  cases List.mem_singleton.1 member
  exact known

theorem uses_param (mnemonic : String) (within : w.Within named .param) :
    Uses named (param mnemonic w) := by
  intro state
  refine usesAt_bind (usesAt_ofExcept (ordinary_ofSelector _).spares state)
    fun tag after checked => ?_
  obtain ⟨valid, rfl⟩ := ofExcept_eq_ok.1 checked
  obtain rfl := OperandTag.validate_eq_ok (Fault.ofSelector_eq_ok valid)
  have known : w.tagAIndexBC.tag.isConstant = false → ∀ i < w.tagAIndexBC.tag.width,
      named w.tagAIndexBC.tag.bank (w.tagAIndexBC.index + UInt16.ofNat i).toNat := within 0 .tagAIndexBC _ rfl
  have single (register : w.tagAIndexBC.tag.isConstant = false) :
      named w.tagAIndexBC.tag.bank w.tagAIndexBC.index.toNat := by
    simpa using known register 0 w.tagAIndexBC.tag.width_pos
  suffices uses : Uses named _ from uses after
  dsimp only
  by_cases refused : (decide (1 < w.tagAIndexBC.tag.width) && w.tagAIndexBC.tag.isReference) = true
  · rw [if_pos refused]
    exact uses_fault_bind rfl _
  rw [if_neg refused]
  refine uses_bind (uses_room _) fun _ => ?_
  split
  next => exact uses_bind (uses_valueOf_constant _ _) fun value => uses_stage_value value
  next register =>
    have register : w.tagAIndexBC.tag.isConstant = false := by simpa using register
    split
    next wide =>
      have plain : w.tagAIndexBC.tag.isReference = false := by simpa [wide] using refused
      have sound := OperandTag.wellFormed_of_validate (Fault.ofSelector_eq_ok valid)
      refine uses_stageVector fun i inside => ?_
      rw [← OperandTag.bank_of_vector sound wide plain]
      exact known register i inside
    next =>
      split
      next => exact uses_stageReference (single register)
      next =>
        refine uses_bind (uses_valueOf_register (single register)) fun value => ?_
        exact uses_stage_value value

/-- Every operation that stays in its frame uses the registers that its word names. A `THROW` may say
whatever it likes. -/
theorem uses_compute {operation : Operation} (epsilon : Double) (mnemonic : String)
    (within : w.Within named operation) (quiet : operation ≠ .throw) :
    Uses named (compute epsilon mnemonic w operation) := by
  cases operation with
  | nop | call | ret | retImmediate => exact uses_pure _
  | loadImmediate => exact uses_setRegister _ (within 0 .a _ rfl)
  | loadConstant bank =>
    exact uses_bind (uses_constant _ _) fun _ => uses_setRegister _ (within 0 .a _ rfl)
  | loadConstantAt bank => exact uses_constantAt within
  | frameAddress => exact uses_bind uses_frame fun _ => uses_setRegister _ (within 0 .a _ rfl)
  | objectClass => exact uses_objectClass within
  | move bank =>
    exact uses_bind (uses_register (within 1 .b _ rfl)) fun _ => uses_setRegister _ (within 0 .a _ rfl)
  | moveVector dimension =>
    refine uses_bind (uses_readAt w .b (within 1 .b _ rfl)) fun _ => ?_
    exact uses_writeAt w .a (within 0 .a _ rfl) _
  | load kind offset => exact uses_load within
  | loadBits => exact uses_loadBits within
  | store kind offset => exact uses_store within
  | storeBits => exact uses_storeBits within
  | cast => exact uses_cast within
  | castBool => exact uses_castBool within
  | castObject target => exact uses_castObject within
  | castClass target => exact uses_castClass within
  | test | testNegated =>
    exact uses_bind (uses_register (within 0 .a _ rfl)) fun _ => uses_branch _ _ _
  | jump => exact uses_jump w
  | jumpTable => exact uses_jumpTable mnemonic within
  | param => exact uses_param mnemonic within
  | paramImmediate => exact uses_bind (uses_room 1) fun _ => uses_stage_value _
  | virtual => exact uses_virtual within
  | result => exact uses_bind uses_frame fun _ => uses_fault rfl
  | throw => exact absurd rfl quiet
  | bound limit => exact uses_bound within
  | concat =>
    refine uses_bind (uses_register (within 1 .b _ rfl)) fun left => ?_
    refine uses_bind (uses_register (within 2 .c _ rfl)) fun right => ?_
    exact uses_setRegister _ (within 0 .a _ rfl)
  | stringLength =>
    exact uses_bind (uses_register (within 1 .b _ rfl)) fun _ => uses_setRegister _ (within 0 .a _ rfl)
  | compareStrings => exact uses_compareStrings mnemonic within
  | intBinary f left right => exact uses_intBinary within
  | intUnary f =>
    exact uses_bind (uses_register (within 1 .b _ rfl)) fun _ => uses_setRegister _ (within 0 .a _ rfl)
  | signExtend =>
    have rest : Uses named (do
        setRegister .int w.a.toNat (GameScript.signExtend w.c (← register .int w.b.toNat))) :=
      uses_bind (uses_register (within 1 .b _ rfl)) fun _ => uses_setRegister _ (within 0 .a _ rfl)
    dsimp only [compute]
    split
    next => exact rest
    next => exact uses_fault_bind rfl _
  | intCompare relation left right => exact uses_intCompare mnemonic within
  | floatBinary f left right => exact uses_floatBinary within
  | floatFunction =>
    refine uses_bind (uses_ofExcept (ordinary_ofSelector _).spares) fun f => ?_
    exact uses_bind (uses_register (within 1 .b _ rfl)) fun _ => uses_setRegister _ (within 0 .a _ rfl)
  | floatCompare relation left right => exact uses_floatCompare mnemonic epsilon within
  | vectorNegate dimension =>
    refine uses_bind (uses_readAt w .b (within 1 .b _ rfl)) fun _ => ?_
    exact uses_writeAt w .a (within 0 .a _ rfl) _
  | vectorBinary f dimension =>
    refine uses_bind (uses_readAt w .b (within 1 .b _ rfl)) fun _ => ?_
    refine uses_bind (uses_readAt w .c (within 2 .c _ rfl)) fun _ => ?_
    exact uses_writeAt w .a (within 0 .a _ rfl) _
  | vectorDot dimension =>
    refine uses_bind (uses_readAt w .b (within 1 .b _ rfl)) fun _ => ?_
    refine uses_bind (uses_readAt w .c (within 2 .c _ rfl)) fun _ => ?_
    exact uses_setRegister _ (within 0 .a _ rfl)
  | vectorCross =>
    refine uses_bind (uses_readAt w .b (within 1 .b _ rfl)) fun _ => ?_
    refine uses_bind (uses_readAt w .c (within 2 .c _ rfl)) fun _ => ?_
    exact uses_writeAt w .a (within 0 .a _ rfl) _
  | vectorScale divide dimension scalar => exact uses_vectorScale within
  | vectorLength dimension =>
    refine uses_bind (uses_readAt w .b (within 1 .b _ rfl)) fun _ => ?_
    exact uses_setRegister _ (within 0 .a _ rfl)
  | vectorEqual dimension right => exact uses_vectorEqual mnemonic epsilon within
  | addressAdd offset => exact uses_addressAdd within
  | addressDistance => exact uses_addressDistance within
  | pointerEqual right =>
    refine uses_bind (uses_register (within 1 .b _ rfl)) fun _ => ?_
    exact uses_bind (uses_fetch w .c (within 2 .c _ rfl)) fun _ => uses_branch _ _ _

theorem uses_callee (library : Library ν) {target : Source} (within : w.Within named (.call target)) :
    Uses named (callee library w target) := by
  refine uses_bind (uses_fetch w .a (within 0 .a _ rfl)) fun pointer => ?_
  cases pointer with
  | function id => exact uses_ofExcept (library.ordinary_get id).spares
  | _ => exact uses_fault rfl

theorem uses_resultTarget (offset : Nat) : Uses named (resultTarget offset) := by
  refine uses_bind uses_frame fun frame => ?_
  split
  next => exact uses_fault rfl
  next word _ =>
    split
    next =>
      refine uses_bind (uses_ofExcept (ordinary_ofSelector _).spares) fun tag => ?_
      split
      next => exact uses_fault rfl
      next => exact uses_pure _
    next => exact uses_fault rfl

theorem uses_resultTargets (offset count : Nat) : Uses named (resultTargets offset count) := by
  induction count generalizing offset with
  | zero => exact uses_pure _
  | succ count ih =>
    refine uses_bind (uses_resultTarget offset) fun target => ?_
    exact uses_bind (ih (offset + 1)) fun targets => uses_pure _

theorem uses_unstage (running limit taken : Nat) : Uses named (unstage running limit taken) := by
  refine uses_frame_bind fun state => ?_
  dsimp only
  split
  next => exact uses_fault rfl state
  next =>
    split
    next => exact uses_throw_detail _ (by decide) state
    next =>
      refine .of_same rfl rfl fun writeback member => ?_
      exact List.Sublist.subset ((List.take_sublist _ _).filterMap _) member

theorem uses_call {library : Library ν} {running limit : Nat} {target : Source}
    (within : w.Within named (.call target)) : Uses named (call library running limit w target) := by
  refine uses_bind (uses_callee library within) fun function => uses_frame_bind fun state => ?_
  refine usesAt_bind (uses_resultTargets _ _ state) fun targets after read => ?_
  obtain ⟨rfl, -⟩ := resultTargets_eq_ok read
  refine usesAt_bind (.of_same rfl rfl fun _ old => old) fun _ moved same => ?_
  exact uses_bind (uses_unstage _ _ _) (fun _ => uses_pure _) moved

theorem uses_storeResult (position : Nat) (value : Value) : Uses named (storeResult position value) := by
  refine uses_frame_bind fun state => ?_
  refine usesAt_bind (usesAt_ofExcept (Frame.ordinary_storeResult _ _ _).spares state)
    fun frame after stored => ?_
  obtain ⟨kept, rfl⟩ := ofExcept_eq_ok.1 stored
  obtain ⟨results, returned, rfl⟩ := Frame.storeResult_eq_ok kept
  exact .of_same rfl rfl fun _ old => old

theorem uses_ret (mnemonic : String) (within : w.Within named .ret) : Uses named (ret mnemonic w) := by
  intro state
  refine usesAt_bind (usesAt_ofExcept (ordinary_ofSelector _).spares state)
    fun tag after checked => ?_
  obtain ⟨valid, rfl⟩ := ofExcept_eq_ok.1 checked
  obtain rfl := OperandTag.validate_eq_ok (Fault.ofSelector_eq_ok valid)
  have known : w.tagBIndexC.tag.isConstant = false → ∀ i < w.tagBIndexC.tag.width,
      named w.tagBIndexC.tag.bank (w.tagBIndexC.index + UInt16.ofNat i).toNat :=
    within 1 .tagBIndexC _ rfl
  suffices uses : Uses named _ from uses after
  dsimp only
  by_cases nil : w.tagBIndexC.tag.isNil
  · rw [if_pos nil]
    exact uses_pure _
  rw [if_neg nil]
  by_cases refused : 1 < w.tagBIndexC.tag.width || w.tagBIndexC.tag.isReference
  · rw [if_pos refused]
    exact uses_fault_bind rfl _
  rw [if_neg refused]
  refine uses_bind ?_ fun value => uses_storeResult _ value
  split
  next => exact uses_valueOf_constant _ _
  next register =>
    have single := known (by simpa using register) 0 w.tagBIndexC.tag.width_pos
    exact uses_valueOf_register (by simpa using single)

/-- An instruction uses the registers that its word names. -/
theorem uses_perform (setting : Setting ν) {instruction : Instruction}
    (within : w.Within named instruction.operation) (quiet : instruction.operation ≠ .throw) :
    Uses named (perform setting instruction w) := by
  obtain ⟨target, operation, same⟩ | ⟨operation, same⟩ | ⟨operation, same⟩ | ⟨-, same⟩ :=
    perform_cases setting instruction w
  all_goals rw [same]
  · rw [operation] at within
    exact uses_bind (uses_call within) fun _ => uses_pure _
  · rw [operation] at within
    exact uses_bind (uses_ret _ within) fun _ => uses_pure _
  · exact uses_bind (uses_storeResult _ _) fun _ => uses_pure _
  · exact uses_bind (uses_compute _ _ within quiet) fun _ => uses_pure _

end Action
end GameScript
