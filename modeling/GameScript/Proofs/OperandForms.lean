import GameScript.Proofs.DecodedOperands

/-! Instructions that differ only in where they take an operand from. A register, the constant pool and
the word itself are told apart when the operand is fetched, and never again: forms of an instruction
that take the same operands do the same. Only the message about a missing jump names the form. -/

namespace GameScript

namespace Frame

def limit (frame : Frame) (source : IntSource) (w : Word) : Except Fault Int32 :=
  frame.intOperand source (match source with
    | .register => w.b.toUInt16
    | _ => w.bc)

/-- The words of two forms of an instruction that take the same from a frame. Fields that mean the same
in both hold the same; of the other operands the values are the same, wherever each form has them
from. -/
inductive TakesSame (frame : Frame) (w v : Word) : Operation → Operation → Prop where
  | loadConstant {bank} (target : w.a = v.a) (index : w.bc = v.bc) :
      TakesSame frame w v (.loadConstant bank) (.loadConstant bank)
  | loadConstantAt {bank} (target : w.a = v.a) (base : w.b = v.b) (offset : w.c = v.c) :
      TakesSame frame w v (.loadConstantAt bank) (.loadConstantAt bank)
  | load {kind source other} (target : w.a = v.a) (base : w.b = v.b)
      (offset : frame.operand source .int w.c.toNat = frame.operand other .int v.c.toNat) :
      TakesSame frame w v (.load kind source) (.load kind other)
  | store {kind source other} (base : w.a = v.a) (value : w.b = v.b)
      (offset : frame.operand source .int w.c.toNat = frame.operand other .int v.c.toNat) :
      TakesSame frame w v (.store kind source) (.store kind other)
  | castObject {source other} (target : w.a = v.a) (pointer : w.b = v.b)
      (wanted : frame.operand source .pointer w.c.toNat = frame.operand other .pointer v.c.toNat) :
      TakesSame frame w v (.castObject source) (.castObject other)
  | castClass {source other} (target : w.a = v.a) (pointer : w.b = v.b)
      (wanted : frame.operand source .pointer w.c.toNat = frame.operand other .pointer v.c.toNat) :
      TakesSame frame w v (.castClass source) (.castClass other)
  | call {source other} (params : w.b = v.b) (results : w.c = v.c)
      (callee : frame.operand source .pointer w.a.toNat = frame.operand other .pointer v.a.toNat) :
      TakesSame frame w v (.call source) (.call other)
  | bound {source other} (index : w.a = v.a) (limit : frame.limit source w = frame.limit other v) :
      TakesSame frame w v (.bound source) (.bound other)
  | intBinary {f left right otherLeft otherRight} (target : w.a = v.a)
      (first : frame.intOperand left w.b.toUInt16 = frame.intOperand otherLeft v.b.toUInt16)
      (second : frame.intOperand right w.c.toUInt16 = frame.intOperand otherRight v.c.toUInt16) :
      TakesSame frame w v (.intBinary f left right) (.intBinary f otherLeft otherRight)
  | intCompare {relation left right otherLeft otherRight} (flags : w.a = v.a)
      (first : frame.intOperand left w.b.toUInt16 = frame.intOperand otherLeft v.b.toUInt16)
      (second : frame.intOperand right w.c.toUInt16 = frame.intOperand otherRight v.c.toUInt16) :
      TakesSame frame w v (.intCompare relation left right)
        (.intCompare relation otherLeft otherRight)
  | floatBinary {f left right otherLeft otherRight} (target : w.a = v.a)
      (first : frame.operand left .float w.b.toNat = frame.operand otherLeft .float v.b.toNat)
      (second : frame.operand right .float w.c.toNat = frame.operand otherRight .float v.c.toNat) :
      TakesSame frame w v (.floatBinary f left right) (.floatBinary f otherLeft otherRight)
  | floatCompare {relation left right otherLeft otherRight} (flags : w.a = v.a)
      (first : frame.operand left .float w.b.toNat = frame.operand otherLeft .float v.b.toNat)
      (second : frame.operand right .float w.c.toNat = frame.operand otherRight .float v.c.toNat) :
      TakesSame frame w v (.floatCompare relation left right)
        (.floatCompare relation otherLeft otherRight)
  | vectorScale {divide dimension source other} (target : w.a = v.a) (components : w.b = v.b)
      (scalar : frame.operand source .float w.c.toNat = frame.operand other .float v.c.toNat) :
      TakesSame frame w v (.vectorScale divide dimension source) (.vectorScale divide dimension other)
  | vectorEqual {dimension source other} (flags : w.a = v.a) (left : w.b = v.b)
      (right : frame.vectorOperand source dimension.size w.c.toNat =
        frame.vectorOperand other dimension.size v.c.toNat) :
      TakesSame frame w v (.vectorEqual dimension source) (.vectorEqual dimension other)
  | addressAdd {source other} (target : w.a = v.a) (base : w.b = v.b)
      (offset : frame.operand source .int w.c.toNat = frame.operand other .int v.c.toNat) :
      TakesSame frame w v (.addressAdd source) (.addressAdd other)
  | pointerEqual {source other} (flags : w.a = v.a) (left : w.b = v.b)
      (right : frame.operand source .pointer w.c.toNat = frame.operand other .pointer v.c.toNat) :
      TakesSame frame w v (.pointerEqual source) (.pointerEqual other)
  /-- The number of a constant is in the word, or computed from a register and the word. -/
  | constant {bank base} (target : w.a = v.a)
      (held : frame.registers.register .int v.b.toNat = .ok base)
      (index : base.toInt + v.c.toNat = w.bc.toNat) :
      TakesSame frame w v (.loadConstant bank) (.loadConstantAt bank)
  | constantAt {bank base} (target : w.a = v.a)
      (held : frame.registers.register .int w.b.toNat = .ok base)
      (index : base.toInt + w.c.toNat = v.bc.toNat) :
      TakesSame frame w v (.loadConstantAt bank) (.loadConstant bank)

end Frame

def OperandKind.bank? : OperandKind → Option Bank
  | .register bank | .constant bank => some bank
  | .unsigned | .signed => some .int
  | _ => none

namespace Decoded

/-- What is found for an operand that is a register or constant of a bank, or an integer that stands
for itself. -/
def found? (frame : Frame) (bank : Bank) : Decoded → Option (Except Fault bank.Content)
  | ⟨.register own, .number index⟩ =>
    if own = bank then some (frame.registers.register bank index.toNat) else none
  | ⟨.constant own, .number index⟩ =>
    if own = bank then some (frame.routine.constants.constant bank index.toNat) else none
  | ⟨.unsigned, .number value⟩ | ⟨.signed, .number value⟩ =>
    match bank with
    | .int => some (.ok (Int32.ofInt value))
    | _ => none
  | _ => none

def foundVector? (frame : Frame) (dimension : Dimension) :
    Decoded → Option (Except Fault (Vector Double dimension.size))
  | ⟨.vector own, .number start⟩ =>
    if own = dimension then some (frame.registers.vector dimension.size start.toNat) else none
  | ⟨.constant .float, .number start⟩ =>
    some (frame.routine.constants.constantVector dimension.size start.toNat)
  | _ => none

end Decoded

namespace Frame

/-- Operands that say the same: one operand, or operands of different kinds with one value. -/
inductive Agree (frame : Frame) : Decoded → Decoded → Prop where
  | same (operand : Decoded) : Agree frame operand operand
  | value {one other : Decoded} {bank : Bank} {content : bank.Content} (kinds : one.kind ≠ other.kind)
      (left : one.found? frame bank = some (.ok content))
      (right : other.found? frame bank = some (.ok content)) : Agree frame one other
  | vector {one other : Decoded} {dimension : Dimension}
      {components : Vector Double dimension.size} (kinds : one.kind ≠ other.kind)
      (left : one.foundVector? frame dimension = some (.ok components))
      (right : other.foundVector? frame dimension = some (.ok components)) : Agree frame one other

/-- The operands of two forms of an instruction say the same, one by one; a constant may also be the one
whose number is a register plus a byte. -/
inductive SameOperands (frame : Frame) : List Decoded → List Decoded → Prop where
  | each {ones others} (agree : List.Forall₂ frame.Agree ones others) :
      SameOperands frame ones others
  | constant {bank target base base' offset number} (held : base.found? frame .int = some (.ok base'))
      (index : Int32.toInt base' + offset = number) :
      SameOperands frame [target, ⟨.constant bank, .number number⟩]
        [target, base, ⟨.unsigned, .number offset⟩]
  | constantAt {bank target base base' offset number} (held : base.found? frame .int = some (.ok base'))
      (index : Int32.toInt base' + offset = number) :
      SameOperands frame [target, base, ⟨.unsigned, .number offset⟩]
        [target, ⟨.constant bank, .number number⟩]

end Frame

/-- Whether operations differ at most in where their operands come from. -/
def Operation.alike : Operation → Operation → Bool
  | .loadConstant bank, .loadConstant other | .loadConstant bank, .loadConstantAt other
  | .loadConstantAt bank, .loadConstant other | .loadConstantAt bank, .loadConstantAt other =>
    bank == other
  | .load kind _, .load other _ => kind == other
  | .store kind _, .store other _ => kind == other
  | .castObject _, .castObject _ | .castClass _, .castClass _ | .call _, .call _
  | .addressAdd _, .addressAdd _ | .pointerEqual _, .pointerEqual _ => true
  | .bound limit, .bound other => limit != .signedByte && other != .signedByte
  | .intBinary f _ _, .intBinary g _ _ => f == g
  | .intCompare relation _ _, .intCompare other _ _ => relation == other
  | .floatBinary f _ _, .floatBinary g _ _ => f == g
  | .floatCompare relation _ _, .floatCompare other _ _ => relation == other
  | .vectorScale divide dimension _, .vectorScale other size _ => divide == other && dimension == size
  | .vectorEqual dimension _, .vectorEqual other _ => dimension == other
  | _, _ => false

/-- The forms of each instruction that has several, by opcode and mnemonic. -/
def Instruction.forms : List (List (UInt8 × String)) :=
  [[(0x02, "LK"), (0x06, "LK_R")],
    [(0x03, "LKF"), (0x07, "LKF_R")],
    [(0x04, "LKS"), (0x08, "LKS_R")],
    [(0x05, "LKP"), (0x09, "LKP_R")],
    [(0x18, "LB"), (0x19, "LB_R")],
    [(0x1a, "LH"), (0x1b, "LH_R")],
    [(0x1c, "LW"), (0x1d, "LW_R")],
    [(0x1e, "LBU"), (0x1f, "LBU_R")],
    [(0x20, "LHU"), (0x21, "LHU_R")],
    [(0x22, "LSP"), (0x23, "LSP_R")],
    [(0x24, "LDP"), (0x25, "LDP_R")],
    [(0x26, "LS"), (0x27, "LS_R")],
    [(0x28, "LCS"), (0x29, "LCS_R")],
    [(0x2a, "LO"), (0x2b, "LO_R")],
    [(0x2c, "LP"), (0x2d, "LP_R")],
    [(0x2e, "LV2"), (0x2f, "LV2_R")],
    [(0x30, "LV3"), (0x31, "LV3_R")],
    [(0x38, "SB"), (0x39, "SB_R")],
    [(0x3a, "SH"), (0x3b, "SH_R")],
    [(0x3c, "SW"), (0x3d, "SW_R")],
    [(0x3e, "SSP"), (0x3f, "SSP_R")],
    [(0x40, "SDP"), (0x41, "SDP_R")],
    [(0x42, "SS"), (0x43, "SS_R")],
    [(0x44, "SO"), (0x45, "SO_R")],
    [(0x46, "SP"), (0x47, "SP_R")],
    [(0x48, "SV2"), (0x49, "SV2_R")],
    [(0x4a, "SV3"), (0x4b, "SV3_R")],
    [(0x52, "DYNCAST_R"), (0x53, "DYNCAST_K")],
    [(0x54, "DYNCASTC_R"), (0x55, "DYNCASTC_K")],
    [(0x5e, "CALL"), (0x5f, "CALL_K")],
    [(0x65, "BOUND"), (0x66, "BOUND_K"), (0x67, "BOUND_R")],
    [(0x70, "SLL_RR"), (0x71, "SLL_RI"), (0x72, "SLL_KR")],
    [(0x73, "SRL_RR"), (0x74, "SRL_RI"), (0x75, "SRL_KR")],
    [(0x76, "SRA_RR"), (0x77, "SRA_RI"), (0x78, "SRA_KR")],
    [(0x79, "ADD_RR"), (0x7a, "ADD_RK"), (0x7b, "ADDI")],
    [(0x7c, "SUB_RR"), (0x7d, "SUB_RK"), (0x7e, "SUB_KR")],
    [(0x7f, "MUL_RR"), (0x80, "MUL_RK")],
    [(0x81, "DIV_RR"), (0x82, "DIV_RK"), (0x83, "DIV_KR")],
    [(0x84, "DIVU_RR"), (0x85, "DIVU_RK"), (0x86, "DIVU_KR")],
    [(0x87, "MOD_RR"), (0x88, "MOD_RK"), (0x89, "MOD_KR")],
    [(0x8a, "MODU_RR"), (0x8b, "MODU_RK"), (0x8c, "MODU_KR")],
    [(0x8d, "AND_RR"), (0x8e, "AND_RK")],
    [(0x8f, "OR_RR"), (0x90, "OR_RK")],
    [(0x91, "XOR_RR"), (0x92, "XOR_RK")],
    [(0x93, "MIN_RR"), (0x94, "MIN_RK")],
    [(0x95, "MAX_RR"), (0x96, "MAX_RK")],
    [(0x97, "MINU_RR"), (0x98, "MINU_RK")],
    [(0x99, "MAXU_RR"), (0x9a, "MAXU_RK")],
    [(0x9f, "EQ_R"), (0xa0, "EQ_K")],
    [(0xa1, "LT_RR"), (0xa2, "LT_RK"), (0xa3, "LT_KR")],
    [(0xa4, "LE_RR"), (0xa5, "LE_RK"), (0xa6, "LE_KR")],
    [(0xa7, "LTU_RR"), (0xa8, "LTU_RK"), (0xa9, "LTU_KR")],
    [(0xaa, "LEU_RR"), (0xab, "LEU_RK"), (0xac, "LEU_KR")],
    [(0xb0, "ADDF_RR"), (0xb1, "ADDF_RK")],
    [(0xb2, "SUBF_RR"), (0xb3, "SUBF_RK"), (0xb4, "SUBF_KR")],
    [(0xb5, "MULF_RR"), (0xb6, "MULF_RK")],
    [(0xb7, "DIVF_RR"), (0xb8, "DIVF_RK"), (0xb9, "DIVF_KR")],
    [(0xba, "MODF_RR"), (0xbb, "MODF_RK"), (0xbc, "MODF_KR")],
    [(0xbd, "POWF_RR"), (0xbe, "POWF_RK"), (0xbf, "POWF_KR")],
    [(0xc0, "MINF_RR"), (0xc1, "MINF_RK")],
    [(0xc2, "MAXF_RR"), (0xc3, "MAXF_RK")],
    [(0xc6, "EQF_R"), (0xc7, "EQF_K")],
    [(0xc8, "LTF_RR"), (0xc9, "LTF_RK"), (0xca, "LTF_KR")],
    [(0xcb, "LEF_RR"), (0xcc, "LEF_RK"), (0xcd, "LEF_KR")],
    [(0xd4, "MULVF2_RR"), (0xd5, "MULVF2_RK")],
    [(0xd6, "DIVVF2_RR"), (0xd7, "DIVVF2_RK")],
    [(0xd9, "EQV2_R"), (0xda, "EQV2_K")],
    [(0xe0, "MULVF3_RR"), (0xe1, "MULVF3_RK")],
    [(0xe2, "DIVVF3_RR"), (0xe3, "DIVVF3_RK")],
    [(0xe5, "EQV3_R"), (0xe6, "EQV3_K")],
    [(0xe8, "ADDA_RR"), (0xe9, "ADDA_RK")],
    [(0xeb, "EQA_R"), (0xec, "EQA_K")]]

namespace Instruction

def row? (entry : UInt8 × String) : Option Instruction :=
  (ofOpcode? entry.1).filter (·.mnemonic == entry.2)

def alike (forms : List (UInt8 × String)) : Bool :=
  forms.all (fun entry => (row? entry).isSome) &&
    (forms.filterMap row?).all fun left =>
      (forms.filterMap row?).all fun right => left.operation.alike right.operation

theorem forms_alike : forms.all alike = true := by
  decide +kernel

theorem row?_eq_some {entry : UInt8 × String} {row : Instruction} (found : row? entry = some row) :
    ofOpcode? entry.1 = some row ∧ row.mnemonic = entry.2 := by
  obtain ⟨known, named⟩ := Option.filter_eq_some_iff.1 found
  exact ⟨known, eq_of_beq named⟩

theorem alike_of_forms {listed : List (UInt8 × String)} (member : listed ∈ forms)
    {one other : UInt8 × String} (first : one ∈ listed) (second : other ∈ listed) :
    ∃ left right, row? one = some left ∧ row? other = some right ∧
      left.operation.alike right.operation = true := by
  have alike := List.all_eq_true.1 forms_alike listed member
  simp only [Instruction.alike, Bool.and_eq_true, List.all_eq_true, List.mem_filterMap] at alike
  obtain ⟨left, row⟩ := Option.isSome_iff_exists.1 (alike.1 one first)
  obtain ⟨right, other⟩ := Option.isSome_iff_exists.1 (alike.1 other second)
  exact ⟨left, right, row, other, alike.2 left ⟨_, first, row⟩ right ⟨_, second, other⟩⟩

end Instruction

namespace Decoded

variable {frame : Frame} {one other : Decoded}

/-- An operand is of one bank. -/
theorem bank_of_found {bank : Bank} {content : Except Fault bank.Content}
    (found : one.found? frame bank = some content) : one.kind.bank? = some bank := by
  obtain ⟨kind, operand⟩ := one
  cases operand with
  | number index =>
    cases kind with
    | register own | constant own =>
      by_cases same : own = bank
      · exact congrArg some same
      · simp [found?, same] at found
    | unsigned | signed =>
      cases bank with
      | int => rfl
      | _ => simp [found?] at found
    | _ => simp [found?] at found
  | _ => simp [found?] at found

theorem kind_of_foundVector {dimension : Dimension}
    {components : Except Fault (Vector Double dimension.size)}
    (found : one.foundVector? frame dimension = some components) :
    one.kind = .vector dimension ∨ one.kind = .constant .float := by
  obtain ⟨kind, operand⟩ := one
  cases operand with
  | number start =>
    cases kind with
    | vector own =>
      by_cases same : own = dimension
      · exact .inl (congrArg OperandKind.vector same)
      · simp [foundVector?, same] at found
    | constant bank =>
      cases bank with
      | float => exact .inr rfl
      | _ => simp [foundVector?] at found
    | _ => simp [foundVector?] at found
  | _ => simp [foundVector?] at found

/-- Registers make a vector of one dimension, constants of either. -/
theorem dimension_of_foundVector {dimension own : Dimension}
    {components : Except Fault (Vector Double dimension.size)}
    {others : Except Fault (Vector Double own.size)}
    (found : one.foundVector? frame dimension = some components)
    (again : one.foundVector? frame own = some others) (registers : one.kind ≠ .constant .float) :
    dimension = own := by
  obtain wide | constant := kind_of_foundVector found
  · obtain same | constant := kind_of_foundVector again
    · exact OperandKind.vector.inj (wide.symm.trans same)
    · exact absurd constant registers
  · exact absurd constant registers

/-- What may be read as a value and as a vector is among the constants. -/
theorem kind_of_both {bank : Bank} {dimension : Dimension} {content : Except Fault bank.Content}
    {components : Except Fault (Vector Double dimension.size)}
    (value : one.found? frame bank = some content)
    (vector : one.foundVector? frame dimension = some components) : one.kind = .constant .float := by
  obtain wide | constant := kind_of_foundVector vector
  · have single := bank_of_found value
    rw [wide] at single
    cases single
  · exact constant

end Decoded

namespace Frame

variable {frame : Frame} {one other : Decoded}

theorem Agree.found {bank : Bank} {left right : Except Fault bank.Content}
    (agree : frame.Agree one other) (first : one.found? frame bank = some left)
    (second : other.found? frame bank = some right) : left = right := by
  cases agree with
  | same => exact Option.some.inj (first.symm.trans second)
  | @value _ own content kinds one two =>
    obtain rfl : bank = own :=
      Option.some.inj ((Decoded.bank_of_found first).symm.trans (Decoded.bank_of_found one))
    exact (Option.some.inj (first.symm.trans one)).trans (Option.some.inj (two.symm.trans second))
  | vector kinds one two =>
    exact absurd ((Decoded.kind_of_both first one).trans (Decoded.kind_of_both second two).symm) kinds

theorem Agree.foundVector {dimension : Dimension}
    {left right : Except Fault (Vector Double dimension.size)} (agree : frame.Agree one other)
    (first : one.foundVector? frame dimension = some left)
    (second : other.foundVector? frame dimension = some right) : left = right := by
  cases agree with
  | same => exact Option.some.inj (first.symm.trans second)
  | value kinds one two =>
    exact absurd ((Decoded.kind_of_both one first).trans (Decoded.kind_of_both two second).symm) kinds
  | @vector _ own components kinds one two =>
    obtain rfl : dimension = own := by
      by_cases constant : other.kind = .constant .float
      · refine Decoded.dimension_of_foundVector first one fun also => kinds (also.trans constant.symm)
      · exact Decoded.dimension_of_foundVector second two constant
    exact (Option.some.inj (first.symm.trans one)).trans (Option.some.inj (two.symm.trans second))

variable {w v : Word}

/-- Operands of one kind agree when they are one operand. -/
theorem Agree.operand {kind : OperandKind} {left right : Operand}
    (agree : frame.Agree ⟨kind, left⟩ ⟨kind, right⟩) : left = right := by
  cases agree with
  | same => rfl
  | value kinds | vector kinds => exact absurd rfl kinds

theorem found_source (frame : Frame) (w : Word) (source : Source) (bank : Bank) (field : Field) :
    Decoded.found? frame bank ⟨source.operand bank, w.operand field (source.operand bank)⟩ =
      some (frame.operand source bank (w.numberAt field)) := by
  cases source <;> exact if_pos rfl

theorem found_intSource {source : IntSource} {field : Field} {number : UInt16}
    (unsigned : w.numberAt field = number.toNat)
    (signed : source = .signedByte → w.signedAt field = number.toUInt8.toInt8.toInt) :
    Decoded.found? frame .int ⟨source.operand, w.operand field source.operand⟩ =
      some (frame.intOperand source number) := by
  cases source with
  | register => exact congrArg (fun index => some (frame.registers.register .int index)) unsigned
  | constant =>
    exact congrArg (fun index => some (frame.routine.constants.constant .int index)) unsigned
  | byte | half =>
    refine congrArg (some ∘ Except.ok) ?_
    rw [unsigned, Int32.ofInt_eq_ofNat]
  | signedByte =>
    refine congrArg (some ∘ Except.ok) ?_
    rw [signed rfl, Action.ofInt_int8]

theorem Agree.a_eq {kind : OperandKind} (suits : kind.suits .a = true)
    (agree : frame.Agree ⟨kind, w.operand .a kind⟩ ⟨kind, v.operand .a kind⟩) : w.a = v.a :=
  UInt8.toNat_inj.1 (Word.numberAt_of_operand suits agree.operand .a (List.mem_singleton.2 rfl))

theorem Agree.b_eq {kind : OperandKind} (suits : kind.suits .b = true)
    (agree : frame.Agree ⟨kind, w.operand .b kind⟩ ⟨kind, v.operand .b kind⟩) : w.b = v.b :=
  UInt8.toNat_inj.1 (Word.numberAt_of_operand suits agree.operand .b (List.mem_singleton.2 rfl))

theorem Agree.c_eq {kind : OperandKind} (suits : kind.suits .c = true)
    (agree : frame.Agree ⟨kind, w.operand .c kind⟩ ⟨kind, v.operand .c kind⟩) : w.c = v.c :=
  UInt8.toNat_inj.1 (Word.numberAt_of_operand suits agree.operand .c (List.mem_singleton.2 rfl))

theorem SameOperands.two {x y x' y' : Decoded} (same : frame.SameOperands [x, y] [x', y']) :
    frame.Agree x x' ∧ frame.Agree y y' := by
  cases same with
  | each agree => simpa using agree

theorem SameOperands.three {x y z x' y' z' : Decoded}
    (same : frame.SameOperands [x, y, z] [x', y', z']) :
    frame.Agree x x' ∧ frame.Agree y y' ∧ frame.Agree z z' := by
  cases same with
  | each agree => simpa using agree

theorem Agree.symm (agree : frame.Agree one other) : frame.Agree other one := by
  cases agree with
  | same => exact .same _
  | value kinds left right => exact .value kinds.symm right left
  | vector kinds left right => exact .vector kinds.symm right left

theorem SameOperands.symm {ones others : List Decoded} (same : frame.SameOperands ones others) :
    frame.SameOperands others ones := by
  cases same with
  | each agree => exact .each (agree.flip.imp fun _ _ => Agree.symm)
  | constant held index => exact .constantAt held index
  | constantAt held index => exact .constant held index

theorem SameOperands.indexed {target target' base : Decoded} {bank : Bank} {number offset : Int}
    (same : frame.SameOperands [target, ⟨.constant bank, .number number⟩]
      [target', base, ⟨.unsigned, .number offset⟩]) :
    frame.Agree target target' ∧ ∃ content, base.found? frame .int = some (.ok content) ∧
      Int32.toInt content + offset = number := by
  cases same with
  | each agree => cases agree.length_eq
  | constant held index => exact ⟨.same _, _, held, index⟩

theorem Agree.source {source other : Source} {bank : Bank} {field : Field}
    (agree : frame.Agree ⟨source.operand bank, w.operand field (source.operand bank)⟩
      ⟨other.operand bank, v.operand field (other.operand bank)⟩) :
    frame.operand source bank (w.numberAt field) = frame.operand other bank (v.numberAt field) :=
  agree.found (found_source frame w source bank field) (found_source frame v other bank field)

theorem found_b (frame : Frame) (w : Word) (source : IntSource) :
    Decoded.found? frame .int ⟨source.operand, w.operand .b source.operand⟩ =
      some (frame.intOperand source w.b.toUInt16) :=
  found_intSource (UInt8.toNat_toUInt16 w.b).symm fun _ => by
    rw [UInt8.toUInt8_toUInt16]
    rfl

theorem found_c (frame : Frame) (w : Word) (source : IntSource) :
    Decoded.found? frame .int ⟨source.operand, w.operand .c source.operand⟩ =
      some (frame.intOperand source w.c.toUInt16) :=
  found_intSource (UInt8.toNat_toUInt16 w.c).symm fun _ => by
    rw [UInt8.toUInt8_toUInt16]
    rfl

theorem decode_bound (frame : Frame) (w : Word) {limit : IntSource} (wide : limit ≠ .signedByte) :
    ∃ bounds, w.decode (Operation.bound limit).operands =
        [⟨.register .int, w.operand .a (.register .int)⟩, bounds] ∧
      bounds.found? frame .int = some (frame.limit limit w) := by
  cases limit with
  | register => exact ⟨_, rfl, found_b frame w .register⟩
  | signedByte => exact absurd rfl wide
  | _ => exact ⟨_, rfl, found_intSource rfl nofun⟩

theorem decode_vectorEqual (frame : Frame) (w : Word) (dimension : Dimension) (source : Source) :
    ∃ right, w.decode (Operation.vectorEqual dimension source).operands =
        [⟨.compareFlags, w.operand .a .compareFlags⟩,
          ⟨.vector dimension, w.operand .b (.vector dimension)⟩, right] ∧
      right.foundVector? frame dimension =
        some (frame.vectorOperand source dimension.size w.c.toNat) := by
  cases source with
  | register => exact ⟨_, rfl, if_pos rfl⟩
  | constant => exact ⟨_, rfl, rfl⟩

/-- A constant by its number, and by a register and a byte. -/
theorem takesSame_constant {bank : Bank}
    (same : frame.SameOperands (w.decode (Operation.loadConstant bank).operands)
      (v.decode (Operation.loadConstantAt bank).operands)) :
    w.a = v.a ∧ ∃ base, frame.registers.register .int v.b.toNat = .ok base ∧
      base.toInt + v.c.toNat = w.bc.toNat := by
  obtain ⟨target, base, held, index⟩ := SameOperands.indexed same
  have register := (found_source frame v .register .int .b).symm.trans held
  exact ⟨target.a_eq rfl, base, Option.some.inj register, index⟩

theorem takesSame_of_alike {first second : Operation} (alike : first.alike second = true)
    (same : frame.SameOperands (w.decode first.operands) (v.decode second.operands)) :
    frame.TakesSame w v first second := by
  unfold Operation.alike at alike
  split at alike
  next bank other =>
    obtain rfl := eq_of_beq alike
    obtain ⟨target, index⟩ := SameOperands.two same
    have number := Int.ofNat.inj (Operand.number.inj index.operand)
    exact .loadConstant (target.a_eq rfl) (UInt16.toNat_inj.1 number)
  next =>
    obtain rfl := eq_of_beq alike
    obtain ⟨target, base, held, index⟩ := takesSame_constant same
    exact .constant target held index
  next =>
    obtain rfl := eq_of_beq alike
    obtain ⟨target, base, held, index⟩ := takesSame_constant same.symm
    exact .constantAt target.symm held index
  next bank other =>
    obtain rfl := eq_of_beq alike
    obtain ⟨target, base, offset⟩ := SameOperands.three same
    exact .loadConstantAt (target.a_eq rfl) (base.b_eq rfl) (offset.c_eq rfl)
  next kind _ other _ =>
    obtain rfl := eq_of_beq alike
    obtain ⟨target, base, offset⟩ := SameOperands.three same
    exact .load (target.a_eq (by cases kind <;> rfl)) (base.b_eq rfl) offset.source
  next kind _ other _ =>
    obtain rfl := eq_of_beq alike
    obtain ⟨base, value, offset⟩ := SameOperands.three same
    exact .store (base.a_eq rfl) (value.b_eq (by cases kind <;> rfl)) offset.source
  next =>
    obtain ⟨target, pointer, wanted⟩ := SameOperands.three same
    exact .castObject (target.a_eq rfl) (pointer.b_eq rfl) wanted.source
  next =>
    obtain ⟨target, pointer, wanted⟩ := SameOperands.three same
    exact .castClass (target.a_eq rfl) (pointer.b_eq rfl) wanted.source
  next =>
    obtain ⟨callee, params, results⟩ := SameOperands.three same
    exact .call (params.b_eq rfl) (results.c_eq rfl) callee.source
  next =>
    obtain ⟨target, base, offset⟩ := SameOperands.three same
    exact .addressAdd (target.a_eq rfl) (base.b_eq rfl) offset.source
  next =>
    obtain ⟨flags, left, right⟩ := SameOperands.three same
    exact .pointerEqual (flags.a_eq rfl) (left.b_eq rfl) right.source
  next limit other =>
    simp only [Bool.and_eq_true, bne_iff_ne] at alike
    obtain ⟨one, decoded, found⟩ := decode_bound frame w alike.1
    obtain ⟨another, decoded', found'⟩ := decode_bound frame v alike.2
    rw [decoded, decoded'] at same
    obtain ⟨index, bounds⟩ := same.two
    exact .bound (index.a_eq rfl) (bounds.found found found')
  next f l r g l' r' =>
    obtain rfl := eq_of_beq alike
    obtain ⟨target, left, right⟩ := SameOperands.three same
    exact .intBinary (target.a_eq rfl) (left.found (found_b frame w l) (found_b frame v l'))
      (right.found (found_c frame w r) (found_c frame v r'))
  next f l r g l' r' =>
    obtain rfl := eq_of_beq alike
    obtain ⟨flags, left, right⟩ := SameOperands.three same
    exact .intCompare (flags.a_eq rfl) (left.found (found_b frame w l) (found_b frame v l'))
      (right.found (found_c frame w r) (found_c frame v r'))
  next =>
    obtain rfl := eq_of_beq alike
    obtain ⟨target, left, right⟩ := SameOperands.three same
    exact .floatBinary (target.a_eq rfl) left.source right.source
  next =>
    obtain rfl := eq_of_beq alike
    obtain ⟨flags, left, right⟩ := SameOperands.three same
    exact .floatCompare (flags.a_eq rfl) left.source right.source
  next =>
    simp only [Bool.and_eq_true, beq_iff_eq] at alike
    obtain ⟨rfl, rfl⟩ := alike
    obtain ⟨target, components, scalar⟩ := SameOperands.three same
    exact .vectorScale (target.a_eq rfl) (components.b_eq rfl) scalar.source
  next dimension source _ other =>
    obtain rfl := eq_of_beq alike
    obtain ⟨one, decoded, found⟩ := decode_vectorEqual frame w dimension source
    obtain ⟨another, decoded', found'⟩ := decode_vectorEqual frame v dimension other
    rw [decoded, decoded'] at same
    obtain ⟨flags, left, right⟩ := same.three
    exact .vectorEqual (flags.a_eq rfl) (left.b_eq rfl) (right.foundVector found found')
  next => cases alike

end Frame

namespace Action

variable {state : Local} {w v : Word}

/-- The same end, but for what the message of an abort says. -/
inductive SameEnd : EStateM.Result Abort Local α → EStateM.Result Abort Local α → Prop where
  | ok (value : α) (after : Local) : SameEnd (.ok value after) (.ok value after)
  | error {abort other : Abort} (after : Local) (kind : abort.kind = other.kind) :
      SameEnd (.error abort after) (.error other after)

theorem SameEnd.of_eq {left right : EStateM.Result Abort Local α} (same : left = right) :
    SameEnd left right := by
  subst same
  cases left with
  | ok value after => exact .ok value after
  | error abort after => exact .error after rfl

theorem SameEnd.bind {first second : Action α} (same : SameEnd (first state) (second state))
    (next : α → Action β) : SameEnd ((first >>= next) state) ((second >>= next) state) := by
  rw [bind_apply, bind_apply]
  cases one : first state <;> cases two : second state <;> rw [one, two] at same <;> cases same
  · exact .of_eq rfl
  · exact .error _ ‹_›

theorem fetch_congr {source other : Source} {bank : Bank} {index place : Nat}
    {next rest : bank.Content → Action β}
    (operand : state.frame.operand source bank index = state.frame.operand other bank place)
    (same : ∀ value, next value state = rest value state) :
    (fetch source bank index >>= next) state = (fetch other bank place >>= rest) state :=
  bind_congr (fetch_apply source bank index) (operand ▸ fetch_apply other bank place) same

theorem fetchInt_congr {source other : IntSource} {field slot : UInt16}
    {next rest : Int32 → Action β}
    (operand : state.frame.intOperand source field = state.frame.intOperand other slot)
    (same : ∀ value, next value state = rest value state) :
    (fetchInt source field >>= next) state = (fetchInt other slot >>= rest) state :=
  bind_congr (fetchInt_apply source field state) (operand ▸ fetchInt_apply other slot state) same

theorem branch_sameEnd (mnemonic other : String) (outcome check : Bool) :
    SameEnd (branch mnemonic outcome check state) (branch other outcome check state) := by
  unfold branch
  rw [bind_apply, bind_apply]
  simp only [frame_apply]
  split
  next => exact .of_eq rfl
  next => exact .error _ rfl

/-- Comparisons that compare the same branch alike. -/
theorem comparison_sameEnd {epsilon : Double} {first second : Operation}
    {compared : Except Fault (Bool × Bool)} (mnemonic other : String)
    (one : state.frame.comparison? epsilon w first = some compared)
    (two : state.frame.comparison? epsilon v second = some compared) :
    SameEnd (compute epsilon mnemonic w first state) (compute epsilon other v second state) := by
  rw [compute_comparison mnemonic one, compute_comparison other two]
  cases compared with
  | error fault => exact .of_eq rfl
  | ok found => exact branch_sameEnd mnemonic other found.1 found.2

/-- A constant is the same, however its number is given. -/
theorem constantAt_apply {bank : Bank} {base : Int32}
    (held : state.frame.registers.register .int w.b.toNat = .ok base)
    (index : base.toInt + w.c.toNat = v.bc.toNat) :
    constantAt bank w state =
      (constant bank v.bc.toNat >>= fun value => setRegister bank w.a.toNat value) state := by
  have small : v.bc.toNat < UInt16.size := v.bc.toNat_lt
  unfold constantAt
  rw [bind_apply, register_apply, held]
  simp only [ofExcept_ok, index, Int.natCast_nonneg, Int.toNat_natCast, true_and]
  rw [if_pos (by omega)]

theorem call_congr {library : Library ν} {running limit : Nat} {source other : Source}
    (params : w.b = v.b) (results : w.c = v.c)
    (callee : state.frame.operand source .pointer w.a.toNat =
      state.frame.operand other .pointer v.a.toNat) :
    call library running limit w source state = call library running limit v other state := by
  unfold call Action.callee
  rw [params, results]
  refine bind_eq_of_eq ?_ _
  exact fetch_congr callee fun _ => rfl

theorem compute_sameEnd {first second : Operation} (epsilon : Double) (mnemonic other : String)
    (same : state.frame.TakesSame w v first second) :
    SameEnd (compute epsilon mnemonic w first state) (compute epsilon other v second state) := by
  cases same with
  | loadConstant target index =>
    refine .of_eq ?_
    simp only [compute, target, index]
  | loadConstantAt target base offset =>
    refine .of_eq ?_
    simp only [compute, constantAt, target, base, offset]
  | load target base offset =>
    refine .of_eq ?_
    rename_i kind source another
    refine (compute_load epsilon mnemonic w (.of kind source)).trans ?_
    refine .trans ?_ (compute_load epsilon other v (.of kind another)).symm
    simp only [Load.delta, Load.read, Load.put, offset, target, base]
  | store base value offset =>
    refine .of_eq ?_
    rename_i kind source another
    refine (compute_store epsilon mnemonic w (.of kind source)).trans ?_
    refine .trans ?_ (compute_store epsilon other v (.of kind another)).symm
    simp only [Store.delta, Store.held, Store.change, Store.content, offset, base, value]
    rfl
  | castObject target pointer wanted =>
    refine .of_eq ?_
    simp only [compute, castObject, target, pointer]
    exact fetch_congr wanted fun _ => rfl
  | castClass target pointer wanted =>
    refine .of_eq ?_
    simp only [compute, castClass, target, pointer]
    exact fetch_congr wanted fun _ => rfl
  | call params results callee => exact .of_eq rfl
  | bound index limit =>
    refine .of_eq ?_
    simp only [compute, bound, index]
    refine bind_congr (register_apply ..) (register_apply ..) fun _ => ?_
    exact fetchInt_congr limit fun _ => rfl
  | intBinary target first second =>
    refine .of_eq ?_
    simp only [compute, intBinary, target]
    exact fetchInt_congr first fun _ => fetchInt_congr second fun _ => rfl
  | intCompare flags first second =>
    refine comparison_sameEnd mnemonic other rfl ?_
    simp only [Frame.comparison?, flags, first, second]
  | floatBinary target first second =>
    refine .of_eq ?_
    simp only [compute, floatBinary, target]
    exact fetch_congr first fun _ => fetch_congr second fun _ => rfl
  | floatCompare flags first second =>
    refine comparison_sameEnd mnemonic other rfl ?_
    simp only [Frame.comparison?, flags, first, second]
  | vectorScale target components scalar =>
    refine .of_eq ?_
    simp only [compute, vectorScale, target, components]
    exact fetch_congr scalar fun _ => rfl
  | vectorEqual flags left right =>
    refine comparison_sameEnd mnemonic other rfl ?_
    simp only [Frame.comparison?, flags, left, right]
  | addressAdd target base offset =>
    refine .of_eq ?_
    simp only [compute, addressAdd, target, base]
    refine bind_congr (register_apply ..) (register_apply ..) fun _ => ?_
    exact fetch_congr offset fun _ => rfl
  | pointerEqual flags left right =>
    refine comparison_sameEnd mnemonic other rfl ?_
    simp only [Frame.comparison?, flags, left, right]
  | constant target held index =>
    refine .of_eq ?_
    simp only [compute, target]
    exact (constantAt_apply held index).symm
  | constantAt target held index =>
    refine .of_eq ?_
    simp only [compute, ← target]
    exact constantAt_apply held index

theorem perform_sameEnd (setting : Setting ν) (first second : Instruction)
    (same : state.frame.TakesSame w v first.operation second.operation) :
    SameEnd (perform setting first w state) (perform setting second v state) := by
  obtain ⟨_, mnemonic, operation⟩ := first
  obtain ⟨_, other, form⟩ := second
  have computed := compute_sameEnd setting.config.floatEpsilon mnemonic other same
  dsimp only at same
  cases same with
  | call params results callee => exact (SameEnd.of_eq (call_congr params results callee)).bind _
  | _ => exact computed.bind _

/-- All forms of an instruction are rows of the table. Forms whose operands say the same do the same,
or abort for the same reason and in the same state. -/
theorem forms_agree (setting : Setting ν) (state : Local) {forms : List (UInt8 × String)}
    (listed : forms ∈ Instruction.forms) {one other : UInt8 × String} (first : one ∈ forms)
    (second : other ∈ forms) :
    ∃ left right, Instruction.ofOpcode? one.1 = some left ∧ left.mnemonic = one.2 ∧
      Instruction.ofOpcode? other.1 = some right ∧ right.mnemonic = other.2 ∧
      ∀ w v : Word, state.frame.SameOperands (w.decode left.operands) (v.decode right.operands) →
        SameEnd (perform setting left w state) (perform setting right v state) := by
  obtain ⟨left, right, row, another, alike⟩ := Instruction.alike_of_forms listed first second
  obtain ⟨known, named⟩ := Instruction.row?_eq_some row
  obtain ⟨known', named'⟩ := Instruction.row?_eq_some another
  refine ⟨left, right, known, named, known', named', fun w v same => ?_⟩
  exact perform_sameEnd setting left right (Frame.takesSame_of_alike alike same)

def adding : Local where
  frame := {
    routine := ⟨"Main", "", #[], ⟨#[5], #[], #[], #[]⟩, ⟨2, 0, 0, 0, 0, 0⟩, .empty⟩
    registers := ⟨#[7, 5], #[], #[], #[]⟩
    pc := 0
    current := 0
    staged := []
    extra := none
    pending := none
    results := []
    returned := 0
    host := some [] }
  world := .empty

def additions : List (UInt8 × String) := [(0x79, "ADD_RR"), (0x7a, "ADD_RK"), (0x7b, "ADDI")]

/-- The 5 may be a register, a constant or in the word, and the sum may replace the other operand. -/
theorem forms_agree_adding :
    let setting : Setting Unit := ⟨.standard, .empty, 1⟩
    ∃ registers constants immediate, Instruction.ofOpcode? 0x79 = some registers ∧
      Instruction.ofOpcode? 0x7a = some constants ∧ Instruction.ofOpcode? 0x7b = some immediate ∧
      SameEnd (perform setting registers ⟨0x01000079⟩ adding)
        (perform setting constants ⟨0x0000007a⟩ adding) ∧
      SameEnd (perform setting registers ⟨0x01000079⟩ adding)
        (perform setting immediate ⟨0x0500007b⟩ adding) ∧
      ∃ after, perform setting registers ⟨0x01000079⟩ adding = .ok .proceed after ∧
        after.frame.registers.ints = #[12, 5] := by
  have listed : additions ∈ Instruction.forms := List.mem_of_getElem? (i := 34) rfl
  obtain ⟨registers, constants, row, -, other, -, constant⟩ :=
    forms_agree (⟨.standard, .empty, 1⟩ : Setting Unit) adding listed (.head _) (.tail _ (.head _))
  obtain ⟨again, immediate, same, -, another, -, inWord⟩ :=
    forms_agree (⟨.standard, .empty, 1⟩ : Setting Unit) adding listed (.head _)
      (.tail _ (.tail _ (.head _)))
  obtain rfl : again = registers := Option.some.inj (same.symm.trans row)
  obtain rfl : ⟨0x79, "ADD_RR", .intBinary .add .register .register⟩ = again :=
    Option.some.inj (Eq.trans (by decide +kernel) same)
  obtain rfl : ⟨0x7a, "ADD_RK", .intBinary .add .register .constant⟩ = constants :=
    Option.some.inj (Eq.trans (by decide +kernel) other)
  obtain rfl : ⟨0x7b, "ADDI", .intBinary .add .register .signedByte⟩ = immediate :=
    Option.some.inj (Eq.trans (by decide +kernel) another)
  refine ⟨_, _, _, row, other, another, constant _ _ ?_, inWord _ _ ?_, _, rfl, by decide⟩
  · have five := @Frame.Agree.value adding.frame ⟨.register .int, .number 1⟩
      ⟨.constant .int, .number 0⟩ .int (5 : Int32) nofun rfl rfl
    exact .each (.cons (.same _) (.cons (.same _) (.cons five .nil)))
  · have five := @Frame.Agree.value adding.frame ⟨.register .int, .number 1⟩
      ⟨.signed, .number 5⟩ .int (5 : Int32) nofun rfl rfl
    exact .each (.cons (.same _) (.cons (.same _) (.cons five .nil)))

end Action
end GameScript
