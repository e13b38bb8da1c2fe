import GameScript.Instruction.Operation
import GameScript.Text.Ascii

/-! The instruction set: every opcode with its mnemonic and its operation. -/

namespace GameScript

structure Instruction where
  opcode : UInt8
  mnemonic : String
  operation : Operation
deriving DecidableEq, Repr

namespace Instruction

def moves : List Instruction :=
  [⟨0x00, "NOP", .nop⟩,
    ⟨0x01, "LI", .loadImmediate⟩,
    ⟨0x02, "LK", .loadConstant .int⟩,
    ⟨0x03, "LKF", .loadConstant .float⟩,
    ⟨0x04, "LKS", .loadConstant .string⟩,
    ⟨0x05, "LKP", .loadConstant .pointer⟩,
    ⟨0x06, "LK_R", .loadConstantAt .int⟩,
    ⟨0x07, "LKF_R", .loadConstantAt .float⟩,
    ⟨0x08, "LKS_R", .loadConstantAt .string⟩,
    ⟨0x09, "LKP_R", .loadConstantAt .pointer⟩,
    ⟨0x0a, "LFP", .frameAddress⟩,
    ⟨0x0b, "CLSS", .objectClass⟩,
    ⟨0x0c, "MOV", .move .int⟩,
    ⟨0x0d, "MOVF", .move .float⟩,
    ⟨0x0e, "MOVS", .move .string⟩,
    ⟨0x0f, "MOVA", .move .pointer⟩,
    ⟨0x10, "MOVV2", .moveVector .two⟩,
    ⟨0x11, "MOVV3", .moveVector .three⟩]

def loads : List Instruction :=
  [⟨0x18, "LB", .load .int8 .constant⟩,
    ⟨0x19, "LB_R", .load .int8 .register⟩,
    ⟨0x1a, "LH", .load .int16 .constant⟩,
    ⟨0x1b, "LH_R", .load .int16 .register⟩,
    ⟨0x1c, "LW", .load .int32 .constant⟩,
    ⟨0x1d, "LW_R", .load .int32 .register⟩,
    ⟨0x1e, "LBU", .load .uint8 .constant⟩,
    ⟨0x1f, "LBU_R", .load .uint8 .register⟩,
    ⟨0x20, "LHU", .load .uint16 .constant⟩,
    ⟨0x21, "LHU_R", .load .uint16 .register⟩,
    ⟨0x22, "LSP", .load .single .constant⟩,
    ⟨0x23, "LSP_R", .load .single .register⟩,
    ⟨0x24, "LDP", .load .double .constant⟩,
    ⟨0x25, "LDP_R", .load .double .register⟩,
    ⟨0x26, "LS", .load .string .constant⟩,
    ⟨0x27, "LS_R", .load .string .register⟩,
    ⟨0x28, "LCS", .load .indirectText .constant⟩,
    ⟨0x29, "LCS_R", .load .indirectText .register⟩,
    ⟨0x2a, "LO", .load .pointer .constant⟩,
    ⟨0x2b, "LO_R", .load .pointer .register⟩,
    ⟨0x2c, "LP", .load .pointer .constant⟩,
    ⟨0x2d, "LP_R", .load .pointer .register⟩,
    ⟨0x2e, "LV2", .load (.vector .two) .constant⟩,
    ⟨0x2f, "LV2_R", .load (.vector .two) .register⟩,
    ⟨0x30, "LV3", .load (.vector .three) .constant⟩,
    ⟨0x31, "LV3_R", .load (.vector .three) .register⟩,
    ⟨0x32, "LBIT", .loadBits⟩]

def stores : List Instruction :=
  [⟨0x38, "SB", .store .int8 .constant⟩,
    ⟨0x39, "SB_R", .store .int8 .register⟩,
    ⟨0x3a, "SH", .store .int16 .constant⟩,
    ⟨0x3b, "SH_R", .store .int16 .register⟩,
    ⟨0x3c, "SW", .store .int32 .constant⟩,
    ⟨0x3d, "SW_R", .store .int32 .register⟩,
    ⟨0x3e, "SSP", .store .single .constant⟩,
    ⟨0x3f, "SSP_R", .store .single .register⟩,
    ⟨0x40, "SDP", .store .double .constant⟩,
    ⟨0x41, "SDP_R", .store .double .register⟩,
    ⟨0x42, "SS", .store .string .constant⟩,
    ⟨0x43, "SS_R", .store .string .register⟩,
    ⟨0x44, "SO", .store .object .constant⟩,
    ⟨0x45, "SO_R", .store .object .register⟩,
    ⟨0x46, "SP", .store .pointer .constant⟩,
    ⟨0x47, "SP_R", .store .pointer .register⟩,
    ⟨0x48, "SV2", .store (.vector .two) .constant⟩,
    ⟨0x49, "SV2_R", .store (.vector .two) .register⟩,
    ⟨0x4a, "SV3", .store (.vector .three) .constant⟩,
    ⟨0x4b, "SV3_R", .store (.vector .three) .register⟩,
    ⟨0x4c, "SBIT", .storeBits⟩]

def casts : List Instruction :=
  [⟨0x50, "CAST", .cast⟩,
    ⟨0x51, "CASTB", .castBool⟩,
    ⟨0x52, "DYNCAST_R", .castObject .register⟩,
    ⟨0x53, "DYNCAST_K", .castObject .constant⟩,
    ⟨0x54, "DYNCASTC_R", .castClass .register⟩,
    ⟨0x55, "DYNCASTC_K", .castClass .constant⟩]

def control : List Instruction :=
  [⟨0x58, "TEST", .test⟩,
    ⟨0x59, "TESTN", .testNegated⟩,
    ⟨0x5a, "JMP", .jump⟩,
    ⟨0x5b, "IJMP", .jumpTable⟩,
    ⟨0x5c, "PARAM", .param⟩,
    ⟨0x5d, "PARAMI", .paramImmediate⟩,
    ⟨0x5e, "CALL", .call .register⟩,
    ⟨0x5f, "CALL_K", .call .constant⟩,
    ⟨0x60, "VTBL", .virtual⟩,
    ⟨0x61, "RESULT", .result⟩,
    ⟨0x62, "RET", .ret⟩,
    ⟨0x63, "RETI", .retImmediate⟩,
    ⟨0x64, "THROW", .throw⟩,
    ⟨0x65, "BOUND", .bound .half⟩,
    ⟨0x66, "BOUND_K", .bound .constant⟩,
    ⟨0x67, "BOUND_R", .bound .register⟩]

def strings : List Instruction :=
  [⟨0x68, "CONCAT", .concat⟩,
    ⟨0x69, "LENS", .stringLength⟩,
    ⟨0x6a, "CMPS", .compareStrings⟩]

def integers : List Instruction :=
  [⟨0x70, "SLL_RR", .intBinary .shiftLeft .register .register⟩,
    ⟨0x71, "SLL_RI", .intBinary .shiftLeft .register .byte⟩,
    ⟨0x72, "SLL_KR", .intBinary .shiftLeft .constant .register⟩,
    ⟨0x73, "SRL_RR", .intBinary .shiftRight .register .register⟩,
    ⟨0x74, "SRL_RI", .intBinary .shiftRight .register .byte⟩,
    ⟨0x75, "SRL_KR", .intBinary .shiftRight .constant .register⟩,
    ⟨0x76, "SRA_RR", .intBinary .shiftRightSigned .register .register⟩,
    ⟨0x77, "SRA_RI", .intBinary .shiftRightSigned .register .byte⟩,
    ⟨0x78, "SRA_KR", .intBinary .shiftRightSigned .constant .register⟩,
    ⟨0x79, "ADD_RR", .intBinary .add .register .register⟩,
    ⟨0x7a, "ADD_RK", .intBinary .add .register .constant⟩,
    ⟨0x7b, "ADDI", .intBinary .add .register .signedByte⟩,
    ⟨0x7c, "SUB_RR", .intBinary .sub .register .register⟩,
    ⟨0x7d, "SUB_RK", .intBinary .sub .register .constant⟩,
    ⟨0x7e, "SUB_KR", .intBinary .sub .constant .register⟩,
    ⟨0x7f, "MUL_RR", .intBinary .mul .register .register⟩,
    ⟨0x80, "MUL_RK", .intBinary .mul .register .constant⟩,
    ⟨0x81, "DIV_RR", .intBinary .div .register .register⟩,
    ⟨0x82, "DIV_RK", .intBinary .div .register .constant⟩,
    ⟨0x83, "DIV_KR", .intBinary .div .constant .register⟩,
    ⟨0x84, "DIVU_RR", .intBinary .divUnsigned .register .register⟩,
    ⟨0x85, "DIVU_RK", .intBinary .divUnsigned .register .constant⟩,
    ⟨0x86, "DIVU_KR", .intBinary .divUnsigned .constant .register⟩,
    ⟨0x87, "MOD_RR", .intBinary .mod .register .register⟩,
    ⟨0x88, "MOD_RK", .intBinary .mod .register .constant⟩,
    ⟨0x89, "MOD_KR", .intBinary .mod .constant .register⟩,
    ⟨0x8a, "MODU_RR", .intBinary .modUnsigned .register .register⟩,
    ⟨0x8b, "MODU_RK", .intBinary .modUnsigned .register .constant⟩,
    ⟨0x8c, "MODU_KR", .intBinary .modUnsigned .constant .register⟩,
    ⟨0x8d, "AND_RR", .intBinary .and .register .register⟩,
    ⟨0x8e, "AND_RK", .intBinary .and .register .constant⟩,
    ⟨0x8f, "OR_RR", .intBinary .or .register .register⟩,
    ⟨0x90, "OR_RK", .intBinary .or .register .constant⟩,
    ⟨0x91, "XOR_RR", .intBinary .xor .register .register⟩,
    ⟨0x92, "XOR_RK", .intBinary .xor .register .constant⟩,
    ⟨0x93, "MIN_RR", .intBinary .min .register .register⟩,
    ⟨0x94, "MIN_RK", .intBinary .min .register .constant⟩,
    ⟨0x95, "MAX_RR", .intBinary .max .register .register⟩,
    ⟨0x96, "MAX_RK", .intBinary .max .register .constant⟩,
    ⟨0x97, "MINU_RR", .intBinary .minUnsigned .register .register⟩,
    ⟨0x98, "MINU_RK", .intBinary .minUnsigned .register .constant⟩,
    ⟨0x99, "MAXU_RR", .intBinary .maxUnsigned .register .register⟩,
    ⟨0x9a, "MAXU_RK", .intBinary .maxUnsigned .register .constant⟩,
    ⟨0x9b, "ABS", .intUnary .abs⟩,
    ⟨0x9c, "NEG", .intUnary .neg⟩,
    ⟨0x9d, "NOT", .intUnary .not⟩,
    ⟨0x9e, "SEXT", .signExtend⟩,
    ⟨0x9f, "EQ_R", .intCompare .eq .register .register⟩,
    ⟨0xa0, "EQ_K", .intCompare .eq .register .constant⟩,
    ⟨0xa1, "LT_RR", .intCompare .lt .register .register⟩,
    ⟨0xa2, "LT_RK", .intCompare .lt .register .constant⟩,
    ⟨0xa3, "LT_KR", .intCompare .lt .constant .register⟩,
    ⟨0xa4, "LE_RR", .intCompare .le .register .register⟩,
    ⟨0xa5, "LE_RK", .intCompare .le .register .constant⟩,
    ⟨0xa6, "LE_KR", .intCompare .le .constant .register⟩,
    ⟨0xa7, "LTU_RR", .intCompare .ltUnsigned .register .register⟩,
    ⟨0xa8, "LTU_RK", .intCompare .ltUnsigned .register .constant⟩,
    ⟨0xa9, "LTU_KR", .intCompare .ltUnsigned .constant .register⟩,
    ⟨0xaa, "LEU_RR", .intCompare .leUnsigned .register .register⟩,
    ⟨0xab, "LEU_RK", .intCompare .leUnsigned .register .constant⟩,
    ⟨0xac, "LEU_KR", .intCompare .leUnsigned .constant .register⟩]

def floats : List Instruction :=
  [⟨0xb0, "ADDF_RR", .floatBinary .add .register .register⟩,
    ⟨0xb1, "ADDF_RK", .floatBinary .add .register .constant⟩,
    ⟨0xb2, "SUBF_RR", .floatBinary .sub .register .register⟩,
    ⟨0xb3, "SUBF_RK", .floatBinary .sub .register .constant⟩,
    ⟨0xb4, "SUBF_KR", .floatBinary .sub .constant .register⟩,
    ⟨0xb5, "MULF_RR", .floatBinary .mul .register .register⟩,
    ⟨0xb6, "MULF_RK", .floatBinary .mul .register .constant⟩,
    ⟨0xb7, "DIVF_RR", .floatBinary .div .register .register⟩,
    ⟨0xb8, "DIVF_RK", .floatBinary .div .register .constant⟩,
    ⟨0xb9, "DIVF_KR", .floatBinary .div .constant .register⟩,
    ⟨0xba, "MODF_RR", .floatBinary .mod .register .register⟩,
    ⟨0xbb, "MODF_RK", .floatBinary .mod .register .constant⟩,
    ⟨0xbc, "MODF_KR", .floatBinary .mod .constant .register⟩,
    ⟨0xbd, "POWF_RR", .floatBinary .pow .register .register⟩,
    ⟨0xbe, "POWF_RK", .floatBinary .pow .register .constant⟩,
    ⟨0xbf, "POWF_KR", .floatBinary .pow .constant .register⟩,
    ⟨0xc0, "MINF_RR", .floatBinary .min .register .register⟩,
    ⟨0xc1, "MINF_RK", .floatBinary .min .register .constant⟩,
    ⟨0xc2, "MAXF_RR", .floatBinary .max .register .register⟩,
    ⟨0xc3, "MAXF_RK", .floatBinary .max .register .constant⟩,
    ⟨0xc4, "ATAN2", .floatBinary .atan2 .register .register⟩,
    ⟨0xc5, "FLOP", .floatFunction⟩,
    ⟨0xc6, "EQF_R", .floatCompare .eq .register .register⟩,
    ⟨0xc7, "EQF_K", .floatCompare .eq .register .constant⟩,
    ⟨0xc8, "LTF_RR", .floatCompare .lt .register .register⟩,
    ⟨0xc9, "LTF_RK", .floatCompare .lt .register .constant⟩,
    ⟨0xca, "LTF_KR", .floatCompare .lt .constant .register⟩,
    ⟨0xcb, "LEF_RR", .floatCompare .le .register .register⟩,
    ⟨0xcc, "LEF_RK", .floatCompare .le .register .constant⟩,
    ⟨0xcd, "LEF_KR", .floatCompare .le .constant .register⟩]

def vectors : List Instruction :=
  [⟨0xd0, "NEGV2", .vectorNegate .two⟩,
    ⟨0xd1, "ADDV2_RR", .vectorBinary .add .two⟩,
    ⟨0xd2, "SUBV2_RR", .vectorBinary .sub .two⟩,
    ⟨0xd3, "DOTV2_RR", .vectorDot .two⟩,
    ⟨0xd4, "MULVF2_RR", .vectorScale false .two .register⟩,
    ⟨0xd5, "MULVF2_RK", .vectorScale false .two .constant⟩,
    ⟨0xd6, "DIVVF2_RR", .vectorScale true .two .register⟩,
    ⟨0xd7, "DIVVF2_RK", .vectorScale true .two .constant⟩,
    ⟨0xd8, "LENV2", .vectorLength .two⟩,
    ⟨0xd9, "EQV2_R", .vectorEqual .two .register⟩,
    ⟨0xda, "EQV2_K", .vectorEqual .two .constant⟩,
    ⟨0xdb, "NEGV3", .vectorNegate .three⟩,
    ⟨0xdc, "ADDV3_RR", .vectorBinary .add .three⟩,
    ⟨0xdd, "SUBV3_RR", .vectorBinary .sub .three⟩,
    ⟨0xde, "DOTV3_RR", .vectorDot .three⟩,
    ⟨0xdf, "CROSSV_RR", .vectorCross⟩,
    ⟨0xe0, "MULVF3_RR", .vectorScale false .three .register⟩,
    ⟨0xe1, "MULVF3_RK", .vectorScale false .three .constant⟩,
    ⟨0xe2, "DIVVF3_RR", .vectorScale true .three .register⟩,
    ⟨0xe3, "DIVVF3_RK", .vectorScale true .three .constant⟩,
    ⟨0xe4, "LENV3", .vectorLength .three⟩,
    ⟨0xe5, "EQV3_R", .vectorEqual .three .register⟩,
    ⟨0xe6, "EQV3_K", .vectorEqual .three .constant⟩]

def pointers : List Instruction :=
  [⟨0xe8, "ADDA_RR", .addressAdd .register⟩,
    ⟨0xe9, "ADDA_RK", .addressAdd .constant⟩,
    ⟨0xea, "SUBA", .addressDistance⟩,
    ⟨0xeb, "EQA_R", .pointerEqual .register⟩,
    ⟨0xec, "EQA_K", .pointerEqual .constant⟩]

/-- All instructions, by rising opcode. -/
def table : List Instruction :=
  moves ++ loads ++ stores ++ casts ++ control ++ strings ++ integers ++ floats ++ vectors ++ pointers

def ofOpcode? (opcode : UInt8) : Option Instruction := table.find? (·.opcode == opcode)

/-- The instruction with a mnemonic, in letters of any case. -/
def ofMnemonic? (mnemonic : String) : Option Instruction :=
  table.find? fun entry => Text.sameFold entry.mnemonic mnemonic

def operands (instruction : Instruction) : List (Field × OperandKind) :=
  instruction.operation.operands

def word (instruction : Instruction) : Word := ⟨instruction.opcode.toUInt32⟩

end Instruction

structure InvalidOpcode where
  opcode : UInt8
  offset : Nat
deriving DecidableEq, Repr

/-- The instruction of a word at an offset of the code. -/
def Word.instruction (w : Word) (offset : Nat) : Except InvalidOpcode Instruction :=
  match Instruction.ofOpcode? w.opcode with
  | some instruction => .ok instruction
  | none => .error ⟨w.opcode, offset⟩

end GameScript
