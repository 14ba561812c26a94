/-!
The decode table. Every byte stands for an instruction with an addressing mode and a cost; the
undocumented ones are marked, and twelve bytes stop the processor.
-/

namespace Nes

/-- What an instruction does. -/
inductive Mnemonic where
  | adc | and | asl | bcc | bcs | beq | bit | bmi | bne | bpl | brk | bvc | bvs | clc | cld
  | cli | clv | cmp | cpx | cpy | dec | dex | dey | eor | inc | inx | iny | jmp | jsr | lda
  | ldx | ldy | lsr | nop | ora | pha | php | pla | plp | rol | ror | rti | rts | sbc | sec
  | sed | sei | sta | stx | sty | tax | tay | tsx | txa | txs | tya
  -- undocumented
  | alr | anc | arr | axs | dcp | isb | jam | las | lax | lxa | rla | rra | sax | sha | shx
  | shy | slo | sre | tas | xaa
  deriving DecidableEq

namespace Mnemonic

def name : Mnemonic → String
  | adc => "ADC"
  | and => "AND"
  | asl => "ASL"
  | bcc => "BCC"
  | bcs => "BCS"
  | beq => "BEQ"
  | bit => "BIT"
  | bmi => "BMI"
  | bne => "BNE"
  | bpl => "BPL"
  | brk => "BRK"
  | bvc => "BVC"
  | bvs => "BVS"
  | clc => "CLC"
  | cld => "CLD"
  | cli => "CLI"
  | clv => "CLV"
  | cmp => "CMP"
  | cpx => "CPX"
  | cpy => "CPY"
  | dec => "DEC"
  | dex => "DEX"
  | dey => "DEY"
  | eor => "EOR"
  | inc => "INC"
  | inx => "INX"
  | iny => "INY"
  | jmp => "JMP"
  | jsr => "JSR"
  | lda => "LDA"
  | ldx => "LDX"
  | ldy => "LDY"
  | lsr => "LSR"
  | nop => "NOP"
  | ora => "ORA"
  | pha => "PHA"
  | php => "PHP"
  | pla => "PLA"
  | plp => "PLP"
  | rol => "ROL"
  | ror => "ROR"
  | rti => "RTI"
  | rts => "RTS"
  | sbc => "SBC"
  | sec => "SEC"
  | sed => "SED"
  | sei => "SEI"
  | sta => "STA"
  | stx => "STX"
  | sty => "STY"
  | tax => "TAX"
  | tay => "TAY"
  | tsx => "TSX"
  | txa => "TXA"
  | txs => "TXS"
  | tya => "TYA"
  | alr => "ALR"
  | anc => "ANC"
  | arr => "ARR"
  | axs => "AXS"
  | dcp => "DCP"
  | isb => "ISB"
  | jam => "JAM"
  | las => "LAS"
  | lax => "LAX"
  | lxa => "LXA"
  | rla => "RLA"
  | rra => "RRA"
  | sax => "SAX"
  | sha => "SHA"
  | shx => "SHX"
  | shy => "SHY"
  | slo => "SLO"
  | sre => "SRE"
  | tas => "TAS"
  | xaa => "XAA"

end Mnemonic

/-- How an instruction finds its operand. -/
inductive Mode where
  | implied
  | accumulator
  | immediate
  | zeroPage
  | zeroPageX
  | zeroPageY
  | absolute
  | absoluteX
  | absoluteY
  | indirect
  | indirectX
  | indirectY
  | relative
  deriving DecidableEq

namespace Mode

/-- Bytes of an instruction in this mode, its code included. -/
def size : Mode → Nat
  | implied | accumulator => 1
  | absolute | absoluteX | absoluteY | indirect => 3
  | _ => 2

def name : Mode → String
  | implied => "Implied"
  | accumulator => "Accumulator"
  | immediate => "Immediate"
  | zeroPage => "ZeroPage"
  | zeroPageX => "ZeroPageX"
  | zeroPageY => "ZeroPageY"
  | absolute => "Absolute"
  | absoluteX => "AbsoluteX"
  | absoluteY => "AbsoluteY"
  | indirect => "Indirect"
  | indirectX => "IndirectX"
  | indirectY => "IndirectY"
  | relative => "Relative"

end Mode

/-- An entry of the decode table. -/
structure Opcode where
  mnemonic : Mnemonic
  mode : Mode
  cycles : UInt8
  /-- What a page crossing adds. -/
  pageCycles : UInt8
  /-- The instruction is undocumented. -/
  undocumented : Bool
  deriving DecidableEq

namespace Opcode

/-- A documented instruction of fixed cost. -/
def plain (mnemonic : Mnemonic) (mode : Mode) (cycles : UInt8) : Opcode :=
  ⟨mnemonic, mode, cycles, 0, false⟩

/-- A documented instruction that costs one cycle more across a page. -/
def paged (mnemonic : Mnemonic) (mode : Mode) (cycles : UInt8) : Opcode :=
  ⟨mnemonic, mode, cycles, 1, false⟩

/-- An undocumented instruction of fixed cost. -/
def extra (mnemonic : Mnemonic) (mode : Mode) (cycles : UInt8) : Opcode :=
  ⟨mnemonic, mode, cycles, 0, true⟩

/-- An undocumented instruction that costs one cycle more across a page. -/
def extraPaged (mnemonic : Mnemonic) (mode : Mode) (cycles : UInt8) : Opcode :=
  ⟨mnemonic, mode, cycles, 1, true⟩

def jammed : Opcode := extra .jam .implied 2

/-- The entries of all bytes: a row for each high half, in the order of the low half. -/
def table : Vector (Vector Opcode 16) 16 := #v[
  #v[plain .brk .implied 7, plain .ora .indirectX 6,
    jammed, extra .slo .indirectX 8,
    extra .nop .zeroPage 3, plain .ora .zeroPage 3,
    plain .asl .zeroPage 5, extra .slo .zeroPage 5,
    plain .php .implied 3, plain .ora .immediate 2,
    plain .asl .accumulator 2, extra .anc .immediate 2,
    extra .nop .absolute 4, plain .ora .absolute 4,
    plain .asl .absolute 6, extra .slo .absolute 6],
  #v[plain .bpl .relative 2, paged .ora .indirectY 5,
    jammed, extra .slo .indirectY 8,
    extra .nop .zeroPageX 4, plain .ora .zeroPageX 4,
    plain .asl .zeroPageX 6, extra .slo .zeroPageX 6,
    plain .clc .implied 2, paged .ora .absoluteY 4,
    extra .nop .implied 2, extra .slo .absoluteY 7,
    extraPaged .nop .absoluteX 4, paged .ora .absoluteX 4,
    plain .asl .absoluteX 7, extra .slo .absoluteX 7],
  #v[plain .jsr .absolute 6, plain .and .indirectX 6,
    jammed, extra .rla .indirectX 8,
    plain .bit .zeroPage 3, plain .and .zeroPage 3,
    plain .rol .zeroPage 5, extra .rla .zeroPage 5,
    plain .plp .implied 4, plain .and .immediate 2,
    plain .rol .accumulator 2, extra .anc .immediate 2,
    plain .bit .absolute 4, plain .and .absolute 4,
    plain .rol .absolute 6, extra .rla .absolute 6],
  #v[plain .bmi .relative 2, paged .and .indirectY 5,
    jammed, extra .rla .indirectY 8,
    extra .nop .zeroPageX 4, plain .and .zeroPageX 4,
    plain .rol .zeroPageX 6, extra .rla .zeroPageX 6,
    plain .sec .implied 2, paged .and .absoluteY 4,
    extra .nop .implied 2, extra .rla .absoluteY 7,
    extraPaged .nop .absoluteX 4, paged .and .absoluteX 4,
    plain .rol .absoluteX 7, extra .rla .absoluteX 7],
  #v[plain .rti .implied 6, plain .eor .indirectX 6,
    jammed, extra .sre .indirectX 8,
    extra .nop .zeroPage 3, plain .eor .zeroPage 3,
    plain .lsr .zeroPage 5, extra .sre .zeroPage 5,
    plain .pha .implied 3, plain .eor .immediate 2,
    plain .lsr .accumulator 2, extra .alr .immediate 2,
    plain .jmp .absolute 3, plain .eor .absolute 4,
    plain .lsr .absolute 6, extra .sre .absolute 6],
  #v[plain .bvc .relative 2, paged .eor .indirectY 5,
    jammed, extra .sre .indirectY 8,
    extra .nop .zeroPageX 4, plain .eor .zeroPageX 4,
    plain .lsr .zeroPageX 6, extra .sre .zeroPageX 6,
    plain .cli .implied 2, paged .eor .absoluteY 4,
    extra .nop .implied 2, extra .sre .absoluteY 7,
    extraPaged .nop .absoluteX 4, paged .eor .absoluteX 4,
    plain .lsr .absoluteX 7, extra .sre .absoluteX 7],
  #v[plain .rts .implied 6, plain .adc .indirectX 6,
    jammed, extra .rra .indirectX 8,
    extra .nop .zeroPage 3, plain .adc .zeroPage 3,
    plain .ror .zeroPage 5, extra .rra .zeroPage 5,
    plain .pla .implied 4, plain .adc .immediate 2,
    plain .ror .accumulator 2, extra .arr .immediate 2,
    plain .jmp .indirect 5, plain .adc .absolute 4,
    plain .ror .absolute 6, extra .rra .absolute 6],
  #v[plain .bvs .relative 2, paged .adc .indirectY 5,
    jammed, extra .rra .indirectY 8,
    extra .nop .zeroPageX 4, plain .adc .zeroPageX 4,
    plain .ror .zeroPageX 6, extra .rra .zeroPageX 6,
    plain .sei .implied 2, paged .adc .absoluteY 4,
    extra .nop .implied 2, extra .rra .absoluteY 7,
    extraPaged .nop .absoluteX 4, paged .adc .absoluteX 4,
    plain .ror .absoluteX 7, extra .rra .absoluteX 7],
  #v[extra .nop .immediate 2, plain .sta .indirectX 6,
    extra .nop .immediate 2, extra .sax .indirectX 6,
    plain .sty .zeroPage 3, plain .sta .zeroPage 3,
    plain .stx .zeroPage 3, extra .sax .zeroPage 3,
    plain .dey .implied 2, extra .nop .immediate 2,
    plain .txa .implied 2, extra .xaa .immediate 2,
    plain .sty .absolute 4, plain .sta .absolute 4,
    plain .stx .absolute 4, extra .sax .absolute 4],
  #v[plain .bcc .relative 2, plain .sta .indirectY 6,
    jammed, extra .sha .indirectY 6,
    plain .sty .zeroPageX 4, plain .sta .zeroPageX 4,
    plain .stx .zeroPageY 4, extra .sax .zeroPageY 4,
    plain .tya .implied 2, plain .sta .absoluteY 5,
    plain .txs .implied 2, extra .tas .absoluteY 5,
    extra .shy .absoluteX 5, plain .sta .absoluteX 5,
    extra .shx .absoluteY 5, extra .sha .absoluteY 5],
  #v[plain .ldy .immediate 2, plain .lda .indirectX 6,
    plain .ldx .immediate 2, extra .lax .indirectX 6,
    plain .ldy .zeroPage 3, plain .lda .zeroPage 3,
    plain .ldx .zeroPage 3, extra .lax .zeroPage 3,
    plain .tay .implied 2, plain .lda .immediate 2,
    plain .tax .implied 2, extra .lxa .immediate 2,
    plain .ldy .absolute 4, plain .lda .absolute 4,
    plain .ldx .absolute 4, extra .lax .absolute 4],
  #v[plain .bcs .relative 2, paged .lda .indirectY 5,
    jammed, extraPaged .lax .indirectY 5,
    plain .ldy .zeroPageX 4, plain .lda .zeroPageX 4,
    plain .ldx .zeroPageY 4, extra .lax .zeroPageY 4,
    plain .clv .implied 2, paged .lda .absoluteY 4,
    plain .tsx .implied 2, extraPaged .las .absoluteY 4,
    paged .ldy .absoluteX 4, paged .lda .absoluteX 4,
    paged .ldx .absoluteY 4, extraPaged .lax .absoluteY 4],
  #v[plain .cpy .immediate 2, plain .cmp .indirectX 6,
    extra .nop .immediate 2, extra .dcp .indirectX 8,
    plain .cpy .zeroPage 3, plain .cmp .zeroPage 3,
    plain .dec .zeroPage 5, extra .dcp .zeroPage 5,
    plain .iny .implied 2, plain .cmp .immediate 2,
    plain .dex .implied 2, extra .axs .immediate 2,
    plain .cpy .absolute 4, plain .cmp .absolute 4,
    plain .dec .absolute 6, extra .dcp .absolute 6],
  #v[plain .bne .relative 2, paged .cmp .indirectY 5,
    jammed, extra .dcp .indirectY 8,
    extra .nop .zeroPageX 4, plain .cmp .zeroPageX 4,
    plain .dec .zeroPageX 6, extra .dcp .zeroPageX 6,
    plain .cld .implied 2, paged .cmp .absoluteY 4,
    extra .nop .implied 2, extra .dcp .absoluteY 7,
    extraPaged .nop .absoluteX 4, paged .cmp .absoluteX 4,
    plain .dec .absoluteX 7, extra .dcp .absoluteX 7],
  #v[plain .cpx .immediate 2, plain .sbc .indirectX 6,
    extra .nop .immediate 2, extra .isb .indirectX 8,
    plain .cpx .zeroPage 3, plain .sbc .zeroPage 3,
    plain .inc .zeroPage 5, extra .isb .zeroPage 5,
    plain .inx .implied 2, plain .sbc .immediate 2,
    plain .nop .implied 2, extra .sbc .immediate 2,
    plain .cpx .absolute 4, plain .sbc .absolute 4,
    plain .inc .absolute 6, extra .isb .absolute 6],
  #v[plain .beq .relative 2, paged .sbc .indirectY 5,
    jammed, extra .isb .indirectY 8,
    extra .nop .zeroPageX 4, plain .sbc .zeroPageX 4,
    plain .inc .zeroPageX 6, extra .isb .zeroPageX 6,
    plain .sed .implied 2, paged .sbc .absoluteY 4,
    extra .nop .implied 2, extra .isb .absoluteY 7,
    extraPaged .nop .absoluteX 4, paged .sbc .absoluteX 4,
    plain .inc .absoluteX 7, extra .isb .absoluteX 7]]

def ofByte (byte : UInt8) : Opcode :=
  have : byte.toNat / 16 < 16 := by have := byte.toNat_lt; omega
  have : byte.toNat % 16 < 16 := Nat.mod_lt _ (by decide)
  table[byte.toNat / 16][byte.toNat % 16]

end Opcode

end Nes
