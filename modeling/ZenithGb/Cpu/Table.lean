import ZenithGb.Cpu.Handlers

/-!
# The CPU: the instruction tables

`inst_def.rs`. A handler is named by a constructor of `OpcodeFn`, so that the tables are data.
The comment of an entry is the source's: the instruction, and what it does to Z, N, H and C.
-/

namespace ZenithGb

/-- The instruction handlers. -/
inductive OpcodeFn
  | opcodeNop | opcodeLdR16Imm16 | opcodeLdBcaddrA | opcodeIncR16 | opcodeIncR8 | opcodeDecR8
  | opcodeLdR8Imm8 | opcodeRlca | opcodeImm16addrR16 | opcodeAddHlR16 | opcodeLdABcaddr
  | opcodeDecR16 | opcodeRrca | opcodeStop | opcodeLdDeaddrA | opcodeRla | opcodeJrE8
  | opcodeLdADeaddr | opcodeRra | opcodeJrCc | opcodeLdHliaddrA | opcodeDaa | opcodeLdAHliaddr
  | opcodeCpl | opcodeLdHldaddrA | opcodeIncR16addr | opcodeDecR16addr | opcodeHladdrImm8
  | opcodeScf | opcodeLdAHldaddr | opcodeCcf | opcodeLdBB | opcodeLdR8R8 | opcodeLdR8Hladdr
  | opcodeHladdrR8 | opcodeHalt | opcodeAddR8Imm8Hladdr | opcodeAdc | opcodeSub | opcodeSbc
  | opcodeAnd | opcodeXor | opcodeOr | opcodeCp | opcodeRetCc | opcodePop | opcodeJpCc
  | opcodeJpA16 | opcodeCallCc | opcodePush | opcodeRst | opcodeRet | opcodePrefix
  | opcodeCallA16 | opcodeIllegalD3 | opcodeReti | opcodeIllegalDb | opcodeIllegalDd
  | opcodeLdhR8addrA | opcodeR8addrA | opcodeIllegalE3 | opcodeIllegalE4 | opcodeAddSpE8
  | opcodeJpHl | opcodeImm16addrA | opcodeIllegalEb | opcodeIllegalEc | opcodeIllegalEd
  | opcodeLdhAR8addr | opcodeR8C | opcodeDi | opcodeIllegalF4 | opcodeLdHlSpi | opcodeLdSpHl
  | opcodeLdAImm16addr | opcodeEi | opcodeIllegalFc | opcodeIllegalFd | opcodeRlc | opcodeRrc
  | opcodeRl | opcodeRr | opcodeSla | opcodeSra | opcodeSwap | opcodeSrl | opcodeBit | opcodeRes
  | opcodeSet
  deriving DecidableEq, Repr

structure Instruction where
  dst : OperandKind
  src : OperandKind
  cycles : ℕ
  cyclesSkipped : ℕ
  exec : OpcodeFn
  deriving DecidableEq, Repr

/-- Call a handler with an instruction and an opcode. -/
def OpcodeFn.call : OpcodeFn → Instruction → UInt8 → Exec Unit
  | opcodeNop, _, _ => Exec.opcodeNop
  | opcodeLdR16Imm16, _, opcode => Exec.opcodeLdR16Imm16 opcode
  | opcodeLdBcaddrA, _, opcode => Exec.opcodeLdBcaddrA opcode
  | opcodeIncR16, _, opcode => Exec.opcodeIncR16 opcode
  | opcodeIncR8, _, opcode => Exec.opcodeIncR8 opcode
  | opcodeDecR8, _, opcode => Exec.opcodeDecR8 opcode
  | opcodeLdR8Imm8, _, opcode => Exec.opcodeLdR8Imm8 opcode
  | opcodeRlca, _, opcode => Exec.opcodeRlca opcode
  | opcodeImm16addrR16, _, opcode => Exec.opcodeImm16addrR16 opcode
  | opcodeAddHlR16, _, opcode => Exec.opcodeAddHlR16 opcode
  | opcodeLdABcaddr, _, opcode => Exec.opcodeLdABcaddr opcode
  | opcodeDecR16, _, opcode => Exec.opcodeDecR16 opcode
  | opcodeRrca, _, opcode => Exec.opcodeRrca opcode
  | opcodeStop, _, opcode => Exec.opcodeStop opcode
  | opcodeLdDeaddrA, _, opcode => Exec.opcodeLdDeaddrA opcode
  | opcodeRla, _, opcode => Exec.opcodeRla opcode
  | opcodeJrE8, _, _ => Exec.opcodeJrE8
  | opcodeLdADeaddr, _, opcode => Exec.opcodeLdADeaddr opcode
  | opcodeRra, _, opcode => Exec.opcodeRra opcode
  | opcodeJrCc, _, opcode => Exec.opcodeJrCc opcode
  | opcodeLdHliaddrA, _, opcode => Exec.opcodeLdHliaddrA opcode
  | opcodeDaa, _, _ => Exec.opcodeDaa
  | opcodeLdAHliaddr, _, opcode => Exec.opcodeLdAHliaddr opcode
  | opcodeCpl, _, _ => Exec.opcodeCpl
  | opcodeLdHldaddrA, _, opcode => Exec.opcodeLdHldaddrA opcode
  | opcodeIncR16addr, _, opcode => Exec.opcodeIncR16addr opcode
  | opcodeDecR16addr, _, opcode => Exec.opcodeDecR16addr opcode
  | opcodeHladdrImm8, _, opcode => Exec.opcodeHladdrImm8 opcode
  | opcodeScf, _, _ => Exec.opcodeScf
  | opcodeLdAHldaddr, _, opcode => Exec.opcodeLdAHldaddr opcode
  | opcodeCcf, _, _ => Exec.opcodeCcf
  | opcodeLdBB, _, _ => Exec.opcodeLdBB
  | opcodeLdR8R8, _, opcode => Exec.opcodeLdR8R8 opcode
  | opcodeLdR8Hladdr, _, opcode => Exec.opcodeLdR8Hladdr opcode
  | opcodeHladdrR8, _, opcode => Exec.opcodeHladdrR8 opcode
  | opcodeHalt, _, _ => Exec.opcodeHalt
  | opcodeAddR8Imm8Hladdr, instr, opcode => Exec.opcodeAddR8Imm8Hladdr instr.src opcode
  | opcodeAdc, instr, opcode => Exec.opcodeAdc instr.src opcode
  | opcodeSub, instr, opcode => Exec.opcodeSub instr.src opcode
  | opcodeSbc, instr, opcode => Exec.opcodeSbc instr.src opcode
  | opcodeAnd, instr, opcode => Exec.opcodeAnd instr.src opcode
  | opcodeXor, instr, opcode => Exec.opcodeXor instr.src opcode
  | opcodeOr, instr, opcode => Exec.opcodeOr instr.src opcode
  | opcodeCp, instr, opcode => Exec.opcodeCp instr.src opcode
  | opcodeRetCc, _, opcode => Exec.opcodeRetCc opcode
  | opcodePop, _, opcode => Exec.opcodePop opcode
  | opcodeJpCc, _, opcode => Exec.opcodeJpCc opcode
  | opcodeJpA16, _, _ => Exec.opcodeJpA16
  | opcodeCallCc, _, opcode => Exec.opcodeCallCc opcode
  | opcodePush, _, opcode => Exec.opcodePush opcode
  | opcodeRst, _, opcode => Exec.opcodeRst opcode
  | opcodeRet, _, _ => Exec.opcodeRet
  | opcodePrefix, _, _ => Exec.opcodePrefix
  | opcodeCallA16, _, _ => Exec.opcodeCallA16
  | opcodeIllegalD3, _, _ => Exec.opcodeIllegalD3
  | opcodeReti, _, _ => Exec.opcodeReti
  | opcodeIllegalDb, _, _ => Exec.opcodeIllegalDb
  | opcodeIllegalDd, _, _ => Exec.opcodeIllegalDd
  | opcodeLdhR8addrA, _, opcode => Exec.opcodeLdhR8addrA opcode
  | opcodeR8addrA, _, opcode => Exec.opcodeR8addrA opcode
  | opcodeIllegalE3, _, _ => Exec.opcodeIllegalE3
  | opcodeIllegalE4, _, _ => Exec.opcodeIllegalE4
  | opcodeAddSpE8, _, opcode => Exec.opcodeAddSpE8 opcode
  | opcodeJpHl, _, _ => Exec.opcodeJpHl
  | opcodeImm16addrA, _, opcode => Exec.opcodeImm16addrA opcode
  | opcodeIllegalEb, _, _ => Exec.opcodeIllegalEb
  | opcodeIllegalEc, _, _ => Exec.opcodeIllegalEc
  | opcodeIllegalEd, _, _ => Exec.opcodeIllegalEd
  | opcodeLdhAR8addr, _, opcode => Exec.opcodeLdhAR8addr opcode
  | opcodeR8C, _, opcode => Exec.opcodeR8C opcode
  | opcodeDi, _, _ => Exec.opcodeDi
  | opcodeIllegalF4, _, _ => Exec.opcodeIllegalF4
  | opcodeLdHlSpi, _, opcode => Exec.opcodeLdHlSpi opcode
  | opcodeLdSpHl, _, opcode => Exec.opcodeLdSpHl opcode
  | opcodeLdAImm16addr, _, opcode => Exec.opcodeLdAImm16addr opcode
  | opcodeEi, _, _ => Exec.opcodeEi
  | opcodeIllegalFc, _, _ => Exec.opcodeIllegalFc
  | opcodeIllegalFd, _, _ => Exec.opcodeIllegalFd
  | opcodeRlc, _, opcode => Exec.opcodeRlc opcode
  | opcodeRrc, _, opcode => Exec.opcodeRrc opcode
  | opcodeRl, _, opcode => Exec.opcodeRl opcode
  | opcodeRr, _, opcode => Exec.opcodeRr opcode
  | opcodeSla, _, opcode => Exec.opcodeSla opcode
  | opcodeSra, _, opcode => Exec.opcodeSra opcode
  | opcodeSwap, _, opcode => Exec.opcodeSwap opcode
  | opcodeSrl, _, opcode => Exec.opcodeSrl opcode
  | opcodeBit, _, opcode => Exec.opcodeBit opcode
  | opcodeRes, _, opcode => Exec.opcodeRes opcode
  | opcodeSet, _, opcode => Exec.opcodeSet opcode

/-- `INSTR_INDEX` -/
def instrIndex : List Instruction := [
  ⟨.none, .none, 1, 0, .opcodeNop⟩,                              -- 0x00 NOP | - - - -
  ⟨.r16, .imm16, 3, 0, .opcodeLdR16Imm16⟩,                       -- 0x01 LD BC n16 | - - - -
  ⟨.r16Addr, .r8, 2, 0, .opcodeLdBcaddrA⟩,                       -- 0x02 LD [BC] A | - - - -
  ⟨.r16, .none, 2, 0, .opcodeIncR16⟩,                            -- 0x03 INC BC | - - - -
  ⟨.r8, .none, 1, 0, .opcodeIncR8⟩,                              -- 0x04 INC B | Z 0 H -
  ⟨.r8, .none, 1, 0, .opcodeDecR8⟩,                              -- 0x05 DEC B | Z 1 H -
  ⟨.r8, .imm8, 2, 0, .opcodeLdR8Imm8⟩,                           -- 0x06 LD B n8 | - - - -
  ⟨.none, .none, 1, 0, .opcodeRlca⟩,                             -- 0x07 RLCA | 0 0 0 C
  ⟨.imm16Addr, .r16, 5, 0, .opcodeImm16addrR16⟩,                 -- 0x08 LD [a16] SP | - - - -
  ⟨.r16, .r16, 2, 0, .opcodeAddHlR16⟩,                           -- 0x09 ADD HL BC | - 0 H C
  ⟨.r8, .r16Addr, 2, 0, .opcodeLdABcaddr⟩,                       -- 0x0A LD A [BC] | - - - -
  ⟨.r16, .none, 2, 0, .opcodeDecR16⟩,                            -- 0x0B DEC BC | - - - -
  ⟨.r8, .none, 1, 0, .opcodeIncR8⟩,                              -- 0x0C INC C | Z 0 H -
  ⟨.r8, .none, 1, 0, .opcodeDecR8⟩,                              -- 0x0D DEC C | Z 1 H -
  ⟨.r8, .imm8, 2, 0, .opcodeLdR8Imm8⟩,                           -- 0x0E LD C n8 | - - - -
  ⟨.none, .none, 1, 0, .opcodeRrca⟩,                             -- 0x0F RRCA | 0 0 0 C
  ⟨.imm8, .none, 1, 0, .opcodeStop⟩,                             -- 0x10 STOP n8 | - - - -
  ⟨.r16, .imm16, 3, 0, .opcodeLdR16Imm16⟩,                       -- 0x11 LD DE n16 | - - - -
  ⟨.r16Addr, .r8, 2, 0, .opcodeLdDeaddrA⟩,                       -- 0x12 LD [DE] A | - - - -
  ⟨.r16, .none, 2, 0, .opcodeIncR16⟩,                            -- 0x13 INC DE | - - - -
  ⟨.r8, .none, 1, 0, .opcodeIncR8⟩,                              -- 0x14 INC D | Z 0 H -
  ⟨.r8, .none, 1, 0, .opcodeDecR8⟩,                              -- 0x15 DEC D | Z 1 H -
  ⟨.r8, .imm8, 2, 0, .opcodeLdR8Imm8⟩,                           -- 0x16 LD D n8 | - - - -
  ⟨.none, .none, 1, 0, .opcodeRla⟩,                              -- 0x17 RLA | 0 0 0 C
  ⟨.imm8, .none, 3, 0, .opcodeJrE8⟩,                             -- 0x18 JR e8 | - - - -
  ⟨.r16, .r16, 2, 0, .opcodeAddHlR16⟩,                           -- 0x19 ADD HL DE | - 0 H C
  ⟨.r8, .r16Addr, 2, 0, .opcodeLdADeaddr⟩,                       -- 0x1A LD A [DE] | - - - -
  ⟨.r16, .none, 2, 0, .opcodeDecR16⟩,                            -- 0x1B DEC DE | - - - -
  ⟨.r8, .none, 1, 0, .opcodeIncR8⟩,                              -- 0x1C INC E | Z 0 H -
  ⟨.r8, .none, 1, 0, .opcodeDecR8⟩,                              -- 0x1D DEC E | Z 1 H -
  ⟨.r8, .imm8, 2, 0, .opcodeLdR8Imm8⟩,                           -- 0x1E LD E n8 | - - - -
  ⟨.none, .none, 1, 0, .opcodeRra⟩,                              -- 0x1F RRA | 0 0 0 C
  ⟨.flagNZ, .imm8, 3, 2, .opcodeJrCc⟩,                           -- 0x20 JR NZ e8 | - - - -
  ⟨.r16, .imm16, 3, 0, .opcodeLdR16Imm16⟩,                       -- 0x21 LD HL n16 | - - - -
  ⟨.r16Addr, .r8, 2, 0, .opcodeLdHliaddrA⟩,                      -- 0x22 LD [HL+] A | - - - -
  ⟨.r16, .none, 2, 0, .opcodeIncR16⟩,                            -- 0x23 INC HL | - - - -
  ⟨.r8, .none, 1, 0, .opcodeIncR8⟩,                              -- 0x24 INC H | Z 0 H -
  ⟨.r8, .none, 1, 0, .opcodeDecR8⟩,                              -- 0x25 DEC H | Z 1 H -
  ⟨.r8, .imm8, 2, 0, .opcodeLdR8Imm8⟩,                           -- 0x26 LD H n8 | - - - -
  ⟨.none, .none, 1, 0, .opcodeDaa⟩,                              -- 0x27 DAA | Z - 0 C
  ⟨.flagZ, .imm8, 3, 2, .opcodeJrCc⟩,                            -- 0x28 JR Z e8 | - - - -
  ⟨.r16, .r16, 2, 0, .opcodeAddHlR16⟩,                           -- 0x29 ADD HL HL | - 0 H C
  ⟨.r8, .r16Addr, 2, 0, .opcodeLdAHliaddr⟩,                      -- 0x2A LD A [HL+] | - - - -
  ⟨.r16, .none, 2, 0, .opcodeDecR16⟩,                            -- 0x2B DEC HL | - - - -
  ⟨.r8, .none, 1, 0, .opcodeIncR8⟩,                              -- 0x2C INC L | Z 0 H -
  ⟨.r8, .none, 1, 0, .opcodeDecR8⟩,                              -- 0x2D DEC L | Z 1 H -
  ⟨.r8, .imm8, 2, 0, .opcodeLdR8Imm8⟩,                           -- 0x2E LD L n8 | - - - -
  ⟨.none, .none, 1, 0, .opcodeCpl⟩,                              -- 0x2F CPL | - 1 1 -
  ⟨.flagNC, .imm8, 3, 2, .opcodeJrCc⟩,                           -- 0x30 JR NC e8 | - - - -
  ⟨.r16, .imm16, 3, 0, .opcodeLdR16Imm16⟩,                       -- 0x31 LD SP n16 | - - - -
  ⟨.r16Addr, .r8, 2, 0, .opcodeLdHldaddrA⟩,                      -- 0x32 LD [HL-] A | - - - -
  ⟨.r16, .none, 2, 0, .opcodeIncR16⟩,                            -- 0x33 INC SP | - - - -
  ⟨.r16Addr, .none, 3, 0, .opcodeIncR16addr⟩,                    -- 0x34 INC [HL] | Z 0 H -
  ⟨.r16Addr, .none, 3, 0, .opcodeDecR16addr⟩,                    -- 0x35 DEC [HL] | Z 1 H -
  ⟨.r16Addr, .imm8, 3, 0, .opcodeHladdrImm8⟩,                    -- 0x36 LD [HL] n8 | - - - -
  ⟨.none, .none, 1, 0, .opcodeScf⟩,                              -- 0x37 SCF | - 0 0 1
  ⟨.flagC, .imm8, 3, 2, .opcodeJrCc⟩,                            -- 0x38 JR C e8 | - - - -
  ⟨.r16, .r16, 2, 0, .opcodeAddHlR16⟩,                           -- 0x39 ADD HL SP | - 0 H C
  ⟨.r8, .r16Addr, 2, 0, .opcodeLdAHldaddr⟩,                      -- 0x3A LD A [HL-] | - - - -
  ⟨.r16, .none, 2, 0, .opcodeDecR16⟩,                            -- 0x3B DEC SP | - - - -
  ⟨.r8, .none, 1, 0, .opcodeIncR8⟩,                              -- 0x3C INC A | Z 0 H -
  ⟨.r8, .none, 1, 0, .opcodeDecR8⟩,                              -- 0x3D DEC A | Z 1 H -
  ⟨.r8, .imm8, 2, 0, .opcodeLdR8Imm8⟩,                           -- 0x3E LD A n8 | - - - -
  ⟨.none, .none, 1, 0, .opcodeCcf⟩,                              -- 0x3F CCF | - 0 0 C
  ⟨.r8, .r8, 1, 0, .opcodeLdBB⟩,                                 -- 0x40 LD B B | - - - -
  ⟨.r8, .r8, 1, 0, .opcodeLdR8R8⟩,                               -- 0x41 LD B C | - - - -
  ⟨.r8, .r8, 1, 0, .opcodeLdR8R8⟩,                               -- 0x42 LD B D | - - - -
  ⟨.r8, .r8, 1, 0, .opcodeLdR8R8⟩,                               -- 0x43 LD B E | - - - -
  ⟨.r8, .r8, 1, 0, .opcodeLdR8R8⟩,                               -- 0x44 LD B H | - - - -
  ⟨.r8, .r8, 1, 0, .opcodeLdR8R8⟩,                               -- 0x45 LD B L | - - - -
  ⟨.r8, .r16Addr, 2, 0, .opcodeLdR8Hladdr⟩,                      -- 0x46 LD B [HL] | - - - -
  ⟨.r8, .r8, 1, 0, .opcodeLdR8R8⟩,                               -- 0x47 LD B A | - - - -
  ⟨.r8, .r8, 1, 0, .opcodeLdR8R8⟩,                               -- 0x48 LD C B | - - - -
  ⟨.r8, .r8, 1, 0, .opcodeLdR8R8⟩,                               -- 0x49 LD C C | - - - -
  ⟨.r8, .r8, 1, 0, .opcodeLdR8R8⟩,                               -- 0x4A LD C D | - - - -
  ⟨.r8, .r8, 1, 0, .opcodeLdR8R8⟩,                               -- 0x4B LD C E | - - - -
  ⟨.r8, .r8, 1, 0, .opcodeLdR8R8⟩,                               -- 0x4C LD C H | - - - -
  ⟨.r8, .r8, 1, 0, .opcodeLdR8R8⟩,                               -- 0x4D LD C L | - - - -
  ⟨.r8, .r16Addr, 2, 0, .opcodeLdR8Hladdr⟩,                      -- 0x4E LD C [HL] | - - - -
  ⟨.r8, .r8, 1, 0, .opcodeLdR8R8⟩,                               -- 0x4F LD C A | - - - -
  ⟨.r8, .r8, 1, 0, .opcodeLdR8R8⟩,                               -- 0x50 LD D B | - - - -
  ⟨.r8, .r8, 1, 0, .opcodeLdR8R8⟩,                               -- 0x51 LD D C | - - - -
  ⟨.r8, .r8, 1, 0, .opcodeLdR8R8⟩,                               -- 0x52 LD D D | - - - -
  ⟨.r8, .r8, 1, 0, .opcodeLdR8R8⟩,                               -- 0x53 LD D E | - - - -
  ⟨.r8, .r8, 1, 0, .opcodeLdR8R8⟩,                               -- 0x54 LD D H | - - - -
  ⟨.r8, .r8, 1, 0, .opcodeLdR8R8⟩,                               -- 0x55 LD D L | - - - -
  ⟨.r8, .r16Addr, 2, 0, .opcodeLdR8Hladdr⟩,                      -- 0x56 LD D [HL] | - - - -
  ⟨.r8, .r8, 1, 0, .opcodeLdR8R8⟩,                               -- 0x57 LD D A | - - - -
  ⟨.r8, .r8, 1, 0, .opcodeLdR8R8⟩,                               -- 0x58 LD E B | - - - -
  ⟨.r8, .r8, 1, 0, .opcodeLdR8R8⟩,                               -- 0x59 LD E C | - - - -
  ⟨.r8, .r8, 1, 0, .opcodeLdR8R8⟩,                               -- 0x5A LD E D | - - - -
  ⟨.r8, .r8, 1, 0, .opcodeLdR8R8⟩,                               -- 0x5B LD E E | - - - -
  ⟨.r8, .r8, 1, 0, .opcodeLdR8R8⟩,                               -- 0x5C LD E H | - - - -
  ⟨.r8, .r8, 1, 0, .opcodeLdR8R8⟩,                               -- 0x5D LD E L | - - - -
  ⟨.r8, .r16Addr, 2, 0, .opcodeLdR8Hladdr⟩,                      -- 0x5E LD E [HL] | - - - -
  ⟨.r8, .r8, 1, 0, .opcodeLdR8R8⟩,                               -- 0x5F LD E A | - - - -
  ⟨.r8, .r8, 1, 0, .opcodeLdR8R8⟩,                               -- 0x60 LD H B | - - - -
  ⟨.r8, .r8, 1, 0, .opcodeLdR8R8⟩,                               -- 0x61 LD H C | - - - -
  ⟨.r8, .r8, 1, 0, .opcodeLdR8R8⟩,                               -- 0x62 LD H D | - - - -
  ⟨.r8, .r8, 1, 0, .opcodeLdR8R8⟩,                               -- 0x63 LD H E | - - - -
  ⟨.r8, .r8, 1, 0, .opcodeLdR8R8⟩,                               -- 0x64 LD H H | - - - -
  ⟨.r8, .r8, 1, 0, .opcodeLdR8R8⟩,                               -- 0x65 LD H L | - - - -
  ⟨.r8, .r16Addr, 2, 0, .opcodeLdR8Hladdr⟩,                      -- 0x66 LD H [HL] | - - - -
  ⟨.r8, .r8, 1, 0, .opcodeLdR8R8⟩,                               -- 0x67 LD H A | - - - -
  ⟨.r8, .r8, 1, 0, .opcodeLdR8R8⟩,                               -- 0x68 LD L B | - - - -
  ⟨.r8, .r8, 1, 0, .opcodeLdR8R8⟩,                               -- 0x69 LD L C | - - - -
  ⟨.r8, .r8, 1, 0, .opcodeLdR8R8⟩,                               -- 0x6A LD L D | - - - -
  ⟨.r8, .r8, 1, 0, .opcodeLdR8R8⟩,                               -- 0x6B LD L E | - - - -
  ⟨.r8, .r8, 1, 0, .opcodeLdR8R8⟩,                               -- 0x6C LD L H | - - - -
  ⟨.r8, .r8, 1, 0, .opcodeLdR8R8⟩,                               -- 0x6D LD L L | - - - -
  ⟨.r8, .r16Addr, 2, 0, .opcodeLdR8Hladdr⟩,                      -- 0x6E LD L [HL] | - - - -
  ⟨.r8, .r8, 1, 0, .opcodeLdR8R8⟩,                               -- 0x6F LD L A | - - - -
  ⟨.r16Addr, .r8, 2, 0, .opcodeHladdrR8⟩,                        -- 0x70 LD [HL] B | - - - -
  ⟨.r16Addr, .r8, 2, 0, .opcodeHladdrR8⟩,                        -- 0x71 LD [HL] C | - - - -
  ⟨.r16Addr, .r8, 2, 0, .opcodeHladdrR8⟩,                        -- 0x72 LD [HL] D | - - - -
  ⟨.r16Addr, .r8, 2, 0, .opcodeHladdrR8⟩,                        -- 0x73 LD [HL] E | - - - -
  ⟨.r16Addr, .r8, 2, 0, .opcodeHladdrR8⟩,                        -- 0x74 LD [HL] H | - - - -
  ⟨.r16Addr, .r8, 2, 0, .opcodeHladdrR8⟩,                        -- 0x75 LD [HL] L | - - - -
  ⟨.none, .none, 1, 0, .opcodeHalt⟩,                             -- 0x76 HALT | - - - -
  ⟨.r16Addr, .r8, 2, 0, .opcodeHladdrR8⟩,                        -- 0x77 LD [HL] A | - - - -
  ⟨.r8, .r8, 1, 0, .opcodeLdR8R8⟩,                               -- 0x78 LD A B | - - - -
  ⟨.r8, .r8, 1, 0, .opcodeLdR8R8⟩,                               -- 0x79 LD A C | - - - -
  ⟨.r8, .r8, 1, 0, .opcodeLdR8R8⟩,                               -- 0x7A LD A D | - - - -
  ⟨.r8, .r8, 1, 0, .opcodeLdR8R8⟩,                               -- 0x7B LD A E | - - - -
  ⟨.r8, .r8, 1, 0, .opcodeLdR8R8⟩,                               -- 0x7C LD A H | - - - -
  ⟨.r8, .r8, 1, 0, .opcodeLdR8R8⟩,                               -- 0x7D LD A L | - - - -
  ⟨.r8, .r16Addr, 2, 0, .opcodeLdR8Hladdr⟩,                      -- 0x7E LD A [HL] | - - - -
  ⟨.r8, .r8, 1, 0, .opcodeLdR8R8⟩,                               -- 0x7F LD A A | - - - -
  ⟨.r8, .r8, 1, 0, .opcodeAddR8Imm8Hladdr⟩,                      -- 0x80 ADD A B | Z 0 H C
  ⟨.r8, .r8, 1, 0, .opcodeAddR8Imm8Hladdr⟩,                      -- 0x81 ADD A C | Z 0 H C
  ⟨.r8, .r8, 1, 0, .opcodeAddR8Imm8Hladdr⟩,                      -- 0x82 ADD A D | Z 0 H C
  ⟨.r8, .r8, 1, 0, .opcodeAddR8Imm8Hladdr⟩,                      -- 0x83 ADD A E | Z 0 H C
  ⟨.r8, .r8, 1, 0, .opcodeAddR8Imm8Hladdr⟩,                      -- 0x84 ADD A H | Z 0 H C
  ⟨.r8, .r8, 1, 0, .opcodeAddR8Imm8Hladdr⟩,                      -- 0x85 ADD A L | Z 0 H C
  ⟨.r8, .r16Addr, 2, 0, .opcodeAddR8Imm8Hladdr⟩,                 -- 0x86 ADD A [HL] | Z 0 H C
  ⟨.r8, .r8, 1, 0, .opcodeAddR8Imm8Hladdr⟩,                      -- 0x87 ADD A A | Z 0 H C
  ⟨.r8, .r8, 1, 0, .opcodeAdc⟩,                                  -- 0x88 ADC A B | Z 0 H C
  ⟨.r8, .r8, 1, 0, .opcodeAdc⟩,                                  -- 0x89 ADC A C | Z 0 H C
  ⟨.r8, .r8, 1, 0, .opcodeAdc⟩,                                  -- 0x8A ADC A D | Z 0 H C
  ⟨.r8, .r8, 1, 0, .opcodeAdc⟩,                                  -- 0x8B ADC A E | Z 0 H C
  ⟨.r8, .r8, 1, 0, .opcodeAdc⟩,                                  -- 0x8C ADC A H | Z 0 H C
  ⟨.r8, .r8, 1, 0, .opcodeAdc⟩,                                  -- 0x8D ADC A L | Z 0 H C
  ⟨.r8, .r16Addr, 2, 0, .opcodeAdc⟩,                             -- 0x8E ADC A [HL] | Z 0 H C
  ⟨.r8, .r8, 1, 0, .opcodeAdc⟩,                                  -- 0x8F ADC A A | Z 0 H C
  ⟨.r8, .r8, 1, 0, .opcodeSub⟩,                                  -- 0x90 SUB A B | Z 1 H C
  ⟨.r8, .r8, 1, 0, .opcodeSub⟩,                                  -- 0x91 SUB A C | Z 1 H C
  ⟨.r8, .r8, 1, 0, .opcodeSub⟩,                                  -- 0x92 SUB A D | Z 1 H C
  ⟨.r8, .r8, 1, 0, .opcodeSub⟩,                                  -- 0x93 SUB A E | Z 1 H C
  ⟨.r8, .r8, 1, 0, .opcodeSub⟩,                                  -- 0x94 SUB A H | Z 1 H C
  ⟨.r8, .r8, 1, 0, .opcodeSub⟩,                                  -- 0x95 SUB A L | Z 1 H C
  ⟨.r8, .r16Addr, 2, 0, .opcodeSub⟩,                             -- 0x96 SUB A [HL] | Z 1 H C
  ⟨.r8, .r8, 1, 0, .opcodeSub⟩,                                  -- 0x97 SUB A A | 1 1 0 0
  ⟨.r8, .r8, 1, 0, .opcodeSbc⟩,                                  -- 0x98 SBC A B | Z 1 H C
  ⟨.r8, .r8, 1, 0, .opcodeSbc⟩,                                  -- 0x99 SBC A C | Z 1 H C
  ⟨.r8, .r8, 1, 0, .opcodeSbc⟩,                                  -- 0x9A SBC A D | Z 1 H C
  ⟨.r8, .r8, 1, 0, .opcodeSbc⟩,                                  -- 0x9B SBC A E | Z 1 H C
  ⟨.r8, .r8, 1, 0, .opcodeSbc⟩,                                  -- 0x9C SBC A H | Z 1 H C
  ⟨.r8, .r8, 1, 0, .opcodeSbc⟩,                                  -- 0x9D SBC A L | Z 1 H C
  ⟨.r8, .r16Addr, 2, 0, .opcodeSbc⟩,                             -- 0x9E SBC A [HL] | Z 1 H C
  ⟨.r8, .r8, 1, 0, .opcodeSbc⟩,                                  -- 0x9F SBC A A | Z 1 H -
  ⟨.r8, .r8, 1, 0, .opcodeAnd⟩,                                  -- 0xA0 AND A B | Z 0 1 0
  ⟨.r8, .r8, 1, 0, .opcodeAnd⟩,                                  -- 0xA1 AND A C | Z 0 1 0
  ⟨.r8, .r8, 1, 0, .opcodeAnd⟩,                                  -- 0xA2 AND A D | Z 0 1 0
  ⟨.r8, .r8, 1, 0, .opcodeAnd⟩,                                  -- 0xA3 AND A E | Z 0 1 0
  ⟨.r8, .r8, 1, 0, .opcodeAnd⟩,                                  -- 0xA4 AND A H | Z 0 1 0
  ⟨.r8, .r8, 1, 0, .opcodeAnd⟩,                                  -- 0xA5 AND A L | Z 0 1 0
  ⟨.r8, .r16Addr, 2, 0, .opcodeAnd⟩,                             -- 0xA6 AND A [HL] | Z 0 1 0
  ⟨.r8, .r8, 1, 0, .opcodeAnd⟩,                                  -- 0xA7 AND A A | Z 0 1 0
  ⟨.r8, .r8, 1, 0, .opcodeXor⟩,                                  -- 0xA8 XOR A B | Z 0 0 0
  ⟨.r8, .r8, 1, 0, .opcodeXor⟩,                                  -- 0xA9 XOR A C | Z 0 0 0
  ⟨.r8, .r8, 1, 0, .opcodeXor⟩,                                  -- 0xAA XOR A D | Z 0 0 0
  ⟨.r8, .r8, 1, 0, .opcodeXor⟩,                                  -- 0xAB XOR A E | Z 0 0 0
  ⟨.r8, .r8, 1, 0, .opcodeXor⟩,                                  -- 0xAC XOR A H | Z 0 0 0
  ⟨.r8, .r8, 1, 0, .opcodeXor⟩,                                  -- 0xAD XOR A L | Z 0 0 0
  ⟨.r8, .r16Addr, 2, 0, .opcodeXor⟩,                             -- 0xAE XOR A [HL] | Z 0 0 0
  ⟨.r8, .r8, 1, 0, .opcodeXor⟩,                                  -- 0xAF XOR A A | 1 0 0 0
  ⟨.r8, .r8, 1, 0, .opcodeOr⟩,                                   -- 0xB0 OR A B | Z 0 0 0
  ⟨.r8, .r8, 1, 0, .opcodeOr⟩,                                   -- 0xB1 OR A C | Z 0 0 0
  ⟨.r8, .r8, 1, 0, .opcodeOr⟩,                                   -- 0xB2 OR A D | Z 0 0 0
  ⟨.r8, .r8, 1, 0, .opcodeOr⟩,                                   -- 0xB3 OR A E | Z 0 0 0
  ⟨.r8, .r8, 1, 0, .opcodeOr⟩,                                   -- 0xB4 OR A H | Z 0 0 0
  ⟨.r8, .r8, 1, 0, .opcodeOr⟩,                                   -- 0xB5 OR A L | Z 0 0 0
  ⟨.r8, .r16Addr, 2, 0, .opcodeOr⟩,                              -- 0xB6 OR A [HL] | Z 0 0 0
  ⟨.r8, .r8, 1, 0, .opcodeOr⟩,                                   -- 0xB7 OR A A | Z 0 0 0
  ⟨.r8, .r8, 1, 0, .opcodeCp⟩,                                   -- 0xB8 CP A B | Z 1 H C
  ⟨.r8, .r8, 1, 0, .opcodeCp⟩,                                   -- 0xB9 CP A C | Z 1 H C
  ⟨.r8, .r8, 1, 0, .opcodeCp⟩,                                   -- 0xBA CP A D | Z 1 H C
  ⟨.r8, .r8, 1, 0, .opcodeCp⟩,                                   -- 0xBB CP A E | Z 1 H C
  ⟨.r8, .r8, 1, 0, .opcodeCp⟩,                                   -- 0xBC CP A H | Z 1 H C
  ⟨.r8, .r8, 1, 0, .opcodeCp⟩,                                   -- 0xBD CP A L | Z 1 H C
  ⟨.r8, .r16Addr, 2, 0, .opcodeCp⟩,                              -- 0xBE CP A [HL] | Z 1 H C
  ⟨.r8, .r8, 1, 0, .opcodeCp⟩,                                   -- 0xBF CP A A | 1 1 0 0
  ⟨.flagNZ, .none, 5, 2, .opcodeRetCc⟩,                          -- 0xC0 RET NZ | - - - -
  ⟨.r16, .none, 3, 0, .opcodePop⟩,                               -- 0xC1 POP BC | - - - -
  ⟨.flagNZ, .imm16Addr, 4, 3, .opcodeJpCc⟩,                      -- 0xC2 JP NZ a16 | - - - -
  ⟨.imm16Addr, .none, 4, 0, .opcodeJpA16⟩,                       -- 0xC3 JP a16 | - - - -
  ⟨.flagNZ, .imm16Addr, 6, 3, .opcodeCallCc⟩,                    -- 0xC4 CALL NZ a16 | - - - -
  ⟨.r16, .none, 4, 0, .opcodePush⟩,                              -- 0xC5 PUSH BC | - - - -
  ⟨.r8, .imm8, 2, 0, .opcodeAddR8Imm8Hladdr⟩,                    -- 0xC6 ADD A n8 | Z 0 H C
  ⟨.none, .none, 4, 0, .opcodeRst⟩,                              -- 0xC7 RST $00 | - - - -
  ⟨.flagZ, .none, 5, 2, .opcodeRetCc⟩,                           -- 0xC8 RET Z | - - - -
  ⟨.none, .none, 4, 0, .opcodeRet⟩,                              -- 0xC9 RET | - - - -
  ⟨.flagZ, .imm16Addr, 4, 3, .opcodeJpCc⟩,                       -- 0xCA JP Z a16 | - - - -
  ⟨.none, .none, 1, 0, .opcodePrefix⟩,                           -- 0xCB PREFIX | - - - -
  ⟨.flagZ, .imm16Addr, 6, 3, .opcodeCallCc⟩,                     -- 0xCC CALL Z a16 | - - - -
  ⟨.imm16Addr, .none, 6, 0, .opcodeCallA16⟩,                     -- 0xCD CALL a16 | - - - -
  ⟨.r8, .imm8, 2, 0, .opcodeAdc⟩,                                -- 0xCE ADC A n8 | Z 0 H C
  ⟨.none, .none, 4, 0, .opcodeRst⟩,                              -- 0xCF RST $08 | - - - -
  ⟨.flagNC, .none, 5, 2, .opcodeRetCc⟩,                          -- 0xD0 RET NC | - - - -
  ⟨.r16, .none, 3, 0, .opcodePop⟩,                               -- 0xD1 POP DE | - - - -
  ⟨.flagNC, .imm16Addr, 4, 3, .opcodeJpCc⟩,                      -- 0xD2 JP NC a16 | - - - -
  ⟨.none, .none, 1, 0, .opcodeIllegalD3⟩,                        -- 0xD3 ILLEGAL_D3 | - - - -
  ⟨.flagNC, .imm16Addr, 6, 3, .opcodeCallCc⟩,                    -- 0xD4 CALL NC a16 | - - - -
  ⟨.r16, .none, 4, 0, .opcodePush⟩,                              -- 0xD5 PUSH DE | - - - -
  ⟨.r8, .imm8, 2, 0, .opcodeSub⟩,                                -- 0xD6 SUB A n8 | Z 1 H C
  ⟨.none, .none, 4, 0, .opcodeRst⟩,                              -- 0xD7 RST $10 | - - - -
  ⟨.flagC, .none, 5, 2, .opcodeRetCc⟩,                           -- 0xD8 RET C | - - - -
  ⟨.none, .none, 4, 0, .opcodeReti⟩,                             -- 0xD9 RETI | - - - -
  ⟨.flagC, .imm16Addr, 4, 3, .opcodeJpCc⟩,                       -- 0xDA JP C a16 | - - - -
  ⟨.none, .none, 1, 0, .opcodeIllegalDb⟩,                        -- 0xDB ILLEGAL_DB | - - - -
  ⟨.flagC, .imm16Addr, 6, 3, .opcodeCallCc⟩,                     -- 0xDC CALL C a16 | - - - -
  ⟨.none, .none, 1, 0, .opcodeIllegalDd⟩,                        -- 0xDD ILLEGAL_DD | - - - -
  ⟨.r8, .imm8, 2, 0, .opcodeSbc⟩,                                -- 0xDE SBC A n8 | Z 1 H C
  ⟨.none, .none, 4, 0, .opcodeRst⟩,                              -- 0xDF RST $18 | - - - -
  ⟨.imm8Addr, .r8, 3, 0, .opcodeLdhR8addrA⟩,                     -- 0xE0 LDH [a8] A | - - - -
  ⟨.r16, .none, 3, 0, .opcodePop⟩,                               -- 0xE1 POP HL | - - - -
  ⟨.r8Addr, .r8, 2, 0, .opcodeR8addrA⟩,                          -- 0xE2 LD [C] A | - - - -
  ⟨.none, .none, 1, 0, .opcodeIllegalE3⟩,                        -- 0xE3 ILLEGAL_E3 | - - - -
  ⟨.none, .none, 1, 0, .opcodeIllegalE4⟩,                        -- 0xE4 ILLEGAL_E4 | - - - -
  ⟨.r16, .none, 4, 0, .opcodePush⟩,                              -- 0xE5 PUSH HL | - - - -
  ⟨.r8, .imm8, 2, 0, .opcodeAnd⟩,                                -- 0xE6 AND A n8 | Z 0 1 0
  ⟨.none, .none, 4, 0, .opcodeRst⟩,                              -- 0xE7 RST $20 | - - - -
  ⟨.r16, .imm8, 4, 0, .opcodeAddSpE8⟩,                           -- 0xE8 ADD SP e8 | 0 0 H C
  ⟨.r16, .none, 1, 0, .opcodeJpHl⟩,                              -- 0xE9 JP HL | - - - -
  ⟨.imm16Addr, .r8, 4, 0, .opcodeImm16addrA⟩,                    -- 0xEA LD [a16] A | - - - -
  ⟨.none, .none, 1, 0, .opcodeIllegalEb⟩,                        -- 0xEB ILLEGAL_EB | - - - -
  ⟨.none, .none, 1, 0, .opcodeIllegalEc⟩,                        -- 0xEC ILLEGAL_EC | - - - -
  ⟨.none, .none, 1, 0, .opcodeIllegalEd⟩,                        -- 0xED ILLEGAL_ED | - - - -
  ⟨.r8, .imm8, 2, 0, .opcodeXor⟩,                                -- 0xEE XOR A n8 | Z 0 0 0
  ⟨.none, .none, 4, 0, .opcodeRst⟩,                              -- 0xEF RST $28 | - - - -
  ⟨.r8, .imm8Addr, 3, 0, .opcodeLdhAR8addr⟩,                     -- 0xF0 LDH A [a8] | - - - -
  ⟨.r16, .none, 3, 0, .opcodePop⟩,                               -- 0xF1 POP AF | Z N H C
  ⟨.r8, .r8Addr, 2, 0, .opcodeR8C⟩,                              -- 0xF2 LD A [C] | - - - -
  ⟨.none, .none, 1, 0, .opcodeDi⟩,                               -- 0xF3 DI | - - - -
  ⟨.none, .none, 1, 0, .opcodeIllegalF4⟩,                        -- 0xF4 ILLEGAL_F4 | - - - -
  ⟨.r16, .none, 4, 0, .opcodePush⟩,                              -- 0xF5 PUSH AF | - - - -
  ⟨.r8, .imm8, 2, 0, .opcodeOr⟩,                                 -- 0xF6 OR A n8 | Z 0 0 0
  ⟨.none, .none, 4, 0, .opcodeRst⟩,                              -- 0xF7 RST $30 | - - - -
  ⟨.r16, .r16, 3, 0, .opcodeLdHlSpi⟩,                            -- 0xF8 LD HL SP+ | 0 0 H C
  ⟨.r16, .r16, 2, 0, .opcodeLdSpHl⟩,                             -- 0xF9 LD SP HL | - - - -
  ⟨.r8, .imm16Addr, 4, 0, .opcodeLdAImm16addr⟩,                  -- 0xFA LD A [a16] | - - - -
  ⟨.none, .none, 1, 0, .opcodeEi⟩,                               -- 0xFB EI | - - - -
  ⟨.none, .none, 1, 0, .opcodeIllegalFc⟩,                        -- 0xFC ILLEGAL_FC | - - - -
  ⟨.none, .none, 1, 0, .opcodeIllegalFd⟩,                        -- 0xFD ILLEGAL_FD | - - - -
  ⟨.r8, .imm8, 2, 0, .opcodeCp⟩,                                 -- 0xFE CP A n8 | Z 1 H C
  ⟨.none, .none, 4, 0, .opcodeRst⟩]                              -- 0xFF RST $38 | - - - -

/-- `INSTR_INDEX_CB` -/
def instrIndexCb : List Instruction := [
  ⟨.r8, .none, 2, 0, .opcodeRlc⟩,                                -- 0x00 RLC B | Z 0 0 C
  ⟨.r8, .none, 2, 0, .opcodeRlc⟩,                                -- 0x01 RLC C | Z 0 0 C
  ⟨.r8, .none, 2, 0, .opcodeRlc⟩,                                -- 0x02 RLC D | Z 0 0 C
  ⟨.r8, .none, 2, 0, .opcodeRlc⟩,                                -- 0x03 RLC E | Z 0 0 C
  ⟨.r8, .none, 2, 0, .opcodeRlc⟩,                                -- 0x04 RLC H | Z 0 0 C
  ⟨.r8, .none, 2, 0, .opcodeRlc⟩,                                -- 0x05 RLC L | Z 0 0 C
  ⟨.r16Addr, .none, 4, 0, .opcodeRlc⟩,                           -- 0x06 RLC [HL] | Z 0 0 C
  ⟨.r8, .none, 2, 0, .opcodeRlc⟩,                                -- 0x07 RLC A | Z 0 0 C
  ⟨.r8, .none, 2, 0, .opcodeRrc⟩,                                -- 0x08 RRC B | Z 0 0 C
  ⟨.r8, .none, 2, 0, .opcodeRrc⟩,                                -- 0x09 RRC C | Z 0 0 C
  ⟨.r8, .none, 2, 0, .opcodeRrc⟩,                                -- 0x0A RRC D | Z 0 0 C
  ⟨.r8, .none, 2, 0, .opcodeRrc⟩,                                -- 0x0B RRC E | Z 0 0 C
  ⟨.r8, .none, 2, 0, .opcodeRrc⟩,                                -- 0x0C RRC H | Z 0 0 C
  ⟨.r8, .none, 2, 0, .opcodeRrc⟩,                                -- 0x0D RRC L | Z 0 0 C
  ⟨.r16Addr, .none, 4, 0, .opcodeRrc⟩,                           -- 0x0E RRC [HL] | Z 0 0 C
  ⟨.r8, .none, 2, 0, .opcodeRrc⟩,                                -- 0x0F RRC A | Z 0 0 C
  ⟨.r8, .none, 2, 0, .opcodeRl⟩,                                 -- 0x10 RL B | Z 0 0 C
  ⟨.r8, .none, 2, 0, .opcodeRl⟩,                                 -- 0x11 RL C | Z 0 0 C
  ⟨.r8, .none, 2, 0, .opcodeRl⟩,                                 -- 0x12 RL D | Z 0 0 C
  ⟨.r8, .none, 2, 0, .opcodeRl⟩,                                 -- 0x13 RL E | Z 0 0 C
  ⟨.r8, .none, 2, 0, .opcodeRl⟩,                                 -- 0x14 RL H | Z 0 0 C
  ⟨.r8, .none, 2, 0, .opcodeRl⟩,                                 -- 0x15 RL L | Z 0 0 C
  ⟨.r16Addr, .none, 4, 0, .opcodeRl⟩,                            -- 0x16 RL [HL] | Z 0 0 C
  ⟨.r8, .none, 2, 0, .opcodeRl⟩,                                 -- 0x17 RL A | Z 0 0 C
  ⟨.r8, .none, 2, 0, .opcodeRr⟩,                                 -- 0x18 RR B | Z 0 0 C
  ⟨.r8, .none, 2, 0, .opcodeRr⟩,                                 -- 0x19 RR C | Z 0 0 C
  ⟨.r8, .none, 2, 0, .opcodeRr⟩,                                 -- 0x1A RR D | Z 0 0 C
  ⟨.r8, .none, 2, 0, .opcodeRr⟩,                                 -- 0x1B RR E | Z 0 0 C
  ⟨.r8, .none, 2, 0, .opcodeRr⟩,                                 -- 0x1C RR H | Z 0 0 C
  ⟨.r8, .none, 2, 0, .opcodeRr⟩,                                 -- 0x1D RR L | Z 0 0 C
  ⟨.r16Addr, .none, 4, 0, .opcodeRr⟩,                            -- 0x1E RR [HL] | Z 0 0 C
  ⟨.r8, .none, 2, 0, .opcodeRr⟩,                                 -- 0x1F RR A | Z 0 0 C
  ⟨.r8, .none, 2, 0, .opcodeSla⟩,                                -- 0x20 SLA B | Z 0 0 C
  ⟨.r8, .none, 2, 0, .opcodeSla⟩,                                -- 0x21 SLA C | Z 0 0 C
  ⟨.r8, .none, 2, 0, .opcodeSla⟩,                                -- 0x22 SLA D | Z 0 0 C
  ⟨.r8, .none, 2, 0, .opcodeSla⟩,                                -- 0x23 SLA E | Z 0 0 C
  ⟨.r8, .none, 2, 0, .opcodeSla⟩,                                -- 0x24 SLA H | Z 0 0 C
  ⟨.r8, .none, 2, 0, .opcodeSla⟩,                                -- 0x25 SLA L | Z 0 0 C
  ⟨.r16Addr, .none, 4, 0, .opcodeSla⟩,                           -- 0x26 SLA [HL] | Z 0 0 C
  ⟨.r8, .none, 2, 0, .opcodeSla⟩,                                -- 0x27 SLA A | Z 0 0 C
  ⟨.r8, .none, 2, 0, .opcodeSra⟩,                                -- 0x28 SRA B | Z 0 0 C
  ⟨.r8, .none, 2, 0, .opcodeSra⟩,                                -- 0x29 SRA C | Z 0 0 C
  ⟨.r8, .none, 2, 0, .opcodeSra⟩,                                -- 0x2A SRA D | Z 0 0 C
  ⟨.r8, .none, 2, 0, .opcodeSra⟩,                                -- 0x2B SRA E | Z 0 0 C
  ⟨.r8, .none, 2, 0, .opcodeSra⟩,                                -- 0x2C SRA H | Z 0 0 C
  ⟨.r8, .none, 2, 0, .opcodeSra⟩,                                -- 0x2D SRA L | Z 0 0 C
  ⟨.r16Addr, .none, 4, 0, .opcodeSra⟩,                           -- 0x2E SRA [HL] | Z 0 0 C
  ⟨.r8, .none, 2, 0, .opcodeSra⟩,                                -- 0x2F SRA A | Z 0 0 C
  ⟨.r8, .none, 2, 0, .opcodeSwap⟩,                               -- 0x30 SWAP B | Z 0 0 0
  ⟨.r8, .none, 2, 0, .opcodeSwap⟩,                               -- 0x31 SWAP C | Z 0 0 0
  ⟨.r8, .none, 2, 0, .opcodeSwap⟩,                               -- 0x32 SWAP D | Z 0 0 0
  ⟨.r8, .none, 2, 0, .opcodeSwap⟩,                               -- 0x33 SWAP E | Z 0 0 0
  ⟨.r8, .none, 2, 0, .opcodeSwap⟩,                               -- 0x34 SWAP H | Z 0 0 0
  ⟨.r8, .none, 2, 0, .opcodeSwap⟩,                               -- 0x35 SWAP L | Z 0 0 0
  ⟨.r16Addr, .none, 4, 0, .opcodeSwap⟩,                          -- 0x36 SWAP [HL] | Z 0 0 0
  ⟨.r8, .none, 2, 0, .opcodeSwap⟩,                               -- 0x37 SWAP A | Z 0 0 0
  ⟨.r8, .none, 2, 0, .opcodeSrl⟩,                                -- 0x38 SRL B | Z 0 0 C
  ⟨.r8, .none, 2, 0, .opcodeSrl⟩,                                -- 0x39 SRL C | Z 0 0 C
  ⟨.r8, .none, 2, 0, .opcodeSrl⟩,                                -- 0x3A SRL D | Z 0 0 C
  ⟨.r8, .none, 2, 0, .opcodeSrl⟩,                                -- 0x3B SRL E | Z 0 0 C
  ⟨.r8, .none, 2, 0, .opcodeSrl⟩,                                -- 0x3C SRL H | Z 0 0 C
  ⟨.r8, .none, 2, 0, .opcodeSrl⟩,                                -- 0x3D SRL L | Z 0 0 C
  ⟨.r16Addr, .none, 4, 0, .opcodeSrl⟩,                           -- 0x3E SRL [HL] | Z 0 0 C
  ⟨.r8, .none, 2, 0, .opcodeSrl⟩,                                -- 0x3F SRL A | Z 0 0 C
  ⟨.bit, .r8, 2, 0, .opcodeBit⟩,                                 -- 0x40 BIT 0 B | Z 0 1 -
  ⟨.bit, .r8, 2, 0, .opcodeBit⟩,                                 -- 0x41 BIT 0 C | Z 0 1 -
  ⟨.bit, .r8, 2, 0, .opcodeBit⟩,                                 -- 0x42 BIT 0 D | Z 0 1 -
  ⟨.bit, .r8, 2, 0, .opcodeBit⟩,                                 -- 0x43 BIT 0 E | Z 0 1 -
  ⟨.bit, .r8, 2, 0, .opcodeBit⟩,                                 -- 0x44 BIT 0 H | Z 0 1 -
  ⟨.bit, .r8, 2, 0, .opcodeBit⟩,                                 -- 0x45 BIT 0 L | Z 0 1 -
  ⟨.bit, .r16Addr, 3, 0, .opcodeBit⟩,                            -- 0x46 BIT 0 [HL] | Z 0 1 -
  ⟨.bit, .r8, 2, 0, .opcodeBit⟩,                                 -- 0x47 BIT 0 A | Z 0 1 -
  ⟨.bit, .r8, 2, 0, .opcodeBit⟩,                                 -- 0x48 BIT 1 B | Z 0 1 -
  ⟨.bit, .r8, 2, 0, .opcodeBit⟩,                                 -- 0x49 BIT 1 C | Z 0 1 -
  ⟨.bit, .r8, 2, 0, .opcodeBit⟩,                                 -- 0x4A BIT 1 D | Z 0 1 -
  ⟨.bit, .r8, 2, 0, .opcodeBit⟩,                                 -- 0x4B BIT 1 E | Z 0 1 -
  ⟨.bit, .r8, 2, 0, .opcodeBit⟩,                                 -- 0x4C BIT 1 H | Z 0 1 -
  ⟨.bit, .r8, 2, 0, .opcodeBit⟩,                                 -- 0x4D BIT 1 L | Z 0 1 -
  ⟨.bit, .r16Addr, 3, 0, .opcodeBit⟩,                            -- 0x4E BIT 1 [HL] | Z 0 1 -
  ⟨.bit, .r8, 2, 0, .opcodeBit⟩,                                 -- 0x4F BIT 1 A | Z 0 1 -
  ⟨.bit, .r8, 2, 0, .opcodeBit⟩,                                 -- 0x50 BIT 2 B | Z 0 1 -
  ⟨.bit, .r8, 2, 0, .opcodeBit⟩,                                 -- 0x51 BIT 2 C | Z 0 1 -
  ⟨.bit, .r8, 2, 0, .opcodeBit⟩,                                 -- 0x52 BIT 2 D | Z 0 1 -
  ⟨.bit, .r8, 2, 0, .opcodeBit⟩,                                 -- 0x53 BIT 2 E | Z 0 1 -
  ⟨.bit, .r8, 2, 0, .opcodeBit⟩,                                 -- 0x54 BIT 2 H | Z 0 1 -
  ⟨.bit, .r8, 2, 0, .opcodeBit⟩,                                 -- 0x55 BIT 2 L | Z 0 1 -
  ⟨.bit, .r16Addr, 3, 0, .opcodeBit⟩,                            -- 0x56 BIT 2 [HL] | Z 0 1 -
  ⟨.bit, .r8, 2, 0, .opcodeBit⟩,                                 -- 0x57 BIT 2 A | Z 0 1 -
  ⟨.bit, .r8, 2, 0, .opcodeBit⟩,                                 -- 0x58 BIT 3 B | Z 0 1 -
  ⟨.bit, .r8, 2, 0, .opcodeBit⟩,                                 -- 0x59 BIT 3 C | Z 0 1 -
  ⟨.bit, .r8, 2, 0, .opcodeBit⟩,                                 -- 0x5A BIT 3 D | Z 0 1 -
  ⟨.bit, .r8, 2, 0, .opcodeBit⟩,                                 -- 0x5B BIT 3 E | Z 0 1 -
  ⟨.bit, .r8, 2, 0, .opcodeBit⟩,                                 -- 0x5C BIT 3 H | Z 0 1 -
  ⟨.bit, .r8, 2, 0, .opcodeBit⟩,                                 -- 0x5D BIT 3 L | Z 0 1 -
  ⟨.bit, .r16Addr, 3, 0, .opcodeBit⟩,                            -- 0x5E BIT 3 [HL] | Z 0 1 -
  ⟨.bit, .r8, 2, 0, .opcodeBit⟩,                                 -- 0x5F BIT 3 A | Z 0 1 -
  ⟨.bit, .r8, 2, 0, .opcodeBit⟩,                                 -- 0x60 BIT 4 B | Z 0 1 -
  ⟨.bit, .r8, 2, 0, .opcodeBit⟩,                                 -- 0x61 BIT 4 C | Z 0 1 -
  ⟨.bit, .r8, 2, 0, .opcodeBit⟩,                                 -- 0x62 BIT 4 D | Z 0 1 -
  ⟨.bit, .r8, 2, 0, .opcodeBit⟩,                                 -- 0x63 BIT 4 E | Z 0 1 -
  ⟨.bit, .r8, 2, 0, .opcodeBit⟩,                                 -- 0x64 BIT 4 H | Z 0 1 -
  ⟨.bit, .r8, 2, 0, .opcodeBit⟩,                                 -- 0x65 BIT 4 L | Z 0 1 -
  ⟨.bit, .r16Addr, 3, 0, .opcodeBit⟩,                            -- 0x66 BIT 4 [HL] | Z 0 1 -
  ⟨.bit, .r8, 2, 0, .opcodeBit⟩,                                 -- 0x67 BIT 4 A | Z 0 1 -
  ⟨.bit, .r8, 2, 0, .opcodeBit⟩,                                 -- 0x68 BIT 5 B | Z 0 1 -
  ⟨.bit, .r8, 2, 0, .opcodeBit⟩,                                 -- 0x69 BIT 5 C | Z 0 1 -
  ⟨.bit, .r8, 2, 0, .opcodeBit⟩,                                 -- 0x6A BIT 5 D | Z 0 1 -
  ⟨.bit, .r8, 2, 0, .opcodeBit⟩,                                 -- 0x6B BIT 5 E | Z 0 1 -
  ⟨.bit, .r8, 2, 0, .opcodeBit⟩,                                 -- 0x6C BIT 5 H | Z 0 1 -
  ⟨.bit, .r8, 2, 0, .opcodeBit⟩,                                 -- 0x6D BIT 5 L | Z 0 1 -
  ⟨.bit, .r16Addr, 3, 0, .opcodeBit⟩,                            -- 0x6E BIT 5 [HL] | Z 0 1 -
  ⟨.bit, .r8, 2, 0, .opcodeBit⟩,                                 -- 0x6F BIT 5 A | Z 0 1 -
  ⟨.bit, .r8, 2, 0, .opcodeBit⟩,                                 -- 0x70 BIT 6 B | Z 0 1 -
  ⟨.bit, .r8, 2, 0, .opcodeBit⟩,                                 -- 0x71 BIT 6 C | Z 0 1 -
  ⟨.bit, .r8, 2, 0, .opcodeBit⟩,                                 -- 0x72 BIT 6 D | Z 0 1 -
  ⟨.bit, .r8, 2, 0, .opcodeBit⟩,                                 -- 0x73 BIT 6 E | Z 0 1 -
  ⟨.bit, .r8, 2, 0, .opcodeBit⟩,                                 -- 0x74 BIT 6 H | Z 0 1 -
  ⟨.bit, .r8, 2, 0, .opcodeBit⟩,                                 -- 0x75 BIT 6 L | Z 0 1 -
  ⟨.bit, .r16Addr, 3, 0, .opcodeBit⟩,                            -- 0x76 BIT 6 [HL] | Z 0 1 -
  ⟨.bit, .r8, 2, 0, .opcodeBit⟩,                                 -- 0x77 BIT 6 A | Z 0 1 -
  ⟨.bit, .r8, 2, 0, .opcodeBit⟩,                                 -- 0x78 BIT 7 B | Z 0 1 -
  ⟨.bit, .r8, 2, 0, .opcodeBit⟩,                                 -- 0x79 BIT 7 C | Z 0 1 -
  ⟨.bit, .r8, 2, 0, .opcodeBit⟩,                                 -- 0x7A BIT 7 D | Z 0 1 -
  ⟨.bit, .r8, 2, 0, .opcodeBit⟩,                                 -- 0x7B BIT 7 E | Z 0 1 -
  ⟨.bit, .r8, 2, 0, .opcodeBit⟩,                                 -- 0x7C BIT 7 H | Z 0 1 -
  ⟨.bit, .r8, 2, 0, .opcodeBit⟩,                                 -- 0x7D BIT 7 L | Z 0 1 -
  ⟨.bit, .r16Addr, 3, 0, .opcodeBit⟩,                            -- 0x7E BIT 7 [HL] | Z 0 1 -
  ⟨.bit, .r8, 2, 0, .opcodeBit⟩,                                 -- 0x7F BIT 7 A | Z 0 1 -
  ⟨.bit, .r8, 2, 0, .opcodeRes⟩,                                 -- 0x80 RES 0 B | - - - -
  ⟨.bit, .r8, 2, 0, .opcodeRes⟩,                                 -- 0x81 RES 0 C | - - - -
  ⟨.bit, .r8, 2, 0, .opcodeRes⟩,                                 -- 0x82 RES 0 D | - - - -
  ⟨.bit, .r8, 2, 0, .opcodeRes⟩,                                 -- 0x83 RES 0 E | - - - -
  ⟨.bit, .r8, 2, 0, .opcodeRes⟩,                                 -- 0x84 RES 0 H | - - - -
  ⟨.bit, .r8, 2, 0, .opcodeRes⟩,                                 -- 0x85 RES 0 L | - - - -
  ⟨.bit, .r16Addr, 4, 0, .opcodeRes⟩,                            -- 0x86 RES 0 [HL] | - - - -
  ⟨.bit, .r8, 2, 0, .opcodeRes⟩,                                 -- 0x87 RES 0 A | - - - -
  ⟨.bit, .r8, 2, 0, .opcodeRes⟩,                                 -- 0x88 RES 1 B | - - - -
  ⟨.bit, .r8, 2, 0, .opcodeRes⟩,                                 -- 0x89 RES 1 C | - - - -
  ⟨.bit, .r8, 2, 0, .opcodeRes⟩,                                 -- 0x8A RES 1 D | - - - -
  ⟨.bit, .r8, 2, 0, .opcodeRes⟩,                                 -- 0x8B RES 1 E | - - - -
  ⟨.bit, .r8, 2, 0, .opcodeRes⟩,                                 -- 0x8C RES 1 H | - - - -
  ⟨.bit, .r8, 2, 0, .opcodeRes⟩,                                 -- 0x8D RES 1 L | - - - -
  ⟨.bit, .r16Addr, 4, 0, .opcodeRes⟩,                            -- 0x8E RES 1 [HL] | - - - -
  ⟨.bit, .r8, 2, 0, .opcodeRes⟩,                                 -- 0x8F RES 1 A | - - - -
  ⟨.bit, .r8, 2, 0, .opcodeRes⟩,                                 -- 0x90 RES 2 B | - - - -
  ⟨.bit, .r8, 2, 0, .opcodeRes⟩,                                 -- 0x91 RES 2 C | - - - -
  ⟨.bit, .r8, 2, 0, .opcodeRes⟩,                                 -- 0x92 RES 2 D | - - - -
  ⟨.bit, .r8, 2, 0, .opcodeRes⟩,                                 -- 0x93 RES 2 E | - - - -
  ⟨.bit, .r8, 2, 0, .opcodeRes⟩,                                 -- 0x94 RES 2 H | - - - -
  ⟨.bit, .r8, 2, 0, .opcodeRes⟩,                                 -- 0x95 RES 2 L | - - - -
  ⟨.bit, .r16Addr, 4, 0, .opcodeRes⟩,                            -- 0x96 RES 2 [HL] | - - - -
  ⟨.bit, .r8, 2, 0, .opcodeRes⟩,                                 -- 0x97 RES 2 A | - - - -
  ⟨.bit, .r8, 2, 0, .opcodeRes⟩,                                 -- 0x98 RES 3 B | - - - -
  ⟨.bit, .r8, 2, 0, .opcodeRes⟩,                                 -- 0x99 RES 3 C | - - - -
  ⟨.bit, .r8, 2, 0, .opcodeRes⟩,                                 -- 0x9A RES 3 D | - - - -
  ⟨.bit, .r8, 2, 0, .opcodeRes⟩,                                 -- 0x9B RES 3 E | - - - -
  ⟨.bit, .r8, 2, 0, .opcodeRes⟩,                                 -- 0x9C RES 3 H | - - - -
  ⟨.bit, .r8, 2, 0, .opcodeRes⟩,                                 -- 0x9D RES 3 L | - - - -
  ⟨.bit, .r16Addr, 4, 0, .opcodeRes⟩,                            -- 0x9E RES 3 [HL] | - - - -
  ⟨.bit, .r8, 2, 0, .opcodeRes⟩,                                 -- 0x9F RES 3 A | - - - -
  ⟨.bit, .r8, 2, 0, .opcodeRes⟩,                                 -- 0xA0 RES 4 B | - - - -
  ⟨.bit, .r8, 2, 0, .opcodeRes⟩,                                 -- 0xA1 RES 4 C | - - - -
  ⟨.bit, .r8, 2, 0, .opcodeRes⟩,                                 -- 0xA2 RES 4 D | - - - -
  ⟨.bit, .r8, 2, 0, .opcodeRes⟩,                                 -- 0xA3 RES 4 E | - - - -
  ⟨.bit, .r8, 2, 0, .opcodeRes⟩,                                 -- 0xA4 RES 4 H | - - - -
  ⟨.bit, .r8, 2, 0, .opcodeRes⟩,                                 -- 0xA5 RES 4 L | - - - -
  ⟨.bit, .r16Addr, 4, 0, .opcodeRes⟩,                            -- 0xA6 RES 4 [HL] | - - - -
  ⟨.bit, .r8, 2, 0, .opcodeRes⟩,                                 -- 0xA7 RES 4 A | - - - -
  ⟨.bit, .r8, 2, 0, .opcodeRes⟩,                                 -- 0xA8 RES 5 B | - - - -
  ⟨.bit, .r8, 2, 0, .opcodeRes⟩,                                 -- 0xA9 RES 5 C | - - - -
  ⟨.bit, .r8, 2, 0, .opcodeRes⟩,                                 -- 0xAA RES 5 D | - - - -
  ⟨.bit, .r8, 2, 0, .opcodeRes⟩,                                 -- 0xAB RES 5 E | - - - -
  ⟨.bit, .r8, 2, 0, .opcodeRes⟩,                                 -- 0xAC RES 5 H | - - - -
  ⟨.bit, .r8, 2, 0, .opcodeRes⟩,                                 -- 0xAD RES 5 L | - - - -
  ⟨.bit, .r16Addr, 4, 0, .opcodeRes⟩,                            -- 0xAE RES 5 [HL] | - - - -
  ⟨.bit, .r8, 2, 0, .opcodeRes⟩,                                 -- 0xAF RES 5 A | - - - -
  ⟨.bit, .r8, 2, 0, .opcodeRes⟩,                                 -- 0xB0 RES 6 B | - - - -
  ⟨.bit, .r8, 2, 0, .opcodeRes⟩,                                 -- 0xB1 RES 6 C | - - - -
  ⟨.bit, .r8, 2, 0, .opcodeRes⟩,                                 -- 0xB2 RES 6 D | - - - -
  ⟨.bit, .r8, 2, 0, .opcodeRes⟩,                                 -- 0xB3 RES 6 E | - - - -
  ⟨.bit, .r8, 2, 0, .opcodeRes⟩,                                 -- 0xB4 RES 6 H | - - - -
  ⟨.bit, .r8, 2, 0, .opcodeRes⟩,                                 -- 0xB5 RES 6 L | - - - -
  ⟨.bit, .r16Addr, 4, 0, .opcodeRes⟩,                            -- 0xB6 RES 6 [HL] | - - - -
  ⟨.bit, .r8, 2, 0, .opcodeRes⟩,                                 -- 0xB7 RES 6 A | - - - -
  ⟨.bit, .r8, 2, 0, .opcodeRes⟩,                                 -- 0xB8 RES 7 B | - - - -
  ⟨.bit, .r8, 2, 0, .opcodeRes⟩,                                 -- 0xB9 RES 7 C | - - - -
  ⟨.bit, .r8, 2, 0, .opcodeRes⟩,                                 -- 0xBA RES 7 D | - - - -
  ⟨.bit, .r8, 2, 0, .opcodeRes⟩,                                 -- 0xBB RES 7 E | - - - -
  ⟨.bit, .r8, 2, 0, .opcodeRes⟩,                                 -- 0xBC RES 7 H | - - - -
  ⟨.bit, .r8, 2, 0, .opcodeRes⟩,                                 -- 0xBD RES 7 L | - - - -
  ⟨.bit, .r16Addr, 4, 0, .opcodeRes⟩,                            -- 0xBE RES 7 [HL] | - - - -
  ⟨.bit, .r8, 2, 0, .opcodeRes⟩,                                 -- 0xBF RES 7 A | - - - -
  ⟨.bit, .r8, 2, 0, .opcodeSet⟩,                                 -- 0xC0 SET 0 B | - - - -
  ⟨.bit, .r8, 2, 0, .opcodeSet⟩,                                 -- 0xC1 SET 0 C | - - - -
  ⟨.bit, .r8, 2, 0, .opcodeSet⟩,                                 -- 0xC2 SET 0 D | - - - -
  ⟨.bit, .r8, 2, 0, .opcodeSet⟩,                                 -- 0xC3 SET 0 E | - - - -
  ⟨.bit, .r8, 2, 0, .opcodeSet⟩,                                 -- 0xC4 SET 0 H | - - - -
  ⟨.bit, .r8, 2, 0, .opcodeSet⟩,                                 -- 0xC5 SET 0 L | - - - -
  ⟨.bit, .r16Addr, 4, 0, .opcodeSet⟩,                            -- 0xC6 SET 0 [HL] | - - - -
  ⟨.bit, .r8, 2, 0, .opcodeSet⟩,                                 -- 0xC7 SET 0 A | - - - -
  ⟨.bit, .r8, 2, 0, .opcodeSet⟩,                                 -- 0xC8 SET 1 B | - - - -
  ⟨.bit, .r8, 2, 0, .opcodeSet⟩,                                 -- 0xC9 SET 1 C | - - - -
  ⟨.bit, .r8, 2, 0, .opcodeSet⟩,                                 -- 0xCA SET 1 D | - - - -
  ⟨.bit, .r8, 2, 0, .opcodeSet⟩,                                 -- 0xCB SET 1 E | - - - -
  ⟨.bit, .r8, 2, 0, .opcodeSet⟩,                                 -- 0xCC SET 1 H | - - - -
  ⟨.bit, .r8, 2, 0, .opcodeSet⟩,                                 -- 0xCD SET 1 L | - - - -
  ⟨.bit, .r16Addr, 4, 0, .opcodeSet⟩,                            -- 0xCE SET 1 [HL] | - - - -
  ⟨.bit, .r8, 2, 0, .opcodeSet⟩,                                 -- 0xCF SET 1 A | - - - -
  ⟨.bit, .r8, 2, 0, .opcodeSet⟩,                                 -- 0xD0 SET 2 B | - - - -
  ⟨.bit, .r8, 2, 0, .opcodeSet⟩,                                 -- 0xD1 SET 2 C | - - - -
  ⟨.bit, .r8, 2, 0, .opcodeSet⟩,                                 -- 0xD2 SET 2 D | - - - -
  ⟨.bit, .r8, 2, 0, .opcodeSet⟩,                                 -- 0xD3 SET 2 E | - - - -
  ⟨.bit, .r8, 2, 0, .opcodeSet⟩,                                 -- 0xD4 SET 2 H | - - - -
  ⟨.bit, .r8, 2, 0, .opcodeSet⟩,                                 -- 0xD5 SET 2 L | - - - -
  ⟨.bit, .r16Addr, 4, 0, .opcodeSet⟩,                            -- 0xD6 SET 2 [HL] | - - - -
  ⟨.bit, .r8, 2, 0, .opcodeSet⟩,                                 -- 0xD7 SET 2 A | - - - -
  ⟨.bit, .r8, 2, 0, .opcodeSet⟩,                                 -- 0xD8 SET 3 B | - - - -
  ⟨.bit, .r8, 2, 0, .opcodeSet⟩,                                 -- 0xD9 SET 3 C | - - - -
  ⟨.bit, .r8, 2, 0, .opcodeSet⟩,                                 -- 0xDA SET 3 D | - - - -
  ⟨.bit, .r8, 2, 0, .opcodeSet⟩,                                 -- 0xDB SET 3 E | - - - -
  ⟨.bit, .r8, 2, 0, .opcodeSet⟩,                                 -- 0xDC SET 3 H | - - - -
  ⟨.bit, .r8, 2, 0, .opcodeSet⟩,                                 -- 0xDD SET 3 L | - - - -
  ⟨.bit, .r16Addr, 4, 0, .opcodeSet⟩,                            -- 0xDE SET 3 [HL] | - - - -
  ⟨.bit, .r8, 2, 0, .opcodeSet⟩,                                 -- 0xDF SET 3 A | - - - -
  ⟨.bit, .r8, 2, 0, .opcodeSet⟩,                                 -- 0xE0 SET 4 B | - - - -
  ⟨.bit, .r8, 2, 0, .opcodeSet⟩,                                 -- 0xE1 SET 4 C | - - - -
  ⟨.bit, .r8, 2, 0, .opcodeSet⟩,                                 -- 0xE2 SET 4 D | - - - -
  ⟨.bit, .r8, 2, 0, .opcodeSet⟩,                                 -- 0xE3 SET 4 E | - - - -
  ⟨.bit, .r8, 2, 0, .opcodeSet⟩,                                 -- 0xE4 SET 4 H | - - - -
  ⟨.bit, .r8, 2, 0, .opcodeSet⟩,                                 -- 0xE5 SET 4 L | - - - -
  ⟨.bit, .r16Addr, 4, 0, .opcodeSet⟩,                            -- 0xE6 SET 4 [HL] | - - - -
  ⟨.bit, .r8, 2, 0, .opcodeSet⟩,                                 -- 0xE7 SET 4 A | - - - -
  ⟨.bit, .r8, 2, 0, .opcodeSet⟩,                                 -- 0xE8 SET 5 B | - - - -
  ⟨.bit, .r8, 2, 0, .opcodeSet⟩,                                 -- 0xE9 SET 5 C | - - - -
  ⟨.bit, .r8, 2, 0, .opcodeSet⟩,                                 -- 0xEA SET 5 D | - - - -
  ⟨.bit, .r8, 2, 0, .opcodeSet⟩,                                 -- 0xEB SET 5 E | - - - -
  ⟨.bit, .r8, 2, 0, .opcodeSet⟩,                                 -- 0xEC SET 5 H | - - - -
  ⟨.bit, .r8, 2, 0, .opcodeSet⟩,                                 -- 0xED SET 5 L | - - - -
  ⟨.bit, .r16Addr, 4, 0, .opcodeSet⟩,                            -- 0xEE SET 5 [HL] | - - - -
  ⟨.bit, .r8, 2, 0, .opcodeSet⟩,                                 -- 0xEF SET 5 A | - - - -
  ⟨.bit, .r8, 2, 0, .opcodeSet⟩,                                 -- 0xF0 SET 6 B | - - - -
  ⟨.bit, .r8, 2, 0, .opcodeSet⟩,                                 -- 0xF1 SET 6 C | - - - -
  ⟨.bit, .r8, 2, 0, .opcodeSet⟩,                                 -- 0xF2 SET 6 D | - - - -
  ⟨.bit, .r8, 2, 0, .opcodeSet⟩,                                 -- 0xF3 SET 6 E | - - - -
  ⟨.bit, .r8, 2, 0, .opcodeSet⟩,                                 -- 0xF4 SET 6 H | - - - -
  ⟨.bit, .r8, 2, 0, .opcodeSet⟩,                                 -- 0xF5 SET 6 L | - - - -
  ⟨.bit, .r16Addr, 4, 0, .opcodeSet⟩,                            -- 0xF6 SET 6 [HL] | - - - -
  ⟨.bit, .r8, 2, 0, .opcodeSet⟩,                                 -- 0xF7 SET 6 A | - - - -
  ⟨.bit, .r8, 2, 0, .opcodeSet⟩,                                 -- 0xF8 SET 7 B | - - - -
  ⟨.bit, .r8, 2, 0, .opcodeSet⟩,                                 -- 0xF9 SET 7 C | - - - -
  ⟨.bit, .r8, 2, 0, .opcodeSet⟩,                                 -- 0xFA SET 7 D | - - - -
  ⟨.bit, .r8, 2, 0, .opcodeSet⟩,                                 -- 0xFB SET 7 E | - - - -
  ⟨.bit, .r8, 2, 0, .opcodeSet⟩,                                 -- 0xFC SET 7 H | - - - -
  ⟨.bit, .r8, 2, 0, .opcodeSet⟩,                                 -- 0xFD SET 7 L | - - - -
  ⟨.bit, .r16Addr, 4, 0, .opcodeSet⟩,                            -- 0xFE SET 7 [HL] | - - - -
  ⟨.bit, .r8, 2, 0, .opcodeSet⟩]                                 -- 0xFF SET 7 A | - - - -

set_option maxRecDepth 8000 in
theorem length_instrIndex : instrIndex.length = 256 := rfl

set_option maxRecDepth 8000 in
theorem length_instrIndexCb : instrIndexCb.length = 256 := rfl

def getInstruction (opcode : UInt8) : Instruction :=
  instrIndex.get (opcode.toFin.cast length_instrIndex.symm)

def getInstructionCb (opcode : UInt8) : Instruction :=
  instrIndexCb.get (opcode.toFin.cast length_instrIndexCb.symm)

end ZenithGb
