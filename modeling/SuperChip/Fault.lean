import SuperChip.Text.Hexadecimal
import SuperChip.Word

set_option autoImplicit false

namespace SuperChip

/-- Why a machine halted, or why it could not be built. The first four halt a running machine; the
others refuse a program or a font before any instruction runs. -/
inductive MachineError where
  | stackOverflow (pc : UInt16)
  | stackUnderflow (pc : UInt16)
  | illegalWord (word : Word) (pc : UInt16)
  | flowGuard (pc : UInt16)
  | programTooLarge (size limit : Nat)
  | programEmpty
  | fontSize (size expected : Nat)
  deriving DecidableEq, Repr

namespace MachineError

def message : MachineError → String
  | stackOverflow pc =>
    "stack overflow: call with 16 return addresses already pushed at 0x" ++
      Text.hexadecimal 3 pc.toNat
  | stackUnderflow pc =>
    "stack underflow: return with an empty stack at 0x" ++ Text.hexadecimal 3 pc.toNat
  | illegalWord word pc =>
    "illegal opcode 0x" ++ Text.hexadecimal 4 word.toNat ++ " at 0x" ++
      Text.hexadecimal 3 pc.toNat
  | flowGuard pc =>
    "program counter ran past addressable memory (0x" ++ Text.hexadecimal 4 pc.toNat ++ ")"
  | programTooLarge size limit =>
    "ROM is " ++ size.repr ++ " bytes, the program area holds at most " ++ limit.repr ++ " bytes"
  | programEmpty => "ROM is empty"
  | fontSize size expected =>
    "font sprite must be " ++ expected.repr ++ " bytes, got " ++ size.repr

end MachineError

/-- The record of a halt: its cause, the word fetched last, and where it was fetched from. -/
structure Fault where
  error : MachineError
  word : Word
  pc : UInt16
  deriving DecidableEq, Repr

namespace Fault

def message (fault : Fault) : String :=
  fault.error.message ++ " (last opcode 0x" ++ Text.hexadecimal 4 fault.word.toNat ++ " at 0x" ++
    Text.hexadecimal 3 fault.pc.toNat ++ ")"

end Fault

end SuperChip
