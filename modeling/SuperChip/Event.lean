import SuperChip.Dispatch
import SuperChip.Log
import SuperChip.Text.Period

set_option autoImplicit false

namespace SuperChip

/-- Something that happened to a machine. -/
inductive Event where
  | loaded (size : Nat)
  | built (mode : Mode) (strategy : Strategy) (policy : Wrap) (compatibility : Compatibility)
  /-- An instruction was fetched and is about to run. -/
  | fetched (pc : UInt16) (word : Word) (mnemonic : Mnemonic)
  | exited (pc : UInt16)
  | halted (fault : Fault)
  /-- A key was waited for and none will come. -/
  | keypadClosed
  /-- The timers began to tick, with so many nanoseconds between ticks. -/
  | timersStarted (period : Nat)
  | soundExpired
  | timersStopped
  deriving DecidableEq, Repr

namespace Event

/-- The part of the program that reports loading. -/
def stateSource : String := "schip_core::state"

/-- The part of the program that reports on the timers. -/
def timerSource : String := "schip_core::timer"

/-- The part of the program that reports everything else about a machine. -/
def machineSource : String := "schip_core::chip8"

/-- How severe an event is. A verbose machine reports its instructions one level higher. -/
def severity (verbose : Bool) : Event → Severity
  | fetched .. => if verbose then .debug else .trace
  | soundExpired => .debug
  | halted _ => .error
  | _ => .info

def source : Event → String
  | loaded _ => stateSource
  | timersStarted _ | soundExpired | timersStopped => timerSource
  | _ => machineSource

def message : Event → String
  | loaded size => "Loaded ROM [size: " ++ size.repr ++ "]"
  | built mode strategy policy compatibility =>
    "Built machine [mode: " ++ mode.name ++ ", strategy: " ++ strategy.name ++ ", wrap: " ++
      policy.name ++ ", quirks: " ++ compatibility.text ++ "]"
  | fetched pc word mnemonic =>
    "0x" ++ Text.hexadecimal 3 pc.toNat ++ ": 0x" ++ Text.hexadecimal 4 word.toNat ++ " " ++
      mnemonic.name
  | exited pc => "Program exited [pc: 0x" ++ Text.hexadecimal 3 pc.toNat ++ "]"
  | halted fault => "Halted: " ++ fault.message
  | keypadClosed => "Keypad closed while waiting for a key"
  | timersStarted period => "Started timer service [period: " ++ Text.period period ++ "]"
  | soundExpired => "Sound timer expired"
  | timersStopped => "Stopped timer service"

def record (verbose : Bool) (event : Event) : LogRecord :=
  ⟨event.severity verbose, event.source, event.message⟩

end Event

end SuperChip
