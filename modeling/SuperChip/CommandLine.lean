import SuperChip.Arguments
import SuperChip.Files.Tree
import SuperChip.Session
import SuperChip.Terminal.Input

set_option autoImplicit false

namespace SuperChip

/-- The text of a status in the report of a run. -/
def Status.text : Status → String
  | running => "Running"
  | awaitingKey x => "AwaitingKey \x7b register: " ++ x.val.repr ++ " \x7d"
  | halted fault => "Halted(" ++ fault.message ++ ")"
  | exited => "Exited"

namespace CommandLine

/-- Why the program fails. -/
inductive Failure where
  /-- The timers are to tick without a pause. -/
  | zeroPeriod
  | unreadableProgram (path : String) (error : FileError)
  | unreadableFont (path : String) (error : FileError)
  | unbuildable (error : MachineError)
  | halted (fault : Fault)
  deriving DecidableEq, Repr

namespace Failure

def heading : Failure → String
  | zeroPeriod => "Timer period must be at least 1 ms"
  | unreadableProgram path _ => "Failed to read ROM file " ++ path
  | unreadableFont path _ => "Failed to read font file " ++ path
  | unbuildable _ => "Failed to load program"
  | halted _ => "Program halted"

def causes : Failure → List String
  | zeroPeriod => []
  | unreadableProgram _ error => [error.message]
  | unreadableFont _ error => [error.message]
  | unbuildable error => [error.message]
  | halted fault => [fault.message, fault.error.message]

/-- Causes with their numbers. -/
def numbered (causes : List String) : List String :=
  causes.zipIdx.map fun (cause, number) => number.repr ++ ": " ++ cause

/-- The heading and the causes behind it, the nearest first. Several causes are numbered. -/
def report (failure : Failure) : String :=
  let lines :=
    match failure.causes with
    | [cause] => [cause]
    | causes => numbered causes
  "Error: " ++ failure.heading ++ "\n" ++
    (if lines.isEmpty then ""
      else "\nCaused by:\n" ++ String.join (lines.map fun line => "    " ++ line ++ "\n"))

end Failure

/-- What a run of the program leaves. -/
structure Transcript where
  exitCode : UInt32
  /-- What was printed on the terminal. -/
  output : String
  /-- The log and the report of a failure. -/
  errors : String
  deriving DecidableEq, Repr

/-- The part of the program that reports on the program as a whole. -/
def source : String := "schip"

/-- A desk for a session with the given options. -/
def desk (options : Options) : Desk where
  pump := .fresh .empty
  display := .fresh (options.foreground.getD .white) (options.background.getD .black)
  debug := options.debug
  stopping := false
  sent := []

/-- The machine that the options ask for. Without a seed its random words hang on `chance`. -/
def configuration (options : Options) (chance : UInt64) (program : Array UInt8)
    (font : Option (Array UInt8)) : Configuration where
  program
  font
  mode := options.mode
  policy := if options.clip then .clip else .wrap
  strategy := options.strategy
  seed := options.seed
  source := .standard chance

/-- Sets a session up. The desk comes along with a failure, because it holds the log. -/
def setUp (read : String → Except FileError (Array UInt8)) (chance : UInt64)
    (options : Options) : Except (Desk × Failure) Session := do
  let desk := desk options
  if options.period = 0 then throw (desk, .zeroPeriod)
  let program ← (read options.program).mapError (desk, .unreadableProgram options.program ·)
  let desk := desk.log ⟨.info, source,
    "Read ROM " ++ options.program ++ " [size: " ++ program.size.repr ++ "]"⟩
  let font ←
    match options.font with
    | none => pure none
    | some path => some <$> (read path).mapError (desk, .unreadableFont path ·)
  let (machine, events) ←
    (Machine.build (configuration options chance program font)).mapError (desk, .unbuildable ·)
  let desk := events.foldl Desk.report desk
  return .start machine desk options.period options.pace

/-- The log records on a machine that halted. -/
def autopsy (state : State) (fault : Fault) : List LogRecord :=
  let registers := state.registers.toList.map UInt8.toNat
  let stack := state.stack.toList.map UInt16.toNat
  [⟨.error, source, "Machine halted: " ++ fault.message⟩,
    ⟨.error, source, "Registers: " ++ Text.hexadecimalList 2 registers⟩,
    ⟨.error, source, "I: 0x" ++ Text.hexadecimal 3 state.index.toNat ++ " SP: " ++
      stack.length.repr ++ " Stack: " ++ Text.hexadecimalList 3 stack⟩]

/-- Ends a session, and tells of the failure if its machine has just failed. -/
def conclude (session : Session) : Session × Option Failure :=
  let session := session.finish
  match session.ending, session.machine.fault? with
  | some (.failed _), some fault =>
    (session.onDesk fun desk => (autopsy session.machine.state fault).foldl Desk.log desk,
      some (.halted fault))
  | _, _ =>
    (session.onDesk (·.log ⟨.info, source, "Stopped in " ++ session.machine.status.text⟩), none)

/-- What emissions print on the terminal. -/
def outputOf (emissions : List Emission) : String :=
  String.join (emissions.map fun
    | .operations operations => Terminal.text operations
    | .record _ => "")

/-- What emissions write into the log. -/
def errorsOf (emissions : List Emission) : String :=
  String.join (emissions.map fun
    | .operations _ => ""
    | .record record => record.line)

/-- What is left of a run with these emissions, if it failed or not. -/
def transcript (emissions : List Emission) (failure : Option Failure) : Transcript where
  exitCode := if failure.isSome then 1 else 0
  output := outputOf emissions
  errors := errorsOf emissions ++ (failure.map Failure.report).getD ""

/-- What the program says about a command line it cannot follow. -/
def refusal (error : ArgumentError) : Transcript :=
  let text := error.message ++ "\n"
  ⟨error.exitCode, if error.isAnswer then text else "", if error.isAnswer then "" else text⟩

/-- Milliseconds that a session is played for at most. -/
def patience : Nat := 60000

/-- Runs the program while somebody types at it. -/
def run (read : String → Except FileError (Array UInt8)) (chance : UInt64)
    (arguments : List String) (typed : String) : Transcript :=
  match Arguments.parse arguments with
  | .error error => refusal error
  | .ok options =>
    match setUp read chance options with
    | .error (desk, failure) => transcript desk.sent.reverse (some failure)
    | .ok session =>
      let polls := Terminal.Poll.ofText typed.toList
      let (session, failure) := conclude (session.play patience 0 polls)
      transcript session.sent failure

end CommandLine

end SuperChip
