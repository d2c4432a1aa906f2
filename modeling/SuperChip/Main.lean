import SuperChip.CommandLine

set_option autoImplicit false

/-!
The terminal hands over what is typed line by line, and the program leaves once the line it waits for
has come or the input has ended.
-/

namespace SuperChip.Program

/-- The number of a system error, which is negative on some of its ways here. -/
def errorNumber (code : UInt32) : Nat :=
  if code < 0x80000000 then code.toNat else UInt32.size - code.toNat

/-- Why the operating system could not read a file. -/
def fileError : IO.Error → FileError
  | .noFileOrDirectory _ code details | .interrupted _ code details
  | .alreadyExists _ code details | .invalidArgument _ code details
  | .permissionDenied _ code details | .resourceExhausted _ code details
  | .inappropriateType _ code details | .noSuchThing _ code details | .otherError code details
  | .resourceBusy code details | .resourceVanished code details
  | .unsupportedOperation code details | .hardwareFault code details
  | .unsatisfiedConstraints code details | .illegalOperation code details
  | .protocolError code details | .timeExpired code details =>
    let number := errorNumber code
    (FileError.ofNumber? number).getD (.other (FileError.numbered details number))
  | error => .other (toString error)

def readFile (path : String) : IO (Except FileError (Array UInt8)) := do
  match ← (IO.FS.readBinFile path).toBaseIO with
  | .ok bytes => return .ok bytes.data
  | .error error => return .error (fileError error)

/-- Sends emissions to where they belong. -/
def send (emissions : List Emission) : IO Unit := do
  let output ← IO.getStdout
  for emission in emissions do
    match emission with
    | .operations operations =>
      output.putStr (Terminal.text operations)
      output.flush
    | .record record => IO.eprint record.line

/-- Puts aside what is typed, without the ends of the lines, until the input ends. -/
partial def listen (typed : IO.Ref (List Char)) : IO Unit := do
  let line ← (← IO.getStdin).getLine
  unless line.isEmpty do
    typed.modify (· ++ line.toList.filter (· != '\n'))
    listen typed

/-- Plays a session by the clock until its run is over. -/
partial def play (typed : IO.Ref (List Char)) (start : Nat) (session : Session) : IO Session := do
  let now ← IO.monoMsNow
  let polls := Terminal.Poll.ofText (← typed.swap [])
  let (emissions, session) :=
    (session.slice (now - start) (.idle :: polls)).collect
  send emissions
  if session.isOver then return session
  else
    IO.sleep 1
    play typed start session

/-- Runs the program with the given options. -/
def run (options : Options) : IO UInt32 := do
  let program ← readFile options.program
  let font ← options.font.mapM readFile
  let chance ← IO.getRandomBytes 8
  let read (path : String) : Except FileError (Array UInt8) :=
    if path = options.program then program else font.getD (.error .missing)
  match CommandLine.setUp read chance.toUInt64LE! options with
  | .error (desk, failure) =>
    send desk.sent.reverse
    IO.eprint failure.report
    return 1
  | .ok session =>
    let typed ← IO.mkRef []
    let _ ← IO.asTask (listen typed) Task.Priority.dedicated
    let (session, failure) := CommandLine.conclude (← play typed (← IO.monoMsNow) session)
    send session.sent
    match failure with
    | some failure =>
      IO.eprint failure.report
      return 1
    | none => return 0

end SuperChip.Program

def main (arguments : List String) : IO UInt32 := do
  match SuperChip.Arguments.parse arguments with
  | .ok options => SuperChip.Program.run options
  | .error error =>
    let refusal := SuperChip.CommandLine.refusal error
    IO.print refusal.output
    IO.eprint refusal.errors
    return refusal.exitCode
