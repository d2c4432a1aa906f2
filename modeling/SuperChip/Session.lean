import SuperChip.Run
import SuperChip.Terminal.Pump
import SuperChip.Terminal.Renderer

set_option autoImplicit false

/-!
A session goes on in slices: it takes what was typed since the slice before, makes up for the timer ticks
that have come due, and then for the turns of the run. It holds no clock; a slice is told the time in
milliseconds since the start.
-/

namespace SuperChip

/-- Something a session sends out. -/
inductive Emission where
  | operations (operations : List Terminal.Operation)
  | record (record : LogRecord)
  deriving DecidableEq, Repr

/-- What a machine is played at: a pump for the keypad, a display, a log, and the stop flag. -/
structure Desk where
  pump : Terminal.Pump
  display : Terminal.Display
  /-- Whether the log shows every instruction. -/
  debug : Bool
  stopping : Bool
  /-- What was sent out, latest first. -/
  sent : List Emission
  deriving DecidableEq

namespace Desk

/-- The level of the log. -/
def level (desk : Desk) : Severity := if desk.debug then .debug else .warn

/-- Logs a record, if the log shows records of its level. -/
def log (desk : Desk) (record : LogRecord) : Desk :=
  if desk.level.shows record.severity then { desk with sent := .record record :: desk.sent }
  else desk

/-- Logs an event. The record of one that the log does not show is not made. -/
def report (desk : Desk) (event : Event) : Desk :=
  if desk.level.shows (event.severity desk.debug) then
    { desk with sent := .record (event.record desk.debug) :: desk.sent }
  else desk

theorem report_eq_log (desk : Desk) (event : Event) :
    desk.report event = desk.log (event.record desk.debug) := rfl

def operate (desk : Desk) (operations : List Terminal.Operation) : Desk :=
  { desk with sent := .operations operations :: desk.sent }

def present (desk : Desk) (frame : Frame) : Desk :=
  let (operations, display) := desk.display.present none frame
  { desk with display }.operate operations

/-- Raises the stop flag and ends the input, in this order. -/
def quit (desk : Desk) : Desk :=
  { desk with
    stopping := true
    pump := { desk.pump with keypad := desk.pump.keypad.close } }

/-- One turn of the pump at a millisecond, unless the pump has ended. -/
def poll (desk : Desk) (now : Nat) (poll : Terminal.Poll) : Desk :=
  if desk.stopping then desk
  else
    let clock := now * 1000000
    let (pump, turn, events) := desk.pump.turn poll clock clock
    let desk := events.foldl (fun desk event => desk.log event.record) { desk with pump }
    match turn with
    | .goesOn => desk
    | .quit | .failed => desk.quit

/-- The desk as the host of a run. -/
def host : Host Desk where
  held desk := desk.pump.keypad.isDown
  stopping desk := (desk.stopping, desk)
  wait desk :=
    let (answer, keypad) := desk.pump.keypad.wait
    (answer, { desk with pump := { desk.pump with keypad } })
  notice := report
  present := present

end Desk

/-- A machine at a desk, and how far its run has come. -/
structure Session where
  machine : Machine
  desk : Desk
  /-- How the last slice left the run; nothing before the first one. -/
  ending : Option Ending
  period : Nat
  /-- Milliseconds of pause after each turn. -/
  pace : Nat
  ticked : Nat
  /-- How many turns the run was given. -/
  turned : Nat

namespace Session

def onDesk (session : Session) (change : Desk → Desk) : Session :=
  { session with desk := change session.desk }

def isOver (session : Session) : Bool :=
  match session.ending with
  | none | some .parked | some .unfinished => false
  | some _ => true

/-- Sets a machine up to be played, with its timers started. -/
def start (machine : Machine) (desk : Desk) (period pace : Nat) : Session :=
  let desk := desk.report (.timersStarted (period * 1000000))
  ⟨machine, desk.operate Terminal.Renderer.opening, none, period, pace, 0, 0⟩

/-- One timer tick, with the bell if the sound runs out. -/
def tick (session : Session) : Session :=
  let (machine, beep) := session.machine.tick
  let session := { session with machine, ticked := session.ticked + 1 }
  if beep then
    session.onDesk fun desk =>
      (desk.report .soundExpired).operate [.bell]
  else session

def ticks : Nat → Session → Session
  | 0, session => session
  | count + 1, session => ticks count session.tick

def catchUp (session : Session) (now : Nat) : Session :=
  session.ticks (now / session.period - session.ticked)

/-- Turns in a millisecond of a run without pauses. -/
def turnsPerMillisecond : Nat := 1000

/-- How many turns a run is given up to the millisecond `now`. -/
def turnsUntil (session : Session) (now : Nat) : Nat :=
  if session.pace = 0 then turnsPerMillisecond * (now + 1) else now / session.pace + 1

/-- At most `count` turns of the run, from where the last slice left it. -/
def proceed (session : Session) (count : Nat) : Session :=
  let (desk, machine, ending) :=
    match session.ending with
    | none => session.machine.run Desk.host count session.desk
    | some .parked => session.machine.wake Desk.host count session.desk
    | some .unfinished => session.machine.turns Desk.host count session.desk
    | some ending => (session.desk, session.machine, ending)
  { session with machine, desk, ending := some ending, turned := session.turned + count }

/-- A slice: what was typed, and what has come due at a time. -/
def slice (session : Session) (now : Nat) (polls : List Terminal.Poll) : Session :=
  let listened := session.onDesk fun desk => polls.foldl (·.poll now) desk
  (listened.catchUp now).proceed (session.turnsUntil now - session.turned)

/-- Gives the terminal back and stops the timers. -/
def finish (session : Session) : Session :=
  session.onDesk fun desk =>
    (desk.quit.operate Terminal.Renderer.closing).report .timersStopped

def sent (session : Session) : List Emission := session.desk.sent.reverse

/-- Takes what was sent out off the session. -/
def collect (session : Session) : List Emission × Session :=
  (session.sent, session.onDesk fun desk => { desk with sent := [] })

/-- The millisecond in which somebody types, all at once, behind the first picture. -/
def typingTime : Nat := 10

/-- Plays a session for so many milliseconds from the time `now` on, with an input that comes in the
millisecond of typing. -/
def play : Nat → Nat → List Terminal.Poll → Session → Session
  | 0, _, _, session => session
  | remaining + 1, now, typed, session =>
    if session.isOver then session
    else
      let polls := if now = typingTime then typed else []
      play remaining (now + 1) typed (session.slice now (.idle :: polls))

end Session

end SuperChip
