import SuperChip.Log
import SuperChip.Terminal.Keystroke

set_option autoImplicit false

/-!
The pump that feeds the keypad from the terminal. Terminals tell of presses but seldom of releases,
so a key counts as held for a fixed time after its last press. Each turn of the pump takes at most
one event and then lets go of the keys whose time is up. A turn reads the clock twice, when a key
was pressed and when it sweeps; the pump keeps no clock of its own. Times are in nanoseconds.
-/

namespace SuperChip.Terminal

/-- What a turn of the pump finds at the terminal. -/
inductive Poll where
  | idle
  | stroke (stroke : Keystroke)
  /-- Something else than a keystroke happened. -/
  | other
  /-- The terminal could not be read. -/
  | failed
  deriving DecidableEq, Repr

/-- The keypad and, for each key held, when it is to be let go. -/
structure Pump where
  keypad : Keypad
  deadlines : Vector (Option Nat) 16
  deriving DecidableEq

inductive PumpTurn where
  | goesOn
  | quit
  | failed
  deriving DecidableEq, Repr

/-- What a turn meets: the stop flag as the turn begins, what is at the terminal, and the clock when a
key was pressed and when the turn sweeps. -/
structure Occasion where
  stopping : Bool
  poll : Poll
  pressed : Nat
  swept : Nat
  deriving DecidableEq, Repr

/-- How the pump ends. -/
inductive PumpEnd where
  /-- The stop flag was up. -/
  | stopped
  | quit
  /-- The terminal could not be read. -/
  | failed
  deriving DecidableEq, Repr

inductive PumpEvent where
  | quitRequested
  | unmapped (c : Char)
  deriving DecidableEq, Repr

def PumpEvent.record : PumpEvent → LogRecord
  | quitRequested => ⟨.info, "schip::input", "Quit requested"⟩
  | unmapped c => ⟨.debug, "schip::input", "Unmapped key " ++ Text.quotedChar c⟩

namespace Pump

/-- How long a key counts as held after its last press: 150 milliseconds. -/
def holdTime : Nat := 150 * 1000000

/-- How long a turn waits for an event: 10 milliseconds. -/
def pollTime : Nat := 10 * 1000000

def fresh (keypad : Keypad) : Pump := ⟨keypad, Vector.replicate 16 none⟩

/-- Presses a key and sets the time to let it go. -/
def press (pump : Pump) (key : Key) (now : Nat) : Pump :=
  ⟨pump.keypad.press key, pump.deadlines.set key.val (some (now + holdTime)) key.val_lt⟩

def due (pump : Pump) (now : Nat) (key : Key) : Bool :=
  match pump.deadlines.get key with
  | some deadline => deadline ≤ now
  | none => false

def letGo (pump : Pump) (key : Key) : Pump :=
  ⟨pump.keypad.release key, pump.deadlines.set key.val none key.val_lt⟩

/-- Lets go of every key whose time is up. -/
def sweep (pump : Pump) (now : Nat) : Pump :=
  (List.finRange 16).foldl (fun pump key => if pump.due now key then pump.letGo key else pump) pump

/-- One turn. A stroke that quits and a terminal that fails end it at once, and a release goes back
to the terminal without a sweep. -/
def turn (pump : Pump) (poll : Poll) (pressed swept : Nat) : Pump × PumpTurn × List PumpEvent :=
  match poll with
  | .failed => (pump, .failed, [])
  | .idle | .other => (pump.sweep swept, .goesOn, [])
  | .stroke stroke =>
    if stroke.isQuit then (pump, .quit, [.quitRequested])
    else if stroke.kind = .release then (pump, .goesOn, [])
    else
      match stroke.code with
      | .char c =>
        match Key.ofChar? c with
        | some key => ((pump.press key pressed).sweep swept, .goesOn, [])
        | none => (pump.sweep swept, .goesOn, [.unmapped c])
      | _ => (pump.sweep swept, .goesOn, [])

/-- The turns of the pump, until one of them finds the stop flag up, or ends: what the pump has become,
and how it ended, if it has. -/
def run (pump : Pump) : List Occasion → Pump × Option PumpEnd
  | [] => (pump, none)
  | occasion :: rest =>
    if occasion.stopping then (pump, some .stopped)
    else
      match pump.turn occasion.poll occasion.pressed occasion.swept with
      | (next, .goesOn, _) => next.run rest
      | (next, .quit, _) => (next, some .quit)
      | (next, .failed, _) => (next, some .failed)

end Pump

end SuperChip.Terminal
