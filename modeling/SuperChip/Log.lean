import SuperChip.Text.Plain

set_option autoImplicit false

namespace SuperChip

inductive Severity where
  | error
  | warn
  | info
  | debug
  | trace
  deriving DecidableEq, Repr

namespace Severity

def name : Severity → String
  | error => "ERROR"
  | warn => "WARN"
  | info => "INFO"
  | debug => "DEBUG"
  | trace => "TRACE"

/-- The place of a level, the most severe first. -/
def rank : Severity → Nat
  | error => 1
  | warn => 2
  | info => 3
  | debug => 4
  | trace => 5

/-- Whether a log at this level shows records of another level. -/
def shows (level severity : Severity) : Bool := severity.rank ≤ level.rank

end Severity

structure LogRecord where
  severity : Severity
  source : String
  message : String
  deriving DecidableEq, Repr

namespace LogRecord

/-- The spaces in front of every line of a message but the first. -/
def indentation : List Char := List.replicate 4 ' '

/-- A message with its lines indented. -/
def indented (message : String) : String :=
  String.ofList (message.toList.flatMap fun c => if c = '\n' then c :: indentation else [c])

/-- What a log shows of a record; the level is filled up to five letters. -/
def line (record : LogRecord) : String :=
  let name := record.severity.name
  Text.plain ("[" ++ name ++ String.ofList (List.replicate (5 - name.length) ' ') ++ " " ++
    record.source ++ "] " ++ indented record.message ++ "\n")

end LogRecord

end SuperChip
