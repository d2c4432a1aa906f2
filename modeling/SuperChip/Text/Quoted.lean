import SuperChip.Text.Hexadecimal
import SuperChip.Text.Printable

set_option autoImplicit false

namespace SuperChip.Text

/-- A character inside the given quotes. -/
def escaped (quote c : Char) : String :=
  if c = quote then "\\" ++ c.toString
  else if c = '\\' then "\\\\"
  else if c = '\t' then "\\t"
  else if c = '\r' then "\\r"
  else if c = '\n' then "\\n"
  else if c = '\x00' then "\\0"
  else if printable c then c.toString
  else "\\u\x7b" ++ hexadecimal 1 c.toNat ++ "\x7d"

def quoted (text : String) : String :=
  "\"" ++ String.join (text.toList.map (escaped '"')) ++ "\""

def quotedChar (c : Char) : String := "'" ++ escaped '\'' c ++ "'"

end SuperChip.Text
