import ScanFleet.Text.Invisible

/-! Quoted text for diagnostics.  A quotation mark and a backslash are escaped by a backslash, the
usual control characters by their letter, and other characters that leave no mark on paper by the
number of their code point. -/

namespace ScanFleet.Text

/-- One character between quotation marks. -/
def quoteChar (c : Char) : String :=
  if c == '"' then "\\\""
  else if c == '\\' then "\\\\"
  else if c == '\t' then "\\t"
  else if c == '\n' then "\\n"
  else if c == '\r' then "\\r"
  else if c == '\x00' then "\\0"
  else if isInvisible c then "\\u\x7b" ++ digitsOf 16 c.toNat ++ "\x7d"
  else c.toString

/-- A text between quotation marks. -/
def quoted (s : String) : String :=
  "\"" ++ String.join (s.toList.map quoteChar) ++ "\""

end ScanFleet.Text
