import ScanFleet.Data.Value
import ScanFleet.Decimal.Shortest
import ScanFleet.Text.Numeral

/-! Writing JSON without blanks.  Doubles are written with the fewest digits that read back, in
positional notation from `1e-5` up to below `1e16`. -/

namespace ScanFleet.Json

open Text

/-- How doubles are written. -/
def floatLayout : Decimal.Layout := ⟨-5, 15, "e"⟩

/-- One character of a string. -/
def charText (c : Char) : String :=
  if c == '"' then "\\\""
  else if c == '\\' then "\\\\"
  else if c == '\n' then "\\n"
  else if c == '\r' then "\\r"
  else if c == '\t' then "\\t"
  else if c == '\x08' then "\\b"
  else if c == '\x0c' then "\\f"
  else if c.toNat < 0x20 then "\\u00" ++ (if c.toNat < 16 then "0" else "") ++ digitsOf 16 c.toNat
  else c.toString

def stringText (s : String) : String := "\"" ++ String.join (s.toList.map charText) ++ "\""

mutual

/-- The text of a value, where `float` gives the text of a double. -/
def textWith (float : Float → String) : Data → String
  | .null => "null"
  | .bool b => if b then "true" else "false"
  | .int n => toString n
  | .float x => float x
  | .text s => stringText s
  | .unpaired => "null"
  | .list items => "[" ++ itemsText float true items ++ "]"
  | .record members => "\x7b" ++ membersText float true members ++ "\x7d"
  | .nameless d => textWith float d
  | .broken => "null"

def itemsText (float : Float → String) (isFirst : Bool) : List Data → String
  | [] => ""
  | d :: ds => (if isFirst then "" else ",") ++ textWith float d ++ itemsText float false ds

def membersText (float : Float → String) (isFirst : Bool) : List (String × Data) → String
  | [] => ""
  | (name, d) :: ms =>
    (if isFirst then "" else ",") ++ stringText name ++ ":" ++ textWith float d ++
      membersText float false ms

end

/-- The text of a value. -/
def text (d : Data) : String :=
  textWith (fun x => if x.isFinite then Decimal.shortText floatLayout x else "null") d

end ScanFleet.Json
