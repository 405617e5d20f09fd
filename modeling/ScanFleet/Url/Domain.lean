import ScanFleet.Url.Domain.Direction
import ScanFleet.Url.Domain.Joiner
import ScanFleet.Url.Domain.Mapping
import ScanFleet.Url.Punycode

/-! The names of domains, and the form that they have in letters, digits and hyphens.  Characters
that stand for others are replaced and the text is composed; then each label is checked, and one
that is not ASCII throughout is written after the mark `xn--`. -/

namespace ScanFleet.Url.Domain

open Text

/-- Whether no host can hold a character. -/
def isForbiddenInHost (c : Char) : Bool := "\x00\t\n\r #/:<>?@[\\]^|".toList.contains c

/-- Whether no domain can hold a character. -/
def isForbidden (c : Char) : Bool :=
  isForbiddenInHost c || c.toNat < 0x20 || c == '%' || c.toNat == 0x7F

/-- The mark of a label that stands for one with other characters than ASCII. -/
def encodingMark : List Nat := "xn--".toList.map Char.toNat

def isAscii (label : List Nat) : Bool := label.all (· < 0x80)

/-- Whether a label can stand in a domain as it is. -/
def isLabel (label : List Nat) : Bool :=
  label.all isAllowed && !((label.head?.map isMark).getD false) && joinersFit [] label

/-- A label: its characters, and how it is written. -/
structure Label where
  characters : List Nat
  ascii : List Nat
deriving DecidableEq, Repr

/-- The label in a text whose characters have been replaced.  An encoded label has to be just as it
would be if it were not. -/
def Label.read? (text : List Nat) : Option Label :=
  if encodingMark.isPrefixOf text then do
    let label ← Punycode.decode? (text.drop encodingMark.length)
    if isAscii label || Composed.compose label != label || !isLabel label then none
    else some ⟨label, text⟩
  else if !isLabel text then none
  else if isAscii text then some ⟨text, text⟩
  else (Punycode.encode? text).map fun encoded => ⟨text, encodingMark ++ encoded⟩

/-- The labels of a name. -/
def labels? (name : List Char) : Option (List Label) :=
  let text := (Composed.compose (name.flatMap fun c => mapped c.toNat)).map Char.ofNat
  if text.any isForbidden then none
  else (split (· == '.') text).mapM fun label => Label.read? (label.map Char.toNat)

/-- The form of a name in letters, digits and hyphens, if it is the name of a domain. -/
def ascii? (name : List Char) : Option String :=
  (labels? name).bind fun labels =>
    if (labels.any fun l => hasRightToLeft l.characters) &&
        !(labels.all fun l => hasOneDirection l.characters) then none
    else some (".".intercalate (labels.map fun l => String.ofList (l.ascii.map Char.ofNat)))

end ScanFleet.Url.Domain
