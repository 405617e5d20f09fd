import ScanFleet.Text.CodePoints

/-! Maps from code points to short texts.  A table of a map is written in hexadecimal, one word a
rule.  `A8=20.308` gives one code point, or a range of them, an image; `41-5A+61` gives a range the
range that begins with the image; `100-12E*101` does the same for every second code point; and
`132:133.131` lists the images of the code points from the first one on. -/

namespace ScanFleet.Text

/-- A rule of a map. -/
inductive ImageRule where
  | same (first last : Nat) (image : List Nat)
  /-- Images as far apart as the code points, of which every one or every second has one. -/
  | shifted (first last step image : Nat)
  | listed (first : Nat) (images : List Nat)
deriving DecidableEq, Repr

/-- The image of a code point under a rule. -/
def ImageRule.image? (n : Nat) : ImageRule → Option (List Nat)
  | .same first last image => if first ≤ n && n ≤ last then some image else none
  | .shifted first last step image =>
    let distance := n - first
    if first ≤ n && n ≤ last && distance % step == 0 then some [image + distance] else none
  | .listed first images => if first ≤ n then images[n - first]?.map ([·]) else none

/-- The first code point that a rule is for. -/
def ImageRule.first : ImageRule → Nat
  | .same first .. => first
  | .shifted first .. => first
  | .listed first _ => first

/-- A map from code points to texts, whose rules ascend. -/
abbrev CodePointMap := List ImageRule

namespace CodePointMap

/-- Numbers between points; there may be none. -/
def numbers? (cs : List Char) : Option (List Nat) :=
  if cs.isEmpty then some [] else (split (· == '.') cs).mapM (naturalIn? 16)

/-- The rule that one word of a table stands for. -/
def rule? (cs : List Char) : Option ImageRule :=
  match splitAt '=' cs, splitAt '+' cs, splitAt '*' cs, splitAt ':' cs with
  | some (range, image), _, _, _ => do
    let (first, last) ← CodePoints.range? range
    return .same first last (← numbers? image)
  | _, some (range, image), _, _ => do
    let (first, last) ← CodePoints.range? range
    return .shifted first last 1 (← naturalIn? 16 image)
  | _, _, some (range, image), _ => do
    let (first, last) ← CodePoints.range? range
    return .shifted first last 2 (← naturalIn? 16 image)
  | _, _, _, some (first, images) => do
    return .listed (← naturalIn? 16 first) (← numbers? images)
  | _, _, _, _ => none

/-- The map in the lines of a table. -/
def ofTable (lines : List String) : CodePointMap :=
  lines.flatMap fun line => (words line.toList).filterMap rule?

/-- The image of a code point, if it has one. -/
def image? : CodePointMap → Nat → Option (List Nat)
  | [], _ => none
  | r :: rest, n => if n < r.first then none else ImageRule.image? n r <|> image? rest n

end CodePointMap

end ScanFleet.Text
