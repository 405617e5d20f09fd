import ScanFleet.Text.Blank

/-! Labels of a domain in letters, digits and hyphens (Punycode).  The ASCII characters of a label
come first.  After a hyphen numbers follow, one for each other character in the order of their code
points: how many steps it takes from the character before to this one, where a step goes to the next
place in the label, and from the last place to the first one with the next code point.  A number is
written in base 36 with the least digit first; a digit below a threshold ends it. -/

namespace ScanFleet.Url.Punycode

open Text

/-- The threshold at the position `k`, which counts in steps of 36. -/
def threshold (bias k : Nat) : Nat := max 1 (min 26 (k - bias))

theorem threshold_pos (bias k : Nat) : 1 ≤ threshold bias k := by unfold threshold; omega

/-- The bias for numbers of about the size of `delta`. -/
def settle (k delta : Nat) : Nat :=
  if 455 < delta then settle (k + 36) (delta / 35) else k + 36 * delta / (delta + 38)
termination_by delta

/-- The bias after a number in a label that has become `count` long. -/
def adapt (delta count : Nat) (isFirst : Bool) : Nat :=
  let delta := if isFirst then delta / 700 else delta / 2
  settle 0 (delta + delta / count)

/-- The bias for the first number. -/
def firstBias : Nat := 72

/-- The code point before which all are ASCII. -/
def firstOther : Nat := 0x80

def digitText (d : Nat) : Nat := if d < 26 then 0x61 + d else 0x30 + (d - 26)

def digit? (c : Nat) : Option Nat :=
  if 0x61 ≤ c && c ≤ 0x7A then some (c - 0x61)
  else if 0x30 ≤ c && c ≤ 0x39 then some (c - 0x30 + 26)
  else none

/-- The digits of a number from the position `k` on. -/
def number (bias k n : Nat) : List Nat :=
  let t := threshold bias k
  if n < t then [digitText n]
  else digitText (t + (n - t) % (36 - t)) :: number bias (k + 36) ((n - t) / (36 - t))
termination_by n
decreasing_by
  have := threshold_pos bias k
  exact Nat.lt_of_le_of_lt (Nat.div_le_self _ _) (by omega)

/-- A label while it is written: the numbers so far, the steps since the last one, the bias, and the
count of characters that are done. -/
structure Writing where
  numbers : List Nat
  steps : Nat
  bias : Nat
  count : Nat

/-- Goes past a character of the label; one with the code point `n` is written. -/
def Writing.pass (ascii n : Nat) (w : Writing) (c : Nat) : Writing :=
  if c < n then { w with steps := w.steps + 1 }
  else if c = n then
    { numbers := w.numbers ++ number w.bias 36 w.steps
      steps := 0
      bias := adapt w.steps (w.count + 1) (w.count = ascii)
      count := w.count + 1 }
  else w

/-- Writes the characters with the code points of an ascending list; `n` is the one to go on
from. -/
def Writing.passAll (label : List Nat) (ascii n : Nat) (w : Writing) : List Nat → Writing
  | [] => w
  | next :: rest =>
    let w := { w with steps := w.steps + (next - n) * (w.count + 1) }
    let w := label.foldl (Writing.pass ascii next) w
    Writing.passAll label ascii (next + 1) { w with steps := w.steps + 1 } rest

/-- An ascending list without repetitions with a number put into it. -/
def insertNew (n : Nat) : List Nat → List Nat
  | [] => [n]
  | m :: rest =>
    if n < m then n :: m :: rest else if n = m then m :: rest else m :: insertNew n rest

/-- The longest labels that are written and read. -/
def maxLabel : Nat := 1000

/-- The text of a label that is not ASCII throughout. -/
def encode? (label : List Nat) : Option (List Nat) :=
  let ascii := label.filter (· < firstOther)
  let others := (label.filter (firstOther ≤ ·)).foldr insertNew []
  let w := Writing.passAll label ascii.length firstOther ⟨[], 0, firstBias, ascii.length⟩ others
  if maxLabel < label.length then none
  else some (ascii ++ (if ascii.isEmpty then [] else [0x2D]) ++ w.numbers)

/-- The sum of `n` and the number whose digits stand in a text from the position `k` on, where a
digit counts `weight`, and what follows it. -/
def number? (bias k weight n : Nat) : List Nat → Option (Nat × List Nat)
  | [] => none
  | c :: rest =>
    let t := threshold bias k
    match digit? c with
    | none => none
    | some d =>
      if d < t then some (n + d * weight, rest)
      else number? bias (k + 36) (weight * (36 - t)) (n + d * weight) rest

/-- A label with the characters put in that numbers stand for; `n` is the last code point and `i`
the place behind it. -/
def insertAll (fuel bias n i : Nat) (label : List Nat) (cs : List Nat) : Option (List Nat) :=
  match fuel, cs with
  | _, [] => some label
  | 0, _ => none
  | fuel + 1, cs =>
    match number? bias 36 1 i cs with
    | none => none
    | some (steps, rest) =>
      let count := label.length + 1
      let n := n + steps / count
      let place := steps % count
      if n.isValidChar then
        insertAll fuel (adapt (steps - i) count (i = 0)) n (place + 1) (label.insertIdx place n)
          rest
      else none

/-- The ASCII characters of a text, which end at its last hyphen, and the numbers. -/
def halves (cs : List Nat) : List Nat × List Nat :=
  let numbers := (cs.reverse.takeWhile (· ≠ 0x2D)).reverse
  match cs.take (cs.length - numbers.length - 1) with
  | [] => ([], cs)
  | ascii => (ascii, numbers)

/-- The label that a text stands for. -/
def decode? (cs : List Nat) : Option (List Nat) :=
  let (ascii, numbers) := halves cs
  if 2 * maxLabel < cs.length || ascii.any (firstOther ≤ ·) then none
  else insertAll (numbers.length + 1) firstBias firstOther 0 ascii numbers

end ScanFleet.Url.Punycode
