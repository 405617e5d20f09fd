import ScanFleet.Text.Numeral

/-! Percent encoding.  Each part of a URL has its own set of characters that are written by the
bytes of their encoding; what is not ASCII, and a control character, is written so in every part. -/

namespace ScanFleet.Url

open Text

/-- The parts of a URL that differ in what they may hold. -/
inductive Part where
  | host
  | fragment
  | query
  /-- The query of a URL whose scheme is one of the web's own. -/
  | specialQuery
  | path
  | userinfo
deriving DecidableEq, Repr

/-- The printable characters that a part cannot hold. -/
def Part.excluded : Part → List Char
  | .host => []
  | .fragment => " \"<>\x60".toList
  | .query => " \"#<>".toList
  | .specialQuery => " \"#<>'".toList
  | .path => " \"<>\x60#?\x7b\x7d".toList
  | .userinfo => " \"<>\x60#?\x7b\x7d/:;=@[\\]^|".toList

/-- Whether a character is written by its bytes. -/
def Part.encodes (p : Part) (c : Char) : Bool :=
  c.toNat < 0x20 || 0x7F ≤ c.toNat || p.excluded.contains c

/-- A byte with two digits. -/
def byteText (b : UInt8) : String :=
  "%" ++ (if b.toNat < 16 then "0" else "") ++ (digitsOf 16 b.toNat).toUpper

def encodeChar (p : Part) (c : Char) : String :=
  if p.encodes c then String.join ((String.utf8EncodeChar c).map byteText) else c.toString

def encode (p : Part) (cs : List Char) : String := String.join (cs.map (encodeChar p))

/-- The bytes that a text stands for; a percent sign without two digits after it is itself. -/
def decode : List Char → List UInt8
  | '%' :: a :: b :: rest =>
    match naturalIn? 16 [a, b] with
    | some n => UInt8.ofNat n :: decode rest
    | none => String.utf8EncodeChar '%' ++ decode (a :: b :: rest)
  | c :: rest => String.utf8EncodeChar c ++ decode rest
  | [] => []

/-- The text of percent-encoded UTF-8, if it is well formed. -/
def decodeText? (s : String) : Option String :=
  String.fromUTF8? ⟨(decode s.toList).toArray⟩

end ScanFleet.Url
