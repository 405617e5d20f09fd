import ScanFleet.Url.Address
import ScanFleet.Url.Percent

/-! URLs in the form of the web standard, and their text. -/

namespace ScanFleet

open Url

/-- The host of a URL.  One of a scheme that is not the web's own is kept as it is written. -/
inductive Host where
  | domain (name : String)
  | address (a : Address)
  | written (name : String)
deriving DecidableEq, Repr

def Host.text : Host → String
  | .domain name => name
  | .address (.v4 n) => dotted n
  | .address (.v6 pieces) => "[" ++ compressed pieces ++ "]"
  | .written name => name

def Host.isEmpty : Host → Bool
  | .domain name => name.isEmpty
  | .address _ => false
  | .written name => name.isEmpty

/-- Who is asked for a resource.  The port is absent where it is the scheme's usual one. -/
structure Authority where
  username : String
  password : String
  host : Host
  port : Option Nat
deriving DecidableEq, Repr

/-- A path from the root, or, where there is none, the text after the scheme. -/
inductive UrlPath where
  | segments (names : List String)
  | rootless (text : String)
deriving DecidableEq, Repr

/-- A URL. -/
structure Url where
  scheme : String
  authority : Option Authority
  path : UrlPath
  query : Option String
  fragment : Option String
deriving DecidableEq, Repr

/-- Why a text is no URL. -/
inductive UrlError where
  | relative
  | emptyHost
  | invalidPort
  | invalidIpv4
  | invalidIpv6
  | invalidDomainCharacter
  | invalidDomain
deriving DecidableEq, Repr

def UrlError.message : UrlError → String
  | .relative => "relative URL without a base"
  | .emptyHost => "empty host"
  | .invalidPort => "invalid port number"
  | .invalidIpv4 => "invalid IPv4 address"
  | .invalidIpv6 => "invalid IPv6 address"
  | .invalidDomainCharacter => "invalid domain character"
  | .invalidDomain => "invalid international domain name"

/-- The user name and the password, with the sign after them. -/
def Authority.userinfo (a : Authority) : String :=
  if a.username.isEmpty && a.password.isEmpty then ""
  else a.username ++ (if a.password.isEmpty then "" else ":" ++ a.password) ++ "@"

def Authority.text (a : Authority) : String :=
  a.userinfo ++ a.host.text ++
    match a.port with
    | some port => ":" ++ toString port
    | none => ""

def UrlPath.text : UrlPath → String
  | .segments names => String.join (names.map ("/" ++ ·))
  | .rootless text => text

/-- A path that would be taken for an authority is marked as a path. -/
def Url.pathText (u : Url) : String :=
  match u.authority, u.path with
  | none, .segments ("" :: _ :: _) => "/." ++ u.path.text
  | _, _ => u.path.text

def Url.text (u : Url) : String :=
  u.scheme ++ ":" ++ (u.authority.elim "" fun a => "//" ++ a.text) ++ u.pathText ++
    (u.query.elim "" ("?" ++ ·)) ++ (u.fragment.elim "" ("#" ++ ·))

/-- The text without the slashes at its end. -/
def dropSlashes (s : String) : String :=
  String.ofList (s.toList.reverse.dropWhile (· == '/')).reverse

/-- A text without `tail` at its end; one that does not end in it stays. -/
def dropTail (tail s : String) : String :=
  match Text.dropHead? tail.toList.reverse s.toList.reverse with
  | some rest => String.ofList rest.reverse
  | none => s

end ScanFleet
