import ScanFleet.Account.Basic
import ScanFleet.Remote.Collaborators
import ScanFleet.Text.Quoted
import ScanFleet.Time.Calendar

/-! Texts of values for logs.  Passwords, tokens and secrets are left out or hidden. -/

namespace ScanFleet

open Text Remote

/-- A value with named parts; `isPartial` says whether some are left out. -/
def partsText (name : String) (parts : List (String × String)) (leavesOut : Bool) : String :=
  name ++ " \x7b " ++ ", ".intercalate (parts.map fun (part, text) => part ++ ": " ++ text) ++
    (if leavesOut then ", .." else "") ++ " \x7d"

def optionText (text : Option String) : String :=
  match text with
  | none => "None"
  | some t => "Some(" ++ t ++ ")"

def boolText (b : Bool) : String := if b then "true" else "false"

/-- What stands in the place of a secret. -/
def hidden : String := quoted "<redacted>"

/-- Whether there is a secret, without the secret. -/
def hiddenOption (secret : Option String) : String := optionText (secret.map fun _ => hidden)

def Account.diagnostic (a : Account) : String :=
  partsText "Account" [("username", quoted a.username), ("level", toString a.level),
    ("warn", boolText a.warned), ("suspended", boolText a.suspended),
    ("banned", boolText a.banned), ("disabled", boolText a.disabled),
    ("last_released", optionText (a.lastReleased.map Instant.text))] true

def Credentials.diagnostic (c : Credentials) : String :=
  partsText "Credentials" [("username", quoted c.username), ("password", hidden)] false

def CalculatorConfig.diagnostic (c : CalculatorConfig) : String :=
  partsText "KojiConfig" [("url", quoted c.url.text), ("bearer_token", hiddenOption c.token)] false

def Remote.RouteCalculator.diagnostic (c : RouteCalculator) : String :=
  partsText "KojiClient" [("base_url", quoted c.base.text), ("has_token", boolText c.token.isSome)]
    false

def Remote.QuestNotifier.diagnostic (n : QuestNotifier) : String :=
  partsText "GolbatClient"
    [("base_url", quoted n.base.text), ("has_secret", boolText n.secret.isSome)] false

def RelayTarget.diagnostic (t : RelayTarget) : String :=
  partsText "RawEndpoint" [("url", quoted t.url), ("bearer_token", hiddenOption t.token)] false

def Remote.Relay.diagnostic (r : Relay) : String :=
  partsText "RawForwarder"
    [("targets", "[" ++ ", ".intercalate (r.targets.map RelayTarget.diagnostic) ++ "]"),
      ("sender", quoted r.sender)] false

end ScanFleet
