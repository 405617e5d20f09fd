import ScanFleet.Fleet.View
import ScanFleet.Http.Status
import ScanFleet.Json.Writer
import ScanFleet.Remote.Exchange

/-! The notifier of quests: a service that forgets the quests inside an outline when it is told
to. -/

namespace ScanFleet.Remote

/-- Where the notifier is, and the secret it asks for. -/
structure QuestNotifier where
  base : Url
  secret : Option String
deriving DecidableEq, Repr

namespace QuestNotifier

/-- The notifier's address.  The base may name its address for raw reports. -/
def url (n : QuestNotifier) : String :=
  dropTail "/raw" (dropSlashes n.base.text) ++ "/api/clearQuests"

def post (n : QuestNotifier) (fence : Fence) : Post where
  url := n.url
  headers := jsonContent :: n.secret.toList.map (("x-golbat-secret", ·))
  body := Json.text (.record [("fence", .list (fence.closed.map fun l => .record l.members))])

/-- Whether the quests are forgotten. -/
def result (n : QuestNotifier) : Reply → Except FleetError Unit
  | .unreachable => .error (.questNotifier ("request to " ++ n.url ++ " failed"))
  | .answered status _ =>
    if Http.isSuccess status then .ok ()
    else .error (.questNotifier ("clear quests answered " ++ Http.statusText status))

end QuestNotifier

end ScanFleet.Remote
