import ScanFleet.Fleet.Reload
import ScanFleet.Http.Controller
import ScanFleet.Http.Guard
import ScanFleet.Remote.Relay

/-! Answering requests.  A question about what may be sent is answered at once.  Else a path that is
not known is not found; then the guard is asked, then the method is looked at, and then the endpoint
answers. -/

namespace ScanFleet.Http

open Data Text

variable {σ : Type} [Store σ]

/-- An operation's result as a value, or its failure. -/
def operatorResponse {α : Type} (status : Nat) (show_ : α → Data) : Except FleetError α → Response
  | .ok a => .ofData status (show_ a)
  | .error e => (Failure.ofError e).response

/-- The state of the controller's health. -/
def healthData (f : Fleet σ) (now : Instant) : Data :=
  .record [("status", .text "healthy"), ("timestamp", Instant.data now),
    ("version", .text version),
    ("checks", .record [("fleet", .record [("areas", .ofNat f.areas.list.length),
      ("sessions", .ofNat f.sessions.list.length), ("accounts", .ofNat f.pool.accounts.length)])])]

/-- The answer to a body that cannot be read. -/
def unreadable (message : String) : Response := .ofData 400 (.record [("error", .text message)])

/-- The value of a shape in the body of a request that has to say that it is JSON. -/
def Request.read {α : Type} (shape : Shape α) (r : Request) : Except BodyFault α :=
  if r.isJson then readBody shape r.body else .error .notJson

/-- Adds accounts. -/
def importResponse (f : Fleet σ) (r : Request) : Response × Fleet σ :=
  match r.read importShape with
  | .error e => (⟨e.status, .text e.message⟩, f)
  | .ok [] => ((Failure.badRequest "no accounts to import").response, f)
  | .ok accounts =>
    let (x, f) := f.importAccounts accounts
    (operatorResponse 202 (fun n => .record [("updated", .ofNat n)]) x, f)

/-- Starts quest scanning in the area that a part of the path names. -/
def questResponse (f : Fleet σ) (services : Services) (segment : String) : Response × Fleet σ :=
  match areaId? segment with
  | none => (⟨400, .text "Invalid URL"⟩, f)
  | some area =>
    let (x, f) := f.startQuesting services area
    (operatorResponse 200 (fun b => .record [("status", .text "ok"), ("started", .bool b)]) x, f)

/-- Answers a request that its endpoint takes. -/
def Endpoint.answer (e : Endpoint) (f : Fleet σ) (services : Services) (r : Request)
    (now : Instant) : Response × Fleet σ :=
  match e with
  | .health => (.ofData 200 (healthData f now), f)
  | .controller =>
    match r.read WorkerEvent.shape with
    | .error e => (unreadable e.message, f)
    | .ok event => answerEvent f services event r.host now
  | .raw =>
    match readBody rawShape r.body with
    | .error e => (unreadable e.message, f)
    | .ok report => (⟨200, .empty⟩, (f.recordRaw report r.host now).2)
  | .areas => (.ofData 200 (.list ((f.areaStatuses now).map AreaStatus.data)), f)
  | .reloadAreas =>
    let (x, f) := f.reloadAreas now
    (operatorResponse 200 AreaChanges.data x, f)
  | .startQuest segment => questResponse f services segment
  | .workers => (.ofData 200 (.list (f.sessions.list.map Session.data)), f)
  | .accounts =>
    if r.method == "POST" then importResponse f r else (.ofData 200 (f.overview now).data, f)
  | .reloadAccounts =>
    let (x, f) := f.reloadAccounts
    (operatorResponse 200 ReloadCounts.data x, f)

/-- The answer to a request whose path leads to an endpoint. -/
def Endpoint.respond (e : Endpoint) (config : GeneralConfig) (f : Fleet σ) (services : Services)
    (r : Request) (now : Instant) : Response × Fleet σ :=
  if !e.guard.admits config r then (unauthorised, f)
  else if !e.methods.contains r.method then (⟨405, .empty⟩, f)
  else e.answer f services r now

/-- Answers a request.  A browser that asks beforehand what it may send is told so at once, on every
path, and a request for the head of an answer gets no body. -/
def serve (config : GeneralConfig) (f : Fleet σ) (services : Services) (r : Request)
    (now : Instant) : Response × Fleet σ :=
  if r.method == "OPTIONS" then (⟨200, .empty⟩, f)
  else
    match Endpoint.ofPath? r.route with
    | none => (⟨404, .empty⟩, f)
    | some e =>
      let (response, f) := e.respond config f services r now
      (if r.method == "HEAD" then { response with body := .empty } else response, f)

/-- The posts by which the body of a request is sent on: those of a raw report that is let in and
can be read. -/
def relayed (config : Config) (r : Request) : List Remote.Post :=
  match Endpoint.ofPath? r.route with
  | some .raw =>
    if Guard.device.admits config.general r && r.method == "POST" then
      match readBody rawShape r.body with
      | .ok _ => (Remote.Relay.ofConfig config).posts r.body
      | .error _ => []
    else []
  | _ => []

end ScanFleet.Http
