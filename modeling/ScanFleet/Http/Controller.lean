import ScanFleet.Fleet.View
import ScanFleet.Http.Failure
import ScanFleet.Http.Message
import ScanFleet.Http.Request

/-! The protocol that workers speak.  What the protocol knows is always answered with status 200,
troubles included; only what the server fails at has another status. -/

namespace ScanFleet.Http

open Data

/-- The troubles that a worker understands. -/
inductive Trouble where
  | accountNotFound
  | noAccountLeft
  | deviceNotFound
  | instanceNotFound
  | noTaskLeft
deriving DecidableEq, Repr

def Trouble.text : Trouble → String
  | .accountNotFound => "accountNotFound"
  | .noAccountLeft => "noAccountLeft"
  | .deviceNotFound => "deviceNotFound"
  | .instanceNotFound => "instanceNotFound"
  | .noTaskLeft => "noTaskLeft"

/-- The trouble that an error is to a worker, if the protocol knows it. -/
def Trouble.of? : FleetError → Option Trouble
  | .accountNotFound _ => some .accountNotFound
  | .noAccountAvailable => some .noAccountLeft
  | .deviceNotFound _ => some .deviceNotFound
  | .noAreaAllocated _ | .noAreaNeedsWorkers | .areaNotFound _ => some .instanceNotFound
  | .noTaskAvailable _ => some .noTaskLeft
  | _ => none

/-- An answer with a status and a value. -/
def Response.ofData (status : Nat) (d : Data) : Response := ⟨status, .json d⟩

def Failure.response (f : Failure) : Response := .ofData f.status f.data

def okResponse : Response := .ofData 200 (.record [("status", .text "ok")])

def dataResponse (d : Data) : Response :=
  .ofData 200 (.record [("status", .text "ok"), ("data", d)])

/-- The answer to a worker from the result of an operation. -/
def workerResponse {α : Type} (onSuccess : α → Response) : Except FleetError α → Response
  | .ok a => onSuccess a
  | .error e =>
    match Trouble.of? e with
    | some t => .ofData 200 (.record [("status", .text "error"), ("error", .text t.text)])
    | none => (Failure.ofError e).response

/-- The trouble with an account that a kind of event reports. -/
def accountEvent? : String → Option AccountEvent
  | "account_banned" => some .banned
  | "account_suspended" => some .suspended
  | "account_warning" => some .warned
  | "account_invalid_credentials" => some .invalidCredentials
  | "account_unknown_error" => some .unknownError
  | _ => none

/-- The version of the controller. -/
def version : String := "0.1.0"

/-- What a worker is told about the controller when it connects. -/
def greeting (assigned : Bool) : Data :=
  .record [("assigned", .bool assigned), ("version", .text version), ("commit", .text "unknown"),
    ("provider", .text "fleet-controller")]

variable {σ : Type} [Store σ]

/-- Answers an event of a worker. -/
def answerEvent (f : Fleet σ) (services : Services) (e : WorkerEvent) (host : Option String)
    (now : Instant) : Response × Fleet σ :=
  match accountEvent? e.kind with
  | some event =>
    if e.username.isEmpty then ((Failure.badRequest "username is required").response, f)
    else
      let (r, f) := f.reportAccount e.username event now
      (workerResponse (fun _ => okResponse) r, f)
  | none =>
    match e.kind with
    | "init" =>
      let (r, f) := f.initWorker e.worker host now
      (dataResponse (greeting r.toOption.isSome), f)
    | "heartbeat" => (okResponse, f.heartbeat e.worker host now)
    | "get_account" =>
      let (r, f) := f.assignAccount e.worker host now
      (workerResponse (fun c => dataResponse c.data) r, f)
    | "get_job" =>
      let (r, f) := f.nextJob services e.worker (some e.username) host now
      (workerResponse (fun j => dataResponse j.data) r, f)
    | "tutorial_done" =>
      let (r, f) := f.tutorialDone e.worker
      (workerResponse (fun _ => okResponse) r, f)
    | "logged_out" =>
      let (r, f) := f.logout e.worker now
      (workerResponse (fun _ => okResponse) r, f)
    | _ => (.ofData 400 (.record [("status", .text "error")]), f)

end ScanFleet.Http
