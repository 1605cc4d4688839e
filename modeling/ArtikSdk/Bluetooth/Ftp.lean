import ArtikSdk.Lib.Run
import ArtikSdk.Base.Error

/-!
# Bluetooth FTP

`ftp.c`, and what `core.c` does on the signals of obexd. There is one transfer, whose object path is
null when it is over, and one state for its asynchronous requests, which each of their callbacks
writes. A synchronous call is answered at once.
-/

namespace ArtikSdk.Bluetooth.Ftp
open Lib

/-- An object path of the bus. -/
abbrev Path := List Char

/-- `bt_ftp_transport_state` -/
inductive TransportState where
  | suspending
  | suspended
  | resuming
  | resumed
  | canceling
  | canceled
  | error
  | ended
deriving DecidableEq

/-- `bt_ftp_req_type` -/
inductive ReqType where
  | get
  | put
  | ended
deriving DecidableEq

/-- `transfer_property.status`, by what is compared with it. -/
inductive Status where
  | complete
  | error
  | other
deriving DecidableEq

inductive Method where
  | suspend
  | resume
  | cancel
deriving DecidableEq

/-- A `g_dbus_connection_call` whose callback is still to come. `own` is not in the source: it was
made for a `bt_ftp_cancel_transfer` that returned `S_OK`. -/
structure Request where
  method : Method
  own : Bool
deriving DecidableEq

/-- No session path is the empty string. `notifying`: the user callback of a status signal runs. -/
structure State where
  sessionPath : Option Path
  ftpState : TransportState
  ftpReq : ReqType
  objectPath : Option Path
  status : Option Status
  pending : List Request
  notifying : Bool
deriving DecidableEq

def State.init : State := ⟨none, .ended, .ended, none, none, [], false⟩

/-- `g_dbus_connection_call` on the transfer: with a null path the callback never comes. -/
def State.call (method : Method) (own : Bool) (s : State) : State :=
  match s.objectPath with
  | none => s
  | some _ => { s with pending := s.pending ++ [⟨method, own⟩] }

/-! ## Operations -/

/-- `_check_status`. -/
def checkStatus (s : State) : ArtikError :=
  if s.sessionPath = none then .notInitialized else if s.ftpState = .canceling then .busy else .ok

/-- What the synchronous operations begin with: no transfer may be on. -/
def idle (s : State) : ArtikError :=
  if checkStatus s ≠ .ok then checkStatus s else if s.objectPath ≠ none then .busy else .ok

/-- What the operations on the transfer begin with: it has to be on. -/
def active (s : State) : ArtikError :=
  if checkStatus s ≠ .ok then checkStatus s else if s.objectPath = none then .busy else .ok

/-- A synchronous operation with an argument, which may be null, and whether obexd obeys. -/
def synchronous (argument : Option (List Char)) (reply : Bool) (s : State) : State × ArtikError :=
  if argument = none then (s, .badArgs)
  else if idle s ≠ .ok then (s, idle s)
  else (s, if reply then .ok else .btError)

def btFtpChangeFolder (folder : Option (List Char)) := synchronous folder
def btFtpCreateFolder (folder : Option (List Char)) := synchronous folder
def btFtpDeleteFile (file : Option (List Char)) := synchronous file

def btFtpListFolder (reply : Bool) (s : State) : State × ArtikError :=
  if idle s ≠ .ok then (s, idle s) else (s, if reply then .ok else .btError)

/-- `_fill_transfer_property`: a status that is not given stays. -/
def State.fill (status : Option Status) (s : State) : State := { s with status := status.or s.status }

/-- `bt_ftp_get_file` and `bt_ftp_put_file`, with the path and the status of the transfer that obexd
answers with. -/
def file (req : ReqType) (first second : Option (List Char)) (reply : Option (Path × Option Status)) (s : State) :
    State × ArtikError :=
  if first = none ∨ second = none then (s, .badArgs)
  else if idle s ≠ .ok then (s, idle s)
  else
    match reply with
    | none => (s, .btError)
    | some (path, status) => ({ s with ftpReq := req, objectPath := some path }.fill status, .ok)

def btFtpGetFile (targetFile sourceFile : Option (List Char)) := file .get sourceFile targetFile
def btFtpPutFile (sourceFile targetFile : Option (List Char)) := file .put sourceFile targetFile

def btFtpResumeTransfer (s : State) : State × ArtikError :=
  if active s ≠ .ok then (s, active s) else ({ s.call .resume false with ftpState := .resuming }, .ok)

def btFtpSuspendTransfer (s : State) : State × ArtikError :=
  if active s ≠ .ok then (s, active s) else ({ s.call .suspend false with ftpState := .suspending }, .ok)

def btFtpCancelTransfer (s : State) : State × ArtikError :=
  if active s ≠ .ok then (s, active s)
  -- a suspended upload is resumed first; `_ftp_resume_callback` goes on
  else if s.ftpReq = .put ∧ s.ftpState = .suspended then ({ s.call .resume true with ftpState := .canceling }, .ok)
  else ({ s.call .cancel true with ftpState := .canceling }, .ok)

/-- The operations that ask `_check_status`, with what obexd answers. -/
inductive Operation where
  | changeFolder (folder : Option (List Char)) (reply : Bool)
  | createFolder (folder : Option (List Char)) (reply : Bool)
  | deleteFile (file : Option (List Char)) (reply : Bool)
  | listFolder (reply : Bool)
  | getFile (targetFile sourceFile : Option (List Char)) (reply : Option (Path × Option Status))
  | putFile (sourceFile targetFile : Option (List Char)) (reply : Option (Path × Option Status))
  | resumeTransfer
  | suspendTransfer
  | cancelTransfer

def perform : Operation → State → State × ArtikError
  | .changeFolder folder reply => btFtpChangeFolder folder reply
  | .createFolder folder reply => btFtpCreateFolder folder reply
  | .deleteFile file reply => btFtpDeleteFile file reply
  | .listFolder reply => btFtpListFolder reply
  | .getFile targetFile sourceFile reply => btFtpGetFile targetFile sourceFile reply
  | .putFile sourceFile targetFile reply => btFtpPutFile sourceFile targetFile reply
  | .resumeTransfer => btFtpResumeTransfer
  | .suspendTransfer => btFtpSuspendTransfer
  | .cancelTransfer => btFtpCancelTransfer

/-- No argument of the operation is null. -/
def Operation.given : Operation → Bool
  | .changeFolder a _ | .createFolder a _ | .deleteFile a _ => a.isSome
  | .getFile a b _ | .putFile a b _ => a.isSome && b.isSome
  | _ => true

/-! ## Callbacks -/

def ftpCancelCallback (ok : Bool) (s : State) : State :=
  if ok then { s with ftpState := .canceled, ftpReq := .ended } else { s with ftpState := .error }

/-- `_ftp_resume_callback`; `own` is handed on to the request that it makes. -/
def ftpResumeCallback (own ok : Bool) (s : State) : State :=
  if ok = false then { s with ftpState := .error }
  else if s.ftpReq = .put ∧ s.ftpState = .canceling then s.call .cancel own
  else { s with ftpState := .resumed }

def ftpSuspendCallback (ok : Bool) (s : State) : State :=
  if ok then { s with ftpState := .suspended } else { s with ftpState := .error }

/-- The callback of a request. -/
def Request.callback (r : Request) (ok : Bool) : State → State :=
  match r.method with
  | .suspend => ftpSuspendCallback ok
  | .resume => ftpResumeCallback r.own ok
  | .cancel => ftpCancelCallback ok

/-! ## Signals -/

/-- `_obex_properties_changed` up to the user callback. -/
def obexPropertiesChanged (path : Path) (status : Option Status) (s : State) : State :=
  if s.objectPath = some path then { s.fill status with notifying := true } else s

/-- The rest of `_obex_properties_changed`. -/
def obexNotified (s : State) : State :=
  let s := { s with notifying := false }
  if s.status = some .complete ∨ s.status = some .error then { s with objectPath := none } else s

/-- An interface of a signal: the session, the transfer with its properties, or another one. -/
inductive Interface where
  | session
  | transfer (status : Option Status)
  | other
deriving DecidableEq

/-- One round of `_on_interface_added`. -/
def interfaceAdded (path : Path) (s : State) : Interface → State
  | .session => { s with sessionPath := some path }
  | .transfer status => { s with objectPath := some path, status := none }.fill status
  | .other => s

/-- One round of `_on_interface_removed`, which does not look at the path. -/
def interfaceRemoved (s : State) : Interface → State
  | .session => { s with sessionPath := none }
  | .transfer _ => { s with objectPath := none, status := none }
  | .other => s

def onInterfaceAdded (path : Path) (interfaces : List Interface) (s : State) : State := interfaces.foldl (interfaceAdded path) s

def onInterfaceRemoved (interfaces : List Interface) (s : State) : State := interfaces.foldl interfaceRemoved s

/-! ## Steps -/

/-- A call, the callback of the `i`-th request, or a signal; `notified`: the user callback returns. -/
inductive Input where
  | call (op : Operation)
  | completes (i : Nat) (ok : Bool)
  | propertiesChanged (path : Path) (status : Option Status)
  | notified
  | interfaceAdded (path : Path) (interfaces : List Interface)
  | interfaceRemoved (interfaces : List Interface)

inductive Fault where
  | notDispatched
deriving DecidableEq

/-- Nothing but calls comes from inside a user callback. -/
def dispatch (s : State) (t : State) : Except Fault (State × Option ArtikError) :=
  if s.notifying then .error .notDispatched else .ok (t, none)

def step : Input → State → Except Fault (State × Option ArtikError)
  | .call op, s => .ok ((perform op s).1, some (perform op s).2)
  | .completes i ok, s =>
    match s.pending[i]? with
    | none => .error .notDispatched
    | some r => dispatch s (r.callback ok { s with pending := s.pending.eraseIdx i })
  | .propertiesChanged path status, s => dispatch s (obexPropertiesChanged path status s)
  | .notified, s => if s.notifying then .ok (obexNotified s, none) else .error .notDispatched
  | .interfaceAdded path interfaces, s => dispatch s (onInterfaceAdded path interfaces s)
  | .interfaceRemoved interfaces, s => dispatch s (onInterfaceRemoved interfaces s)

end ArtikSdk.Bluetooth.Ftp
