import ArtikSdk.Lib.Printf
import ArtikSdk.Base.Error

/-!
# Cloud requests

The REST and the SDR operations of `artik_cloud.c`. Each asks for the http module first, checks
its pointers, builds its strings and makes one http call. An operation is described by what it
builds; `none` says that a pointer it checks is null. What it writes to `response` is the http
module's, and is left out.
-/

namespace ArtikSdk.Cloud
open Lib.Printf

/-! ## Constants -/

def artikCloudTokenMax : Buffer := ⟨128, by decide⟩
def artikCloudUrlMax : Buffer := ⟨256, by decide⟩
def artikCloudWebsocketStrMax : Buffer := ⟨1024, by decide⟩

/-- `ARTIK_CLOUD_URL` -/
def artikCloudUrl (x : String) : List Char := "https://api.artik.cloud/v1.1/".toList ++ x.toList

/-- `ARTIK_CLOUD_SECURE_URL` -/
def artikCloudSecureUrl (x : String) : List Char := "https://s-api.artik.cloud/v1.1/".toList ++ x.toList

def artikCloudUrlMessages := artikCloudUrl "messages"
def artikCloudUrlSelfUser := artikCloudUrl "users/self"
def artikCloudUrlUserDevices := artikCloudUrl "users/%s/devices?count=%d&includeProperties=%s&offset=%d"
def artikCloudUrlUserDeviceTypes := artikCloudUrl "users/%s/devicetypes?count=%d&includeShared=%s&offset=%d"
def artikCloudUrlUserAppProps := artikCloudUrl "users/%s/properties?aid=%s"
def artikCloudUrlGetDevice := artikCloudUrl "devices/%s?properties=%s"
def artikCloudUrlDeleteDevice := artikCloudUrl "devices/%s"
def artikCloudUrlAddDevice := artikCloudUrl "devices"
def artikCloudUrlGetDeviceToken := artikCloudUrl "devices/%s/tokens"
def artikCloudUrlUpdateDeviceToken := artikCloudUrl "devices/%s/tokens"
def artikCloudUrlDeleteDeviceToken := artikCloudUrl "devices/%s/tokens"
def artikCloudSecureUrlRegDevice := artikCloudSecureUrl "cert/devices/registrations"
def artikCloudSecureUrlRegId := artikCloudSecureUrl "cert/devices/registrations/%s"
def artikCloudSecureUrlRegStatus := artikCloudSecureUrl "cert/devices/registrations/%s/status"

def artikCloudAddDeviceBody : List Char :=
  "\x7b\"uid\": \"%s\", \"dtid\": \"%s\",\"name\": \"%s\", \"manifestVersionPolicy\": \"LATEST\"\x7d".toList
def artikCloudMessageBody : List Char := "\x7b\"type\": \"message\",\"sdid\": \"%s\",\"data\": %s\x7d".toList
def artikCloudActionBody : List Char := "\x7b\"type\": \"action\",\"ddid\": \"%s\",\"data\": %s\x7d".toList
def artikCloudSecureRegDeviceBody : List Char := "\x7b\"deviceTypeId\":\"%s\",\"vendorDeviceId\":\"%s\"\x7d".toList
def artikCloudSecureRegCompleteBody : List Char := "\x7b\"nonce\":\"%s\"\x7d".toList

/-! ## What an operation builds -/

inductive Method where
  | get
  | post
  | put
  | del
deriving DecidableEq

/-- The body of a request: an array, or a string formatted into memory that is allocated for it. -/
inductive Body where
  | literal (text : List Char)
  | heap (format : List Char) (strings : List (List Char))

/-- The http call of an operation. `useSe`: its TLS configuration is its own, without verification and with
the secure element, and not the caller's. `conflict`: it tells the status 409 from other errors. -/
structure Operation where
  method : Method
  useSe : Bool
  headers : List (List Char × Text)
  url : Text
  body : Option Body
  conflict : Bool

/-- What the http module is given. -/
structure Request where
  method : Method
  useSe : Bool
  headers : List (List Char × List Char)
  url : List Char
  body : Option (List Char)
deriving DecidableEq

/-- `body_len`, an `int`: the lengths of the format and of the strings, and one. -/
def bodyLen (format : List Char) (strings : List (List Char)) : Int :=
  Int.bmod (format.length + (strings.map List.length).sum + 1) (2 ^ 32)

/-- `malloc(body_len)`, which converts a negative length to one that no memory has. -/
def Body.allocated (malloc : Bool) : Body → Bool
  | .literal _ => true
  | .heap format strings => malloc && 0 ≤ bodyLen format strings

/-- The body in its buffer; where that has no bytes, nothing was written. -/
def Body.text : Body → Option Text
  | .literal text => some (.literal text)
  | .heap format strings =>
    if positive : 0 < (bodyLen format strings).toNat then
      some (.printed ⟨(bodyLen format strings).toNat, positive⟩ format (strings.map .s))
    else none

/-- The body that is meant. -/
def Body.complete : Body → List Char
  | .literal text => text
  | .heap format strings => sprintf format (strings.map .s)

/-- The request as the strings call for it. -/
def Operation.complete (op : Operation) : Request where
  method := op.method
  useSe := op.useSe
  headers := op.headers.map fun field => (field.1, field.2.complete)
  url := op.url.complete
  body := op.body.map Body.complete

/-- The request as the buffers hold it. -/
def Operation.request (op : Operation) (body : Option (List Char)) : Request where
  method := op.method
  useSe := op.useSe
  headers := op.headers.map fun field => (field.1, field.2.held)
  url := op.url.held
  body := body

/-! ## Running it -/

/-- What `artik_request_api_module` returns: the module, null, or `INVALID_MODULE`. -/
inductive ModuleAnswer where
  | module
  | null
  | invalidModule
deriving DecidableEq

/-- A call of the module registry. -/
inductive ModuleCall where
  | request (answer : ModuleAnswer)
  | release
deriving DecidableEq

inductive Fault where
  | badPointer
  | freed
  | uninitialized
deriving DecidableEq

/-- The outcomes in an operation: of the request for the module, of the `malloc` for the body, and of
the http call, with its status. -/
structure Answers where
  http : ModuleAnswer
  malloc : Bool
  ret : ArtikError
  status : Int

/-- What is sent: a request by the http module, or a message on a stream. -/
inductive Sent where
  | http (request : Request)
  | stream (handle : Nat) (message : List Char)
deriving DecidableEq

/-- `enum artik_websocket_connection_state`, or another value. -/
inductive ConnectionState where
  | connected
  | closed
  | handshakeError
  | other
deriving DecidableEq

/-- A callback, null where `fn` is `0`, and its user data. -/
structure Callback where
  fn : Nat
  userData : Nat
deriving DecidableEq

/-- What an operation shows: its return value if it has one, its calls of the registry in order, what
it sends, what it stores through `handle`, and the callback that it calls. -/
structure Output where
  ret : Option ArtikError
  modules : List ModuleCall
  sent : Option Sent
  handle : Option Nat
  calls : Option (Callback × ConnectionState)
deriving DecidableEq

/-- An operation that returns without more than that. -/
def Output.returns (ret : ArtikError) (modules : List ModuleCall) : Output := ⟨some ret, modules, none, none, none⟩

/-- The error for a status that is not 200. -/
def statusError (conflict : Bool) (status : Int) : ArtikError := if conflict ∧ status = 409 then .busy else .httpError

/-- From `/* Perform the request */` on. -/
def perform (op : Operation) (body : Option (List Char)) (answers : Answers) : Except Fault Output :=
  match answers.http with
  | .module =>
    let ret :=
      if answers.ret ≠ .ok then answers.ret
      else if answers.status ≠ 200 then statusError op.conflict answers.status
      else .ok
    .ok { Output.returns ret [.request answers.http, .release] with sent := some (.http (op.request body)) }
  | _ => .error .badPointer

/-- What the operations have in common. -/
def run (given : Option Operation) (answers : Answers) : Except Fault Output :=
  match given with
  | none => .ok (.returns .badArgs [.request answers.http])
  | some op =>
    match op.body with
    | none => perform op none answers
    | some body =>
      if body.allocated answers.malloc = false then .ok (.returns .noMem [.request answers.http])
      else
        match body.text with
        | none => .error .uninitialized
        | some text => perform op (some text.held) answers

/-! ## The operations -/

/-- `snprintf(bearer, ARTIK_CLOUD_TOKEN_MAX, "Bearer %s", access_token)` in the headers of the REST calls. -/
def bearer (accessToken : List Char) : List (List Char × Text) :=
  [("Authorization".toList, .printed artikCloudTokenMax "Bearer %s".toList [.s accessToken]),
    ("Content-Type".toList, .literal "application/json".toList)]

def jsonHeaders : List (List Char × Text) :=
  [("Accept".toList, .literal "application/json".toList),
    ("Content-Type".toList, .literal "application/json".toList),
    ("charsets:".toList, .literal "utf-8".toList)]

/-- `snprintf(url, ARTIK_CLOUD_URL_MAX, ...)` -/
def url (format : List Char) (args : List Arg) : Text := .printed artikCloudUrlMax format args

/-- `b ? "true" : "false"` -/
def boolean (b : Bool) : Arg := .s (if b then "true".toList else "false".toList)

def getCurrentUserProfile (accessToken : Option (List Char)) : Option Operation := do
  let accessToken ← accessToken
  return ⟨.get, false, bearer accessToken, .literal artikCloudUrlSelfUser, none, false⟩

def getUserDevices (accessToken : Option (List Char)) (count : Int) (properties : Bool) (offset : Int) (userId : Option (List Char)) :
    Option Operation := do
  let accessToken ← accessToken
  let userId ← userId
  return ⟨.get, false, bearer accessToken,
    url artikCloudUrlUserDevices [.s userId, .d count, boolean properties, .d offset], none, false⟩

def getUserDeviceTypes (accessToken : Option (List Char)) (count : Int) (shared : Bool) (offset : Int) (userId : Option (List Char)) :
    Option Operation := do
  let accessToken ← accessToken
  let userId ← userId
  return ⟨.get, false, bearer accessToken,
    url artikCloudUrlUserDeviceTypes [.s userId, .d count, boolean shared, .d offset], none, false⟩

def getUserApplicationProperties (accessToken userId appId : Option (List Char)) : Option Operation := do
  let accessToken ← accessToken
  let userId ← userId
  let appId ← appId
  return ⟨.get, false, bearer accessToken, url artikCloudUrlUserAppProps [.s userId, .s appId], none, false⟩

def getDevice (accessToken deviceId : Option (List Char)) (properties : Bool) : Option Operation := do
  let accessToken ← accessToken
  let deviceId ← deviceId
  return ⟨.get, false, bearer accessToken, url artikCloudUrlGetDevice [.s deviceId, boolean properties], none, false⟩

def getDeviceToken (accessToken deviceId : Option (List Char)) : Option Operation := do
  let accessToken ← accessToken
  let deviceId ← deviceId
  return ⟨.get, false, bearer accessToken, url artikCloudUrlGetDeviceToken [.s deviceId], none, false⟩

def addDevice (accessToken userId dtId name : Option (List Char)) : Option Operation := do
  let accessToken ← accessToken
  let userId ← userId
  let dtId ← dtId
  let name ← name
  return ⟨.post, false, bearer accessToken, .literal artikCloudUrlAddDevice,
    some (.heap artikCloudAddDeviceBody [userId, dtId, name]), false⟩

def sendMessage (accessToken deviceId message : Option (List Char)) : Option Operation := do
  let accessToken ← accessToken
  let deviceId ← deviceId
  let message ← message
  return ⟨.post, false, bearer accessToken, .literal artikCloudUrlMessages,
    some (.heap artikCloudMessageBody [deviceId, message]), false⟩

def sendAction (accessToken deviceId action : Option (List Char)) : Option Operation := do
  let accessToken ← accessToken
  let deviceId ← deviceId
  let action ← action
  return ⟨.post, false, bearer accessToken, .literal artikCloudUrlMessages,
    some (.heap artikCloudActionBody [deviceId, action]), false⟩

def updateDeviceToken (accessToken deviceId : Option (List Char)) : Option Operation := do
  let accessToken ← accessToken
  let deviceId ← deviceId
  return ⟨.put, false, bearer accessToken, url artikCloudUrlUpdateDeviceToken [.s deviceId],
    some (.literal "\x7b\x7d".toList), false⟩

def deleteDeviceToken (accessToken deviceId : Option (List Char)) : Option Operation := do
  let accessToken ← accessToken
  let deviceId ← deviceId
  return ⟨.del, false, bearer accessToken, url artikCloudUrlDeleteDeviceToken [.s deviceId], none, false⟩

def deleteDevice (accessToken deviceId : Option (List Char)) : Option Operation := do
  let accessToken ← accessToken
  let deviceId ← deviceId
  return ⟨.del, false, bearer accessToken, url artikCloudUrlDeleteDevice [.s deviceId], none, false⟩

def sdrStartRegistration (deviceTypeId vendorId : Option (List Char)) : Option Operation := do
  let deviceTypeId ← deviceTypeId
  let vendorId ← vendorId
  return ⟨.post, true, jsonHeaders, .literal artikCloudSecureUrlRegDevice,
    some (.heap artikCloudSecureRegDeviceBody [deviceTypeId, vendorId]), true⟩

def sdrRegistrationStatus (regId : Option (List Char)) : Option Operation := do
  let regId ← regId
  return ⟨.get, true, [("Accept".toList, .literal "application/json".toList)],
    url artikCloudSecureUrlRegStatus [.s regId], none, false⟩

def sdrCompleteRegistration (regId regNonce : Option (List Char)) : Option Operation := do
  let regId ← regId
  let regNonce ← regNonce
  return ⟨.put, true, jsonHeaders, url artikCloudSecureUrlRegId [.s regId],
    some (.heap artikCloudSecureRegCompleteBody [regNonce]), false⟩

end ArtikSdk.Cloud
