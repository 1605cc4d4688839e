import ArtikSdk.Lib.Bytes
import ArtikSdk.Lib.Run

/-!
# The web client's response parser

`wget_parsestatus`, `wget_parseheaders` and `wget_base` of `webclient.c`. The bytes between
`offset` and `datend` are the list of bytes still to be read; `line` is the array of the
source, and a write behind its end is undefined. `netlib_parsehttpurl` belongs to the system:
it is a parameter, a function of the URL and of what its pointers hold.
-/

namespace ArtikSdk.Http
open Lib

/-- The bytes of a string literal. -/
def ascii (s : String) : List Byte := s.toList.map fun c => BitVec.ofNat 8 c.toNat

/-- `CONFIG_WEBCLIENT_MAXHTTPLINE` -/
def maxHttpLine : Nat := 600

def isoNl : Byte := 0x0a
def isoCr : Byte := 0x0d

/-- `WEBCLIENT_STATE_*` -/
inductive ParseState where
  | statusLine
  | headers
  | data
  | close
deriving DecidableEq

/-- `HTTPSTATUS_*` -/
inductive HttpStatus where
  | none
  | ok
  | moved
  | error
deriving DecidableEq

/-- Where the file is: what a redirect changes. -/
structure Location where
  port : UInt16
  hostname : List Byte
  filename : List Byte
deriving DecidableEq

/-- `struct wget_s` without the buffer and the connection. -/
structure WgetS where
  state : ParseState
  httpstatus : HttpStatus
  location : Location
  line : Mem
  ndx : Nat

/-- What ends a parse: a write behind `line`, or an error return. -/
inductive Stop where
  | undefined
  | aborted (httpstatus : HttpStatus) (location : Location)

/-- `netlib_parsehttpurl`: the return value, and the location it leaves. -/
abbrev ParseUrl := List Byte → Location → Int × Location

/-! ## Lines -/

/-- `strncmp(&line[a], s, strlen(s)) == 0` -/
def startsWith (line : Mem) (a : Nat) (s : List Byte) : Bool := line.load a s.length = s

/-- `tolower` -/
def toLower (b : Byte) : Byte := if 0x41 ≤ b ∧ b ≤ 0x5a then b + 0x20 else b

/-- `strncasecmp(&line[a], s, strlen(s)) == 0` -/
def startsWithCase (line : Mem) (a : Nat) (s : List Byte) : Bool := (line.load a s.length).map toLower = s.map toLower

/-- The string at `&line[a]`. -/
def stringAt (line : Mem) (a : Nat) : List Byte := (line.load a (maxHttpLine - a)).takeWhile (· ≠ 0)

/-- `line[ndx] = b` -/
def setLine (line : Mem) (ndx : Nat) (b : Byte) : Mem := Function.update line ndx b

/-! ## The parsers -/

/-- The result code of the status line in `line`. -/
def statusOf (line : Mem) : HttpStatus :=
  if startsWith line 9 (ascii "200 ") then .ok
  else if startsWith line 9 (ascii "301 ") ∨ startsWith line 9 (ascii "302 ") then .moved
  else .none

/-- The state after the loop, and the bytes from `offset` on: those from the line end on. -/
def wgetParsestatus : List Byte → WgetS → Except Stop (WgetS × List Byte)
  | [], ws => .ok (ws, [])
  | b :: rest, ws =>
    if ws.ndx ≥ maxHttpLine then .error .undefined
    else
      let line := setLine ws.line ws.ndx b
      if b = isoNl then
        let line := setLine line ws.ndx 0
        if startsWith line 0 (ascii "HTTP/1.0") ∨ startsWith line 0 (ascii "HTTP/1.1") then
          .ok ({ ws with line, httpstatus := statusOf line, state := .headers }, b :: rest)
        else .error (.aborted ws.httpstatus ws.location)
      else wgetParsestatus rest { ws with line, ndx := ws.ndx + 1 }

/-- What a whole header line does, `line` being without its line end. -/
def headerLine (parsehttpurl : ParseUrl) (line : Mem) (location : Location) : Location :=
  if startsWithCase line 0 (ascii "location: ") then (parsehttpurl (stringAt line 10) location).2 else location

/-- The state after the loop, and the bytes from `offset` on: the data, where the headers ended. -/
def wgetParseheaders (parsehttpurl : ParseUrl) : List Byte → WgetS → Except Stop (WgetS × List Byte)
  | [], ws => .ok (ws, [])
  | b :: rest, ws =>
    if ws.ndx ≥ maxHttpLine then .error .undefined
    else
      let line := setLine ws.line ws.ndx b
      if b = isoNl then
        if ws.ndx > 0 then
          if line 0 = isoCr then .ok ({ ws with line, state := .data }, rest)
          else
            let line := setLine line (ws.ndx - 1) 0
            wgetParseheaders parsehttpurl rest { ws with line, location := headerLine parsehttpurl line ws.location, ndx := 0 }
        else wgetParseheaders parsehttpurl rest { ws with line, ndx := 0 }
      else wgetParseheaders parsehttpurl rest { ws with line, ndx := ws.ndx + 1 }

/-- What follows a successful `recv`: the state, the bytes handed to the callback, and
whether the response is a redirect. -/
def received (parsehttpurl : ParseUrl) (piece : List Byte) (ws : WgetS) : Except Stop (WgetS × List Byte × Bool) := do
  let (ws, rest) ← if ws.state = .statusLine then wgetParsestatus piece ws else .ok (ws, piece)
  let (ws, rest) ← if ws.state = .headers then wgetParseheaders parsehttpurl rest ws else .ok (ws, rest)
  if ws.state = .data then
    if ws.httpstatus ≠ .moved then return (ws, rest, false) else return (ws, [], true)
  else return (ws, [], false)

/-! ## Connections -/

/-- `OK` and `ERROR`. -/
inductive Ret where
  | ok
  | error
deriving DecidableEq

/-- How `wget_base` ends: its return value, the bytes handed to the callback, the status and
the location; or undefined, where the parser wrote behind `line`. -/
inductive Result where
  | ended (ret : Ret) (body : List Byte) (httpstatus : HttpStatus) (location : Location)
  | undefined

/-- What a connection brings: whether it is set up and the request is sent, the results of
`recv`, and whether `recv` then returns 0 or fails. -/
structure Peer where
  connects : Bool
  sends : Bool
  pieces : List (List Byte)
  closes : Bool

/-- Between two connections: the state, and the bytes handed to the callback so far. -/
structure Loop where
  ws : WgetS
  body : List Byte

/-- The `for (;;)` around `recv`: on to the next connection, or the end. -/
def receiveLoop (parsehttpurl : ParseUrl) (closes : Bool) : List (List Byte) → WgetS → List Byte → Loop ⊕ Result
  | [], ws, body => .inr (.ended (if closes then .ok else .error) body ws.httpstatus ws.location)
  | piece :: pieces, ws, body =>
    match received parsehttpurl piece ws with
    | .error .undefined => .inr .undefined
    | .error (.aborted httpstatus location) => .inr (.ended .error body httpstatus location)
    | .ok (ws, data, redirected) =>
      if redirected then .inl ⟨ws, body ++ data⟩ else receiveLoop parsehttpurl closes pieces ws (body ++ data)

/-- One turn of `do { ... } while (redirected)`; the connection is to the location reached. -/
def connection (parsehttpurl : ParseUrl) (peer : Location → Peer) (s : Loop) : Loop ⊕ Result :=
  let ws := { s.ws with httpstatus := .none, ndx := 0 }
  if (peer ws.location).connects = false then .inr (.ended .error s.body ws.httpstatus ws.location)
  else if (peer ws.location).sends = false then .inr (.ended .error s.body ws.httpstatus ws.location)
  else receiveLoop parsehttpurl (peer ws.location).closes (peer ws.location).pieces { ws with state := .statusLine } s.body

/-- `wget_base(url, ...)` after `n` connections. -/
def wgetBase (parsehttpurl : ParseUrl) (url : List Byte) (peers : Nat → Location → Peer) (n : Nat) : Loop ⊕ Result :=
  let (ret, location) := parsehttpurl url ⟨80, [], []⟩
  if ret ≠ 0 then .inr (.ended .error [] .none location)
  else after (connection parsehttpurl) peers ⟨⟨.statusLine, .none, location, Mem.ofList [], 0⟩, []⟩ n

end ArtikSdk.Http
