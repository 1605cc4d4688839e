import ArtikSdk.Lib.Regex
import Mathlib.Data.List.TakeWhile

/-!
# Websocket URIs

`websocket_parse_uri` of `linux_websocket.c` and of `tinyara_websocket.c`. A C string is the
list of its characters before the final null. Allocations succeed, and bracket expressions
are read in the C locale.
-/

namespace ArtikSdk.Websocket
open Lib

/-- What a parser stores through its pointers. -/
structure ParsedUri where
  host : List Char
  path : List Char
  port : Int
  useTls : Bool
deriving DecidableEq

/-- A return of `-1`, or a conversion whose result C does not define. -/
inductive UriError where
  | malformed
  | undefined
deriving DecidableEq

/-! ## The C library -/

def isDigit (c : Char) : Bool := '0' ≤ c && c ≤ '9'

def isSpace (c : Char) : Bool := c = ' ' || '\t' ≤ c && c ≤ '\r'

/-- The value of a string of digits. -/
def decimal (digits : List Char) : Nat := digits.foldl (fun n c => 10 * n + (c.toNat - '0'.toNat)) 0

/-- The sign and the digits after leading white space, and what follows them. -/
def scanNumber (s : List Char) : Bool × List Char × List Char :=
  let body := s.dropWhile isSpace
  let negative := body.head? = some '-'
  let body := if negative ∨ body.head? = some '+' then body.tail else body
  (negative, body.takeWhile isDigit, body.dropWhile isDigit)

/-- `strtoul(s, &end, 10)` with a 32-bit `unsigned long`: the value, and `end`. -/
def strtoul (s : List Char) : Nat × List Char :=
  let (negative, digits, rest) := scanNumber s
  if digits = [] then (0, s)
  else if decimal digits ≥ 2 ^ 32 then (2 ^ 32 - 1, rest)
  else (if negative then (2 ^ 32 - decimal digits) % 2 ^ 32 else decimal digits, rest)

/-- `atoi(s)`, undefined outside the range of `int`. -/
def atoi (s : List Char) : Except UriError Int :=
  let (negative, digits, _) := scanNumber s
  let value : Int := if negative then - decimal digits else decimal digits
  if -2 ^ 31 ≤ value ∧ value < 2 ^ 31 then .ok value else .error .undefined

/-- `strchr(s, c)`: the suffix from the first `c` on. -/
def strchr (s : List Char) (c : Char) : Option (List Char) :=
  match s.dropWhile (· != c) with
  | [] => none
  | t => some t

/-- The first token of `strtok(s, sep)`. -/
def strtok (s : List Char) (sep : Char) : Option (List Char) :=
  match s.dropWhile (· == sep) with
  | [] => none
  | t => some (t.takeWhile (· != sep))

/-- `strncmp(s, start, strlen(start)) == 0`. -/
def startsWith (s start : List Char) : Bool := start.isPrefixOf s

/-! ## Linux -/

namespace Linux

/-- `c` in `lo-hi`. -/
def inRange (lo hi c : Char) : Bool := lo ≤ c && c ≤ hi

/-- `[0-9A-Za-z.-]` -/
def isHostChar (c : Char) : Bool :=
  inRange '0' '9' c || inRange 'A' 'Z' c || inRange 'a' 'z' c || c = '.' || c = '-'

/-- `[0-9A-Za-z.-_~!$&'()*+,;=:@]`, in which `.-_` is a range. -/
def isPathChar (c : Char) : Bool :=
  inRange '0' '9' c || inRange 'A' 'Z' c || inRange 'a' 'z' c || inRange '.' '_' c ||
    c ∈ ['~', '!', '$', '&', Char.ofNat 39, '(', ')', '*', '+', ',', ';', '=', ':', '@']

/-- `^(ws[s]?)://([0-9A-Za-z.-]+)(:[0-9]+)?(/[0-9A-Za-z.-_~!$&'()*+,;=:@]*)?$` -/
def strRegex : Regex :=
  .seq (.group 1 (.seq (.word ['w', 's']) (.opt (.cls (· == 's')))))
    (.seq (.word [':', '/', '/'])
      (.seq (.group 2 (.plus isHostChar))
        (.seq (.opt (.group 3 (.seq (.cls (· == ':')) (.plus isDigit))))
          (.opt (.group 4 (.seq (.cls (· == '/')) (.rep isPathChar)))))))

/-- `port` is what `*port` holds before the call. -/
def websocketParseUri (port : Int) (uri : List Char) : Except UriError ParsedUri :=
  match strRegex.regexec uri with
  | none => .error .malformed
  | some pmatch => do
    let useTls : Bool := Regex.capture pmatch 1 = ['w', 's', 's']
    let host := Regex.capture pmatch 2
    let port ←
      if Regex.capture pmatch 3 ≠ [] then
        match strtok (Regex.capture pmatch 3) ':' with
        | some p => atoi p
        | none => .ok port
      else .ok (if useTls then 443 else 80)
    let path := if Regex.capture pmatch 4 = [] then ['/'] else Regex.capture pmatch 4
    return ⟨host, path, port, useTls⟩

end Linux

/-! ## Tinyara -/

namespace Tinyara

/-- What follows the scheme. -/
def parseAuthority (port : Int) (useTls : Bool) (uri : List Char) : Except UriError ParsedUri :=
  let (host, port, uri) : Option (List Char) × Int × List Char :=
    match strchr uri ':' with
    | some tmp =>
      let (p, after) := strtoul tmp
      -- `(int)p`
      (some (uri.take (uri.length - tmp.length)), if p > 0 then (BitVec.ofNat 32 p).toInt else port,
        uri.drop (tmp.length - after.length))
    | none => (none, port, uri)
  match strchr uri '/' with
  | none => .error .malformed
  | some tmp => .ok ⟨host.getD (uri.take (uri.length - tmp.length)), tmp, port, useTls⟩

def websocketParseUri (uri : List Char) : Except UriError ParsedUri :=
  if startsWith uri ['w', 's', ':', '/', '/'] then parseAuthority 80 false (uri.drop 5)
  else if startsWith uri ['w', 's', 's', ':', '/', '/'] then parseAuthority 443 true (uri.drop 6)
  else .error .malformed

end Tinyara

/-! ## The grammar -/

/-- A URI: `ws` or `wss`, a host, an optional port and an optional path, which begins with a
slash and is otherwise free. -/
structure Uri where
  tls : Bool
  host : List Char
  port : Option (List Char)
  path : Option (List Char)
  hostNonempty : host ≠ []
  hostChars : ∀ c ∈ host, Linux.isHostChar c = true
  portDigits : ∀ digits ∈ port, digits ≠ [] ∧ ∀ c ∈ digits, isDigit c = true
  pathChars : ∀ cs ∈ path, ∀ c ∈ cs, c ≠ Char.ofNat 0

def schemeText (tls : Bool) : List Char := if tls then ['w', 's', 's'] else ['w', 's']

def portText : Option (List Char) → List Char
  | none => []
  | some digits => ':' :: digits

def pathText : Option (List Char) → List Char
  | none => []
  | some cs => '/' :: cs

def uriText (tls : Bool) (host : List Char) (port path : Option (List Char)) : List Char :=
  schemeText tls ++ ([':', '/', '/'] ++ (host ++ (portText port ++ pathText path)))

def Uri.text (u : Uri) : List Char := uriText u.tls u.host u.port u.path

def Uri.defaultPort (u : Uri) : Nat := if u.tls then 443 else 80

/-- What a URI means. -/
def Uri.parsed (u : Uri) : ParsedUri where
  host := u.host
  path := '/' :: u.path.getD []
  port := ((u.port.map decimal).getD u.defaultPort : Nat)
  useTls := u.tls

end ArtikSdk.Websocket
