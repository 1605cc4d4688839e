import ArtikSdk.Base.Error
import ArtikSdk.Lib.Ledger

/-!
# Requests over TLS

`release_http_ssl_config`, `init_client_ssl_config`, `_http_method_stream`, `_http_method` and
`see_generate_random_client` of `tinyara_http.c`, built with `CONFIG_NET_SECURITY_TLS` and without
`CONFIG_ARTIK_SDK_HTTP_ASYNC`. What every step that can fail returns is given; the ledger has the
objects, each under the name of the pointer to it. No pointer is set back to null, so one is null as
long as its object was not allocated.
-/

namespace ArtikSdk.Http.Tls
open Lib

inductive Object where
  | config
  | ssl
  | tlsConf
  | entropy
  | ctrDrbg
  | cert
  | pkey
  | devCert
  | privateKey
  /-- What `mbedtls_ssl_conf_own_cert` keeps in the configuration. -/
  | keyCert
  | seCert
  | seRootCa
  | headers
  | buf
  | response
  /-- The text that is handed to the caller in `*param->response`. -/
  | text
deriving DecidableEq, Repr

/-- What is requested and released. -/
inductive SecurityApi where
  | module
  | handle
deriving DecidableEq, Repr

abbrev Memory := Ledger Object SecurityApi

abbrev Act := Checked Misuse Memory

/-- Steps up to the label `exit`, with the code that is returned. -/
abbrev Body := Steps Misuse Memory ArtikError

abbrev use (o : Object) : Act Unit := Ledger.use o

abbrev useAll (os : List Object) : Act Unit := Ledger.useAll os

abbrev isSet (o : Object) : Act Bool := Ledger.isSet o

abbrev alloc (o : Object) (given : Bool) : Act Unit := Ledger.alloc o given

abbrev free (o : Object) : Act Unit := Ledger.free o

abbrev ask (k : SecurityApi) : Act Unit := Ledger.ask k

abbrev release (k : SecurityApi) : Act Unit := Ledger.release k

/-- `artik_ssl_config`: whether the secure element is used, and which data are there. -/
structure SslConfig where
  useSe : Bool
  clientCert : Bool
  clientKey : Bool
  caCert : Bool

def SslConfig.clientPair (a : SslConfig) : Bool := a.clientCert && a.clientKey

/-- What the steps of `init_client_ssl_config` return: memory, the codes of mbed TLS, and the codes
of the security module with whether a text was given. -/
structure Setup where
  configMemory : Bool
  sslMemory : Bool
  tlsConfMemory : Bool
  entropyMemory : Bool
  ctrDrbgMemory : Bool
  ctrDrbgSeed : Int
  configDefaults : Int
  securityModule : Bool
  certMemory : Bool
  pkeyMemory : Bool
  request : ArtikError
  getCertificate : ArtikError × Bool
  getRootCa : ArtikError × Bool
  certParse : Int
  pkInfo : Bool
  pkSetup : Int
  parseKey : Int
  ownCert : Int
  /-- Whether `mbedtls_ssl_conf_own_cert` allocates what only `mbedtls_ssl_config_free` frees. -/
  ownCertKeeps : Bool
  rootCaMemory : Bool
  rootCaParse : Int

/-- A call of `see_generate_random_client`: its arguments are there, and what the security module returns. -/
structure RandomCall where
  asked : Bool
  securityModule : Bool
  request : ArtikError

/-- What the steps of a request return. -/
structure Outcomes where
  setup : Setup
  headersInit : Int
  bufMemory : Bool
  responseInit : Int
  randomCalls : List RandomCall
  /-- What `wget` or `http_client_send_request` returns. -/
  sent : Int
  entityLen : Int
  textMemory : Bool

/-! ## The configuration -/

/-- A pointer in the configuration: free what it points to. -/
def freeMember (holder member : Object) : Act Unit := do
  use holder
  if ← isSet member then
    free member

def releaseHttpSslConfig : Act Unit := do
  freeMember .config .ctrDrbg
  freeMember .config .entropy
  freeMember .config .pkey
  freeMember .config .cert
  -- `ssl` is dereferenced before it is compared with null
  freeMember .ssl .tlsConf
  freeMember .ssl .devCert
  freeMember .ssl .privateKey
  freeMember .config .ssl

def zalloc (o : Object) (given : Bool) : Body Unit := do
  alloc o given
  if given then pure () else throw .noMem

/-- A pointer in the configuration: set it to a block of zeros. -/
def zallocMember (holder member : Object) (given : Bool) : Body Unit := do
  use holder
  zalloc member given

def check (ok : Bool) (e : ArtikError) : Body Unit := if ok then pure () else throw e

def sslConfOwnCert (env : Setup) : Act Unit := do
  useAll [.config, .ssl, .tlsConf, .cert, .pkey]
  alloc .keyCert (decide (env.ownCert = 0) && env.ownCertKeeps)

def setupDefaults (env : Setup) : Body Unit := do
  zallocMember .config .ssl env.sslMemory
  zallocMember .ssl .tlsConf env.tlsConfMemory
  zallocMember .config .entropy env.entropyMemory
  zallocMember .config .ctrDrbg env.ctrDrbgMemory
  useAll [.config, .ssl, .tlsConf, .entropy, .ctrDrbg]
  check (env.ctrDrbgSeed = 0) .badArgs
  check (env.configDefaults = 0) .badArgs

/-- A step with the texts of the secure element in hand. -/
def checkSe (ok : Bool) : Body Unit := do
  if ok then pure () else
    free .seCert
    free .seRootCa
    throw .badArgs

/-- `get_certificate` or `get_root_ca`: its code, and whether a text was given. -/
def getText (o : Object) (r : ArtikError × Bool) : Body Unit := do
  alloc o r.2
  check (r.1 = .ok && r.2) .accessDenied

def setupSe (env : Setup) : Body Unit := do
  check env.securityModule .notSupported
  ask .module
  zallocMember .config .cert env.certMemory
  zallocMember .config .pkey env.pkeyMemory
  check (env.request = .ok) .notSupported
  ask .handle
  getText .seCert env.getCertificate
  getText .seRootCa env.getRootCa
  release .handle
  release .module
  useAll [.config, .ssl, .tlsConf, .cert, .pkey, .seCert]
  checkSe (env.certParse = 0)
  checkSe env.pkInfo
  checkSe (env.pkSetup = 0)
  sslConfOwnCert env
  checkSe (env.ownCert = 0)
  useAll [.cert, .seRootCa]
  checkSe (env.rootCaParse = 0)
  free .seCert
  free .seRootCa

def setupClientCert (env : Setup) : Body Unit := do
  zallocMember .config .cert env.certMemory
  zallocMember .config .pkey env.pkeyMemory
  useAll [.cert, .pkey]
  check (env.certParse = 0) .badArgs
  check (env.parseKey = 0) .badArgs
  sslConfOwnCert env
  check (env.ownCert = 0) .badArgs

def setupRootCa (env : Setup) : Body Unit := do
  if ← isSet .cert then pure () else zallocMember .config .cert env.rootCaMemory
  useAll [.config, .ssl, .tlsConf, .cert]
  check (env.rootCaParse = 0) .badArgs

def setupSsl (env : Setup) (a : SslConfig) : Body Unit := do
  zalloc .config env.configMemory
  -- `*ssl_config` points to it from here on
  setupDefaults env
  if a.useSe then setupSe env
  else
    if a.clientPair then setupClientCert env
    if a.caCert then setupRootCa env
  useAll [.config, .ssl, .tlsConf]

/-- The exit of a function that holds a configuration, if its pointer is set. -/
def exit : Act Unit := do
  if ← isSet .config then
    releaseHttpSslConfig
    free .config

def initClientSslConfig (env : Setup) (a : SslConfig) : Act ArtikError := do
  match ← (setupSsl env a).run with
  | .ok () => pure .ok
  | .error ret =>
    exit
    pure ret

/-! ## The requests -/

def seeGenerateRandomClient (c : RandomCall) : Act Unit := do
  if c.asked then
    -- the module is used without a look at the pointer
    if c.securityModule then pure () else Checked.fault .null
    ask .module
    if c.request = .ok then ask .handle
    release .handle
    release .module

/-- What `wget` or `http_client_send_request` does with a configuration: it asks for random bytes. -/
def tlsRequest (env : Outcomes) : Option SslConfig → Act Unit
  | none => pure ()
  | some a => do
    useAll [.ssl, .tlsConf, .ctrDrbg, .entropy]
    if a.useSe then forM env.randomCalls seeGenerateRandomClient

/-- The configuration of a request. -/
def setupRequest (env : Outcomes) : Option SslConfig → Body Unit
  | none => pure ()
  | some a => do
    let ret ← initClientSslConfig env.setup a
    check (ret = .ok) ret
    use .config

def streamBody (env : Outcomes) (ssl : Option SslConfig) : Body Unit := do
  setupRequest env ssl
  zalloc .buf env.bufMemory
  -- `ssl->tls_conf` is an argument of `wget`, with and without a configuration
  use .ssl
  tlsRequest env ssl
  free .buf
  check (0 ≤ env.sent) .httpError

/-- The code that is returned. -/
def result : Except ArtikError Unit → ArtikError
  | .ok () => .ok
  | .error ret => ret

@[simp] theorem result_ok : result (.ok ()) = .ok := rfl

@[simp] theorem result_error (ret : ArtikError) : result (.error ret) = ret := rfl

def httpMethodStream (env : Outcomes) (ssl : Option SslConfig) : Act ArtikError := do
  let r ← (streamBody env ssl).run
  exit
  pure (result r)

def methodBody (env : Outcomes) (ssl : Option SslConfig) : Body Unit := do
  setupRequest env ssl
  alloc .response (0 ≤ env.responseInit)
  check (0 ≤ env.responseInit) .httpError
  tlsRequest env ssl
  if env.sent < 0 ∨ env.entityLen ≤ 0 then
    free .response
    throw .httpError
  zalloc .text env.textMemory
  use .response
  free .response

def httpMethod (env : Outcomes) (ssl : Option SslConfig) : Act ArtikError := do
  if env.headersInit < 0 then pure .noMem
  else
    alloc .headers true
    use .headers
    let r ← (methodBody env ssl).run
    free .headers
    exit
    pure (result r)

end ArtikSdk.Http.Tls
