import ModuleNats.Connection.Model
import ModuleNats.JetStream.Values
import ModuleNats.Lib.Logged
import ModuleNats.Sandbox.NetworkCheck

set_option autoImplicit false

/-! # Connection options

`configureOptions()` hands the members of an options hash to the C client, one after the other. Some
of the functions it calls read a local file; the filesystem policy is asked about each file first.
The constructor connects with the options only after all that. -/

namespace ModuleNats.Connection

open Logged

/-! ## The calls -/

structure NatsTlsOptions where
  caCert : Option String := none
  clientCert : Option String := none
  clientKey : Option String := none
  skipVerify : Option Bool := none
  ciphers : Option String := none
  cipherSuites : Option String := none
  expectedHostname : Option String := none
  tlsHandshakeFirst : Option Bool := none

structure NatsConnectionOptions where
  url : Option String := none
  token : Option String := none
  username : Option String := none
  password : Option String := none
  nkeySeed : Option String := none
  /-- read by the code, but not a member of the hash -/
  nkeyPub : Option String := none
  credentials : Option String := none
  tls : Option NatsTlsOptions := none
  name : Option String := none
  connectTimeoutMs : Option Int64 := none
  reconnectWaitMs : Option Int64 := none
  maxReconnect : Option Int64 := none
  pingInterval : Option Int64 := none
  maxPingsOut : Option Int64 := none
  noRandomize : Option Bool := none
  servers : Option (List String) := none
  noEcho : Option Bool := none
  sendAsap : Option Bool := none
  allowReconnect : Option Bool := none
  reconnectJitterMs : Option Int64 := none
  reconnectJitterTlsMs : Option Int64 := none
  reconnectBufSize : Option Int64 := none
  maxPendingMsgs : Option Int64 := none
  maxPendingBytes : Option Int64 := none
  failRequestsOnDisconnect : Option Bool := none
  ipResolutionOrder : Option Int64 := none
  writeDeadlineMs : Option Int64 := none
  disableNoResponders : Option Bool := none
  customInboxPrefix : Option String := none
  /-- the callbacks that are given -/
  callbacks : List Callback := []

/-- The functions of the C client that are called on the options, `natsOptions_Create()` and so
    on. -/
inductive OptionCall where
  | create
  | setURL (url : CString)
  | setToken (token : CString)
  | setUserInfo (user : CString) (password : Option CString)
  | setNKeyFromSeed (pubKey : Option CString) (seedFile : CString)
  | setUserCredentialsFromFiles (userOrChainedFile : CString) (seedFile : Option CString)
  | setName (name : CString)
  | setTimeout (timeout : Int64)
  | setReconnectWait (reconnectWait : Int64)
  | setMaxReconnect (maxReconnect : Int32)
  | setPingInterval (interval : Int64)
  | setMaxPingsOut (maxPingsOut : Int32)
  | setNoRandomize (noRandomize : Bool)
  | setServers (servers : List CString)
  | setNoEcho (noEcho : Bool)
  | setSendAsap (sendAsap : Bool)
  | setAllowReconnect (allow : Bool)
  | setReconnectJitter (jitter jitterTLS : Int64)
  | setReconnectBufSize (reconnectBufSize : Int32)
  | setMaxPendingMsgs (maxPending : Int32)
  | setMaxPendingBytes (maxPending : Int64)
  | setFailRequestsOnDisconnect (failRequests : Bool)
  | ipResolutionOrder (order : Int32)
  | setWriteDeadline (deadline : Int64)
  | disableNoResponders (disabled : Bool)
  | setCustomInboxPrefix (inboxPrefix : CString)
  | setSecure (secure : Bool)
  | loadCATrustedCertificates (fileName : CString)
  | loadCertificatesChain (certsFileName keyFileName : CString)
  | skipServerVerification (skip : Bool)
  | setCiphers (ciphers : CString)
  | setCipherSuites (ciphers : CString)
  | setExpectedHostname (hostname : CString)
  | tlsHandshakeFirst
  | setCallback (cb : Callback)
  | setProxyConnHandler
deriving DecidableEq

/-- The files that a call reads, or makes the connection read. -/
def OptionCall.files : OptionCall → List CString
  | setNKeyFromSeed _ seedFile => [seedFile]
  | setUserCredentialsFromFiles userOrChainedFile seedFile =>
      userOrChainedFile :: seedFile.toList
  | loadCATrustedCertificates fileName => [fileName]
  | loadCertificatesChain certsFileName keyFileName => [certsFileName, keyFileName]
  | _ => []

/-- What `configureOptions()` keeps for the dialer. -/
structure DialerOptions where
  connectTimeoutMs : Int64
  ipResolutionOrder : Int32
  noRandomize : Bool
deriving DecidableEq

/-- What the constructor does. -/
inductive Event where
  | checkFile (path : CString) (allowed : Bool)
  | checkNetwork (url : CString) (allowed : Bool)
  | option (call : OptionCall)
  /-- `natsConnection_Connect()`, with the dialer if the code is sandboxed -/
  | connect (dialer : Option DialerOptions)
deriving DecidableEq

abbrev Config := Logged Event ExceptionInfo

/-- The policies of a sandbox manager. `checkFilesystemAccess()` raises an exception when it
    denies. -/
structure SandboxManager where
  network : NetworkPolicy
  checkFilesystemAccess : CString → Option ExceptionInfo

/-- What the constructor calls. -/
structure OptionsEnv where
  /-- the sandbox manager of the calling code, if there is one -/
  smh : Option SandboxManager
  /-- the sandbox that the dialer captures is active -/
  sandboxed : Bool
  getaddrinfo : Resolver
  /-- the text of the status of a call, if it is not `NATS_OK` -/
  status : OptionCall → Option String
  /-- the exception that `natsConnection_Connect()` ends with, if it fails -/
  connect : Option ExceptionInfo

/-! ## The code -/

/-- The exception for a file, if the policy denies the access; without a sandbox manager all is
    allowed. -/
def OptionsEnv.denial (env : OptionsEnv) (path : CString) : Option ExceptionInfo :=
  env.smh.bind fun sm => sm.checkFilesystemAccess path

/-- `check_nats_file_access()` -/
def checkNatsFileAccess (env : OptionsEnv) (path : CString) : Config Unit :=
  match env.denial path with
  | none => log (.checkFile path true)
  | some ex => ⟨[.checkFile path false], .error ex⟩

/-- `check_nats_network_access()` -/
def checkNetwork (env : OptionsEnv) (url : CString) : Config Unit :=
  match checkNatsNetworkAccess (env.smh.map (·.network)) env.getaddrinfo url.text.toList with
  | .ok () => log (.checkNetwork url true)
  | .error ex => ⟨[.checkNetwork url false], .error ex⟩

/-- A call on the options, with the exception for a status that is not `NATS_OK`. -/
def callOption (env : OptionsEnv) (call : OptionCall) (err desc : String) : Config Unit := do
  log (.option call)
  whenSome (env.status call) fun statusText => raise (natsError err desc statusText)

def connectionOption (env : OptionsEnv) (call : OptionCall) (desc : String) : Config Unit :=
  callOption env call "NATS-CONNECTION-ERROR" desc

def authOption (env : OptionsEnv) (call : OptionCall) (desc : String) : Config Unit :=
  callOption env call "NATS-AUTH-ERROR" desc

def tlsOption (env : OptionsEnv) (call : OptionCall) (desc : String) : Config Unit :=
  callOption env call "NATS-TLS-ERROR" desc

/-- The URL and the authentication. -/
def configureAuth (env : OptionsEnv) (o : NatsConnectionOptions) : Config Unit := do
  whenSome o.url fun url => connectionOption env (.setURL (.add url)) "failed to set URL"
  whenSome o.token fun token => authOption env (.setToken (.add token)) "failed to set token"
  whenSome o.username fun user =>
    authOption env (.setUserInfo (.add user) (o.password.map .add)) "failed to set user info"
  whenSome o.nkeySeed fun seed => do
    checkNatsFileAccess env (.add seed)
    authOption env (.setNKeyFromSeed (o.nkeyPub.map .add) (.add seed)) "failed to set NKey seed"
  whenSome o.credentials fun credentials => do
    checkNatsFileAccess env (.add credentials)
    authOption env (.setUserCredentialsFromFiles (.add credentials) none)
      "failed to set credentials file"

/-- The loop over the URLs of the servers: one that is empty is not checked. -/
def checkServers (env : OptionsEnv) : List CString → Config Unit
  | [] => pure ()
  | url :: rest => do
      whenTrue (url.text ≠ "") (checkNetwork env url)
      checkServers env rest

def configureServers (env : OptionsEnv) (servers : List String) : Config Unit :=
  whenTrue (servers.length > 0) do
    checkServers env (servers.map .add)
    connectionOption env (.setServers (servers.map .add)) "failed to set servers"

/-- The options of the connection and of its reconnections. -/
def configureConnection (env : OptionsEnv) (o : NatsConnectionOptions) : Config Unit := do
  whenSome o.name fun name =>
    connectionOption env (.setName (.add name)) "failed to set connection name"
  whenSome o.connectTimeoutMs fun ms =>
    connectionOption env (.setTimeout ms) "failed to set connect timeout"
  whenSome o.reconnectWaitMs fun ms =>
    connectionOption env (.setReconnectWait ms) "failed to set reconnect wait"
  whenSome o.maxReconnect fun n =>
    connectionOption env (.setMaxReconnect n.toInt32) "failed to set max reconnect"
  whenSome o.pingInterval fun ms =>
    connectionOption env (.setPingInterval ms) "failed to set ping interval"
  whenSome o.maxPingsOut fun n =>
    connectionOption env (.setMaxPingsOut n.toInt32) "failed to set max pings out"
  whenTrue (o.noRandomize = some true)
    (connectionOption env (.setNoRandomize true) "failed to set no randomize")
  whenSome o.servers (configureServers env)
  whenSome o.noEcho fun b => connectionOption env (.setNoEcho b) "failed to set no echo"
  whenSome o.sendAsap fun b => connectionOption env (.setSendAsap b) "failed to set send asap"
  whenSome o.allowReconnect fun b =>
    connectionOption env (.setAllowReconnect b) "failed to set allow reconnect"
  whenTrue (o.reconnectJitterMs.isSome ∨ o.reconnectJitterTlsMs.isSome)
    (connectionOption env
      (.setReconnectJitter (o.reconnectJitterMs.getD 0) (o.reconnectJitterTlsMs.getD 0))
      "failed to set reconnect jitter")

/-- The limits and the other options. -/
def configureLimits (env : OptionsEnv) (o : NatsConnectionOptions) : Config Unit := do
  whenSome o.reconnectBufSize fun n =>
    connectionOption env (.setReconnectBufSize n.toInt32) "failed to set reconnect buffer size"
  whenSome o.maxPendingMsgs fun n =>
    connectionOption env (.setMaxPendingMsgs n.toInt32) "failed to set max pending messages"
  whenSome o.maxPendingBytes fun n =>
    connectionOption env (.setMaxPendingBytes n) "failed to set max pending bytes"
  whenSome o.failRequestsOnDisconnect fun b =>
    connectionOption env (.setFailRequestsOnDisconnect b)
      "failed to set fail requests on disconnect"
  whenSome o.ipResolutionOrder fun n =>
    connectionOption env (.ipResolutionOrder n.toInt32) "failed to set IP resolution order"
  whenSome o.writeDeadlineMs fun ms =>
    connectionOption env (.setWriteDeadline ms) "failed to set write deadline"
  whenSome o.disableNoResponders fun b =>
    connectionOption env (.disableNoResponders b) "failed to disable no responders"
  whenSome o.customInboxPrefix fun s =>
    connectionOption env (.setCustomInboxPrefix (.add s)) "failed to set custom inbox prefix"

/-- A client certificate is loaded with its key, if both are given. -/
def configureCertificate (env : OptionsEnv) (t : NatsTlsOptions) : Config Unit :=
  match t.clientCert, t.clientKey with
  | some cert, some key => do
      checkNatsFileAccess env (.add cert)
      checkNatsFileAccess env (.add key)
      tlsOption env (.loadCertificatesChain (.add cert) (.add key))
        "failed to load client certificate/key"
  | _, _ => pure ()

def configureTls (env : OptionsEnv) (t : NatsTlsOptions) : Config Unit := do
  tlsOption env (.setSecure true) "failed to enable TLS"
  whenSome t.caCert fun ca => do
    checkNatsFileAccess env (.add ca)
    tlsOption env (.loadCATrustedCertificates (.add ca)) "failed to load CA certificates"
  configureCertificate env t
  whenTrue (t.skipVerify = some true)
    (tlsOption env (.skipServerVerification true) "failed to set skip server verification")
  whenSome t.ciphers fun s => tlsOption env (.setCiphers (.add s)) "failed to set TLS ciphers"
  whenSome t.cipherSuites fun s =>
    tlsOption env (.setCipherSuites (.add s)) "failed to set TLS cipher suites"
  whenSome t.expectedHostname fun s =>
    tlsOption env (.setExpectedHostname (.add s)) "failed to set expected hostname"
  whenTrue (t.tlsHandshakeFirst = some true)
    (tlsOption env .tlsHandshakeFirst "failed to set TLS handshake first")

/-- `QoreNatsConnection::configureOptions()` -/
def configureOptions (env : OptionsEnv) (o : NatsConnectionOptions) : Config DialerOptions := do
  configureAuth env o
  configureConnection env o
  configureLimits env o
  whenSome o.tls (configureTls env)
  return {
    connectTimeoutMs := o.connectTimeoutMs.getD 0
    ipResolutionOrder := (o.ipResolutionOrder.map Int64.toInt32).getD 0
    noRandomize := o.noRandomize.getD false }

/-- The loop over the callbacks: the closed callback is always set. -/
def setCallbacks (env : OptionsEnv) (given : List Callback) : List Callback → Config Unit
  | [] => pure ()
  | cb :: rest => do
      whenTrue (cb ∈ given ∨ cb = .closed)
        (connectionOption env (.setCallback cb) cb.failure)
      setCallbacks env given rest

/-- `QoreNatsConnection::setupCallbacks()` -/
def setupCallbacks (env : OptionsEnv) (o : NatsConnectionOptions) : Config Unit :=
  whenTrue (o.callbacks ≠ []) (setCallbacks env o.callbacks Callback.all)

/-- `QoreNatsConnection::setupDialer()` -/
def setupDialer (env : OptionsEnv) (dialer : DialerOptions) : Config (Option DialerOptions) :=
  if env.sandboxed then do
    connectionOption env .setProxyConnHandler "failed to set the connection handler"
    return some dialer
  else pure none

/-- `QoreNatsConnection::connect()` -/
def connect (env : OptionsEnv) (dialer : Option DialerOptions) : Config Unit := do
  log (.connect dialer)
  whenSome env.connect raise

/-- The constructor of `QoreNatsConnection` from an options hash. -/
def construct (env : OptionsEnv) (o : NatsConnectionOptions) : Config Unit := do
  connectionOption env .create "failed to create NATS options"
  let options ← configureOptions env o
  setupCallbacks env o
  whenSome o.url fun url => checkNetwork env (.add url)
  let dialer ← setupDialer env options
  connect env dialer

end ModuleNats.Connection
