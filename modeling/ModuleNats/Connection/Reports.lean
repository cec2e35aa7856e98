import ModuleNats.JetStream.Values
import ModuleNats.Lib.Custody
import ModuleNats.NatsHelper

set_option autoImplicit false

/-! # What a connection reports about itself

`getServers()`, `getDiscoveredServers()`, `getClientIp()`, `getLocalIpAndPort()`, `getStats()` and
`getConnectionInfo()` ask the C client, which answers with strings, arrays of strings and a
statistics object that the wrapper has to free. The calls of the Qore library in between (a
cancellation check, a new hash, a value that is set or pushed) can each raise an exception.

`connection_reports_settle` says that on every way out of each of them everything is freed once. -/

namespace ModuleNats.Connection

open Custody Custody.Prog

/-! ## The answers of the C client -/

/-- The counts of a `natsStatistics`. -/
structure NatsCounts where
  inMsgs : UInt64
  inBytes : UInt64
  outMsgs : UInt64
  outBytes : UInt64
  reconnects : UInt64
deriving DecidableEq, Repr

/-- The answers about one connection; a status that is not `NATS_OK` is its text. A string or an
    array can be `NULL`. -/
structure NatsConn where
  connectedUrl : Except String CString
  connectedServerId : Except String CString
  clientId : Except String UInt64
  clientIp : Except String (Option CString)
  /-- nanoseconds -/
  rtt : Except String Int64
  maxPayload : Int64
  headerSupport : Bool
  localIpAndPort : Except String (Option CString × Int32)
  reconnecting : Bool
  draining : Bool
  buffered : Int32
  servers : Except String (Option (List CString))
  discoveredServers : Except String (Option (List CString))
  statisticsCreate : Except String Unit
  getStats : Except String Unit
  getCounts : Except String NatsCounts

/-! ## The hashes -/

structure NatsConnectionStats where
  inMsgs : Int64
  inBytes : Int64
  outMsgs : Int64
  outBytes : Int64
  reconnects : Int64
deriving DecidableEq, Repr

structure NatsConnectionInfo where
  connectedUrl : Option String
  serverId : Option String
  clientId : Option Int64
  clientIp : Option String
  rttMs : Option Int64
  maxPayload : Int64
  hasHeaderSupport : Bool
  localIp : Option String
  localPort : Option Int64
  isReconnecting : Bool
  isDraining : Bool
  buffered : Int64
  servers : Option (List String)
  discoveredServers : Option (List String)
  stats : NatsConnectionStats
deriving DecidableEq

/-- The answer, if the status is `NATS_OK`. -/
def answered {α : Type} : Except String α → Option α
  | .ok a => some a
  | .error _ => none

def countsToHash (c : NatsCounts) : NatsConnectionStats where
  inMsgs := c.inMsgs.toInt64
  inBytes := c.inBytes.toInt64
  outMsgs := c.outMsgs.toInt64
  outBytes := c.outBytes.toInt64
  reconnects := c.reconnects.toInt64

/-! ## The code -/

def connectionError (desc statusText : String) : ExceptionInfo :=
  natsError "NATS-CONNECTION-ERROR" desc statusText

def notConnected : ExceptionInfo := ⟨"NATS-CONNECTION-ERROR", "not connected"⟩

/-- The array of a list of servers, and its strings. -/
def takeServers (texts : List CString) : Prog ExceptionInfo (ℕ × List (ℕ × CString)) := do
  let servers ← acquire
  let strings ← acquireTimes texts.length
  pure (servers, strings.zip texts)

/-- `nats_server_list_to_qore()`: the loop, over the strings that are left. -/
def natsServerListToQore (servers : ℕ) : List (ℕ × CString) → List String →
    Prog ExceptionInfo (List String)
  | [], list => do
      release servers
      pure list
  | (string, text) :: rest, list => do
      use servers
      use string
      let raised ← attempt
      release string
      match raised with
      | some ex => do
          releaseAll (rest.map Prod.fst)
          release servers
          raise ex
      | none => natsServerListToQore servers rest (list ++ [text.text])

/-- `getServers()` and `getDiscoveredServers()`. -/
def getServerList (answer : Except String (Option (List CString))) (desc : String)
    (connected : Bool) : Prog ExceptionInfo (List String) :=
  if !connected then raise notConnected
  else do
    call
    match answer with
    | .error statusText => raise (connectionError desc statusText)
    | .ok none => pure []
    | .ok (some []) => do
        let servers ← acquire
        release servers
        pure []
    | .ok (some (text :: texts)) => do
        let (servers, strings) ← takeServers (text :: texts)
        natsServerListToQore servers strings []

def getServers (c : NatsConn) : Bool → Prog ExceptionInfo (List String) :=
  getServerList c.servers "failed to get servers"

def getDiscoveredServers (c : NatsConn) : Bool → Prog ExceptionInfo (List String) :=
  getServerList c.discoveredServers "failed to get discovered servers"

def getClientIp (c : NatsConn) (connected : Bool) : Prog ExceptionInfo (Option String) :=
  if !connected then raise notConnected
  else
    match c.clientIp with
    | .error _ | .ok none => pure none
    | .ok (some text) => do
        let ip ← acquire
        use ip
        release ip
        pure (some text.text)

def getLocalIpAndPort (c : NatsConn) (connected : Bool) :
    Prog ExceptionInfo (Option String × Int64) :=
  if !connected then raise notConnected
  else
    match c.localIpAndPort with
    | .error statusText => raise (connectionError "failed to get local IP and port" statusText)
    | .ok (none, port) => do
        call
        pure (none, port.toInt64)
    | .ok (some text, port) => do
        let ip ← acquire
        use ip
        let raised ← attempt
        release ip
        check raised
        call
        pure (some text.text, port.toInt64)

def getStats (c : NatsConn) (connected : Bool) : Prog ExceptionInfo NatsConnectionStats :=
  if !connected then raise notConnected
  else do
    call
    match c.statisticsCreate with
    | .error statusText => raise (connectionError "failed to create statistics" statusText)
    | .ok () =>
        let stats ← acquire
        use stats
        match c.getStats with
        | .error statusText => do
            release stats
            raise (connectionError "failed to get statistics" statusText)
        | .ok () => do
            use stats
            release stats
            match c.getCounts with
            | .error statusText =>
                raise (connectionError "failed to get statistics counts" statusText)
            | .ok counts => do
                -- the hash, and its five values
                callTimes 6
                pure (countsToHash counts)

/-- The block for `servers`, and the one for `discovered_servers`. -/
def setServers (answer : Except String (Option (List CString))) :
    Prog ExceptionInfo (Option (List String)) :=
  match answer with
  | .error _ | .ok none => pure none
  | .ok (some []) => do
      let servers ← acquire
      release servers
      pure none
  | .ok (some (text :: texts)) => do
      let (servers, strings) ← takeServers (text :: texts)
      let list ← natsServerListToQore servers strings []
      call
      pure (some list)

/-- The block for `client_ip`. -/
def setClientIp (c : NatsConn) : Prog ExceptionInfo Unit :=
  match c.clientIp with
  | .error _ | .ok none => pure ()
  | .ok (some _) => do
      let ip ← acquire
      use ip
      let raised ← attempt
      release ip
      check raised

/-- The block for `local_ip` and `local_port`, which an exception can be pending at. -/
def setLocalIpAndPort (c : NatsConn) (pending : Option ExceptionInfo) :
    Prog ExceptionInfo (Option ExceptionInfo) :=
  match c.localIpAndPort with
  | .error _ => pure pending
  | .ok (none, _) => attemptUnless pending
  | .ok (some _, _) => do
      let ip ← acquire
      use ip
      let raised ← attempt
      release ip
      check (pending.or raised)
      attempt

def connectionInfo (c : NatsConn) (servers discoveredServers : Option (List String))
    (stats : NatsConnectionStats) : NatsConnectionInfo where
  connectedUrl := (answered c.connectedUrl).map CString.text
  serverId := (answered c.connectedServerId).map CString.text
  clientId := (answered c.clientId).map UInt64.toInt64
  clientIp := (answered c.clientIp).join.map CString.text
  rttMs := (answered c.rtt).map nsToMs
  maxPayload := c.maxPayload
  hasHeaderSupport := c.headerSupport
  localIp := (answered c.localIpAndPort).bind fun a => a.1.map CString.text
  localPort := (answered c.localIpAndPort).map fun a => a.2.toInt64
  isReconnecting := c.reconnecting
  isDraining := c.draining
  buffered := c.buffered.toInt64
  servers := servers
  discoveredServers := discoveredServers
  stats := stats

def getConnectionInfo (c : NatsConn) (connected : Bool) : Prog ExceptionInfo NatsConnectionInfo :=
  if !connected then raise notConnected
  else do
    call
    call
    callWhen (answered c.connectedUrl).isSome
    callWhen (answered c.connectedServerId).isSome
    callWhen (answered c.clientId).isSome
    setClientIp c
    callWhen (answered c.rtt).isSome
    let pending ← attempt
    let pending ← attemptUnless pending
    let pending ← setLocalIpAndPort c pending
    let pending ← attemptUnless pending
    let pending ← attemptUnless pending
    let pending ← attemptUnless pending
    check pending
    let servers ← setServers c.servers
    let discoveredServers ← setServers c.discoveredServers
    let stats ← getStats c connected
    call
    pure (connectionInfo c servers discoveredServers stats)

/-! ## Lists of servers -/

section Lists

variable {raises : ℕ → Option ExceptionInfo} {own : ExceptionInfo → Prop}

/-- The array with its strings is freed, whether the loop comes to its end or not. -/
theorem natsServerListToQore_spec (servers : ℕ) (strings : List (ℕ × CString))
    (list : List String) (held : List ℕ) :
    Triple raises (strings.map Prod.fst ++ servers :: held)
      (natsServerListToQore servers strings list) (fun _ => held)
      (fun l => l = list ++ (strings.map Prod.snd).map CString.text) held own := by
  induction strings generalizing list with
  | nil => exact Triple.release (Triple.pure (fun _ => held) list (by simp))
  | cons entry rest ih =>
      obtain ⟨string, text⟩ := entry
      refine Triple.use (by simp) (Triple.use (by simp) (Triple.attempt fun raised hraised => ?_))
      refine Triple.release ?_
      cases raised with
      | none => exact (ih (list ++ [text.text])).mono (fun l hl => by simp [hl]) fun _ hx => hx
      | some ex =>
          exact Triple.releaseAll _ (Triple.release (Triple.raise (.inl (hraised ex rfl))))

theorem takeServers_spec (texts : List CString) (held : List ℕ) {fail : List ℕ} :
    Triple raises held (takeServers texts) (fun a => a.2.map Prod.fst ++ a.1 :: held)
      (fun a => a.2.map Prod.snd = texts) fail own := by
  refine Triple.acquire fun servers => Triple.acquireTimes _ fun ids hids => ?_
  have hfst : (ids.zip texts).map Prod.fst = ids := List.map_fst_zip (Nat.le_of_eq hids)
  have hsnd : (ids.zip texts).map Prod.snd = texts := List.map_snd_zip (Nat.le_of_eq hids.symm)
  exact (Triple.pure _ (servers, ids.zip texts) hsnd).perm (by simp [hfst])

end Lists

/-! ## The results -/

/-- What `getServerList()` comes to. -/
def serverList (answer : Except String (Option (List CString))) (desc : String)
    (connected : Bool) : Except ExceptionInfo (List String) :=
  if !connected then .error notConnected
  else
    match answer with
    | .error statusText => .error (connectionError desc statusText)
    | .ok texts => .ok ((texts.getD []).map CString.text)

def clientIp (c : NatsConn) (connected : Bool) : Except ExceptionInfo (Option String) :=
  if !connected then .error notConnected
  else .ok ((answered c.clientIp).join.map CString.text)

def localIpAndPort (c : NatsConn) (connected : Bool) :
    Except ExceptionInfo (Option String × Int64) :=
  if !connected then .error notConnected
  else
    match c.localIpAndPort with
    | .error statusText => .error (connectionError "failed to get local IP and port" statusText)
    | .ok (ip, port) => .ok (ip.map CString.text, port.toInt64)

/-- What the three calls for the statistics come to. -/
def stats (c : NatsConn) (connected : Bool) : Except ExceptionInfo NatsConnectionStats :=
  if !connected then .error notConnected
  else
    match c.statisticsCreate, c.getStats, c.getCounts with
    | .error statusText, _, _ => .error (connectionError "failed to create statistics" statusText)
    | .ok (), .error statusText, _ =>
        .error (connectionError "failed to get statistics" statusText)
    | .ok (), .ok (), .error statusText =>
        .error (connectionError "failed to get statistics counts" statusText)
    | .ok (), .ok (), .ok counts => .ok (countsToHash counts)

/-- The servers of an answer, if there are any. -/
def someServers (answer : Except String (Option (List CString))) : Option (List String) :=
  ((answered answer).join.filter fun texts => !texts.isEmpty).map (·.map CString.text)

/-- The hash of a connection has the keys that the C client has an answer for. -/
def info (c : NatsConn) (connected : Bool) : Except ExceptionInfo NatsConnectionInfo :=
  (stats c connected).map
    (connectionInfo c (someServers c.servers) (someServers c.discoveredServers))

/-! ## Each function -/

section Reports

variable {raises : ℕ → Option ExceptionInfo} {c : NatsConn} {connected : Bool}

theorem getServerList_spec (answer : Except String (Option (List CString))) (desc : String) :
    Triple raises [] (getServerList answer desc connected) (fun _ => [])
      (fun list => serverList answer desc connected = .ok list) []
      (fun ex => serverList answer desc connected = .error ex) := by
  unfold getServerList
  cases connected with
  | false => exact Triple.raise (.inr rfl)
  | true =>
      refine Triple.call ?_
      rcases answer with statusText | _ | _ | ⟨text, texts⟩
      · exact Triple.raise (.inr rfl)
      · exact Triple.pure (fun _ => []) [] rfl
      · exact Triple.acquire fun servers => Triple.release (Triple.pure (fun _ => []) [] rfl)
      · refine (takeServers_spec (text :: texts) []).bind fun taken htexts => ?_
        refine (natsServerListToQore_spec taken.1 taken.2 [] []).mono (fun list hlist => ?_)
          fun _ hx => hx
        rw [hlist, htexts]
        rfl

theorem getClientIp_spec :
    Triple raises [] (getClientIp c connected) (fun _ => [])
      (fun ip => clientIp c connected = .ok ip) []
      (fun ex => clientIp c connected = .error ex) := by
  unfold getClientIp clientIp
  cases connected with
  | false => exact Triple.raise (.inr rfl)
  | true =>
      show Triple raises [] (match c.clientIp with
        | .error _ | .ok none => pure none
        | .ok (some text) => _) _ _ _ _
      rcases c.clientIp with statusText | _ | text
      · exact Triple.pure (fun _ => []) none rfl
      · exact Triple.pure (fun _ => []) none rfl
      · refine Triple.acquire fun ip => Triple.use (by simp) (Triple.release ?_)
        exact Triple.pure (fun _ => []) (some text.text) rfl

theorem getLocalIpAndPort_spec :
    Triple raises [] (getLocalIpAndPort c connected) (fun _ => [])
      (fun r => localIpAndPort c connected = .ok r) []
      (fun ex => localIpAndPort c connected = .error ex) := by
  unfold getLocalIpAndPort localIpAndPort
  cases connected with
  | false => exact Triple.raise (.inr rfl)
  | true =>
      rcases c.localIpAndPort with statusText | ⟨_ | text, port⟩
      · exact Triple.raise (.inr rfl)
      · exact Triple.call (Triple.pure (fun _ => []) (none, port.toInt64) rfl)
      · refine Triple.acquire fun ip => Triple.use (by simp) ?_
        refine Triple.attempt fun raised hraised => Triple.release (Triple.check hraised ?_)
        exact Triple.call (Triple.pure (fun _ => []) (some text.text, port.toInt64) rfl)

theorem getStats_spec :
    Triple raises [] (getStats c connected) (fun _ => []) (fun r => stats c connected = .ok r) []
      (fun ex => stats c connected = .error ex) := by
  unfold getStats stats
  cases connected with
  | false => exact Triple.raise (.inr rfl)
  | true =>
      refine Triple.call ?_
      rcases c.statisticsCreate with statusText | _
      · exact Triple.raise (.inr rfl)
      · refine Triple.acquire fun stats => Triple.use (by simp) ?_
        rcases c.getStats with statusText | _
        · exact Triple.release (Triple.raise (.inr rfl))
        · refine Triple.use (by simp) (Triple.release ?_)
          rcases c.getCounts with statusText | counts
          · exact Triple.raise (.inr rfl)
          · exact Triple.callTimes 6 (Triple.pure (fun _ => []) (countsToHash counts) rfl)

theorem setServers_spec (answer : Except String (Option (List CString)))
    {own : ExceptionInfo → Prop} :
    Triple raises [] (setServers answer) (fun _ => []) (fun list => list = someServers answer) []
      own := by
  rcases answer with statusText | _ | _ | ⟨text, texts⟩
  · exact Triple.pure (fun _ => []) none rfl
  · exact Triple.pure (fun _ => []) none rfl
  · exact Triple.acquire fun servers => Triple.release (Triple.pure (fun _ => []) none rfl)
  · refine (takeServers_spec (text :: texts) []).bind fun taken htexts => ?_
    refine (natsServerListToQore_spec taken.1 taken.2 [] []).bind fun list hlist => ?_
    exact Triple.call (Triple.pure (fun _ => []) (some list) (by rw [hlist, htexts]; rfl))

theorem setClientIp_spec {own : ExceptionInfo → Prop} :
    Triple raises [] (setClientIp c) (fun _ => []) (fun _ => True) [] own := by
  unfold setClientIp
  rcases c.clientIp with statusText | _ | text
  · exact Triple.pure (fun _ => []) () trivial
  · exact Triple.pure (fun _ => []) () trivial
  · refine Triple.acquire fun ip => Triple.use (by simp) (Triple.attempt fun raised hraised => ?_)
    exact Triple.release (triple_check hraised)

/-- The string is freed also when an exception is pending. -/
theorem setLocalIpAndPort_spec {pending : Option ExceptionInfo} (h : Pending raises pending)
    {own : ExceptionInfo → Prop} :
    Triple raises [] (setLocalIpAndPort c pending) (fun _ => []) (Pending raises) [] own := by
  unfold setLocalIpAndPort
  rcases c.localIpAndPort with statusText | ⟨_ | text, port⟩
  · exact Triple.pure (fun _ => []) pending h
  · exact triple_attemptUnless h
  · refine Triple.acquire fun ip => Triple.use (by simp) (Triple.attempt fun raised hraised => ?_)
    exact Triple.release (Triple.check (h.or hraised) triple_attempt)

theorem getConnectionInfo_spec :
    Triple raises [] (getConnectionInfo c connected) (fun _ => [])
      (fun r => info c connected = .ok r) [] (fun ex => info c connected = .error ex) := by
  unfold getConnectionInfo info
  cases connected with
  | false => exact Triple.raise (.inr rfl)
  | true =>
      refine Triple.call (Triple.call ?_)
      refine Triple.callWhen _ (Triple.callWhen _ (Triple.callWhen _ ?_))
      refine setClientIp_spec.bind fun _ _ => Triple.callWhen _ ?_
      refine Triple.attempt fun _ h => Triple.attemptUnless h fun _ h => ?_
      refine (setLocalIpAndPort_spec h).bind fun _ h => ?_
      refine Triple.attemptUnless h fun _ h => Triple.attemptUnless h fun _ h => ?_
      refine Triple.attemptUnless h fun _ h => Triple.check h ?_
      refine (setServers_spec c.servers).bind fun servers hservers => ?_
      refine (setServers_spec c.discoveredServers).bind fun discovered hdiscovered => ?_
      refine (getStats_spec.mono (fun _ h => h) fun ex hex => ?_).bind fun r hr => ?_
      · rw [hex]
        rfl
      · refine Triple.call (Triple.pure (fun _ => []) _ ?_)
        rw [hr, hservers, hdiscovered]
        rfl

end Reports

/-- Whatever the C client answers and whichever call of the Qore library raises an exception, each
    report frees once what it was given, and without such an exception its result is the one that
    the answers stand for: the servers in their order, and in the hash of the connection the keys
    that there is an answer for. -/
theorem connection_reports_settle (raises : ℕ → Option ExceptionInfo) (c : NatsConn)
    (connected : Bool) :
    Implements raises (getServers c connected)
        (serverList c.servers "failed to get servers" connected) ∧
      Implements raises (getDiscoveredServers c connected)
        (serverList c.discoveredServers "failed to get discovered servers" connected) ∧
      Implements raises (getClientIp c connected) (clientIp c connected) ∧
      Implements raises (getLocalIpAndPort c connected) (localIpAndPort c connected) ∧
      Implements raises (getStats c connected) (stats c connected) ∧
      Implements raises (getConnectionInfo c connected) (info c connected) :=
  ⟨(getServerList_spec c.servers _).settles, (getServerList_spec c.discoveredServers _).settles,
    getClientIp_spec.settles, getLocalIpAndPort_spec.settles, getStats_spec.settles,
    getConnectionInfo_spec.settles⟩

end ModuleNats.Connection
