import ModuleNats.Sandbox.NetworkCheck

set_option autoImplicit false

/-! # The dialer of a sandboxed connection

`NatsSandboxDialer` makes the TCP connections of a NATS connection for the C client: the host is
resolved, the addresses are shuffled, and each of them is checked against the policy of the captured
sandbox before it is connected to. The resolver, the policy, the shuffles and the answers of the
system are parameters. -/

namespace ModuleNats

/-! ## System calls -/

inductive NatsStatus where
  | ok
  | err
  | noServer
  | timeout
  | sysError
  | notPermitted
deriving DecidableEq, Repr

inductive ConnectAnswer where
  | connected
  | inProgress
  | failed
deriving DecidableEq, Repr

/-- `qore_cancellable_poll()`, which raises an exception when it is cancelled. -/
inductive PollAnswer where
  | ready
  | timeout
  | failed
  | cancelled (ex : ExceptionInfo)
deriving DecidableEq, Repr

/-- How the system answers the calls for one address; `poll` depends on its timeout. -/
structure SysCalls where
  socket : Option ℕ
  /-- `true` also where the system has no `SO_NOSIGPIPE` -/
  noSigPipe : Bool
  getFlags : Bool
  setFlags : Bool
  connect : ConnectAnswer
  poll : ℤ → PollAnswer
  /-- `getsockopt()` succeeds and finds no error -/
  noSoError : Bool
  tcpNoDelay : Bool
  reuseAddr : Bool
  linger : Bool

/-- A socket and the address that it is connected to. -/
structure Sock where
  fd : ℕ
  peer : SockAddr
deriving DecidableEq, Repr

/-- What a call leaves behind: the status, `*fd`, and the exception in `xsink`. -/
structure Attempt where
  status : NatsStatus
  fd : Option Sock := none
  xsink : Option ExceptionInfo := none
deriving DecidableEq, Repr

/-- The options that are set on a connected socket. -/
def SysCalls.finish (sys : SysCalls) (sock : ℕ) (ai : SockAddr) : Attempt :=
  if !sys.tcpNoDelay || !sys.reuseAddr || !sys.linger then { status := .sysError }
  else { status := .ok, fd := some ⟨sock, ai⟩ }

/-- `NatsSandboxDialer::connectAddress()`, with the timeout that it polls with, if it does. -/
def connectAddressPolled (sys : SysCalls) (ai : SockAddr) (timeoutMs : ℤ) : Attempt × Option ℤ :=
  match sys.socket with
  | none => ({ status := .sysError }, none)
  | some sock =>
      if !sys.noSigPipe then ({ status := .sysError }, none)
      else if !sys.getFlags || !sys.setFlags then ({ status := .sysError }, none)
      else
        match sys.connect with
        | .connected => (sys.finish sock ai, none)
        | .failed => ({ status := .noServer }, none)
        | .inProgress =>
            -- the timeout is cast to an int
            let ms := Int.bmod timeoutMs 4294967296
            let attempt := match sys.poll ms with
              | .cancelled ex => { status := .err, xsink := some ex }
              | .failed => { status := .sysError }
              | .timeout => { status := .timeout }
              | .ready => if sys.noSoError then sys.finish sock ai else { status := .noServer }
            (attempt, some ms)

def connectAddress (sys : SysCalls) (ai : SockAddr) (timeoutMs : ℤ) : Attempt :=
  (connectAddressPolled sys ai timeoutMs).1

/-! ## The dialer -/

/-- `std::shuffle()` for one state of the random number generator. -/
structure Shuffle (α : Type) where
  apply : List α → List α
  perm : ∀ l, (apply l).Perm l

/-- What a call of the dialer meets: the resolver, the shuffle of each family, and the answers of
    the system for the address at each place. -/
structure Network where
  getaddrinfo : Resolver
  shuffle : ℕ → Shuffle SockAddr
  sys : ℕ → SysCalls

structure Dialer where
  /-- the network policy of the captured sandbox, if it is active -/
  sandbox : Option NetworkPolicy
  timeoutMs : ℤ
  orderIp : ℤ
  noRandomize : Bool

/-- An entry of the list of addresses, after the loop has come to it. -/
inductive Considered where
  | denied (ai : SockAddr)
  | tried (ai : SockAddr)
deriving DecidableEq, Repr

def Considered.addr : Considered → SockAddr
  | .denied ai => ai
  | .tried ai => ai

/-- The result of `connectIntern()`, with the entries that it came to, in order. -/
structure DialResult extends Attempt where
  considered : List Considered
deriving DecidableEq, Repr

/-- `pending` and `initial` -/
structure DialerState where
  pending : Option ExceptionInfo := none
  initial : Bool := true
deriving DecidableEq, Repr

/-- `takeException()`: the exception for the calling thread. -/
def DialerState.takeException (s : DialerState) : Option ExceptionInfo × DialerState :=
  (s.pending, { pending := none, initial := false })

/-- `keepException()` -/
def DialerState.keepException (s : DialerState) (ex : ExceptionInfo) : DialerState :=
  if s.initial && s.pending.isNone then { s with pending := some ex }
  -- a reconnection on the C client's thread: nobody can receive the exception
  else s

namespace Dialer

/-- The constructor of `NatsSandboxDialer`. -/
def new (sandbox : Option NetworkPolicy) (timeoutMs orderIp : ℤ) (noRandomize : Bool) : Dialer where
  sandbox := sandbox
  timeoutMs := if timeoutMs > 0 then timeoutMs else 2000
  orderIp := orderIp
  noRandomize := noRandomize

/-- The families to resolve, in the order of the option. -/
def families (d : Dialer) : List (Option Family) :=
  if d.orderIp = 4 then [some .inet]
  else if d.orderIp = 6 then [some .inet6]
  else if d.orderIp = 46 then [some .inet, some .inet6]
  else if d.orderIp = 64 then [some .inet6, some .inet]
  else [none]

/-- What the resolver finds for one family; a failure is skipped. -/
def resolve (net : Network) (host : Text) (port : ℤ) (family : Option Family) : List SockAddr :=
  match net.getaddrinfo host (some (toString port).toList) family with
  | .error _ => []
  | .ok res => res

/-- The addresses of one family, in the order in which they are tried. -/
def segment (d : Dialer) (net : Network) (host : Text) (port : ℤ)
    (entry : Option Family × ℕ) : List SockAddr :=
  let res := resolve net host port entry.1
  if !d.noRandomize && res.length > 1 then (net.shuffle entry.2).apply res else res

def addresses (d : Dialer) (net : Network) (host : Text) (port : ℤ) : List SockAddr :=
  d.families.zipIdx.flatMap (d.segment net host port)

/-- The time for each of `n` addresses. -/
def perAddressMs (d : Dialer) (n : ℕ) : ℤ := max (d.timeoutMs.tdiv n) 10

/-- Whether there is a policy, and it denies the address. -/
def denies (d : Dialer) (host : Text) (ai : SockAddr) : Bool :=
  match d.sandbox with
  | some policy => (policy.checkNetworkAccess (some host) ai).isSome
  | none => false

/-- The loop over the addresses, from place `i` on. -/
def connectLoop (d : Dialer) (host : Text) (timeoutMs : ℤ) (sys : ℕ → SysCalls) :
    ℕ → Bool → List SockAddr → DialResult
  | _, denied, [] =>
      { status := if denied then .notPermitted else .noServer, considered := [] }
  | i, denied, ai :: rest =>
      if d.denies host ai then
        -- the exception of the policy is cleared
        let r := d.connectLoop host timeoutMs sys (i + 1) true rest
        { r with considered := .denied ai :: r.considered }
      else
        let s := connectAddress (sys i) ai timeoutMs
        if s.status = .ok then { status := .ok, fd := s.fd, considered := [.tried ai] }
        else if s.xsink.isSome then
          { status := .err, xsink := s.xsink, considered := [.tried ai] }
        else
          let r := d.connectLoop host timeoutMs sys (i + 1) denied rest
          { r with considered := .tried ai :: r.considered }

/-- `NatsSandboxDialer::connectIntern()`, with the exception that it ends with. -/
def dial (d : Dialer) (net : Network) (host : Text) (port : ℤ) : DialResult :=
  let addresses := d.addresses net host port
  if addresses.isEmpty then { status := .noServer, considered := [] }
  else d.connectLoop host (d.perAddressMs addresses.length) net.sys 0 false addresses

/-- `NatsSandboxDialer::connectIntern()`: the exception is kept or cleared. -/
def connectIntern (d : Dialer) (net : Network) (host : Text) (port : ℤ) (s : DialerState) :
    DialResult × DialerState :=
  let r := d.dial net host port
  (r, match r.xsink with
    | some ex => s.keepException ex
    | none => s)

end Dialer

end ModuleNats
