import ModuleNats.NatsHelper
import ModuleNats.Url

set_option autoImplicit false

/-! # The network check of a URL

`check_nats_network_access()`: before a sandboxed program connects, its network policy is asked
about the host of the URL, and about every address that the host resolves to. The policy and the
resolver belong to the Qore runtime and to the system, so both are parameters. -/

namespace ModuleNats

/-! ## Network policies -/

/-- The address families that the code tells apart. -/
inductive Family where
  | inet
  | inet6
  | other
deriving DecidableEq, Repr

/-- A `sockaddr`: a port is a number of 16 bits. -/
structure SockAddr where
  family : Family
  addr : Text
  port : BitVec 16
deriving DecidableEq, Repr

/-- `sin_port = htons(port)` or `sin6_port = htons(port)` -/
def SockAddr.setPort (a : SockAddr) (port : ℤ) : SockAddr :=
  match a.family with
  | .inet | .inet6 => { a with port := BitVec.ofInt 16 port }
  | .other => a

/-- A network policy of a sandbox. `checkNetworkAccess()` can be given the host name that the
    address was resolved from; it raises an exception when it denies. -/
structure NetworkPolicy where
  checkHostname : Text → ℤ → Bool
  checkNetworkAccess : Option Text → SockAddr → Option ExceptionInfo

/-- `getaddrinfo()` with the host, the service and the family of the hints (`none` is `AF_UNSPEC`):
    the addresses, or the text of the error. -/
abbrev Resolver := Text → Option Text → Option Family → Except String (List SockAddr)

/-! ## The check -/

/-- The loop over the resolved addresses. -/
def checkAddresses (policy : NetworkPolicy) (port : ℤ) : List SockAddr → Except ExceptionInfo Unit
  | [] => .ok ()
  | p :: res =>
      match policy.checkNetworkAccess none (p.setPort port) with
      | some ex => .error ex
      | none => checkAddresses policy port res

/-- `check_nats_network_access()`; without a policy nothing is checked. -/
def checkNatsNetworkAccess (smh : Option NetworkPolicy) (getaddrinfo : Resolver) (url : Text) :
    Except ExceptionInfo Unit :=
  match smh with
  | none => .ok ()
  | some policy =>
      let (host, port) := parseNatsUrl url
      if host.isEmpty then .ok ()
      else if !policy.checkHostname host port then
        .error ⟨"NATS-CONNECTION-ERROR", "access to host '" ++ String.ofList host ++ ":" ++
          toString port ++ "' is not allowed by the network security policy"⟩
      else
        match getaddrinfo host none none with
        | .error text => .error ⟨"NATS-CONNECTION-ERROR",
            "cannot resolve hostname '" ++ String.ofList host ++ "': " ++ text⟩
        | .ok res => checkAddresses policy port res

/-! ## What a policy has to allow -/

/-- `s` is the address `a` with the port; families other than IPv4 and IPv6 have none. -/
structure SockAddr.IsAt (s a : SockAddr) (port : ℤ) : Prop where
  family : s.family = a.family
  addr : s.addr = a.addr
  port : a.family ≠ .other → (s.port.toNat : ℤ) = port

/-- The policy allows the host, and every address it resolves to, at the port. -/
structure NetworkPolicy.Allows (policy : NetworkPolicy) (getaddrinfo : Resolver) (host : Text)
    (port : ℤ) : Prop where
  hostname : policy.checkHostname host port = true
  addresses : ∃ res, getaddrinfo host none none = .ok res ∧
    ∀ a ∈ res, ∃ s : SockAddr, s.IsAt a port ∧ policy.checkNetworkAccess none s = none

/-- Whatever the policy and the resolver, the URL is accepted only if the policy allows the host. -/
def FailsClosed (url host : Text) (port : ℤ) : Prop :=
  ∀ (policy : NetworkPolicy) (getaddrinfo : Resolver),
    checkNatsNetworkAccess (some policy) getaddrinfo url = .ok () →
      policy.Allows getaddrinfo host port

theorem checkAddresses_ok {policy : NetworkPolicy} {port : ℤ} {res : List SockAddr} :
    checkAddresses policy port res = .ok () ↔
      ∀ a ∈ res, policy.checkNetworkAccess none (a.setPort port) = none := by
  induction res with
  | nil => simp [checkAddresses]
  | cons p res ih =>
      rw [checkAddresses, List.forall_mem_cons]
      cases h : policy.checkNetworkAccess none (p.setPort port) with
      | some ex => simp
      | none => simpa using ih

/-- Everything that is checked before a URL with a host is accepted. -/
theorem checkNatsNetworkAccess_ok {policy : NetworkPolicy} {getaddrinfo : Resolver} {url : Text}
    (h : (parseNatsUrl url).1 ≠ []) :
    checkNatsNetworkAccess (some policy) getaddrinfo url = .ok () ↔
      policy.checkHostname (parseNatsUrl url).1 (parseNatsUrl url).2 = true ∧
      ∃ res, getaddrinfo (parseNatsUrl url).1 none none = .ok res ∧
        ∀ a ∈ res, policy.checkNetworkAccess none (a.setPort (parseNatsUrl url).2) = none := by
  have hhost : ¬ (parseNatsUrl url).1.isEmpty := fun hempty => h (List.isEmpty_iff.1 hempty)
  simp only [checkNatsNetworkAccess, if_neg hhost]
  cases hname : policy.checkHostname (parseNatsUrl url).1 (parseNatsUrl url).2 with
  | false => simp
  | true =>
      cases hres : getaddrinfo (parseNatsUrl url).1 none none with
      | error text => simp
      | ok res => simp [checkAddresses_ok]

/-- A URL without a host is not checked. -/
theorem checkNatsNetworkAccess_of_empty {policy : NetworkPolicy} {getaddrinfo : Resolver}
    {url : Text} (h : (parseNatsUrl url).1 = []) :
    checkNatsNetworkAccess (some policy) getaddrinfo url = .ok () := by
  simp [checkNatsNetworkAccess, h]

/-! ## The port -/

/-- Only a number of 16 bits is the port of an address. -/
theorem SockAddr.IsAt.port_range {s a : SockAddr} {port : ℤ} (h : s.IsAt a port)
    (hfamily : a.family ≠ .other) : 0 ≤ port ∧ port ≤ 65535 := by
  have hport := h.port hfamily
  have hlt := s.port.isLt
  omega

theorem SockAddr.setPort_isAt (a : SockAddr) {port : ℤ} (h : 0 ≤ port ∧ port ≤ 65535) :
    (a.setPort port).IsAt a port := by
  have hport : ((BitVec.ofInt 16 port).toNat : ℤ) = port := by
    rw [BitVec.toNat_ofInt]
    omega
  obtain ⟨family, addr, old⟩ := a
  cases family with
  | inet => exact ⟨rfl, rfl, fun _ => hport⟩
  | inet6 => exact ⟨rfl, rfl, fun _ => hport⟩
  | other => exact ⟨rfl, rfl, fun h => absurd rfl h⟩

/-! ## Which URLs are checked -/

/-- The policy that allows one host only, and every address. -/
def allowHost (host : Text) : NetworkPolicy where
  checkHostname h _ := h == host
  checkNetworkAccess _ _ := none

def denyAll : NetworkPolicy where
  checkHostname _ _ := false
  checkNetworkAccess _ _ := some ⟨"NETWORK-ACCESS-ERROR", "denied"⟩

def loopback : SockAddr := ⟨.inet, "127.0.0.1".toList, 0⟩

def resolveToLoopback : Resolver := fun _ _ _ => .ok [loopback]

/-- The host that `parse_nats_url()` finds is the only one that has to be allowed. -/
theorem check_allowHost (url : Text) :
    checkNatsNetworkAccess (some (allowHost (parseNatsUrl url).1)) resolveToLoopback url =
      .ok () := by
  by_cases h : (parseNatsUrl url).1 = []
  · exact checkNatsNetworkAccess_of_empty h
  · rw [checkNatsNetworkAccess_ok h]
    exact ⟨beq_self_eq_true _, _, rfl, fun _ _ => rfl⟩

/-- So no other host can be the one that was checked. -/
theorem FailsClosed.host_eq {url host : Text} {port : ℤ} (h : FailsClosed url host port) :
    (parseNatsUrl url).1 = host := by
  have hallows := h _ _ (check_allowHost url)
  exact (beq_iff_eq.1 hallows.hostname).symm

theorem FailsClosed.port_range {url host : Text} {port : ℤ} (h : FailsClosed url host port) :
    0 ≤ port ∧ port ≤ 65535 := by
  obtain ⟨-, res, hres, haddr⟩ := h _ _ (check_allowHost url)
  cases hres
  obtain ⟨s, hs, -⟩ := haddr loopback List.mem_cons_self
  exact hs.port_range (by decide)

/-- A policy that allows nothing denies every host. -/
theorem FailsClosed.nonempty {url host : Text} {port : ℤ} (h : FailsClosed url host port) :
    (parseNatsUrl url).1 ≠ [] := by
  intro hempty
  have hallows := h denyAll resolveToLoopback (checkNatsNetworkAccess_of_empty hempty)
  exact Bool.noConfusion hallows.hostname

theorem failsClosed_of_range {url : Text} (h : (parseNatsUrl url).1 ≠ [])
    (hport : 0 ≤ (parseNatsUrl url).2 ∧ (parseNatsUrl url).2 ≤ 65535) :
    FailsClosed url (parseNatsUrl url).1 (parseNatsUrl url).2 := by
  intro policy getaddrinfo haccepted
  obtain ⟨hhost, res, hres, haddr⟩ := (checkNatsNetworkAccess_ok h).1 haccepted
  exact ⟨hhost, res, hres, fun a ha => ⟨_, a.setPort_isAt hport, haddr a ha⟩⟩

theorem failsClosed_iff (url : Text) :
    FailsClosed url (parseNatsUrl url).1 (parseNatsUrl url).2 ↔
      (parseNatsUrl url).1 ≠ [] ∧ 0 ≤ (parseNatsUrl url).2 ∧ (parseNatsUrl url).2 ≤ 65535 :=
  ⟨fun h => ⟨h.nonempty, h.port_range⟩, fun ⟨hhost, hport⟩ => failsClosed_of_range hhost hport⟩

/-- The port of a well-formed URL. -/
theorem NatsUrl.portNumber_range (url : NatsUrl) : 0 ≤ url.portNumber ∧ url.portNumber ≤ 65535 := by
  unfold portNumber
  cases h : url.port with
  | none => decide
  | some p =>
      have hp := url.port_range p h
      simp only [Option.getD_some]
      omega

/-- An IPv6 address without a port is cut at its last colon, and another host is checked. -/
theorem NatsUrl.failsClosed_iff (url : NatsUrl) :
    FailsClosed url.text url.host.text url.portNumber ↔ url.host.IsName ∨ url.port ≠ none := by
  constructor
  · intro h
    by_contra hnot
    rw [not_or, not_not] at hnot
    exact url.parseNatsUrl_host_ne hnot.1 hnot.2 h.host_eq
  · intro h
    have hparse : parseNatsUrl url.text = (url.host.text, url.portNumber) := by
      rcases h with hname | hport
      · exact url.parseNatsUrl_of_name hname
      · obtain ⟨p, hp⟩ := Option.ne_none_iff_exists'.1 hport
        exact url.parseNatsUrl_of_port hp
    have hclosed : (parseNatsUrl url.text).1 ≠ [] →
        0 ≤ (parseNatsUrl url.text).2 ∧ (parseNatsUrl url.text).2 ≤ 65535 →
        FailsClosed url.text (parseNatsUrl url.text).1 (parseNatsUrl url.text).2 :=
      failsClosed_of_range
    rw [hparse] at hclosed
    exact hclosed url.host.text_ne_nil url.portNumber_range

/-- For any text: a URL is accepted only with an allowed host and allowed addresses if and only if
    `parse_nats_url()` finds a host and a port of 16 bits. For a URL of the documented form: its own
    host is the one that was checked, unless that is an IPv6 address without a port. -/
theorem networkCheck_iff (text : Text) (url : NatsUrl) :
    (FailsClosed text (parseNatsUrl text).1 (parseNatsUrl text).2 ↔
      (parseNatsUrl text).1 ≠ [] ∧ 0 ≤ (parseNatsUrl text).2 ∧ (parseNatsUrl text).2 ≤ 65535) ∧
    (FailsClosed url.text url.host.text url.portNumber ↔ url.host.IsName ∨ url.port ≠ none) :=
  ⟨failsClosed_iff text, url.failsClosed_iff⟩

/-- `nats://` is accepted under a policy that allows nothing. -/
theorem url_without_host_accepted :
    ¬ ∀ (url : Text) (policy : NetworkPolicy) (getaddrinfo : Resolver),
      checkNatsNetworkAccess (some policy) getaddrinfo url = .ok () →
        policy.Allows getaddrinfo (parseNatsUrl url).1 (parseNatsUrl url).2 := by
  intro hall
  have hallows := hall "nats://".toList denyAll resolveToLoopback
    (checkNatsNetworkAccess_of_empty (by decide))
  exact Bool.noConfusion hallows.hostname

end ModuleNats
