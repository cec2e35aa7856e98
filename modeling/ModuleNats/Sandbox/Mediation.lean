import Mathlib.Data.List.Induction
import Mathlib.Data.Nat.Find
import ModuleNats.Sandbox.Dialer

set_option autoImplicit false

/-! # Complete mediation by the dialer

Every address is checked before it is tried, and the status says what happened. The first address
that is *decided* (allowed, and either connected or cancelled) ends the loop; the lemmas about the
loop say what it does before, at and without such an address. -/

namespace ModuleNats

/-! ## One address -/

namespace SysCalls

variable (sys : SysCalls) (timeoutMs : ℤ)

/-- The socket is there, in non-blocking mode. -/
structure Opens (sock : ℕ) : Prop where
  socket : sys.socket = some sock
  noSigPipe : sys.noSigPipe = true
  flags : sys.getFlags = true ∧ sys.setFlags = true

/-- The connection is made, at once or within the timeout. -/
def Made : Prop :=
  sys.connect = .connected ∨ sys.connect = .inProgress ∧
    sys.poll (Int.bmod timeoutMs 4294967296) = .ready ∧ sys.noSoError = true

/-- The address connects. -/
structure Connects (sock : ℕ) : Prop where
  opens : sys.Opens sock
  made : sys.Made timeoutMs
  options : sys.tcpNoDelay = true ∧ sys.reuseAddr = true ∧ sys.linger = true

/-- The connection is cancelled, or its sandbox interrupted, while the address is connected to. -/
structure Cancels (ex : ExceptionInfo) : Prop where
  opens : ∃ sock, sys.Opens sock
  connect : sys.connect = .inProgress
  poll : sys.poll (Int.bmod timeoutMs 4294967296) = .cancelled ex

/-- The address neither connects nor is it cancelled. -/
structure Fails : Prop where
  not_connects : ∀ sock, ¬ sys.Connects timeoutMs sock
  not_cancels : ∀ ex, ¬ sys.Cancels timeoutMs ex

variable {sys} {timeoutMs}

theorem Made.not_cancels (h : sys.Made timeoutMs) (ex : ExceptionInfo) :
    ¬ sys.Cancels timeoutMs ex := by
  intro hcancels
  rcases h with hconnect | ⟨-, hready, -⟩
  · exact absurd (hcancels.connect.symm.trans hconnect) nofun
  · exact absurd (hcancels.poll.symm.trans hready) nofun

theorem Cancels.unique {ex ex' : ExceptionInfo} (h : sys.Cancels timeoutMs ex)
    (h' : sys.Cancels timeoutMs ex') : ex = ex' :=
  PollAnswer.cancelled.inj (h.poll.symm.trans h'.poll)

theorem fails_of_not_made (h : ¬ sys.Made timeoutMs)
    (hpoll : ∀ ex, sys.connect = .inProgress →
      sys.poll (Int.bmod timeoutMs 4294967296) ≠ .cancelled ex) : sys.Fails timeoutMs :=
  ⟨fun _ hconnects => h hconnects.made, fun ex hcancels =>
    hpoll ex hcancels.connect hcancels.poll⟩

end SysCalls

/-- Without a socket nothing is connected to. -/
theorem connectAddress_of_not_opens {sys : SysCalls} (h : ∀ sock, ¬ sys.Opens sock) (ai : SockAddr)
    (timeoutMs : ℤ) : connectAddress sys ai timeoutMs = { status := .sysError } := by
  unfold connectAddress connectAddressPolled
  cases hsocket : sys.socket with
  | none => rfl
  | some sock =>
      have hopens := h sock
      cases hpipe : sys.noSigPipe with
      | false => rfl
      | true =>
          have hflags : ¬ (sys.getFlags = true ∧ sys.setFlags = true) := fun hflags =>
            hopens ⟨hsocket, hpipe, hflags⟩
          cases hget : sys.getFlags with
          | false => rfl
          | true =>
              cases hset : sys.setFlags with
              | false => rfl
              | true => exact absurd ⟨hget, hset⟩ hflags

theorem connectAddress_of_opens {sys : SysCalls} {sock : ℕ} (h : sys.Opens sock) (ai : SockAddr)
    (timeoutMs : ℤ) : connectAddress sys ai timeoutMs =
      match sys.connect with
      | .connected => sys.finish sock ai
      | .failed => { status := .noServer }
      | .inProgress =>
          match sys.poll (Int.bmod timeoutMs 4294967296) with
          | .cancelled ex => { status := .err, xsink := some ex }
          | .failed => { status := .sysError }
          | .timeout => { status := .timeout }
          | .ready => if sys.noSoError then sys.finish sock ai else { status := .noServer } := by
  simp only [connectAddress, connectAddressPolled, h.socket, h.noSigPipe, h.flags.1, h.flags.2]
  cases sys.connect <;> rfl

/-- What `connectAddress()` does for an address: it connects, is cancelled or fails. -/
inductive Attempts (sys : SysCalls) (ai : SockAddr) (timeoutMs : ℤ) : Prop where
  | connects (sock : ℕ) (h : sys.Connects timeoutMs sock)
      (result : connectAddress sys ai timeoutMs = { status := .ok, fd := some ⟨sock, ai⟩ })
  | cancels (ex : ExceptionInfo) (h : sys.Cancels timeoutMs ex)
      (result : connectAddress sys ai timeoutMs = { status := .err, xsink := some ex })
  | fails (h : sys.Fails timeoutMs) (status : (connectAddress sys ai timeoutMs).status ≠ .ok)
      (xsink : (connectAddress sys ai timeoutMs).xsink = none)

/-- The options decide about a socket whose connection is made. -/
theorem Attempts.of_finish {sys : SysCalls} {sock : ℕ} {ai : SockAddr} {timeoutMs : ℤ}
    (hopens : sys.Opens sock) (hmade : sys.Made timeoutMs)
    (hresult : connectAddress sys ai timeoutMs = sys.finish sock ai) :
    Attempts sys ai timeoutMs := by
  by_cases hoptions : sys.tcpNoDelay = true ∧ sys.reuseAddr = true ∧ sys.linger = true
  · refine .connects sock ⟨hopens, hmade, hoptions⟩ ?_
    simp [hresult, SysCalls.finish, hoptions]
  · have hfinish : sys.finish sock ai = { status := .sysError } := by
      unfold SysCalls.finish
      rw [if_pos]
      grind
    rw [hfinish] at hresult
    exact .fails ⟨fun _ h => hoptions h.options, fun ex => hmade.not_cancels ex⟩
      (hresult ▸ nofun) (hresult ▸ rfl)

theorem attempts (sys : SysCalls) (ai : SockAddr) (timeoutMs : ℤ) : Attempts sys ai timeoutMs := by
  by_cases hany : ∃ sock, sys.Opens sock
  · obtain ⟨sock, hopens⟩ := hany
    have hresult := connectAddress_of_opens hopens ai timeoutMs
    cases hconnect : sys.connect with
    | connected =>
        rw [hconnect] at hresult
        exact .of_finish hopens (.inl hconnect) hresult
    | failed =>
        rw [hconnect] at hresult
        have hfails : sys.Fails timeoutMs := by
          apply SysCalls.fails_of_not_made <;> simp [SysCalls.Made, hconnect]
        exact .fails hfails (hresult ▸ nofun) (hresult ▸ rfl)
    | inProgress =>
        cases hpoll : sys.poll (Int.bmod timeoutMs 4294967296) with
        | cancelled ex =>
            rw [hconnect, hpoll] at hresult
            exact .cancels ex ⟨⟨sock, hopens⟩, hconnect, hpoll⟩ hresult
        | failed | timeout =>
            rw [hconnect, hpoll] at hresult
            have hfails : sys.Fails timeoutMs := by
              apply SysCalls.fails_of_not_made <;> simp [SysCalls.Made, hconnect, hpoll]
            exact .fails hfails (hresult ▸ nofun) (hresult ▸ rfl)
        | ready =>
            rw [hconnect, hpoll] at hresult
            cases herror : sys.noSoError with
            | true =>
                rw [herror] at hresult
                exact .of_finish hopens (.inr ⟨hconnect, hpoll, herror⟩) hresult
            | false =>
                rw [herror] at hresult
                have hfails : sys.Fails timeoutMs := by
                  apply SysCalls.fails_of_not_made <;>
                    simp [SysCalls.Made, hconnect, hpoll, herror]
                exact .fails hfails (hresult ▸ nofun) (hresult ▸ rfl)
  · have hnone : ∀ sock, ¬ sys.Opens sock := fun sock h => hany ⟨sock, h⟩
    have hresult := connectAddress_of_not_opens hnone ai timeoutMs
    exact .fails ⟨fun sock h => hnone sock h.opens, fun ex h => hany h.opens⟩
      (hresult ▸ nofun) (hresult ▸ rfl)

/-! ## The loop -/

namespace Dialer

variable (d : Dialer)

/-- The policy, if there is one, allows the address. -/
def Allows (host : Text) (ai : SockAddr) : Prop :=
  ∀ policy, d.sandbox = some policy → policy.checkNetworkAccess (some host) ai = none

theorem denies_eq_false_iff {host : Text} {ai : SockAddr} :
    d.denies host ai = false ↔ d.Allows host ai := by
  unfold denies Allows
  cases d.sandbox <;> simp

/-- The entry that the loop makes of an address. -/
def consider (host : Text) (ai : SockAddr) : Considered :=
  if d.denies host ai then .denied ai else .tried ai

@[simp] theorem addr_consider (host : Text) (ai : SockAddr) : (d.consider host ai).addr = ai := by
  unfold consider
  split <;> rfl

variable {d} {host : Text} {timeoutMs : ℤ} {sys : ℕ → SysCalls}

/-- An address that is denied or fails leaves the loop running. -/
theorem connectLoop_cons_of_fails {i : ℕ} {ai : SockAddr}
    (h : d.Allows host ai → (sys i).Fails timeoutMs) (denied : Bool) (rest : List SockAddr) :
    d.connectLoop host timeoutMs sys i denied (ai :: rest) =
      let r := d.connectLoop host timeoutMs sys (i + 1) (denied || d.denies host ai) rest
      { r with considered := d.consider host ai :: r.considered } := by
  rw [connectLoop, consider]
  cases hdenies : d.denies host ai with
  | true => simp
  | false =>
      have hfails := h (d.denies_eq_false_iff.1 hdenies)
      cases attempts (sys i) ai timeoutMs with
      | connects sock hconnects => exact absurd hconnects (hfails.not_connects sock)
      | cancels ex hcancels => exact absurd hcancels (hfails.not_cancels ex)
      | fails _ hstatus hxsink => simp [hstatus, hxsink]

theorem connectLoop_cons_of_connects {i sock : ℕ} {ai : SockAddr} (hallows : d.Allows host ai)
    (h : (sys i).Connects timeoutMs sock) (denied : Bool) (rest : List SockAddr) :
    d.connectLoop host timeoutMs sys i denied (ai :: rest) =
      { status := .ok, fd := some ⟨sock, ai⟩, considered := [d.consider host ai] } := by
  have hdenies := d.denies_eq_false_iff.2 hallows
  rw [connectLoop, consider]
  cases attempts (sys i) ai timeoutMs with
  | connects sock' hconnects hresult =>
      have hsame := h.opens.socket.symm.trans hconnects.opens.socket
      obtain rfl : sock = sock' := Option.some.inj hsame
      simp [hdenies, hresult]
  | cancels ex hcancels => exact absurd hcancels (h.made.not_cancels ex)
  | fails hfails => exact absurd h (hfails.not_connects sock)

theorem connectLoop_cons_of_cancels {i : ℕ} {ai : SockAddr} {ex : ExceptionInfo}
    (hallows : d.Allows host ai) (h : (sys i).Cancels timeoutMs ex) (denied : Bool)
    (rest : List SockAddr) :
    d.connectLoop host timeoutMs sys i denied (ai :: rest) =
      { status := .err, xsink := some ex, considered := [d.consider host ai] } := by
  have hdenies := d.denies_eq_false_iff.2 hallows
  rw [connectLoop, consider]
  cases attempts (sys i) ai timeoutMs with
  | connects sock hconnects => exact absurd h (hconnects.made.not_cancels ex)
  | cancels ex' hcancels hresult =>
      obtain rfl := h.unique hcancels
      simp [hdenies, hresult]
  | fails hfails => exact absurd h (hfails.not_cancels ex)

/-- The loop passes over addresses that are denied or fail. -/
theorem connectLoop_append (before rest : List SockAddr) :
    ∀ (i : ℕ) (denied : Bool),
      (∀ k ai, before[k]? = some ai → d.Allows host ai → (sys (i + k)).Fails timeoutMs) →
      d.connectLoop host timeoutMs sys i denied (before ++ rest) =
        let r := d.connectLoop host timeoutMs sys (i + before.length)
          (denied || before.any (d.denies host)) rest
        { r with considered := before.map (d.consider host) ++ r.considered } := by
  induction before with
  | nil => simp
  | cons ai before ih =>
      intro i denied h
      have hhead := h 0 ai rfl
      rw [Nat.add_zero] at hhead
      rw [List.cons_append, connectLoop_cons_of_fails hhead, ih]
      · simp [Nat.add_comm, Nat.add_left_comm, Bool.or_assoc]
      · intro k b hk hallows
        have hfails := h (k + 1) b hk hallows
        rwa [Nat.add_comm k 1, ← Nat.add_assoc] at hfails

/-- The loop comes to a place if all addresses before it are denied or fail. -/
theorem connectLoop_of_place {l : List SockAddr} {n : ℕ} {ai : SockAddr} (hplace : l[n]? = some ai)
    (h : ∀ k < n, ∀ b, l[k]? = some b → d.Allows host b → (sys k).Fails timeoutMs) :
    d.connectLoop host timeoutMs sys 0 false l =
      let r := d.connectLoop host timeoutMs sys n ((l.take n).any (d.denies host))
        (ai :: l.drop (n + 1))
      { r with considered := (l.take n).map (d.consider host) ++ r.considered } := by
  obtain ⟨hlt, hget⟩ := List.getElem?_eq_some_iff.1 hplace
  have hsplit : l = l.take n ++ ai :: l.drop (n + 1) := by
    rw [← hget, ← List.drop_eq_getElem_cons hlt, List.take_append_drop]
  have hlength : (l.take n).length = n := by
    rw [List.length_take]
    omega
  have hfails : ∀ k b, (l.take n)[k]? = some b → d.Allows host b →
      (sys (0 + k)).Fails timeoutMs := by
    intro k b hk hallows
    have hkn : k < n := by
      have hk := (List.getElem?_eq_some_iff.1 hk).1
      omega
    rw [List.getElem?_take_of_lt hkn] at hk
    rw [Nat.zero_add]
    exact h k hkn b hk hallows
  have hloop := connectLoop_append (l.take n) (ai :: l.drop (n + 1)) 0 false hfails
  rw [← hsplit, hlength] at hloop
  simpa using hloop

/-- What the loop does when no address is decided. -/
theorem connectLoop_of_fails {l : List SockAddr}
    (h : ∀ k b, l[k]? = some b → d.Allows host b → (sys k).Fails timeoutMs) :
    d.connectLoop host timeoutMs sys 0 false l =
      { status := if l.any (d.denies host) then .notPermitted else .noServer
        considered := l.map (d.consider host) } := by
  have hfails : ∀ k b, l[k]? = some b → d.Allows host b → (sys (0 + k)).Fails timeoutMs := by
    intro k b
    rw [Nat.zero_add]
    exact h k b
  have hloop := connectLoop_append l [] 0 false hfails
  rw [List.append_nil] at hloop
  simp [hloop, connectLoop]

/-! ## One call -/

section Call

variable (d) (net : Network) (host : Text) (port : ℤ)

/-- The allowed address at place `i` connects. -/
structure ConnectsAt (i : ℕ) (ai : SockAddr) (sock : ℕ) : Prop where
  place : (d.addresses net host port)[i]? = some ai
  allows : d.Allows host ai
  connects : (net.sys i).Connects (d.perAddressMs (d.addresses net host port).length) sock

/-- The call is cancelled while the allowed address at place `i` is connected to. -/
structure CancelsAt (i : ℕ) (ai : SockAddr) (ex : ExceptionInfo) : Prop where
  place : (d.addresses net host port)[i]? = some ai
  allows : d.Allows host ai
  cancels : (net.sys i).Cancels (d.perAddressMs (d.addresses net host port).length) ex

/-- The place where the loop ends, if it comes to it. -/
def DecidedAt (i : ℕ) : Prop :=
  (∃ ai sock, d.ConnectsAt net host port i ai sock) ∨ ∃ ai ex, d.CancelsAt net host port i ai ex

variable {d} {net} {host} {port}

theorem fails_of_not_decided {i : ℕ} (h : ¬ d.DecidedAt net host port i) (ai : SockAddr)
    (hplace : (d.addresses net host port)[i]? = some ai) (hallows : d.Allows host ai) :
    (net.sys i).Fails (d.perAddressMs (d.addresses net host port).length) :=
  ⟨fun sock hconnects => h (.inl ⟨ai, sock, hplace, hallows, hconnects⟩),
    fun ex hcancels => h (.inr ⟨ai, ex, hplace, hallows, hcancels⟩)⟩

variable (d) (net) (host) (port)

/-- Without addresses the loop would end in the same way. -/
theorem dial_eq : d.dial net host port =
    d.connectLoop host (d.perAddressMs (d.addresses net host port).length) net.sys 0 false
      (d.addresses net host port) := by
  unfold dial
  cases d.addresses net host port <;> rfl

/-- What a call does: the first decided place says how it ends. -/
inductive Dials : Prop where
  | connects (i : ℕ) (ai : SockAddr) (sock : ℕ) (h : d.ConnectsAt net host port i ai sock)
      (first : ∀ j < i, ¬ d.DecidedAt net host port j)
      (result : d.dial net host port =
        { status := .ok, fd := some ⟨sock, ai⟩
          considered := ((d.addresses net host port).take (i + 1)).map (d.consider host) })
  | cancels (i : ℕ) (ai : SockAddr) (ex : ExceptionInfo) (h : d.CancelsAt net host port i ai ex)
      (first : ∀ j < i, ¬ d.DecidedAt net host port j)
      (result : d.dial net host port =
        { status := .err, xsink := some ex
          considered := ((d.addresses net host port).take (i + 1)).map (d.consider host) })
  | exhausted (h : ∀ i, ¬ d.DecidedAt net host port i)
      (result : d.dial net host port =
        { status := if (d.addresses net host port).any (d.denies host) then .notPermitted
            else .noServer
          considered := (d.addresses net host port).map (d.consider host) })

theorem dials : d.Dials net host port := by
  classical
  by_cases hany : ∃ i, d.DecidedAt net host port i
  · have hfirst : ∀ j < Nat.find hany, ¬ d.DecidedAt net host port j := fun j => Nat.find_min hany
    have hfails := fun k hk => fails_of_not_decided (hfirst k hk)
    rcases Nat.find_spec hany with ⟨ai, sock, h⟩ | ⟨ai, ex, h⟩
    · refine .connects _ ai sock h hfirst ?_
      rw [dial_eq, connectLoop_of_place h.place hfails,
        connectLoop_cons_of_connects h.allows h.connects, List.take_add_one, h.place]
      simp
    · refine .cancels _ ai ex h hfirst ?_
      rw [dial_eq, connectLoop_of_place h.place hfails,
        connectLoop_cons_of_cancels h.allows h.cancels, List.take_add_one, h.place]
      simp
  · have hnone : ∀ i, ¬ d.DecidedAt net host port i := fun i h => hany ⟨i, h⟩
    refine .exhausted hnone ?_
    rw [dial_eq, connectLoop_of_fails fun k => fails_of_not_decided (hnone k)]

/-- The call is cancelled, with this exception. -/
def CancelledBy (ex : ExceptionInfo) : Prop :=
  ∃ i ai, d.CancelsAt net host port i ai ex ∧ ∀ j < i, ¬ d.DecidedAt net host port j

/-- A list is what the resolver lists for some families, one after the other, each in any order;
    where it fails for a family there is nothing. -/
inductive Resolves (net : Network) (host : Text) (port : ℤ) :
    List (Option Family) → List SockAddr → Prop where
  | nil : Resolves net host port [] []
  | found {family : Option Family} {families : List (Option Family)}
      {res segment rest : List SockAddr}
      (hres : net.getaddrinfo host (some (toString port).toList) family = .ok res)
      (hperm : segment.Perm res) (hrest : Resolves net host port families rest) :
      Resolves net host port (family :: families) (segment ++ rest)
  | failed {family : Option Family} {families : List (Option Family)} {rest : List SockAddr} {e}
      (hres : net.getaddrinfo host (some (toString port).toList) family = .error e)
      (hrest : Resolves net host port families rest) :
      Resolves net host port (family :: families) rest

/-- The entries are those of the resolver, for two families the first one before the second. -/
structure InFamilyOrder : Prop where
  inet_first : d.orderIp = 46 →
    Resolves net host port [some .inet, some .inet6] (d.addresses net host port)
  inet6_first : d.orderIp = 64 →
    Resolves net host port [some .inet6, some .inet] (d.addresses net host port)
  inet_only : d.orderIp = 4 → Resolves net host port [some .inet] (d.addresses net host port)
  inet6_only : d.orderIp = 6 → Resolves net host port [some .inet6] (d.addresses net host port)
  any_family : d.orderIp ∉ [4, 6, 46, 64] →
    Resolves net host port [none] (d.addresses net host port)

/-- Complete mediation, and a status that says what happened. -/
structure Mediates (r : DialResult) : Prop where
  /-- only allowed addresses are tried -/
  tried_allowed : ∀ ai, .tried ai ∈ r.considered → d.Allows host ai
  /-- the entries are considered one after the other -/
  in_order : r.considered.map (·.addr) <+: d.addresses net host port
  entries : d.InFamilyOrder net host port
  ok_iff : r.status = .ok ↔
    ∃ i, (∃ ai sock, d.ConnectsAt net host port i ai sock) ∧
      ∀ j < i, ∀ ai ex, ¬ d.CancelsAt net host port j ai ex
  /-- the socket belongs to the first allowed address that connects, the last one considered -/
  ok_first : r.status = .ok → ∃ i ai sock,
    d.ConnectsAt net host port i ai sock ∧
    (∀ j < i, ∀ ai sock, ¬ d.ConnectsAt net host port j ai sock) ∧
    r.fd = some ⟨sock, ai⟩ ∧
    r.considered.map (·.addr) = (d.addresses net host port).take (i + 1)
  err_iff : r.status = .err ↔
    ∃ i, (∃ ai ex, d.CancelsAt net host port i ai ex) ∧
      ∀ j < i, ∀ ai sock, ¬ d.ConnectsAt net host port j ai sock
  /-- nothing is considered after the first cancellation -/
  err_stops : r.status = .err → ∃ i ai ex,
    d.CancelsAt net host port i ai ex ∧
    (∀ j < i, ∀ ai ex, ¬ d.CancelsAt net host port j ai ex) ∧
    r.considered.map (·.addr) = (d.addresses net host port).take (i + 1)
  /-- without either, all entries are considered, and the status says whether one was denied -/
  exhausted : (∀ i, ¬ d.DecidedAt net host port i) →
    r.considered.map (·.addr) = d.addresses net host port ∧
    (r.status = .notPermitted ↔
      ∃ ai ∈ d.addresses net host port, ¬ d.Allows host ai) ∧
    (r.status = .noServer ↔
      ∀ ai ∈ d.addresses net host port, d.Allows host ai)
  /-- only a cancellation leaves an exception behind -/
  xsink_iff : ∀ ex, r.xsink = some ex ↔ d.CancelledBy net host port ex

/-- Each segment is a permutation of what the resolver lists for its family. -/
theorem resolves_segments (families : List (Option Family)) (k : ℕ) :
    Resolves net host port families
      ((families.zipIdx k).flatMap (d.segment net host port)) := by
  induction families generalizing k with
  | nil => exact .nil
  | cons family families ih =>
      rw [List.zipIdx_cons, List.flatMap_cons]
      cases hres : net.getaddrinfo host (some (toString port).toList) family with
      | error e =>
          have hnone : d.segment net host port (family, k) = [] := by
            simp only [segment, resolve, hres]
            exact if_neg (by simp)
          rw [hnone, List.nil_append]
          exact .failed hres (ih (k + 1))
      | ok res =>
          refine .found hres ?_ (ih (k + 1))
          simp only [segment, resolve, hres]
          split
          · exact (net.shuffle k).perm res
          · exact .refl res

theorem resolves_addresses {families : List (Option Family)} (h : d.families = families) :
    Resolves net host port families (d.addresses net host port) :=
  h ▸ d.resolves_segments net host port d.families 0

theorem inFamilyOrder : d.InFamilyOrder net host port where
  inet_first horder := d.resolves_addresses net host port (by simp [families, horder])
  inet6_first horder := d.resolves_addresses net host port (by simp [families, horder])
  inet_only horder := d.resolves_addresses net host port (by simp [families, horder])
  inet6_only horder := d.resolves_addresses net host port (by simp [families, horder])
  any_family horder := by
    simp only [List.mem_cons, List.not_mem_nil, or_false, not_or] at horder
    exact d.resolves_addresses net host port (by simp [families, horder])

theorem map_addr_consider (l : List SockAddr) :
    (l.map (d.consider host)).map (·.addr) = l := by
  simp [Function.comp_def]

theorem allows_of_tried {l : List SockAddr} {ai : SockAddr}
    (h : .tried ai ∈ l.map (d.consider host)) : d.Allows host ai := by
  obtain ⟨b, -, hb⟩ := List.mem_map.1 h
  unfold consider at hb
  split at hb
  · cases hb
  · next hdenies =>
      cases hb
      exact d.denies_eq_false_iff.1 (Bool.eq_false_iff.2 hdenies)

variable {d} {net} {host} {port}

theorem ConnectsAt.not_cancelsAt {i sock : ℕ} {ai bi : SockAddr} {ex : ExceptionInfo}
    (h : d.ConnectsAt net host port i ai sock) : ¬ d.CancelsAt net host port i bi ex :=
  fun hcancels => h.connects.made.not_cancels ex hcancels.cancels

/-- If the first decided place connects, no cancellation comes before all connects. -/
theorem ConnectsAt.not_cancelled {i sock : ℕ} {ai : SockAddr}
    (h : d.ConnectsAt net host port i ai sock) (first : ∀ j < i, ¬ d.DecidedAt net host port j) :
    ¬ ∃ i, (∃ ai ex, d.CancelsAt net host port i ai ex) ∧
      ∀ j < i, ∀ ai sock, ¬ d.ConnectsAt net host port j ai sock := by
  rintro ⟨i', ⟨bi, ex, hcancels⟩, hbefore⟩
  rcases lt_trichotomy i i' with hlt | rfl | hlt
  · exact hbefore i hlt ai sock h
  · exact h.not_cancelsAt hcancels
  · exact first i' hlt (.inr ⟨bi, ex, hcancels⟩)

/-- If the first decided place is cancelled, no connect comes before all cancellations. -/
theorem CancelsAt.not_connected {i : ℕ} {ai : SockAddr} {ex : ExceptionInfo}
    (h : d.CancelsAt net host port i ai ex) (first : ∀ j < i, ¬ d.DecidedAt net host port j) :
    ¬ ∃ i, (∃ ai sock, d.ConnectsAt net host port i ai sock) ∧
      ∀ j < i, ∀ ai ex, ¬ d.CancelsAt net host port j ai ex := by
  rintro ⟨i', ⟨bi, sock, hconnects⟩, hbefore⟩
  rcases lt_trichotomy i i' with hlt | rfl | hlt
  · exact hbefore i hlt ai ex h
  · exact hconnects.not_cancelsAt h
  · exact first i' hlt (.inl ⟨bi, sock, hconnects⟩)

theorem CancelledBy.unique {i : ℕ} {ai : SockAddr} {ex ex' : ExceptionInfo}
    (h : d.CancelsAt net host port i ai ex) (first : ∀ j < i, ¬ d.DecidedAt net host port j)
    (h' : d.CancelledBy net host port ex') : ex = ex' := by
  obtain ⟨i', bi, hcancels, hbefore⟩ := h'
  rcases lt_trichotomy i i' with hlt | rfl | hlt
  · exact absurd (.inr ⟨ai, ex, h⟩) (hbefore i hlt)
  · exact h.cancels.unique hcancels.cancels
  · exact absurd (.inr ⟨bi, ex', hcancels⟩) (first i' hlt)

/-- A cancelled call has a cancellation before all connects. -/
theorem CancelledBy.exists_cancelsAt {ex : ExceptionInfo} (h : d.CancelledBy net host port ex) :
    ∃ i, (∃ ai ex, d.CancelsAt net host port i ai ex) ∧
      ∀ j < i, ∀ ai sock, ¬ d.ConnectsAt net host port j ai sock := by
  obtain ⟨i, ai, hcancels, hbefore⟩ := h
  exact ⟨i, ⟨ai, ex, hcancels⟩, fun j hj bi sock hconnects =>
    hbefore j hj (.inl ⟨bi, sock, hconnects⟩)⟩

theorem any_denies_iff {l : List SockAddr} :
    l.any (d.denies host) = true ↔ ∃ ai ∈ l, ¬ d.Allows host ai := by
  simp [← denies_eq_false_iff]

variable (d) (net) (host) (port)

/-- However the call ends, the first entries have been considered. -/
theorem exists_considered : ∃ n, (d.dial net host port).considered =
    ((d.addresses net host port).take n).map (d.consider host) := by
  cases d.dials net host port with
  | connects i ai sock h first result => exact ⟨i + 1, by rw [result]⟩
  | cancels i ai ex h first result => exact ⟨i + 1, by rw [result]⟩
  | exhausted h result => exact ⟨_, by rw [result, List.take_length]⟩

theorem mediates : d.Mediates net host port (d.dial net host port) := by
  have hentries := d.inFamilyOrder net host port
  obtain ⟨n, hconsidered⟩ := d.exists_considered net host port
  have hallowed : ∀ ai, .tried ai ∈ (d.dial net host port).considered → d.Allows host ai :=
    fun ai hai => d.allows_of_tried host (hconsidered ▸ hai)
  have horder : (d.dial net host port).considered.map (·.addr) <+: d.addresses net host port := by
    rw [hconsidered, map_addr_consider]
    exact List.take_prefix _ _
  cases d.dials net host port with
  | connects i ai sock h first result =>
      have hnone := h.not_cancelled first
      exact {
        tried_allowed := hallowed
        in_order := horder
        entries := hentries
        ok_iff := ⟨fun _ => ⟨i, ⟨ai, sock, h⟩, fun j hj bi ex hcancels =>
          first j hj (.inr ⟨bi, ex, hcancels⟩)⟩, fun _ => result ▸ rfl⟩
        ok_first := fun _ => ⟨i, ai, sock, h, fun j hj bi sock hconnects =>
          first j hj (.inl ⟨bi, sock, hconnects⟩), result ▸ rfl, by rw [result, map_addr_consider]⟩
        err_iff := iff_of_false (result ▸ nofun) hnone
        err_stops := fun herr => absurd (result ▸ herr) nofun
        exhausted := fun hall => absurd (.inl ⟨ai, sock, h⟩) (hall i)
        xsink_iff := fun ex => iff_of_false (result ▸ nofun) fun hex => hnone hex.exists_cancelsAt }
  | cancels i ai ex h first result =>
      have hnone := h.not_connected first
      exact {
        tried_allowed := hallowed
        in_order := horder
        entries := hentries
        ok_iff := iff_of_false (result ▸ nofun) hnone
        ok_first := fun hok => absurd (result ▸ hok) nofun
        err_iff := ⟨fun _ => ⟨i, ⟨ai, ex, h⟩, fun j hj bi sock hconnects =>
          first j hj (.inl ⟨bi, sock, hconnects⟩)⟩, fun _ => result ▸ rfl⟩
        err_stops := fun _ => ⟨i, ai, ex, h, fun j hj bi ex hcancels =>
          first j hj (.inr ⟨bi, ex, hcancels⟩), by rw [result, map_addr_consider]⟩
        exhausted := fun hall => absurd (.inr ⟨ai, ex, h⟩) (hall i)
        xsink_iff := fun ex' => by
          rw [result]
          constructor
          · rintro ⟨⟩
            exact ⟨i, ai, h, first⟩
          · intro hex
            rw [CancelledBy.unique h first hex] }
  | exhausted h result =>
      have hstatus : (d.dial net host port).status ≠ .ok ∧
          (d.dial net host port).status ≠ .err := by
        rw [result]
        dsimp only
        split <;> exact ⟨nofun, nofun⟩
      exact {
        tried_allowed := hallowed
        in_order := horder
        entries := hentries
        ok_iff := iff_of_false hstatus.1 fun ⟨i, hconnects, _⟩ => h i (.inl hconnects)
        ok_first := fun hok => absurd hok hstatus.1
        err_iff := iff_of_false hstatus.2 fun ⟨i, hcancels, _⟩ => h i (.inr hcancels)
        err_stops := fun herr => absurd herr hstatus.2
        exhausted := fun _ => by
          rw [result, map_addr_consider]
          refine ⟨rfl, ?_⟩
          cases hany : (d.addresses net host port).any (d.denies host) with
          | true =>
              have hdenied := any_denies_iff.1 hany
              exact ⟨iff_of_true rfl hdenied, iff_of_false nofun (by simpa using hdenied)⟩
          | false =>
              have hdenied := mt any_denies_iff.2 (Bool.eq_false_iff.1 hany)
              exact ⟨iff_of_false nofun hdenied, iff_of_true rfl (by simpa using hdenied)⟩
        xsink_iff := fun ex => by
          rw [result]
          refine iff_of_false nofun ?_
          rintro ⟨i, ai, hcancels, -⟩
          exact h i (.inr ⟨ai, ex, hcancels⟩) }

end Call

/-! ## The exception for the creating thread -/

/-- A call on the dialer: the C client connects, or the creating thread takes the exception. -/
inductive Call where
  | connect (net : Network) (host : Text) (port : ℤ)
  | takeException

/-- What a call does to the state of the dialer. -/
def call (d : Dialer) (s : DialerState) : Call → DialerState
  | .connect net host port => (d.connectIntern net host port s).2
  | .takeException => s.takeException.2

/-- The state after some calls. -/
def after (d : Dialer) (calls : List Call) : DialerState := calls.foldl d.call {}

/-- The call makes a connection, which is cancelled. -/
def CancelsCall (d : Dialer) (ex : ExceptionInfo) : Call → Prop
  | .connect net host port => d.CancelledBy net host port ex
  | .takeException => False

/-- Until the creating thread takes the exception, the first cancellation is kept for it; after that
    none is. The first connection is the time until `takeException()` is called. -/
structure KeepsFirst (d : Dialer) (calls : List Call) : Prop where
  initial : .takeException ∉ calls → ∀ ex, (d.after calls).pending = some ex ↔
    ∃ before call after, calls = before ++ call :: after ∧ d.CancelsCall ex call ∧
      ∀ c ∈ before, ∀ ex, ¬ d.CancelsCall ex c
  taken : .takeException ∈ calls → (d.after calls).pending = none

/-- The exception that a call ends with. -/
def callException (d : Dialer) : Call → Option ExceptionInfo
  | .connect net host port => (d.dial net host port).xsink
  | .takeException => none

theorem callException_iff {d : Dialer} {c : Call} {ex : ExceptionInfo} :
    d.callException c = some ex ↔ d.CancelsCall ex c := by
  cases c with
  | connect net host port => exact (d.mediates net host port).xsink_iff ex
  | takeException => exact iff_of_false nofun id

theorem callException_eq_none_iff {d : Dialer} {c : Call} :
    d.callException c = none ↔ ∀ ex, ¬ d.CancelsCall ex c := by
  simp [Option.eq_none_iff_forall_ne_some, callException_iff]

theorem after_append (d : Dialer) (calls : List Call) (c : Call) :
    d.after (calls ++ [c]) = d.call (d.after calls) c := by
  simp [after]

/-- A connection keeps its exception only in the initial state. -/
theorem call_connect (d : Dialer) (s : DialerState) (net : Network) (host : Text) (port : ℤ) :
    (d.call s (.connect net host port)).initial = s.initial ∧
    (d.call s (.connect net host port)).pending =
      if s.initial then s.pending.or (d.callException (.connect net host port)) else s.pending := by
  simp only [call, connectIntern, callException]
  cases (d.dial net host port).xsink with
  | none => simp
  | some ex =>
      obtain ⟨pending, initial⟩ := s
      cases initial <;> cases pending <;> simp [DialerState.keepException]

/-- The state is that of the first connection until the exception is taken. -/
theorem after_state (d : Dialer) (calls : List Call) :
    (.takeException ∉ calls → (d.after calls).initial = true ∧
      (d.after calls).pending = calls.findSome? d.callException) ∧
    (.takeException ∈ calls → (d.after calls).initial = false ∧
      (d.after calls).pending = none) := by
  induction calls using List.reverseRecOn with
  | nil => simp [after]
  | append_singleton calls c ih =>
      rw [after_append]
      cases c with
      | takeException => simp [call, DialerState.takeException]
      | connect net host port =>
          obtain ⟨hinitial, hpending⟩ := d.call_connect (d.after calls) net host port
          rw [hinitial, hpending, List.findSome?_append, List.findSome?_singleton,
            List.mem_append, List.mem_singleton]
          constructor
          · intro hnot
            obtain ⟨hinit, hpend⟩ := ih.1 fun hmem => hnot (.inl hmem)
            simp [hinit, hpend]
          · rintro (hmem | heq)
            · obtain ⟨hinit, hpend⟩ := ih.2 hmem
              simp [hinit, hpend]
            · cases heq

theorem keepsFirst (d : Dialer) (calls : List Call) : d.KeepsFirst calls where
  initial := by
    intro hnot ex
    rw [((d.after_state calls).1 hnot).2, List.findSome?_eq_some_iff]
    simp only [callException_iff, callException_eq_none_iff]
  taken hmem := ((d.after_state calls).2 hmem).2

/-- Every call of the dialer is mediated by the policy, and over all calls only a cancellation of
    the first connection is kept for the creating thread. -/
theorem sandboxDialer_mediates (d : Dialer) :
    (∀ net host port s, d.Mediates net host port (d.connectIntern net host port s).1) ∧
      ∀ calls, d.KeepsFirst calls :=
  ⟨fun net host port _ => d.mediates net host port, d.keepsFirst⟩

end Dialer

end ModuleNats
