import Mathlib.Algebra.BigOperators.Group.List.Basic
import Mathlib.Algebra.Order.Ring.Int
import ModuleNats.Sandbox.Mediation

set_option autoImplicit false

/-! # The time for each address

The dialer divides the connect timeout among the addresses of a host, gives none of them less than
10 ms, and casts the quotient to the `int` that `poll()` takes. A quotient that does not fit can
become a negative number, with which `poll()` waits for ever (`fairly_polled_iff`). -/

namespace ModuleNats

/-! ## The polls of a call -/

/-- `static_cast<int>(timeout_ms)` -/
def pollTimeoutMs (timeoutMs : ℤ) : ℤ := Int.bmod timeoutMs 4294967296

/-- A poll of `connectAddress()` is made with its timeout, cast to an `int`. -/
theorem polled_eq {sys : SysCalls} {ai : SockAddr} {timeoutMs ms : ℤ}
    (h : (connectAddressPolled sys ai timeoutMs).2 = some ms) : ms = pollTimeoutMs timeoutMs := by
  unfold connectAddressPolled at h
  split at h
  · cases h
  · split at h
    · cases h
    · split at h
      · cases h
      · split at h
        · cases h
        · cases h
        · exact (Option.some.inj h).symm

namespace Dialer

variable (d : Dialer) (net : Network) (host : Text) (port : ℤ)

/-- The timeouts of the polls of a call, in order. -/
def polls : List ℤ :=
  (d.dial net host port).considered.zipIdx.filterMap fun
    | (.tried ai, i) =>
        (connectAddressPolled (net.sys i) ai
          (d.perAddressMs (d.addresses net host port).length)).2
    | (.denied _, _) => none

/-- Every poll has a finite timeout of at least 10 ms, and together they have no more than the
    connect timeout, or than 10 ms for each address. -/
structure FairlyPolled : Prop where
  bounds : ∀ t ∈ d.polls net host port, 10 ≤ t ∧ t ≤ 2147483647
  sum : (d.polls net host port).sum ≤ max d.timeoutMs (10 * (d.addresses net host port).length)

variable {d net host port}

theorem eq_of_mem_polls {t : ℤ} (h : t ∈ d.polls net host port) :
    t = pollTimeoutMs (d.perAddressMs (d.addresses net host port).length) := by
  obtain ⟨⟨entry, i⟩, -, hentry⟩ := List.mem_filterMap.1 h
  cases entry with
  | denied ai => cases hentry
  | tried ai => exact polled_eq hentry

theorem length_polls_le : (d.polls net host port).length ≤ (d.addresses net host port).length := by
  obtain ⟨n, hconsidered⟩ := d.exists_considered net host port
  refine (List.length_filterMap_le _ _).trans ?_
  rw [List.length_zipIdx, hconsidered, List.length_map]
  exact List.length_take_le' _ _

/-! ## The time for an address -/

theorem pollTimeoutMs_le {timeoutMs : ℤ} : pollTimeoutMs timeoutMs ≤ 2147483647 := by
  have hlt : Int.bmod timeoutMs 4294967296 < (4294967296 + 1) / 2 := Int.bmod_lt (by decide)
  rw [pollTimeoutMs]
  omega

/-- The cast makes no time longer. -/
theorem pollTimeoutMs_le_self {timeoutMs : ℤ} (h : 0 ≤ timeoutMs) :
    pollTimeoutMs timeoutMs ≤ timeoutMs := by
  rw [pollTimeoutMs, Int.bmod_def]
  split <;> omega

theorem mul_perAddressMs_le {n : ℕ} (h : 0 ≤ d.timeoutMs) :
    n * d.perAddressMs n ≤ max d.timeoutMs (10 * n) := by
  rw [perAddressMs, Int.tdiv_eq_ediv_of_nonneg h]
  rcases le_total (d.timeoutMs / n) 10 with hshort | hlong
  · rw [max_eq_right hshort]
    exact le_max_of_le_right (by omega)
  · rw [max_eq_left hlong]
    have hn : (n : ℤ) ≠ 0 := by
      intro hzero
      rw [hzero, Int.ediv_zero] at hlong
      omega
    exact le_max_of_le_left (Int.mul_ediv_self_le hn)

/-- If the cast leaves at least 10 ms, every call polls fairly. -/
theorem fairlyPolled_of_le (ht : 0 ≤ d.timeoutMs)
    (h : 10 ≤ pollTimeoutMs (d.perAddressMs (d.addresses net host port).length)) :
    d.FairlyPolled net host port := by
  refine ⟨fun t ht => ?_, ?_⟩
  · rw [eq_of_mem_polls ht]
    exact ⟨h, pollTimeoutMs_le⟩
  · set n := (d.addresses net host port).length with hn
    set w := pollTimeoutMs (d.perAddressMs n) with hw
    have hper : 0 ≤ d.perAddressMs n := le_max_of_le_right (by decide)
    have hpolls : d.polls net host port = List.replicate (d.polls net host port).length w :=
      List.eq_replicate_of_mem fun t ht => eq_of_mem_polls ht
    calc (d.polls net host port).sum
        = (d.polls net host port).length * w := by rw [hpolls]; simp
      _ ≤ n * w := by
          have hlength : ((d.polls net host port).length : ℤ) ≤ n := by
            exact_mod_cast length_polls_le
          exact mul_le_mul_of_nonneg_right hlength (by omega)
      _ ≤ n * d.perAddressMs n :=
          mul_le_mul_of_nonneg_left (pollTimeoutMs_le_self hper) (Int.natCast_nonneg n)
      _ ≤ max d.timeoutMs (10 * n) := mul_perAddressMs_le ht

/-! ## Exactly when -/

/-- The connect timeout of a connection, or the default of the C client. -/
def connectTimeoutMs (timeoutMs : Int64) : ℤ :=
  if 0 < timeoutMs.toInt then timeoutMs.toInt else 2000

/-- Whatever the sandbox, the network and the host: a call with so many addresses polls fairly. -/
def AlwaysFair (timeoutMs : Int64) (n : ℕ) : Prop :=
  ∀ sandbox orderIp noRandomize net host port,
    let d := Dialer.new sandbox timeoutMs.toInt orderIp noRandomize
    (d.addresses net host port).length = n → d.FairlyPolled net host port

theorem connectTimeoutMs_nonneg (timeoutMs : Int64) : 0 ≤ connectTimeoutMs timeoutMs := by
  rw [connectTimeoutMs]
  split <;> omega

theorem perAddressMs_new (sandbox : Option NetworkPolicy) (timeoutMs : Int64) (orderIp : ℤ)
    (noRandomize : Bool) (n : ℕ) :
    (Dialer.new sandbox timeoutMs.toInt orderIp noRandomize).perAddressMs n =
      max (connectTimeoutMs timeoutMs / n) 10 := by
  rw [← Int.tdiv_eq_ediv_of_nonneg (connectTimeoutMs_nonneg timeoutMs)]
  rfl

/-- A host with so many addresses, none of which ever answers. -/
def silentNetwork (n : ℕ) : Network where
  getaddrinfo _ _ _ := .ok (List.replicate n ⟨.inet, "192.0.2.1".toList, 4222⟩)
  shuffle _ := ⟨id, fun _ => .refl _⟩
  sys _ := {
    socket := some 3
    noSigPipe := true
    getFlags := true
    setFlags := true
    connect := .inProgress
    poll _ := .timeout
    noSoError := true
    tcpNoDelay := true
    reuseAddr := true
    linger := true }

section Silent

variable (timeoutMs : Int64) (n : ℕ)

/-- A dialer without a policy that keeps the addresses in their order. -/
def plain : Dialer := Dialer.new none timeoutMs.toInt 4 true

theorem addresses_silent : (plain timeoutMs).addresses (silentNetwork n) [] 4222 =
    List.replicate n ⟨.inet, "192.0.2.1".toList, 4222⟩ := by
  simp [addresses, plain, Dialer.new, families, segment, resolve, silentNetwork]

theorem connectAddressPolled_silent (i : ℕ) (ai : SockAddr) (ms : ℤ) :
    connectAddressPolled ((silentNetwork n).sys i) ai ms =
      ({ status := .timeout }, some (pollTimeoutMs ms)) := rfl

/-- The first address is polled. -/
theorem mem_polls_silent (hn : 0 < n) :
    pollTimeoutMs (max (connectTimeoutMs timeoutMs / n) 10) ∈
      (plain timeoutMs).polls (silentNetwork n) [] 4222 := by
  obtain ⟨m, rfl⟩ := Nat.exists_eq_succ_of_ne_zero hn.ne'
  refine List.mem_filterMap.2 ⟨(.tried ⟨.inet, "192.0.2.1".toList, 4222⟩, 0), ?_, ?_⟩
  · rw [dial_eq, addresses_silent, List.replicate_succ]
    simp [connectLoop, denies, plain, Dialer.new, connectAddress, connectAddressPolled_silent]
  · dsimp only
    rw [connectAddressPolled_silent, addresses_silent, List.length_replicate, plain,
      perAddressMs_new]

end Silent

theorem alwaysFair_of_pollTimeoutMs {timeoutMs : Int64} {n : ℕ}
    (h : 10 ≤ pollTimeoutMs (max (connectTimeoutMs timeoutMs / n) 10)) :
    AlwaysFair timeoutMs n := by
  intro sandbox orderIp noRandomize net host port d hlength
  refine fairlyPolled_of_le (connectTimeoutMs_nonneg timeoutMs) ?_
  rw [hlength, perAddressMs_new]
  exact h

theorem pollTimeoutMs_of_alwaysFair {timeoutMs : Int64} {n : ℕ} (hn : 0 < n)
    (h : AlwaysFair timeoutMs n) :
    10 ≤ pollTimeoutMs (max (connectTimeoutMs timeoutMs / n) 10) := by
  have hlength : ((plain timeoutMs).addresses (silentNetwork n) [] 4222).length = n := by
    rw [addresses_silent, List.length_replicate]
  have hfair : (plain timeoutMs).FairlyPolled (silentNetwork n) [] 4222 :=
    h none 4 true (silentNetwork n) [] 4222 hlength
  exact (hfair.bounds _ (mem_polls_silent timeoutMs n hn)).1

/-- A time for each address that the cast to `int` leaves long enough: one below the lower bound,
    which is raised to it, or one whose low 32 bits are a number from 10 to `INT_MAX`. -/
def SurvivesCast (ms : ℤ) : Prop :=
  ms < 10 ∨ 10 ≤ ms % 4294967296 ∧ ms % 4294967296 ≤ 2147483647

instance (ms : ℤ) : Decidable (SurvivesCast ms) := inferInstanceAs (Decidable (_ ∨ _))

theorem survivesCast_iff (ms : ℤ) : SurvivesCast ms ↔ 10 ≤ pollTimeoutMs (max ms 10) := by
  rw [SurvivesCast, pollTimeoutMs]
  by_cases hshort : ms < 10
  · rw [max_eq_right (by omega), Int.bmod_eq_of_le (by omega) (by omega)]
    omega
  · rw [max_eq_left (by omega), Int.bmod_def]
    split <;> omega

/-- A time of at most `INT_MAX` milliseconds is one. -/
theorem survivesCast_of_le {ms : ℤ} (h : ms ≤ 2147483647) : SurvivesCast ms := by
  by_cases hshort : ms < 10
  · exact Or.inl hshort
  · refine Or.inr ?_
    rw [Int.emod_eq_of_lt (by omega) (by omega)]
    omega

/-- Every poll has a timeout from 10 to `INT_MAX`, and the sum of them keeps to the connect timeout,
    if and only if the time for each address, the connect timeout divided by the number of
    addresses, survives the cast to `int`. -/
theorem fairly_polled_iff {timeoutMs : Int64} {n : ℕ} (hn : 0 < n) :
    AlwaysFair timeoutMs n ↔ SurvivesCast (connectTimeoutMs timeoutMs / n) := by
  rw [survivesCast_iff]
  exact ⟨pollTimeoutMs_of_alwaysFair hn, alwaysFair_of_pollTimeoutMs⟩

theorem fairly_polled_iff_fourAddresses : AlwaysFair 5000 4 :=
  (fairly_polled_iff (by decide)).2 (survivesCast_of_le (by decide))

/-- With a timeout of 2^31 ms the only address of a host is polled with `INT_MIN`, for ever. -/
theorem polled_for_ever :
    ¬ ∀ (timeoutMs : Int64) (n : ℕ), 0 ≤ timeoutMs → 0 < n → AlwaysFair timeoutMs n := by
  intro hclaim
  have hbound := pollTimeoutMs_of_alwaysFair (by decide) (hclaim 2147483648 1 (by decide)
    (by decide))
  exact absurd hbound (by decide)

end Dialer

end ModuleNats
