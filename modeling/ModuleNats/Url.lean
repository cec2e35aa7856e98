import ModuleNats.Lib.Text

set_option autoImplicit false

/-! # NATS URLs

Two parsers read the URLs of NATS servers: `parse_nats_url()` in the C++ code finds the host and the
port that a network policy is asked about, `NatsHelper::parseUrl()` in the Qore code returns all
parts. Both cut the text at its delimiters, at different ones: the first at the first `@` and the
last `:`, the second at the first `@` and at every `:`. `parsers_right_iff` says which URLs both
read as they were meant.

Text is a list of characters. Whether `split()` of Qore returns an empty last field is a matter of
the Qore runtime (`keepLast`). -/

namespace ModuleNats

abbrev Text := List Char

/-! ## Numbers -/

/-- The value that `strtol()` and `strtoll()` return for a number. -/
def clampLong (v : ℤ) : ℤ := max (-9223372036854775808) (min v 9223372036854775807)

/-- `atoi()`: `(int)strtol()` -/
def atoi (l : Text) : ℤ := Int.bmod (clampLong (Decimal.readInt l)) 4294967296

/-- `int(str)` in Qore -/
def qoreInt (l : Text) : ℤ := clampLong (Decimal.readInt l)

/-! ## The parsers -/

/-- The scheme of a URL, and what follows it. -/
def cutScheme (url : Text) : Option (Text × Text) :=
  match "nats://".toList.isPrefixOf? url with
  | some rest => some ("nats".toList, rest)
  | none => ("tls://".toList.isPrefixOf? url).map fun rest => ("tls".toList, rest)

/-- `parse_nats_url()`: the host and the port. -/
def parseNatsUrl (url : Text) : Text × ℤ :=
  -- skip scheme
  let p := match cutScheme url with
    | some (_, rest) => rest
    | none => url
  -- skip userinfo
  let p := match p.cutFirst '@' with
    | some (_, rest) => rest
    | none => p
  let (host, port) := match p.cutLast ':' with
    | some (host, port) => (host, atoi port)
    | none => (p, 4222)
  -- remove trailing slash
  (if host.getLast? = some '/' then host.dropLast else host, port)

structure NatsUrlInfo where
  scheme : Text := "nats".toList
  host : Text := "localhost".toList
  port : ℤ := 4222
  username : Option Text := none
  password : Option Text := none
deriving DecidableEq, Repr

/-- `str.split(sep)` -/
def qoreSplit (keepLast : Bool) (sep : Char) (l : Text) : List Text :=
  let fields := l.splitOn sep
  if !keepLast && fields.getLast? = some [] then fields.dropLast else fields

/-- `regex_subst(str, "/.*", "")`: a dot does not match the end of a line. -/
def stripPath (l : Text) : Text :=
  match l.cutFirst '/' with
  | some (before, after) => before ++ after.dropWhile (· != '\n')
  | none => l

/-- The userinfo of a URL as user and password, and what follows it. -/
def parseUserinfo (keepLast : Bool) (remaining : Text) :
    Option (Option Text × Option Text × Text) :=
  match remaining.cutFirst '@' with
  | some (userinfo, rest) =>
      -- the regular expression does not match an empty userinfo, which raises an exception
      if userinfo.isEmpty then none
      else if ':' ∈ userinfo then
        let parts := qoreSplit keepLast ':' userinfo
        some (parts[0]?, parts[1]?, rest)
      else some (some userinfo, none, rest)
  | none => some (none, none, remaining)

/-- The host and the port, if there is one. -/
def parseHostPort (keepLast : Bool) (remaining : Text) : Option (Text × ℤ) :=
  if ':' ∈ remaining then
    match qoreSplit keepLast ':' remaining with
    | host :: port :: _ => some (host, qoreInt (stripPath port))
    -- without a second field an exception is raised
    | _ => none
  else some (stripPath remaining, 4222)

/-- `NatsHelper::parseUrl()`; `none` is an exception. -/
def parseUrl (keepLast : Bool) (url : Text) : Option NatsUrlInfo := do
  let (scheme, remaining) := (cutScheme url).getD ("nats".toList, url)
  let (username, password, remaining) ← parseUserinfo keepLast remaining
  let (host, port) ← parseHostPort keepLast remaining
  return {
    scheme := scheme
    host := if host.isEmpty then "localhost".toList else host
    port := port
    username := username
    password := password }

/-! ## The grammar -/

inductive Scheme where
  | nats
  | tls
deriving DecidableEq, Repr

def Scheme.text : Scheme → Text
  | .nats => "nats".toList
  | .tls => "tls".toList

/-- User and password; the password may contain colons. -/
structure UserInfo where
  user : Text
  password : Option Text
  user_clean : ':' ∉ user ∧ '@' ∉ user ∧ '/' ∉ user
  password_clean : ∀ p, password = some p → '@' ∉ p ∧ '/' ∉ p

def UserInfo.text (u : UserInfo) : Text :=
  u.user ++ (match u.password with
    | some p => ':' :: p
    | none => [])

/-- A host name or an IPv4 address, or an IPv6 address in brackets. -/
inductive Host where
  | name (text : Text) (nonempty : text ≠ []) (clean : ∀ c ∈ [':', '@', '/', '[', ']'], c ∉ text)
  | ipv6 (addr : Text) (colon : ':' ∈ addr) (clean : ∀ c ∈ ['@', '/', '[', ']'], c ∉ addr)

def Host.text : Host → Text
  | .name text _ _ => text
  | .ipv6 addr _ _ => '[' :: addr ++ [']']

/-- `[nats://|tls://][user[:password]@]host[:port][/]` -/
structure NatsUrl where
  scheme : Option Scheme
  userinfo : Option UserInfo
  host : Host
  port : Option ℕ
  slash : Bool
  port_range : ∀ p, port = some p → 1 ≤ p ∧ p ≤ 65535

namespace NatsUrl

def portText (url : NatsUrl) : Text :=
  match url.port with
  | some p => ':' :: Nat.toDigits 10 p
  | none => []

def slashText (url : NatsUrl) : Text := if url.slash then ['/'] else []

/-- The URL without its scheme and its userinfo. -/
def hostPort (url : NatsUrl) : Text := url.host.text ++ url.portText ++ url.slashText

/-- The URL without its scheme. -/
def rest (url : NatsUrl) : Text :=
  (match url.userinfo with
    | some u => u.text ++ ['@']
    | none => []) ++ url.hostPort

def text (url : NatsUrl) : Text :=
  (match url.scheme with
    | some s => s.text ++ "://".toList
    | none => []) ++ url.rest

/-- The port that is meant. -/
def portNumber (url : NatsUrl) : ℤ := (url.port.getD 4222 : ℕ)

end NatsUrl

/-! ## The parts of a URL -/

theorem not_mem_toDigits {c : Char} (h : ¬ c.isDigit) (n : ℕ) : c ∉ Nat.toDigits 10 n :=
  fun hmem => h (Nat.isDigit_of_mem_toDigits (by decide) (by decide) hmem)

/-- A port, with something after it that is not a digit. -/
theorem readPort {p : ℕ} (hp : p ≤ 65535) {rest : Text}
    (h : ∀ c, rest.head? = some c → ¬ c.isDigit) :
    atoi (Nat.toDigits 10 p ++ rest) = p ∧ qoreInt (Nat.toDigits 10 p ++ rest) = p := by
  have hclamp : clampLong (p : ℤ) = p := by
    unfold clampLong
    omega
  rw [atoi, qoreInt, Decimal.readInt_append h, hclamp]
  exact ⟨Int.bmod_eq_of_le (by omega) (by omega), rfl⟩

namespace Host

theorem text_ne_nil (h : Host) : h.text ≠ [] := by
  cases h with
  | name text nonempty clean => exact nonempty
  | ipv6 => exact List.cons_ne_nil _ _

theorem not_mem_text (h : Host) : '@' ∉ h.text ∧ '/' ∉ h.text := by
  cases h with
  | name text nonempty clean => exact ⟨clean _ (by simp), clean _ (by simp)⟩
  | ipv6 addr colon clean =>
      have hat := clean '@' (by simp)
      have hslash := clean '/' (by simp)
      simp [Host.text, hat, hslash]

/-- Only the text of an IPv6 address contains a colon. -/
def IsName : Host → Prop
  | .name _ _ _ => True
  | .ipv6 _ _ _ => False

theorem isName_iff {h : Host} : h.IsName ↔ ':' ∉ h.text := by
  cases h with
  | name text nonempty clean => simpa [IsName, Host.text] using clean _ (by simp)
  | ipv6 addr colon clean => simp [IsName, Host.text, colon]

end Host

theorem UserInfo.not_mem_text (u : UserInfo) : '@' ∉ u.text ∧ '/' ∉ u.text := by
  cases hp : u.password with
  | none => simp [text, hp, u.user_clean]
  | some p => simp [text, hp, u.user_clean, u.password_clean p hp]

namespace NatsUrl

variable (url : NatsUrl)

theorem not_mem_portText : '@' ∉ url.portText ∧ '/' ∉ url.portText := by
  unfold portText
  split
  · simp [not_mem_toDigits]
  · simp

theorem not_mem_slashText : ':' ∉ url.slashText ∧ '@' ∉ url.slashText := by
  unfold slashText
  split <;> simp

theorem not_mem_hostPort : '@' ∉ url.hostPort := by
  simp [hostPort, url.host.not_mem_text, url.not_mem_portText, url.not_mem_slashText]

/-- There is at most one slash after the scheme. -/
theorem count_slash_rest : url.rest.count '/' ≤ 1 := by
  have hslash : url.slashText.count '/' ≤ 1 := by
    unfold slashText
    split <;> simp
  have huser : ∀ u : UserInfo, u.text.count '/' = 0 := fun u =>
    List.count_eq_zero.2 u.not_mem_text.2
  have hhost : url.host.text.count '/' = 0 := List.count_eq_zero.2 url.host.not_mem_text.2
  have hport : url.portText.count '/' = 0 := List.count_eq_zero.2 url.not_mem_portText.2
  have hrest : url.hostPort.count '/' ≤ 1 := by simpa [hostPort, hhost, hport] using hslash
  unfold rest
  cases url.userinfo with
  | none => simpa using hrest
  | some u => simpa [huser] using hrest

theorem cutScheme_rest : cutScheme url.rest = none := by
  have hnone : ∀ pre : Text, 2 ≤ pre.count '/' → pre.isPrefixOf? url.rest = none := by
    intro pre hpre
    rw [Option.eq_none_iff_forall_not_mem]
    intro t ht
    have hcount := url.count_slash_rest
    rw [← List.isPrefixOf?_eq_some_iff_append_eq.1 ht, List.count_append] at hcount
    omega
  rw [cutScheme, hnone _ (by decide), hnone _ (by decide)]
  rfl

/-- Both parsers skip the scheme. -/
theorem cutScheme_text : cutScheme url.text = url.scheme.map fun s => (s.text, url.rest) := by
  unfold text
  cases url.scheme with
  | none => simpa using url.cutScheme_rest
  | some s => cases s <;> rfl

/-- The userinfo ends at the first `@`. -/
theorem cutFirst_rest :
    url.rest.cutFirst '@' = url.userinfo.map fun u => (u.text, url.hostPort) := by
  unfold rest
  cases url.userinfo with
  | none => simpa [List.cutFirst_eq_none] using url.not_mem_hostPort
  | some u =>
      simpa using List.cutFirst_append u.not_mem_text.1 url.hostPort

/-- What `parse_nats_url()` makes of the part after the userinfo. -/
theorem parseNatsUrl_text : parseNatsUrl url.text =
    (let (host, port) := match url.hostPort.cutLast ':' with
      | some (host, port) => (host, atoi port)
      | none => (url.hostPort, 4222)
    (if host.getLast? = some '/' then host.dropLast else host, port)) := by
  have hskip : (match cutScheme url.text with
      | some (_, rest) => rest
      | none => url.text) = url.rest := by
    rw [cutScheme_text]
    unfold text
    cases url.scheme <;> rfl
  have huser : (match url.rest.cutFirst '@' with
      | some (_, rest) => rest
      | none => url.rest) = url.hostPort := by
    rw [cutFirst_rest]
    unfold rest
    cases url.userinfo <;> rfl
  rw [parseNatsUrl, hskip, huser]

theorem getLast_text : url.host.text.getLast? ≠ some '/' := fun h =>
  url.host.not_mem_text.2 (List.mem_of_getLast? h)

/-- The digits of the port, with the slash after them. -/
theorem hostPort_of_port {p : ℕ} (h : url.port = some p) :
    url.hostPort = url.host.text ++ ':' :: (Nat.toDigits 10 p ++ url.slashText) := by
  simp [hostPort, portText, h]

theorem slashText_head : ∀ c, url.slashText.head? = some c → ¬ c.isDigit := by
  unfold slashText
  split
  · rintro c h
    cases h
    decide
  · rintro c h
    cases h

/-- With a port the last colon is the one before it. -/
theorem parseNatsUrl_of_port {p : ℕ} (h : url.port = some p) :
    parseNatsUrl url.text = (url.host.text, url.portNumber) := by
  have hcolon : ':' ∉ Nat.toDigits 10 p ++ url.slashText := by
    simp [not_mem_toDigits, url.not_mem_slashText]
  rw [parseNatsUrl_text, hostPort_of_port url h, List.cutLast_append hcolon]
  simp only [if_neg url.getLast_text]
  rw [(readPort (url.port_range p h).2 url.slashText_head).1, portNumber, h]
  rfl

theorem parseNatsUrl_of_name (hname : url.host.IsName) :
    parseNatsUrl url.text = (url.host.text, url.portNumber) := by
  cases h : url.port with
  | some p => exact url.parseNatsUrl_of_port h
  | none =>
      have hhost : url.hostPort = url.host.text ++ url.slashText := by
        simp [hostPort, portText, h]
      have hcolon : ':' ∉ url.hostPort := by
        simp [hhost, Host.isName_iff.1 hname, url.not_mem_slashText]
      rw [parseNatsUrl_text, List.cutLast_eq_none.2 hcolon, portNumber, h, hhost]
      cases hslash : url.slash with
      | true => simp [slashText, hslash]
      | false => simp [slashText, hslash, url.getLast_text]

/-- In an IPv6 address without a port, the last colon is one of the address. -/
theorem parseNatsUrl_host_ne (hname : ¬ url.host.IsName) (hport : url.port = none) :
    (parseNatsUrl url.text).1 ≠ url.host.text := by
  obtain ⟨addr, colon, clean, hhost⟩ : ∃ addr colon clean, url.host = .ipv6 addr colon clean := by
    cases hhost : url.host with
    | name => rw [hhost] at hname; exact absurd trivial hname
    | ipv6 addr colon clean => exact ⟨addr, colon, clean, rfl⟩
  obtain ⟨before, after, hafter, haddr⟩ : ∃ before after, ':' ∉ after ∧
      addr = before ++ ':' :: after := by
    cases hcut : addr.cutLast ':' with
    | none => exact absurd colon (List.cutLast_eq_none.1 hcut)
    | some cut => exact ⟨cut.1, cut.2, List.cutLast_spec hcut⟩
  have hsplit : url.hostPort = ('[' :: before) ++ ':' :: (after ++ ']' :: url.slashText) := by
    simp [hostPort, portText, hport, hhost, Host.text, haddr]
  have hcolon : ':' ∉ after ++ ']' :: url.slashText := by
    simp [hafter, url.not_mem_slashText]
  rw [parseNatsUrl_text, hsplit, List.cutLast_append hcolon]
  -- the host that is found is shorter
  have hle : ∀ host : Text,
      (if host.getLast? = some '/' then host.dropLast else host).length ≤ host.length := by
    intro host
    split
    · exact (List.dropLast_sublist host).length_le
    · exact Nat.le_refl _
  intro heq
  have hlength : url.host.text.length ≤ ('[' :: before).length := by
    rw [← heq]
    exact hle _
  rw [hhost, Host.text, haddr] at hlength
  simp only [List.length_append, List.length_cons] at hlength
  omega

end NatsUrl

/-! ## `parseUrl()` -/

section Qore

variable (keepLast : Bool)

theorem not_mem_of_mem_qoreSplit {sep : Char} {l field : Text}
    (h : field ∈ qoreSplit keepLast sep l) : sep ∉ field := by
  simp only [qoreSplit] at h
  split at h
  · exact List.not_mem_of_mem_splitOn (List.dropLast_subset _ h)
  · exact List.not_mem_of_mem_splitOn h

/-- Two fields; an empty second one may be left out. -/
theorem qoreSplit_two {sep : Char} {a b : Text} (ha : sep ∉ a) (hb : sep ∉ b) :
    qoreSplit keepLast sep (a ++ sep :: b) = if !keepLast && b = [] then [a] else [a, b] := by
  rw [qoreSplit, List.splitOn_append_cons_self_of_not_mem ha, List.splitOn_eq_singleton hb]
  simp

theorem stripPath_subset (l : Text) : stripPath l ⊆ l := by
  unfold stripPath
  split
  · next before after hcut =>
      rw [(List.cutFirst_spec hcut).2]
      intro c hc
      rcases List.mem_append.1 hc with hc | hc
      · exact List.mem_append_left _ hc
      · have htext := (List.dropWhile_sublist _).subset hc
        exact List.mem_append_right _ (List.mem_cons_of_mem _ htext)
  · exact List.Subset.refl _

theorem stripPath_slash {l : Text} (h : '/' ∉ l) (slash : Bool) :
    stripPath (l ++ if slash then ['/'] else []) = l := by
  cases slash with
  | true => simp [stripPath, List.cutFirst_append h]
  | false => simp [stripPath, List.cutFirst_eq_none.2 h]

/-- No host that `parseUrl()` finds contains a colon. -/
theorem parseHostPort_host {remaining host : Text} {port : ℤ}
    (h : parseHostPort keepLast remaining = some (host, port)) : ':' ∉ host := by
  unfold parseHostPort at h
  split at h
  · split at h
    · next hfields =>
        cases h
        exact not_mem_of_mem_qoreSplit keepLast (hfields ▸ List.mem_cons_self)
    · cases h
  · next hcolon =>
      cases h
      exact fun hmem => hcolon (stripPath_subset _ hmem)

/-- No password that `parseUrl()` finds contains a colon. -/
theorem parseUserinfo_password {remaining rest password : Text} {username : Option Text}
    (h : parseUserinfo keepLast remaining = some (username, some password, rest)) :
    ':' ∉ password := by
  unfold parseUserinfo at h
  split at h
  · split at h
    · cases h
    · split at h
      · simp only [Option.some.injEq, Prod.mk.injEq] at h
        exact not_mem_of_mem_qoreSplit keepLast (List.mem_of_getElem? h.2.1)
      · cases h
  · cases h

end Qore

namespace NatsUrl

variable (keepLast : Bool) (url : NatsUrl)

/-- Whether `parseUrl()` can read the userinfo: no colon in the password, no empty password if
    `split()` leaves it out, and not nothing at all before the `@`. -/
def UserinfoPlain : Prop :=
  ∀ u, url.userinfo = some u →
    (∀ p, u.password = some p → ':' ∉ p ∧ (p = [] → keepLast = true)) ∧
    (u.user = [] → u.password ≠ none)

theorem parseUserinfo_rest (h : url.UserinfoPlain keepLast) :
    parseUserinfo keepLast url.rest = some (url.userinfo.map (·.user),
      url.userinfo.bind (·.password), url.hostPort) := by
  rw [parseUserinfo, cutFirst_rest]
  cases hu : url.userinfo with
  | none => simp [rest, hu]
  | some u =>
      obtain ⟨hpassword, huser⟩ := h u hu
      cases hp : u.password with
      | none =>
          have hne : u.user ≠ [] := fun hnil => huser hnil hp
          have hcolon := u.user_clean.1
          simp [UserInfo.text, hp, hne, hcolon]
      | some p =>
          obtain ⟨hcolon, hempty⟩ := hpassword p hp
          have hsplit := qoreSplit_two keepLast u.user_clean.1 hcolon
          have hkept : (!keepLast && decide (p = [])) = false := by
            by_cases hnil : p = [] <;> simp [hnil, hempty]
          simp [UserInfo.text, hp, hsplit, hkept]

theorem parseHostPort_hostPort (hname : url.host.IsName) :
    parseHostPort keepLast url.hostPort = some (url.host.text, url.portNumber) := by
  have hcolon := Host.isName_iff.1 hname
  cases h : url.port with
  | some p =>
      have hdigits : ':' ∉ Nat.toDigits 10 p ++ url.slashText := by
        simp [not_mem_toDigits, url.not_mem_slashText]
      have hne : Nat.toDigits 10 p ++ url.slashText ≠ [] := by simp [Nat.toDigits_ne_nil]
      have hport : qoreInt (stripPath (Nat.toDigits 10 p ++ url.slashText)) = p := by
        have hnil : ∀ c, ([] : Text).head? = some c → ¬ c.isDigit := nofun
        have hread := readPort (url.port_range p h).2 hnil
        rw [slashText, stripPath_slash (not_mem_toDigits (by decide) p)]
        simpa using hread.2
      rw [parseHostPort, hostPort_of_port url h, if_pos (by simp),
        qoreSplit_two keepLast hcolon hdigits]
      simp [hne, hport, portNumber, h]
  | none =>
      have hhost : url.hostPort = url.host.text ++ url.slashText := by
        simp [hostPort, portText, h]
      have hnone : ':' ∉ url.hostPort := by
        simp [hhost, hcolon, url.not_mem_slashText]
      rw [parseHostPort, if_neg hnone, hhost, slashText,
        stripPath_slash url.host.not_mem_text.2]
      simp [portNumber, h]

/-! ## Both parsers -/

/-- Both parsers give back what the URL was built from. -/
structure ParsedRight : Prop where
  parseNatsUrl : parseNatsUrl url.text = (url.host.text, url.portNumber)
  parseUrl : ∃ info, parseUrl keepLast url.text = some info ∧
    info.host = url.host.text ∧ info.port = url.portNumber ∧
    info.username = url.userinfo.map (·.user) ∧ info.password = url.userinfo.bind (·.password)

/-- `parseUrl()` after its scheme. -/
theorem parseUrl_text : ∃ scheme, parseUrl keepLast url.text =
    (parseUserinfo keepLast url.rest).bind fun (username, password, remaining) =>
      (parseHostPort keepLast remaining).map fun (host, port) =>
        ⟨scheme, if host.isEmpty then "localhost".toList else host, port, username, password⟩ := by
  have hscheme : ∃ scheme, (cutScheme url.text).getD ("nats".toList, url.text) =
      (scheme, url.rest) := by
    rw [cutScheme_text]
    unfold text
    cases url.scheme <;> exact ⟨_, rfl⟩
  obtain ⟨scheme, hscheme⟩ := hscheme
  refine ⟨scheme, ?_⟩
  simp only [ModuleNats.parseUrl, hscheme, bind, pure]
  cases parseUserinfo keepLast url.rest with
  | none => rfl
  | some parts =>
      simp only [Option.bind_some]
      cases parseHostPort keepLast parts.2.2 <;> rfl

theorem userinfoPlain_of_parsed {username password : Option Text} {remaining : Text}
    (h : parseUserinfo keepLast url.rest = some (username, password, remaining))
    (hpassword : password = url.userinfo.bind (·.password)) : url.UserinfoPlain keepLast := by
  intro u hu
  rw [hu, Option.bind_some] at hpassword
  have hcut := url.cutFirst_rest
  rw [hu, Option.map_some] at hcut
  refine ⟨fun p hp => ⟨?_, fun hnil => ?_⟩, fun huser hnone => ?_⟩
  · rw [hpassword, hp] at h
    exact parseUserinfo_password keepLast h
  · -- an empty password that `split()` leaves out
    cases keepLast with
    | true => rfl
    | false =>
        have hsplit := qoreSplit_two false u.user_clean.1 (b := []) List.not_mem_nil
        simp [parseUserinfo, hcut, UserInfo.text, hp, hnil, hsplit] at h
        rw [← h.2.1, hp] at hpassword
        cases hpassword
  · -- nothing before the `@`
    simp [parseUserinfo, hcut, UserInfo.text, huser, hnone] at h

/-- Both parsers read a URL as it was meant if and only if its host is not an IPv6 address and
    `parseUrl()` can read its userinfo. -/
theorem parsers_right_iff :
    url.ParsedRight keepLast ↔ url.host.IsName ∧ url.UserinfoPlain keepLast := by
  obtain ⟨scheme, hparse⟩ := url.parseUrl_text keepLast
  constructor
  · rintro ⟨-, info, hinfo, hhost, -, -, hpassword⟩
    rw [hparse] at hinfo
    obtain ⟨⟨username, password, remaining⟩, huser, hinfo⟩ := Option.bind_eq_some_iff.1 hinfo
    obtain ⟨⟨host, port⟩, hhostPort, rfl⟩ := Option.map_eq_some_iff.1 hinfo
    refine ⟨Host.isName_iff.2 ?_, url.userinfoPlain_of_parsed keepLast huser hpassword⟩
    rw [← hhost]
    dsimp only
    split
    · decide
    · exact parseHostPort_host keepLast hhostPort
  · rintro ⟨hname, hplain⟩
    have hinfo : parseUrl keepLast url.text = some ⟨scheme, url.host.text, url.portNumber,
        url.userinfo.map (·.user), url.userinfo.bind (·.password)⟩ := by
      have hhost : ¬ url.host.text.isEmpty := fun h => url.host.text_ne_nil (List.isEmpty_iff.1 h)
      rw [hparse, url.parseUserinfo_rest keepLast hplain, Option.bind_some]
      simp only [url.parseHostPort_hostPort keepLast hname, Option.map_some, if_neg hhost]
    exact ⟨url.parseNatsUrl_of_name hname, _, hinfo, rfl, rfl, rfl, rfl⟩

/-- `nats://u:a:b@h` -/
def colonInPassword : NatsUrl where
  scheme := some .nats
  userinfo := some ⟨"u".toList, some "a:b".toList, by decide, by decide⟩
  host := .name "h".toList (by decide) (by simp)
  port := none
  slash := false
  port_range := nofun

/-- The password is cut off at its colon. -/
theorem password_cut_at_colon :
    ¬ ∀ (keepLast : Bool) (url : NatsUrl), url.ParsedRight keepLast := by
  intro hall
  obtain ⟨info, hinfo, -, -, -, hpassword⟩ := (hall true colonInPassword).parseUrl
  have hparsed : (parseUrl true colonInPassword.text).bind (·.password) = some "a".toList := by
    decide
  rw [hinfo, Option.bind_some, hpassword] at hparsed
  exact absurd hparsed (by decide)

end NatsUrl

end ModuleNats
