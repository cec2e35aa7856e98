import ModuleNats.IntegerOptions

set_option autoImplicit false

/-! # The credentials of a connection

A connection provider and the data providers take a token, a user name and a password, and make the
options of a `NatsConnection` from them. `configureOptions()` hands these to the C client. Nothing
on the way raises an exception for a credential that is left out, so a connection that comes about,
or a ping that says so, need not use all that has been configured
(`credentials_reach_client_iff`). -/

namespace ModuleNats.ConnectionProvider

open Connection Logged

/-! ## The options -/

/-- What a server is to be told. -/
@[ext] structure Credentials where
  token : Option String := none
  username : Option String := none
  password : Option String := none
deriving DecidableEq, Repr

/-- The options of a connection with its URL. -/
structure ProviderOptions where
  url : String
  credentials : Credentials

/-- Options that replace those of the connection. -/
structure ConstructorOptions where
  url : Option String := none
  credentials : Credentials := {}

/-- A string in a condition, as in the requests of the data providers. -/
def truthy (zero : Bool) (s : String) : Bool := s != "" && (zero || s != "0")

section Options

variable (zero : Bool)

/-- Each credential is copied if it is true. -/
def connectionOptions (p : ProviderOptions) : NatsConnectionOptions where
  url := some p.url
  token := p.credentials.token.filter (truthy zero)
  username := p.credentials.username.filter (truthy zero)
  password := p.credentials.password.filter (truthy zero)

/-- `NatsConnectionProvider::getNatsConnectionOptions()` -/
def getNatsConnectionOptions : ProviderOptions → NatsConnectionOptions := connectionOptions zero

/-- The options that the constructor of `NatsDataProvider` makes. -/
def natsDataProvider : ProviderOptions → NatsConnectionOptions := connectionOptions zero

/-- The options that the constructor of `NatsJetStreamDataProvider` makes. -/
def natsJetStreamDataProvider : ProviderOptions → NatsConnectionOptions := connectionOptions zero

/-- `orig_opts + {"url": url} + constructor_options` -/
def ProviderOptions.merge (p : ProviderOptions) (c : ConstructorOptions) : ProviderOptions where
  url := c.url.getD p.url
  credentials := {
    token := c.credentials.token.or p.credentials.token
    username := c.credentials.username.or p.credentials.username
    password := c.credentials.password.or p.credentials.password }

/-- `NatsConnectionProvider::getDataProvider()` -/
def getDataProvider (p : ProviderOptions) (c : ConstructorOptions) : NatsConnectionOptions :=
  natsDataProvider zero (p.merge c)

/-- A data provider without options of its own connects as the connection does. -/
theorem getDataProvider_default (p : ProviderOptions) :
    getDataProvider zero p {} = getNatsConnectionOptions zero p := rfl

/-- `NatsConnectionProvider::getImpl()` -/
def getImpl (env : OptionsEnv) (p : ProviderOptions) : Config Unit :=
  construct env (getNatsConnectionOptions zero p)

/-- The members of `PingInfo` other than the time. -/
structure PingInfo where
  ok : Bool
  info : String
deriving DecidableEq, Repr

/-- `NatsConnectionProvider::pingImpl()` -/
def pingImpl (env : OptionsEnv) (p : ProviderOptions) : PingInfo :=
  match (construct env (getNatsConnectionOptions zero p)).result with
  | .ok _ => ⟨true, "OK"⟩
  | .error ex => ⟨false, ex.err ++ ": " ++ ex.desc⟩

end Options

/-! ## What the C client is told -/

/-- The calls that say who connects. -/
def authCall : Event → Option OptionCall
  | .option (.setToken token) => some (.setToken token)
  | .option (.setUserInfo user password) => some (.setUserInfo user password)
  | .option (.setNKeyFromSeed pubKey seedFile) => some (.setNKeyFromSeed pubKey seedFile)
  | .option (.setUserCredentialsFromFiles userOrChainedFile seedFile) =>
      some (.setUserCredentialsFromFiles userOrChainedFile seedFile)
  | _ => none

/-- The calls for these options. -/
def authCalls (o : NatsConnectionOptions) : List OptionCall :=
  (o.token.map fun token => .setToken (.add token)).toList ++
    ((o.username.map fun user => .setUserInfo (.add user) (o.password.map .add)).toList ++
      ((o.nkeySeed.map fun seed => .setNKeyFromSeed (o.nkeyPub.map .add) (.add seed)).toList ++
        (o.credentials.map fun file => .setUserCredentialsFromFiles (.add file) none).toList))

section Performs

variable {env : OptionsEnv} {o : NatsConnectionOptions}

theorem performs_callOption {call : OptionCall} {err desc : String} {l : List OptionCall}
    (h : (authCall (.option call)).toList = l) :
    Performs authCall l (callOption env call err desc) :=
  h ▸ performs_of_one_event (callOption_events env call err desc)

theorem performs_checkFile (path : CString) :
    Performs authCall [] (checkNatsFileAccess env path) := by
  unfold checkNatsFileAccess
  split <;> exact performs_of_events rfl

theorem performs_checkNetwork (url : CString) : Performs authCall [] (checkNetwork env url) := by
  unfold checkNetwork
  split <;> exact performs_of_events rfl

theorem performs_configureAuth : Performs authCall (authCalls o) (configureAuth env o) := by
  unfold configureAuth
  refine .skip (.skipSome fun _ => performs_callOption rfl) fun _ => ?_
  refine .bind (.whenSome fun _ => performs_callOption rfl) fun _ => ?_
  refine .bind (.whenSome fun _ => performs_callOption rfl) fun _ => ?_
  refine .bind (.whenSome fun seed => ?_) fun _ => ?_
  · exact .skip (performs_checkFile _) fun _ => performs_callOption rfl
  · exact .whenSome fun file => .skip (performs_checkFile _) fun _ => performs_callOption rfl

theorem performs_checkServers (urls : List CString) :
    Performs authCall [] (checkServers env urls) := by
  induction urls with
  | nil => exact performs_pure _
  | cons url rest ih => exact .skip (.skipTrue (performs_checkNetwork url)) fun _ => ih

theorem performs_configureServers (servers : List String) :
    Performs authCall [] (configureServers env servers) :=
  .skipTrue (.skip (performs_checkServers _) fun _ => performs_callOption rfl)

theorem performs_configureConnection :
    Performs authCall [] (configureConnection env o) := by
  unfold configureConnection
  iterate 6 refine .skip (.skipSome fun _ => performs_callOption rfl) fun _ => ?_
  refine .skip (.skipTrue (performs_callOption rfl)) fun _ => ?_
  refine .skip (.skipSome fun servers => performs_configureServers servers) fun _ => ?_
  iterate 3 refine .skip (.skipSome fun _ => performs_callOption rfl) fun _ => ?_
  exact .skipTrue (performs_callOption rfl)

theorem performs_configureLimits : Performs authCall [] (configureLimits env o) := by
  unfold configureLimits
  iterate 7 refine .skip (.skipSome fun _ => performs_callOption rfl) fun _ => ?_
  exact .skipSome fun _ => performs_callOption rfl

theorem performs_configureCertificate (t : NatsTlsOptions) :
    Performs authCall [] (configureCertificate env t) := by
  unfold configureCertificate
  split
  · refine .skip (performs_checkFile _) fun _ => ?_
    exact .skip (performs_checkFile _) fun _ => performs_callOption rfl
  · exact performs_pure _

theorem performs_configureTls (t : NatsTlsOptions) : Performs authCall [] (configureTls env t) := by
  unfold configureTls
  refine .skip (performs_callOption rfl) fun _ => ?_
  refine .skip (.skipSome fun _ => ?_) fun _ => ?_
  · exact .skip (performs_checkFile _) fun _ => performs_callOption rfl
  · refine .skip (performs_configureCertificate t) fun _ => ?_
    refine .skip (.skipTrue (performs_callOption rfl)) fun _ => ?_
    iterate 3 refine .skip (.skipSome fun _ => performs_callOption rfl) fun _ => ?_
    exact .skipTrue (performs_callOption rfl)

theorem performs_configureOptions : Performs authCall (authCalls o) (configureOptions env o) := by
  have h : Performs authCall (authCalls o ++ []) (configureOptions env o) := by
    unfold configureOptions
    refine .bind performs_configureAuth fun _ => ?_
    refine .skip performs_configureConnection fun _ => ?_
    refine .skip performs_configureLimits fun _ => ?_
    exact .skip (.skipSome fun t => performs_configureTls t) fun _ => performs_pure _
  rwa [List.append_nil] at h

theorem performs_setCallbacks (given callbacks : List Callback) :
    Performs authCall [] (setCallbacks env given callbacks) := by
  induction callbacks with
  | nil => exact performs_pure _
  | cons cb rest ih => exact .skip (.skipTrue (performs_callOption rfl)) fun _ => ih

theorem performs_setupDialer (dialer : DialerOptions) :
    Performs authCall [] (setupDialer env dialer) := by
  unfold setupDialer
  split
  · exact .skip (performs_callOption rfl) fun _ => performs_pure _
  · exact performs_pure _

theorem performs_connect (dialer : Option DialerOptions) :
    Performs authCall [] (connect env dialer) :=
  .skip (performs_of_events rfl) fun _ => .skipSome fun ex => performs_raise ex

/-- Each credential that is among the options is handed over once, and nothing else is. -/
theorem performs_construct : Performs authCall (authCalls o) (construct env o) := by
  have h : Performs authCall (authCalls o ++ []) (construct env o) := by
    unfold construct
    refine .skip (performs_callOption rfl) fun _ => ?_
    refine .bind performs_configureOptions fun _ => ?_
    refine .skip (.skipTrue (performs_setCallbacks _ _)) fun _ => ?_
    refine .skip (.skipSome fun _ => performs_checkNetwork _) fun _ => ?_
    exact .skip (performs_setupDialer _) fun dialer => performs_connect dialer
  rwa [List.append_nil] at h

end Performs

/-! ## What of it arrives -/

/-- What the C client knows after these calls. -/
def told (calls : List OptionCall) : Credentials where
  token := calls.findSome? fun
    | .setToken token => some token.text
    | _ => none
  username := calls.findSome? fun
    | .setUserInfo user _ => some user.text
    | _ => none
  password := calls.findSome? fun
    | .setUserInfo _ password => password.map CString.text
    | _ => none

/-- A credential that is given is true, and a C string can hold it. -/
def Arrives (zero : Bool) (given : Option String) : Prop :=
  ∀ s, given = some s → truthy zero s = true ∧ nul ∉ s.toList

/-- The configuration can be told as it is: a password needs a user name. -/
structure Credentials.Tellable (zero : Bool) (c : Credentials) : Prop where
  token : Arrives zero c.token
  username : Arrives zero c.username
  password : Arrives zero c.password
  passwordNeedsUsername : c.password.isSome → c.username.isSome

section Told

variable {zero : Bool}

theorem add_text_iff {s : String} : (CString.add s).text = s ↔ nul ∉ s.toList :=
  ⟨fun h => h ▸ (CString.add s).no_nul, CString.text_add⟩

/-- A credential is told as it is given if and only if it can arrive. -/
theorem filter_text_iff {given : Option String} :
    (given.filter (truthy zero)).map (fun s => (CString.add s).text) = given ↔
      Arrives zero given := by
  cases given with
  | none => simp [Arrives]
  | some s =>
      by_cases htrue : truthy zero s = true
      · simp [Arrives, htrue, add_text_iff]
      · simp [Arrives, htrue]

/-- The password is told with the user name only. -/
theorem told_authCalls (p : ProviderOptions) :
    told (authCalls (connectionOptions zero p)) = {
      token := (p.credentials.token.filter (truthy zero)).map fun s => (CString.add s).text
      username := (p.credentials.username.filter (truthy zero)).map fun s => (CString.add s).text
      password := (p.credentials.username.filter (truthy zero)).bind fun _ =>
        (p.credentials.password.filter (truthy zero)).map fun s => (CString.add s).text } := by
  cases htoken : p.credentials.token.filter (truthy zero) <;>
    cases huser : p.credentials.username.filter (truthy zero) <;>
    simp [told, authCalls, connectionOptions, htoken, huser, Function.comp_def]

theorem told_iff (p : ProviderOptions) :
    told (authCalls (connectionOptions zero p)) = p.credentials ↔
      p.credentials.Tellable zero := by
  rw [told_authCalls, Credentials.ext_iff]
  constructor
  · rintro ⟨htoken, husername, hpassword⟩
    have huser := filter_text_iff.1 husername
    -- a password that arrives has been told with a user name
    have hneeds : p.credentials.password.isSome →
        (p.credentials.username.filter (truthy zero)).isSome := by
      intro hsome
      rw [← hpassword] at hsome
      cases hfilter : p.credentials.username.filter (truthy zero) with
      | none => rw [hfilter] at hsome; cases hsome
      | some user => rfl
    refine ⟨filter_text_iff.1 htoken, huser, ?_, ?_⟩
    · intro s hs
      obtain ⟨user, hfilter⟩ := Option.isSome_iff_exists.1 (hneeds (by rw [hs]; rfl))
      simp only [hfilter, Option.bind_some] at hpassword
      exact filter_text_iff.1 hpassword s hs
    · intro hsome
      obtain ⟨user, hfilter⟩ := Option.isSome_iff_exists.1 (hneeds hsome)
      rw [(Option.filter_eq_some_iff.1 hfilter).1]
      rfl
  · rintro ⟨htoken, huser, hpassword, hneeds⟩
    refine ⟨filter_text_iff.2 htoken, filter_text_iff.2 huser, ?_⟩
    have hall := filter_text_iff.2 hpassword
    cases hgiven : p.credentials.username with
    | none =>
        have hnone : p.credentials.password = none := by
          cases hp : p.credentials.password with
          | none => rfl
          | some s => rw [hp, hgiven] at hneeds; cases hneeds rfl
        simp [hnone]
    | some user => simpa [Option.filter_some, (huser user hgiven).1] using hall

end Told

/-- However the constructor ends, the C client is told of the credentials in the options once and in
    their order, as far as the constructor comes, and no file with credentials is named. After a
    connection that comes about, as well as behind a ping that succeeds, it has been told just what
    was configured if and only if every credential that is given is true and free of NUL, and a
    password comes with a user name. -/
theorem credentials_reach_client_iff (zero : Bool) (env : OptionsEnv)
    (p : ProviderOptions) :
    (getImpl zero env p).events.filterMap authCall <+: authCalls (connectionOptions zero p) ∧
    ((pingImpl zero env p).ok = true ↔ ∃ u, (getImpl zero env p).result = .ok u) ∧
    ((pingImpl zero env p).ok = true →
      (told ((getImpl zero env p).events.filterMap authCall) = p.credentials ↔
        p.credentials.Tellable zero)) := by
  have hperforms : Performs authCall (authCalls (connectionOptions zero p))
      (getImpl zero env p) := performs_construct
  have hping : (pingImpl zero env p).ok = true ↔ ∃ u, (getImpl zero env p).result = .ok u := by
    unfold pingImpl getImpl
    cases (construct env (getNatsConnectionOptions zero p)).result with
    | ok u => exact iff_of_true rfl ⟨u, rfl⟩
    | error ex => exact iff_of_false Bool.false_ne_true (by rintro ⟨u, hu⟩; cases hu)
  refine ⟨hperforms.begun, hping, ?_⟩
  intro hok
  obtain ⟨u, hu⟩ := hping.1 hok
  rw [hperforms.done u hu]
  exact told_iff p

/-- A password without its user name. -/
def passwordOnly : ProviderOptions where
  url := "nats://localhost"
  credentials := { password := some "secret" }

/-- The ping succeeds, and nothing has been said of the password. -/
theorem credentials_reach_client_iff_passwordOnly :
    (pingImpl true permissive passwordOnly).ok = true ∧
      told ((getImpl true permissive passwordOnly).events.filterMap authCall) ≠
        passwordOnly.credentials := by
  refine ⟨rfl, fun htold => ?_⟩
  have hiff := (credentials_reach_client_iff true permissive passwordOnly).2.2 rfl
  have htellable := hiff.1 htold
  cases htellable.passwordNeedsUsername rfl

end ModuleNats.ConnectionProvider
