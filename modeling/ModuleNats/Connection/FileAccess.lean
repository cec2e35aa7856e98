import ModuleNats.Connection.Options

set_option autoImplicit false

/-! # Every file is checked

Whatever the options, a file is handed to the C client only after the filesystem policy has allowed
it. A file that the policy denies ends `configureOptions()`, and with it the constructor, before the
connection is made. -/

namespace ModuleNats.Connection

open Logged

/-! ## The discipline -/

/-- What a constructor may do, with these options: it may connect if `connects`. -/
def MayHappen (env : OptionsEnv) (o : NatsConnectionOptions) (connects : Prop) : Event → Prop
  | .checkFile path allowed => allowed = true → env.denial path = none
  | .checkNetwork _ _ => True
  | .option (.setMaxReconnect n) => ∃ v, o.maxReconnect = some v ∧ n = v.toInt32
  | .option (.setMaxPingsOut n) => ∃ v, o.maxPingsOut = some v ∧ n = v.toInt32
  | .option _ => True
  | .connect _ => connects

/-- What the constructor can fail on. -/
def CanFail (env : OptionsEnv) : Event → Prop
  | .checkFile path allowed => allowed = false ∧ env.denial path ≠ none
  | .checkNetwork _ allowed => allowed = false ∧ env.smh.isSome
  | .option call => env.status call ≠ none
  | .connect _ => env.connect ≠ none

/-- A call needs its files to be allowed, and a denial ends the constructor. -/
def mediation (env : OptionsEnv) (o : NatsConnectionOptions) (connects : Prop) :
    Discipline Event where
  needs
    | .option call => call.files.map (.checkFile · true)
    | _ => []
  fatal e := ∃ path, e = .checkFile path false
  may := MayHappen env o connects
  cause := CanFail env

variable {env : OptionsEnv} {o : NatsConnectionOptions} {connects : Prop}

theorem callOption_error {call : OptionCall} {err desc : String} {ex : ExceptionInfo}
    (h : (callOption env call err desc).result = .error ex) : env.status call ≠ none := by
  intro hstatus
  rw [callOption, bind_of_ok (a := ⟨⟩) rfl, hstatus] at h
  cases h

theorem callOption_events (env : OptionsEnv) (call : OptionCall) (err desc : String) :
    (callOption env call err desc).events = [.option call] := by
  unfold callOption
  rw [bind_of_ok (a := ⟨⟩) rfl]
  cases env.status call <;> rfl

/-- A call after its files have been allowed. -/
theorem keepsTo_callOption {earlier : List Event} {call : OptionCall} {err desc : String}
    (hfiles : ∀ path ∈ call.files, .checkFile path true ∈ earlier)
    (hmay : MayHappen env o connects (.option call)) :
    KeepsTo (mediation env o connects) earlier (callOption env call err desc) := by
  refine keepsTo_of_one_event (callOption_events env call err desc) ?_ ?_ hmay
    fun _ => callOption_error
  · intro e he
    obtain ⟨path, hpath, rfl⟩ := List.mem_map.1 he
    exact hfiles path hpath
  · rintro ⟨path, hpath⟩
    cases hpath

/-- A call that reads no file. -/
theorem keepsTo_noFile {call : OptionCall} {err desc : String} (hfiles : call.files = [])
    (hmay : MayHappen env o connects (.option call)) :
    KeepsTo (mediation env o connects) [] (callOption env call err desc) :=
  keepsTo_callOption (by simp [hfiles]) hmay

theorem keepsTo_checkFile (earlier : List Event) (path : CString) :
    KeepsTo (mediation env o connects) earlier (checkNatsFileAccess env path) := by
  unfold checkNatsFileAccess
  cases hdenial : env.denial path with
  | none => exact keepsTo_log (by simp [mediation]) (by simp [mediation]) fun _ => hdenial
  | some ex =>
      refine keepsTo_of_one_event rfl (by simp [mediation]) (fun _ => ⟨ex, rfl⟩) ?_ fun _ _ => ?_
      · exact fun h => absurd h Bool.false_ne_true
      · exact ⟨rfl, by rw [hdenial]; exact Option.some_ne_none ex⟩

/-- A check that ends with a value has allowed the file. -/
theorem checkFile_ok {path : CString} {u : Unit}
    (h : (checkNatsFileAccess env path).result = .ok u) :
    env.denial path = none ∧ (checkNatsFileAccess env path).events = [.checkFile path true] := by
  unfold checkNatsFileAccess at h ⊢
  cases hdenial : env.denial path with
  | none => exact ⟨rfl, rfl⟩
  | some ex => rw [hdenial] at h; cases h

/-- A call that reads one file, after the check. -/
theorem keepsTo_checked {path : CString} {call : OptionCall} {err desc : String}
    (hfiles : call.files = [path]) (hmay : MayHappen env o connects (.option call)) :
    KeepsTo (mediation env o connects) [] (do
      checkNatsFileAccess env path
      callOption env call err desc) := by
  refine (keepsTo_checkFile [] path).bind fun _ hok => keepsTo_callOption ?_ hmay
  simp [hfiles, (checkFile_ok hok).2]

theorem keepsTo_checkNetwork (url : CString) :
    KeepsTo (mediation env o connects) [] (checkNetwork env url) := by
  unfold checkNetwork
  split
  · exact keepsTo_log (by simp [mediation]) (by simp [mediation]) trivial
  · next ex hdenied =>
      refine keepsTo_of_one_event rfl (by simp [mediation]) (by simp [mediation]) trivial
        fun _ _ => ⟨rfl, ?_⟩
      cases hsmh : env.smh with
      | none => rw [hsmh] at hdenied; cases hdenied
      | some sm => rfl

/-! ## The code keeps to it -/

theorem keepsTo_configureAuth : KeepsTo (mediation env o connects) [] (configureAuth env o) := by
  unfold configureAuth
  refine .seq (.whenSome fun _ _ => keepsTo_noFile rfl trivial) fun _ => ?_
  refine .seq (.whenSome fun _ _ => keepsTo_noFile rfl trivial) fun _ => ?_
  refine .seq (.whenSome fun _ _ => keepsTo_noFile rfl trivial) fun _ => ?_
  refine .seq (.whenSome fun _ _ => keepsTo_checked rfl trivial) fun _ => ?_
  exact .whenSome fun _ _ => keepsTo_checked rfl trivial

theorem keepsTo_checkServers (urls : List CString) :
    KeepsTo (mediation env o connects) [] (checkServers env urls) := by
  induction urls with
  | nil => exact keepsTo_pure _ _
  | cons url rest ih =>
      exact .seq (.whenTrue fun _ => keepsTo_checkNetwork url) fun _ => ih

theorem keepsTo_configureServers (servers : List String) :
    KeepsTo (mediation env o connects) [] (configureServers env servers) :=
  .whenTrue fun _ => .seq (keepsTo_checkServers _) fun _ => keepsTo_noFile rfl trivial

theorem keepsTo_configureConnection :
    KeepsTo (mediation env o connects) [] (configureConnection env o) := by
  unfold configureConnection
  refine .seq (.whenSome fun _ _ => keepsTo_noFile rfl trivial) fun _ => ?_
  refine .seq (.whenSome fun _ _ => keepsTo_noFile rfl trivial) fun _ => ?_
  refine .seq (.whenSome fun _ _ => keepsTo_noFile rfl trivial) fun _ => ?_
  refine .seq (.whenSome fun n hn => keepsTo_noFile rfl ⟨n, hn, rfl⟩) fun _ => ?_
  refine .seq (.whenSome fun _ _ => keepsTo_noFile rfl trivial) fun _ => ?_
  refine .seq (.whenSome fun n hn => keepsTo_noFile rfl ⟨n, hn, rfl⟩) fun _ => ?_
  refine .seq (.whenTrue fun _ => keepsTo_noFile rfl trivial) fun _ => ?_
  refine .seq (.whenSome fun servers _ => keepsTo_configureServers servers) fun _ => ?_
  refine .seq (.whenSome fun _ _ => keepsTo_noFile rfl trivial) fun _ => ?_
  refine .seq (.whenSome fun _ _ => keepsTo_noFile rfl trivial) fun _ => ?_
  refine .seq (.whenSome fun _ _ => keepsTo_noFile rfl trivial) fun _ => ?_
  exact .whenTrue fun _ => keepsTo_noFile rfl trivial

theorem keepsTo_configureLimits :
    KeepsTo (mediation env o connects) [] (configureLimits env o) := by
  unfold configureLimits
  iterate 7 refine .seq (.whenSome fun _ _ => keepsTo_noFile rfl trivial) fun _ => ?_
  exact .whenSome fun _ _ => keepsTo_noFile rfl trivial

theorem keepsTo_configureCertificate (t : NatsTlsOptions) :
    KeepsTo (mediation env o connects) [] (configureCertificate env t) := by
  unfold configureCertificate
  split
  · next cert key _ _ =>
      refine (keepsTo_checkFile [] (.add cert)).bind fun _ hcert => ?_
      refine (keepsTo_checkFile _ (.add key)).bind fun _ hkey => ?_
      refine keepsTo_callOption ?_ trivial
      intro path hpath
      rw [(checkFile_ok hcert).2, (checkFile_ok hkey).2]
      rcases List.mem_pair.1 hpath with rfl | rfl
      · exact List.mem_cons_self
      · exact List.mem_cons_of_mem _ List.mem_cons_self
  · exact keepsTo_pure _ _

theorem keepsTo_configureTls (t : NatsTlsOptions) :
    KeepsTo (mediation env o connects) [] (configureTls env t) := by
  unfold configureTls
  refine .seq (keepsTo_noFile rfl trivial) fun _ => ?_
  refine .seq (.whenSome fun _ _ => keepsTo_checked rfl trivial) fun _ => ?_
  refine .seq (keepsTo_configureCertificate t) fun _ => ?_
  refine .seq (.whenTrue fun _ => keepsTo_noFile rfl trivial) fun _ => ?_
  refine .seq (.whenSome fun _ _ => keepsTo_noFile rfl trivial) fun _ => ?_
  refine .seq (.whenSome fun _ _ => keepsTo_noFile rfl trivial) fun _ => ?_
  refine .seq (.whenSome fun _ _ => keepsTo_noFile rfl trivial) fun _ => ?_
  exact .whenTrue fun _ => keepsTo_noFile rfl trivial

/-- `configureOptions()` asks about every file, and it never connects. -/
theorem keepsTo_configureOptions :
    KeepsTo (mediation env o connects) [] (configureOptions env o) := by
  unfold configureOptions
  refine .seq keepsTo_configureAuth fun _ => ?_
  refine .seq keepsTo_configureConnection fun _ => ?_
  refine .seq keepsTo_configureLimits fun _ => ?_
  refine .seq (.whenSome fun t _ => keepsTo_configureTls t) fun _ => ?_
  exact keepsTo_pure _ _

theorem keepsTo_setCallbacks (given callbacks : List Callback) :
    KeepsTo (mediation env o connects) [] (setCallbacks env given callbacks) := by
  induction callbacks with
  | nil => exact keepsTo_pure _ _
  | cons cb rest ih =>
      exact .seq (.whenTrue fun _ => keepsTo_noFile rfl trivial) fun _ => ih

theorem keepsTo_setupDialer (dialer : DialerOptions) :
    KeepsTo (mediation env o connects) [] (setupDialer env dialer) := by
  unfold setupDialer
  split
  · exact .seq (keepsTo_noFile rfl trivial) fun _ => keepsTo_pure _ _
  · exact keepsTo_pure _ _

theorem keepsTo_connect (dialer : Option DialerOptions) :
    KeepsTo (mediation env o True) [] (connect env dialer) := by
  refine .bind (keepsTo_log (by simp [mediation]) (by simp [mediation]) trivial) fun _ _ =>
    .whenSome fun ex hex => keepsTo_raise ex ⟨.connect dialer, List.mem_cons_self, ?_⟩
  show env.connect ≠ none
  rw [hex]
  exact Option.some_ne_none ex

theorem keepsTo_construct : KeepsTo (mediation env o True) [] (construct env o) := by
  unfold construct
  refine .seq (keepsTo_noFile rfl trivial) fun _ => ?_
  refine .seq keepsTo_configureOptions fun options => ?_
  refine .seq (.whenTrue fun _ => keepsTo_setCallbacks _ _) fun _ => ?_
  refine .seq (.whenSome fun url _ => keepsTo_checkNetwork _) fun _ => ?_
  exact .seq (keepsTo_setupDialer options) fun dialer => keepsTo_connect dialer

/-! ## A denial -/

/-- The files of the TLS options: a certificate without its key is not read. -/
def NatsTlsOptions.files (t : NatsTlsOptions) : List CString :=
  t.caCert.toList.map .add ++
    match t.clientCert, t.clientKey with
    | some cert, some key => [.add cert, .add key]
    | _, _ => []

/-- The files that the options name. -/
def NatsConnectionOptions.files (o : NatsConnectionOptions) : List CString :=
  o.nkeySeed.toList.map .add ++ o.credentials.toList.map .add ++
    o.tls.elim [] NatsTlsOptions.files

/-- A check before a call that ends with a value has allowed the file. -/
theorem allowed_of_check_ok {path : CString} {f : Unit → Config Unit} {u : Unit}
    (h : (checkNatsFileAccess env path >>= f).result = .ok u) : env.denial path = none := by
  obtain ⟨_, hcheck, -⟩ := ok_of_bind_ok h
  exact (checkFile_ok hcheck).1

theorem allowed_of_configureAuth_ok {u : Unit} (h : (configureAuth env o).result = .ok u) :
    ∀ path ∈ o.nkeySeed.toList.map CString.add ++ o.credentials.toList.map CString.add,
      env.denial path = none := by
  obtain ⟨_, -, h⟩ := ok_of_bind_ok h
  obtain ⟨_, -, h⟩ := ok_of_bind_ok h
  obtain ⟨_, -, h⟩ := ok_of_bind_ok h
  obtain ⟨_, hseed, hcredentials⟩ := ok_of_bind_ok h
  intro path hpath
  rcases List.mem_append.1 hpath with hpath | hpath <;> obtain ⟨file, hfile, rfl⟩ :=
    List.mem_map.1 hpath
  · exact allowed_of_check_ok (ok_of_whenSome_ok hseed (Option.mem_toList.1 hfile))
  · exact allowed_of_check_ok (ok_of_whenSome_ok hcredentials (Option.mem_toList.1 hfile))

theorem allowed_of_configureTls_ok {t : NatsTlsOptions} {u : Unit}
    (h : (configureTls env t).result = .ok u) : ∀ path ∈ t.files, env.denial path = none := by
  obtain ⟨_, -, h⟩ := ok_of_bind_ok h
  obtain ⟨_, hca, h⟩ := ok_of_bind_ok h
  obtain ⟨_, hcert, -⟩ := ok_of_bind_ok h
  intro path hpath
  rcases List.mem_append.1 hpath with hpath | hpath
  · obtain ⟨file, hfile, rfl⟩ := List.mem_map.1 hpath
    exact allowed_of_check_ok (ok_of_whenSome_ok hca (Option.mem_toList.1 hfile))
  · unfold configureCertificate at hcert
    split at hpath
    · next cert key hc hk =>
        rw [hc, hk] at hcert
        obtain ⟨_, hfirst, hcert⟩ := ok_of_bind_ok hcert
        rcases List.mem_pair.1 hpath with rfl | rfl
        · exact (checkFile_ok hfirst).1
        · exact allowed_of_check_ok hcert
    · cases hpath

/-- `configureOptions()` comes to its end only if every file is allowed. -/
theorem allowed_of_configureOptions_ok {dialer : DialerOptions}
    (h : (configureOptions env o).result = .ok dialer) :
    ∀ path ∈ o.files, env.denial path = none := by
  obtain ⟨_, hauth, h⟩ := ok_of_bind_ok h
  obtain ⟨_, -, h⟩ := ok_of_bind_ok h
  obtain ⟨_, -, h⟩ := ok_of_bind_ok h
  obtain ⟨_, htls, -⟩ := ok_of_bind_ok h
  intro path hpath
  rcases List.mem_append.1 hpath with hpath | hpath
  · exact allowed_of_configureAuth_ok hauth path hpath
  · cases ht : o.tls with
    | none => rw [ht] at hpath; cases hpath
    | some t =>
        rw [ht] at hpath
        exact allowed_of_configureTls_ok (ok_of_whenSome_ok htls ht) path hpath

/-- Without options there is no connection. -/
theorem construct_of_configureOptions_error {ex : ExceptionInfo}
    (h : (configureOptions env o).result = .error ex) :
    (∃ ex', (construct env o).result = .error ex') ∧
      ∀ dialer, .connect dialer ∉ (construct env o).events := by
  have hno : KeepsTo (mediation env o False) [] (do
      connectionOption env .create "failed to create NATS options"
      configureOptions env o) :=
    .seq (keepsTo_noFile rfl trivial) fun _ => keepsTo_configureOptions
  cases hcreate : (connectionOption env .create "failed to create NATS options").result with
  | error ex' =>
      rw [bind_of_error hcreate] at hno
      rw [construct, bind_of_error hcreate]
      exact ⟨⟨ex', rfl⟩, fun dialer hmem => hno.may _ hmem⟩
  | ok u =>
      rw [bind_of_ok hcreate] at hno
      rw [construct, bind_of_ok hcreate, bind_of_error h]
      exact ⟨⟨ex, rfl⟩, fun dialer hmem => hno.may _ hmem⟩

/-- Every file is allowed before it is handed to the C client, nothing happens after a denial, and
    with a file that is denied neither the options nor the connection come about. -/
theorem files_mediated (env : OptionsEnv) (o : NatsConnectionOptions) :
    (∀ before call after, (construct env o).events = before ++ .option call :: after →
      ∀ path ∈ call.files, .checkFile path true ∈ before ∧ env.denial path = none) ∧
    (∀ before path after, (construct env o).events = before ++ .checkFile path false :: after →
      after = [] ∧ ∃ ex, (construct env o).result = .error ex) ∧
    (∀ path ∈ o.files, env.denial path ≠ none →
      (∃ ex, (configureOptions env o).result = .error ex) ∧
      (∃ ex, (construct env o).result = .error ex) ∧
      ∀ dialer, .connect dialer ∉ (construct env o).events) := by
  have hkeeps : KeepsTo (mediation env o True) [] (construct env o) := keepsTo_construct
  refine ⟨?_, ?_, ?_⟩
  · intro before call after heq path hpath
    have hchecked : Event.checkFile path true ∈ before := by
      simpa using hkeeps.needs before _ after heq (List.mem_map_of_mem hpath)
    refine ⟨hchecked, hkeeps.may (.checkFile path true) ?_ rfl⟩
    rw [heq]
    exact List.mem_append_left _ hchecked
  · intro before path after heq
    exact hkeeps.fatal before _ after heq ⟨path, rfl⟩
  · intro path hpath hdenied
    cases h : (configureOptions env o).result with
    | ok dialer => exact absurd (allowed_of_configureOptions_ok h path hpath) hdenied
    | error ex => exact ⟨⟨ex, rfl⟩, construct_of_configureOptions_error h⟩

/-- A policy that allows one file. -/
def onlyFile (allowed : CString) : OptionsEnv where
  smh := some {
    network := { checkHostname := fun _ _ => true, checkNetworkAccess := fun _ _ => none }
    checkFilesystemAccess := fun path =>
      if path = allowed then none else some ⟨"FILESYSTEM-ACCESS-DENIED", path.text⟩ }
  sandboxed := true
  getaddrinfo _ _ _ := .ok []
  status _ := none
  connect := none

/-- Credentials and a CA certificate. -/
def withCa : NatsConnectionOptions where
  credentials := some "app.creds"
  tls := some { caCert := some "ca.pem" }

/-- The credentials are allowed, the certificate of the CA is not. -/
theorem files_mediated_deniedCa :
    (∃ ex, (configureOptions (onlyFile (.add "app.creds")) withCa).result = .error ex) ∧
      .connect none ∉ (construct (onlyFile (.add "app.creds")) withCa).events := by
  have hdenied : (onlyFile (.add "app.creds")).denial (.add "ca.pem") ≠ none := by
    have hne : CString.add "ca.pem" ≠ .add "app.creds" := by decide
    simp [OptionsEnv.denial, onlyFile, hne]
  have hfile : .add "ca.pem" ∈ withCa.files := List.mem_cons_of_mem _ List.mem_cons_self
  obtain ⟨hoptions, -, hconnect⟩ := (files_mediated _ _).2.2 _ hfile hdenied
  exact ⟨hoptions, hconnect none⟩

end ModuleNats.Connection
