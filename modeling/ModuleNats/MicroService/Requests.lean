import ModuleNats.DataProvider.Payload
import ModuleNats.JetStream.Values
import ModuleNats.ReplyMux.Wakeup

set_option autoImplicit false

/-! # From a request to a micro service and back

`request()` publishes a message with a reply subject of its own. The C client of a service hands it
to `requestHandler()`, which calls the handler of the endpoint with a hash of the request, and sends
what it answers to that reply subject. The reply mux gives the messages that arrive to its calls.

The system puts both ends and the network between them together: many calls at once, messages that
are delivered late, in any order or not at all, requests that several endpoints answer, and
exceptions in the handlers. A call that gets a reply gets one that was made for it, from the subject
and the data that it has published (`call_gets_its_own_answer`). -/

namespace ModuleNats.MicroRequests

open DataProvider (Bytes)
open CArray (FitsLength)
open ReplyMux (Request)

/-! ## The request handler -/

/-- A value that a handler returns, as far as `requestHandler()` looks at it. -/
inductive HandlerValue where
  | string (bytes : Bytes)
  | binary (bytes : Bytes)
  /-- nothing, null, or a value of any other type -/
  | other
deriving DecidableEq, Repr

/-- The end of a handler; the description of an exception need not be a string. -/
inductive HandlerResult where
  | raised (desc : Option String)
  | returned (value : HandlerValue)
deriving DecidableEq, Repr

/-- The argument of a handler. -/
structure RequestHash where
  subject : Option String
  data : Option Bytes
deriving DecidableEq, Repr

/-- `MicroEndpointCallbackContext`: the handler, if there is one, and whether there is a Program. -/
structure EndpointState where
  handler : Option (RequestHash → HandlerResult)
  pgm : Bool

/-- Which calls of the Qore library raise an exception. -/
structure RequestEnv where
  programContext : Bool
  setSubject : Bool
  setData : Bool
  pushArgs : Bool

/-- What the C client tells about a request. -/
structure MicroRequest where
  subject : Option CString
  data : Option Bytes
  dataLength : Int32

/-- `data && data_len > 0` -/
def MicroRequest.readData (req : MicroRequest) : Option Bytes :=
  if 0 < req.dataLength.toInt then req.data.map (·.take req.dataLength.toInt.toNat) else none

def MicroRequest.hash (req : MicroRequest) : RequestHash :=
  ⟨req.subject.map CString.text, req.readData⟩

/-- `microRequest_Respond()`, or the `microError` that `requestHandler()` returns. -/
inductive Answer where
  | respond (data : Bytes)
  | error (text : String)
deriving DecidableEq, Repr

def HandlerValue.response : HandlerValue → Bytes
  | .string bytes | .binary bytes => bytes
  | .other => []

/-- The text of an error ends at the first NUL of the description. -/
def HandlerResult.answer : HandlerResult → Answer
  | .raised desc => .error (desc.elim "handler error" fun text => (CString.add text).text)
  | .returned value => .respond value.response

def requestHandler (state : Option EndpointState) (env : RequestEnv) (req : MicroRequest) :
    Answer :=
  match state with
  | some ⟨some handler, true⟩ =>
      if env.programContext then .error "failed to acquire program context"
      else if req.subject.isSome && env.setSubject then .error "failed to build request hash"
      else if req.readData.isSome && env.setData then .error "failed to build request hash"
      else if env.pushArgs then .error "failed to build handler arguments"
      else (handler req.hash).answer
  | _ => .error "no handler configured"

/-! ## The network -/

/-- The bytes that `request()` publishes: `(int)data->size()` of them, or none. -/
def publishedData (data : Option Bytes) : Bytes :=
  (data.getD []).take (Int32.ofNat (data.getD []).length).toInt.toNat

/-- A request with this subject and these bytes, as the C client of the service tells of it. -/
def received (subject : CString) (data : Bytes) : MicroRequest :=
  ⟨some subject, some data, Int32.ofNat data.length⟩

/-- A message that the call with number `call` has published. -/
structure Sent where
  call : ℕ
  subject : CString
  reply : String
  data : Bytes
deriving DecidableEq

/-- A message that was sent to the reply subject of a published one: the answer of an endpoint, or
    the server says that there is none. -/
structure Reply where
  request : ℕ
  msg : NatsMsg
  answer : Option Answer
deriving DecidableEq

structure State where
  mux : ReplyMux.State := {}
  sent : List Sent := []
  replies : List Reply := []
deriving DecidableEq

inductive Action where
  | client (a : ReplyMux.Action)
  /-- a request is delivered to the endpoint `e`, and the answer is sent -/
  | serve (k id e : ℕ) (env : RequestEnv)
  | noResponders (k id : ℕ)

/-- What a step of the client publishes. -/
def sentBy (pre : String) (data : ℕ → Option Bytes) (s : ReplyMux.State) :
    ReplyMux.Action → List Sent
  | .publish i _ => (s.requests[i]?).toList.map fun r =>
      ⟨i, CString.add r.subject, pre ++ r.token, publishedData (data i)⟩
  | _ => []

/-- A message on the reply subscription was sent as a reply, or its subject is a foreign one. -/
def State.delivers (s : State) (pre : String) : ReplyMux.Action → Bool
  | .arrive m =>
      s.replies.any (fun reply => reply.msg == m) || (ReplyMux.replyToken pre m.subject).isNone
  | _ => true

/-- A new message is sent to the reply subject of the request with number `k`. -/
def State.send (s : State) (k id : ℕ) (noResponders : Bool) (answer : Sent → Option Answer) :
    Option State :=
  s.sent[k]?.bind fun p =>
    if id ∈ s.replies.map (·.msg.id) then none
    else some { s with
      replies := s.replies ++ [⟨k, ⟨id, some p.reply, noResponders⟩, answer p⟩] }

/-- What the client, the calls and the endpoints have of their own: the inbox prefix, the data that
    each call publishes, and the state of each endpoint. A handler that answers differently at
    different times is one endpoint for each time. -/
structure Setup where
  pre : String
  data : ℕ → Option Bytes
  endpoints : ℕ → Option EndpointState

def step (setup : Setup) (s : State) : Action → Option State
  | .client a =>
      if s.delivers setup.pre a then
        (ReplyMux.step setup.pre s.mux a).map fun mux =>
          { s with mux, sent := s.sent ++ sentBy setup.pre setup.data s.mux a }
      else none
  | .serve k id e env =>
      s.send k id false fun p =>
        some (requestHandler (setup.endpoints e) env (received p.subject p.data))
  | .noResponders k id => s.send k id true fun _ => none

def system (setup : Setup) : TransitionSystem State Action := ⟨{}, step setup⟩

/-! ## What a step can do -/

/-- The answer to a published message: the server finds no responders, or an endpoint has handled
    it. -/
def Made (setup : Setup) (p : Sent) (noResponders : Bool) (answer : Option Answer) : Prop :=
  (noResponders = true ∧ answer = none) ∨
    (noResponders = false ∧ ∃ e env,
      answer = some (requestHandler (setup.endpoints e) env (received p.subject p.data)))

inductive Step (setup : Setup) (s : State) : State → Prop where
  | client {a mux} (hdelivers : s.delivers setup.pre a = true)
      (h : ReplyMux.Step setup.pre s.mux a mux) :
      Step setup s { s with mux, sent := s.sent ++ sentBy setup.pre setup.data s.mux a }
  | reply {k id p noResponders answer} (hp : s.sent[k]? = some p)
      (hfresh : id ∉ s.replies.map (·.msg.id)) (hmade : Made setup p noResponders answer) :
      Step setup s { s with
        replies := s.replies ++ [⟨k, ⟨id, some p.reply, noResponders⟩, answer⟩] }

theorem step_of_send {setup : Setup} {s s' : State} {k id : ℕ}
    {noResponders : Bool} {answer : Sent → Option Answer}
    (hmade : ∀ p, Made setup p noResponders (answer p))
    (h : s.send k id noResponders answer = some s') : Step setup s s' := by
  obtain ⟨p, hp, hsend⟩ := Option.bind_eq_some_iff.1 h
  split at hsend
  · cases hsend
  · next hfresh =>
      obtain rfl := Option.some.inj hsend
      exact .reply hp hfresh (hmade p)

theorem step_cases {setup : Setup} {s s' : State} {a : Action}
    (h : step setup s a = some s') : Step setup s s' := by
  cases a with
  | client a =>
      simp only [step] at h
      split at h
      · next hdelivers =>
          obtain ⟨mux, hmux, rfl⟩ := Option.map_eq_some_iff.1 h
          exact .client hdelivers (ReplyMux.step_cases hmux)
      · cases h
  | serve k id e env => exact step_of_send (fun p => .inr ⟨rfl, e, env, rfl⟩) h
  | noResponders k id => exact step_of_send (fun p => .inl ⟨rfl, rfl⟩) h

/-- The runs of the client are runs of the reply mux. -/
def refinement (setup : Setup) :
    (system setup).Refinement (ReplyMux.system setup.pre) where
  inv _ := True
  abs := State.mux
  acts _ a := match a with
    | .client a => [a]
    | _ => []
  inv_init := trivial
  inv_step _ _ _ _ _ := trivial
  init := rfl
  step s a s' _ h := by
    cases a with
    | client a =>
        replace h : step setup s (.client a) = some s' := h
        simp only [step] at h
        split at h
        · obtain ⟨mux, hmux, rfl⟩ := Option.map_eq_some_iff.1 h
          exact Option.bind_eq_some_iff.2 ⟨mux, hmux, rfl⟩
        · cases h
    | serve | noResponders =>
        obtain ⟨p, -, hsend⟩ := Option.bind_eq_some_iff.1 h
        split at hsend
        · cases hsend
        · obtain rfl := Option.some.inj hsend
          rfl

/-! ## Where the messages of the mux come from -/

/-- The message was sent as a reply. -/
def Known (s : State) (m : NatsMsg) : Prop := m ∈ s.replies.map Reply.msg

/-- The mux has no other messages. -/
structure AllKnown (s : State) : Prop where
  callbacks : ∀ c ∈ s.mux.callbacks, Known s c.msg
  stored : ∀ tok m, s.mux.replies.lookup tok = some (some m) → Known s m
  used : ∀ (i : ℕ) (r : Request) (m : NatsMsg), s.mux.requests[i]? = some r →
    r.pc.used = some m → Known s m

/-- A callback is old, or it has the message that arrives. -/
theorem callbacks_cases {pre : String} {s s' : ReplyMux.State} {a : ReplyMux.Action}
    (h : ReplyMux.Step pre s a s') {c : ReplyMux.Callback} (hc : c ∈ s'.callbacks) :
    c ∈ s.callbacks ∨
      (a = .arrive c.msg ∧ ReplyMux.replyToken pre c.msg.subject = some c.token) := by
  cases h with
  | convert =>
      refine .inl ?_
      simp only [ReplyMux.State.convertReply] at hc
      split at hc <;> exact hc
  | arrive hfresh htok =>
      rcases List.mem_append.1 hc with hc | hc
      · exact .inl hc
      · obtain rfl := List.mem_singleton.1 hc
        exact .inr ⟨rfl, ReplyMux.replyToken_eq_some.2 htok⟩
  | store | drop => exact .inl (List.mem_of_mem_eraseIdx hc)
  | leaveGone => exact .inl (by simpa [ReplyMux.State.setPc] using hc)
  | leaveEmpty => exact .inl (by simpa [ReplyMux.State.setPc] using hc)
  | leaveReply =>
      exact .inl (by simpa [ReplyMux.State.setPc, ReplyMux.State.destroyMsg] using hc)
  | destroyConnection | replyComplete => exact .inl (by simpa using hc)
  | _ => exact .inl hc

theorem allKnown_client {setup : Setup} {s : State} {a : ReplyMux.Action} {mux : ReplyMux.State}
    {sent : List Sent} (h : AllKnown s) (hdelivers : s.delivers setup.pre a = true)
    (hs : ReplyMux.Step setup.pre s.mux a mux) : AllKnown { s with mux, sent } where
  callbacks c hc := by
    rcases callbacks_cases hs hc with hold | ⟨rfl, htok⟩
    · exact h.callbacks c hold
    · simp only [State.delivers, htok, Option.isNone_some, Bool.or_false, List.any_eq_true,
        beq_iff_eq] at hdelivers
      obtain ⟨reply, hreply, hmsg⟩ := hdelivers
      exact List.mem_map.2 ⟨reply, hreply, hmsg⟩
  stored tok m hm := by
    rcases hs.stored hm with hold | ⟨c, hc, -, rfl⟩
    · exact h.stored tok m hold
    · exact h.callbacks c hc
  used i r m hr hm := by
    rcases hs.cameFrom hr with hpc | ⟨q, hq⟩
    · rw [hpc] at hm
      cases hm
    · rcases hq.used m hm with hold | ⟨-, hstored, -⟩
      · exact h.used i q m hq.before hold
      · exact h.stored _ m hstored

theorem allKnown_reply {s : State} (h : AllKnown s) (reply : Reply) :
    AllKnown { s with replies := s.replies ++ [reply] } := by
  have hmore : ∀ m, Known s m → Known { s with replies := s.replies ++ [reply] } m := by
    intro m hm
    rw [Known, List.map_append]
    exact List.mem_append_left _ hm
  exact ⟨fun c hc => hmore _ (h.callbacks c hc), fun tok m hm => hmore m (h.stored tok m hm),
    fun i r m hr hm => hmore m (h.used i r m hr hm)⟩

/-! ## Which call a reply was made for -/

/-- A published message is that of its call. -/
structure SentBy (setup : Setup) (s : State) (p : Sent) (r : Request) :
    Prop where
  call : s.mux.requests[p.call]? = some r
  subject : p.subject = CString.add r.subject
  reply : p.reply = setup.pre ++ r.token
  data : p.data = publishedData (setup.data p.call)

/-- Every published message has its call, and every reply was made for a published message. -/
structure Traced (setup : Setup) (s : State) : Prop where
  sent : ∀ p ∈ s.sent, ∃ r, SentBy setup s p r
  replies : ∀ reply ∈ s.replies, ∃ p, s.sent[reply.request]? = some p ∧
    reply.msg.subject = some p.reply ∧ Made setup p reply.msg.noResponders reply.answer
  ids : (s.replies.map (·.msg.id)).Nodup

theorem sentBy_later {setup : Setup} {s : State} {a : ReplyMux.Action}
    {mux : ReplyMux.State} {sent : List Sent} {p : Sent} {r : Request}
    (h : SentBy setup s p r) (hs : ReplyMux.Step setup.pre s.mux a mux) :
    ∃ r', SentBy setup { s with mux, sent } p r' := by
  obtain ⟨r', hr', hlater⟩ := ReplyMux.Wakeup.exists_later hs h.call
  exact ⟨r', hr', by rw [h.subject, hlater.subject], by rw [h.reply, hlater.token], h.data⟩

theorem sentBy_new {setup : Setup} {s : State} {a : ReplyMux.Action}
    {p : Sent} (hp : p ∈ sentBy setup.pre setup.data s.mux a) : ∃ r, SentBy setup s p r := by
  cases a with
  | publish i failure =>
      obtain ⟨r, hr, rfl⟩ := List.mem_map.1 hp
      exact ⟨r, Option.mem_toList.1 hr, rfl, rfl, rfl⟩
  | _ => cases hp

theorem traced_step {setup : Setup} {s s' : State}
    (h : Traced setup s) (hs : Step setup s s') : Traced setup s' := by
  cases hs with
  | client hdelivers hmux =>
      refine ⟨fun p hp => ?_, fun reply hreply => ?_, h.ids⟩
      · rcases List.mem_append.1 hp with hold | hnew
        · obtain ⟨r, hr⟩ := h.sent p hold
          exact sentBy_later hr hmux
        · obtain ⟨r, hr⟩ := sentBy_new hnew
          exact sentBy_later hr hmux
      · obtain ⟨p, hp, hmade⟩ := h.replies reply hreply
        exact ⟨p, (List.getElem?_append_left (List.getElem?_eq_some_iff.1 hp).1).trans hp, hmade⟩
  | @reply k id p noResponders answer hp hfresh hmade =>
      refine ⟨fun p hp => ?_, fun reply hreply => ?_, ?_⟩
      · obtain ⟨r, hr⟩ := h.sent p hp
        exact ⟨r, hr.call, hr.subject, hr.reply, hr.data⟩
      · rcases List.mem_append.1 hreply with hold | hnew
        · exact h.replies reply hold
        · obtain rfl := List.mem_singleton.1 hnew
          exact ⟨p, hp, rfl, hmade⟩
      · rw [List.map_append]
        exact List.nodup_append.2 ⟨h.ids, List.nodup_singleton _, fun id' hid' b hb => by
          obtain rfl := List.mem_singleton.1 hb
          exact fun heq => hfresh (heq ▸ hid')⟩

/-! ## A call gets its own answer -/

/-- The request of a call, as the C client of the service tells of it. -/
def requestOf (r : Request) (data : Option Bytes) : MicroRequest :=
  received (CString.add r.subject) (publishedData data)

/-- What a handler has to know of a call. -/
def callHash (r : Request) (data : Option Bytes) : RequestHash :=
  ⟨some (CString.add r.subject).text, if data.getD [] = [] then none else data⟩

theorem hash_requestOf {r : Request} {data : Option Bytes} (hfits : FitsLength (data.getD [])) :
    (requestOf r data).hash = callHash r data := by
  have hlen : (Int32.ofNat (data.getD []).length).toInt = (data.getD []).length :=
    CArray.toInt_length hfits
  have hdata : publishedData data = data.getD [] := by
    rw [publishedData, hlen, Int.toNat_natCast, List.take_length]
  have hread : (requestOf r data).readData = if data.getD [] = [] then none else data := by
    unfold requestOf received MicroRequest.readData
    rw [hdata]
    dsimp only
    rw [hlen, Int.toNat_natCast, Option.map_some, List.take_length]
    cases data with
    | none => rfl
    | some bytes =>
        by_cases hnil : bytes = []
        · simp [hnil]
        · simp [hnil, List.length_pos_iff]
  rw [MicroRequest.hash, hread]
  rfl

/-- The reply was made for the call: the server has found no endpoint, or one of them has handled
    the request of the call, from its subject and its data. -/
inductive OwnReply (setup : Setup) (i : ℕ) (r : Request) (reply : Reply) : Prop where
  | noResponders (h : reply.msg.noResponders = true) (hanswer : reply.answer = none)
  | served {e env} (h : reply.msg.noResponders = false)
      (hanswer : reply.answer =
        some (requestHandler (setup.endpoints e) env (requestOf r (setup.data i))))
      (hhash : FitsLength ((setup.data i).getD []) →
        (requestOf r (setup.data i)).hash = callHash r (setup.data i))

theorem ownReply_of_made {setup : Setup} {s : State} {r : Request} {reply : Reply} {p : Sent}
    (hp : SentBy setup s p r) (hmade : Made setup p reply.msg.noResponders reply.answer) :
    OwnReply setup p.call r reply := by
  rcases hmade with ⟨h, hanswer⟩ | ⟨h, e, env, hanswer⟩
  · exact .noResponders h hanswer
  · rw [hp.subject, hp.data] at hanswer
    exact .served h hanswer hash_requestOf

theorem allKnown_step {setup : Setup} {s s' : State} (h : AllKnown s)
    (hs : Step setup s s') : AllKnown s' := by
  cases hs with
  | client hdelivers hmux => exact allKnown_client h hdelivers hmux
  | reply => exact allKnown_reply h _

/-- In every run with fewer than 2 ^ 64 calls, whatever is delayed, reordered or lost: the message
    that decides how a call ends is a reply that was made for this call, and no two calls get the
    same one. -/
theorem call_gets_its_own_answer {setup : Setup}
    (run : (system setup).Run) (hlen : run.final.mux.requests.length < 2 ^ 64) :
    (∀ (i : ℕ) (r : Request) (m : NatsMsg), run.final.mux.requests[i]? = some r →
      r.pc.used = some m → ∃ reply ∈ run.final.replies, reply.msg = m ∧
        OwnReply setup i r reply) ∧
    ReplyMux.UsedOnce run.final.mux ∧ (run.final.replies.map (·.msg.id)).Nodup := by
  have hknown := run.invariant (I := AllKnown)
    ⟨by simp [system], by simp [system], by simp [system]⟩
    fun _ _ _ h hs => allKnown_step h (step_cases hs)
  have htraced := run.invariant (I := Traced setup)
    ⟨by simp [system], by simp [system], by simp [system]⟩
    fun _ _ _ h hs => traced_step h (step_cases hs)
  have haddressed : ReplyMux.Addressed setup.pre run.final.mux :=
    (refinement setup).invariant ReplyMux.addressed_run run
  have hnumbered : ReplyMux.Numbered run.final.mux :=
    (refinement setup).invariant (I := ReplyMux.Numbered)
      (fun q => q.invariant (I := ReplyMux.Numbered) ⟨rfl, rfl⟩
        fun _ _ _ h hs => ReplyMux.numbered_step h (ReplyMux.step_cases hs)) run
  refine ⟨fun i r m hr hm => ?_,
    (refinement setup).invariant ReplyMux.usedOnce_run run, htraced.ids⟩
  obtain ⟨reply, hreply, rfl⟩ := List.mem_map.1 (hknown.used i r m hr hm)
  obtain ⟨p, hp, hsubject, hmade⟩ := htraced.replies reply hreply
  obtain ⟨q, hq⟩ := htraced.sent p (List.mem_of_getElem? hp)
  -- the reply subject tells the call
  have htoken : q.token = r.token := by
    have hsame := Option.some.inj (hsubject.symm.trans (haddressed.used i r reply.msg hr hm))
    rw [hq.reply] at hsame
    exact String.append_right_inj setup.pre |>.1 hsame
  have hcall : p.call = i := by
    rw [hnumbered.token hq.call, hnumbered.token hr] at htoken
    obtain ⟨hlt, -⟩ := List.getElem?_eq_some_iff.1 hq.call
    obtain ⟨hlt', -⟩ := List.getElem?_eq_some_iff.1 hr
    exact ReplyMux.tokenOf_injective (by omega) (by omega) htoken
  obtain rfl : q = r := Option.some.inj (hq.call.symm.trans (hcall ▸ hr))
  exact ⟨reply, hreply, rfl, hcall ▸ ownReply_of_made hq hmade⟩

/-- Two calls publish one byte each; the endpoint answers with the byte and its successor. -/
def successors : Setup where
  pre := "_INBOX.x."
  data i := some [UInt8.ofNat i]
  endpoints _ := some ⟨some fun hash =>
    .returned (.binary ((hash.data.getD []).flatMap fun byte => [byte, byte + 1])), true⟩

def quiet : RequestEnv := ⟨false, false, false, false⟩

/-- The second call is answered first. -/
def crossedActs : List Action :=
  [.client (.request "next" 10 .subscribed), .client (.register 0), .client (.publish 0 none),
    .client (.request "next" 10 .subscribed), .client (.register 1), .client (.publish 1 none),
    .serve 1 7 0 quiet, .serve 0 8 0 quiet, .client (.arrive ⟨7, some "_INBOX.x.2", false⟩),
    .client (.arrive ⟨8, some "_INBOX.x.1", false⟩), .client (.dispatch 0), .client (.dispatch 0),
    .client (.poll 0 false), .client (.poll 1 false), .client (.convert 0 true),
    .client (.convert 1 true)]

def crossedRun : (system successors).Run := (system successors).runOf crossedActs (by decide)

theorem call_gets_its_own_answer_crossed :
    crossedRun.final.mux.requests.map (·.pc.used) =
        [some ⟨8, some "_INBOX.x.1", false⟩, some ⟨7, some "_INBOX.x.2", false⟩] ∧
      crossedRun.final.replies.map Reply.answer = [some (.respond [1, 2]), some (.respond [0, 1])] ∧
      ∃ reply ∈ crossedRun.final.replies, reply.msg = ⟨8, some "_INBOX.x.1", false⟩ ∧
        OwnReply successors 0 ⟨"next", 10, "1", .leaving (.returned ⟨8, some "_INBOX.x.1", false⟩),
          [⟨8, some "_INBOX.x.1", false⟩]⟩ reply :=
  ⟨by decide, by decide,
    (call_gets_its_own_answer crossedRun (by decide)).1 0 _ _ (by decide) (by decide)⟩

end ModuleNats.MicroRequests
