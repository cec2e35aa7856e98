import Mathlib.Algebra.Group.Nat.Defs
import ModuleNats.Lib.Text
import ModuleNats.ReplyMux.Effect
import ModuleNats.ReplyMux.Ownership

set_option autoImplicit false

/-! # Every request gets its own reply

The map, the waiting calls and the notes of what was delivered to them agree in every reachable
state (`Correlates`). What this rests on is that running calls have different tokens, which holds as
long as no call is still running when the 64-bit counter comes round to its number again (`NoLap`);
the facts that need no such condition are kept apart: a message is used by one request only
(`UsedOnce`), and only by a request whose reply subject it was sent to (`Addressed`). -/

namespace ModuleNats.ReplyMux

open Ownership State

/-! ## A message is used by the request it was sent to -/

/-- Every message goes with the token of its own subject: in a callback, in the map, and with the
    call that uses it. -/
structure Addressed (pre : String) (s : State) : Prop where
  callbacks : ∀ c ∈ s.callbacks, c.msg.subject = some (pre ++ c.token)
  stored : ∀ tok m, s.replies.lookup tok = some (some m) → m.subject = some (pre ++ tok)
  used : ∀ (i : ℕ) (r : Request) (m : NatsMsg), s.requests[i]? = some r → r.pc.used = some m →
    m.subject = some (pre ++ r.token)

theorem addressed_step {pre : String} {s s' : State} {a : Action} (h : Addressed pre s)
    (hs : Step pre s a s') : Addressed pre s' where
  callbacks c hc := (hs.callbacks c hc).elim (h.callbacks c) id
  stored tok m hm := by
    rcases hs.stored hm with hm | ⟨c, hc, rfl, rfl⟩
    · exact h.stored tok m hm
    · exact h.callbacks c hc
  used i q m hq hm := by
    rcases hs.cameFrom hq with hpc | ⟨r, hr⟩
    · rw [hpc] at hm; cases hm
    · rw [← hr.token]
      exact (hr.used m hm).elim (h.used i r m hr.before) fun htook => h.stored _ m htook.2.1

/-- A call that has its answer has destroyed it. -/
def Spent (s : State) : Prop :=
  ∀ (i : ℕ) (r : Request) (m : NatsMsg), s.requests[i]? = some r → r.pc.answer = some m →
    Op.release m.id ∈ s.log

theorem spent_step {pre : String} {s s' : State} {a : Action} (h : Spent s)
    (hs : Step pre s a s') : Spent s' := by
  intro i q m hq hm
  rcases hs.cameFrom hq with hpc | ⟨r, hr⟩
  · rw [hpc] at hm; cases hm
  · exact (hr.answer m hm).elim (fun hold => hs.log _ (h i r m hr.before hold)) id

/-- No message is used by two calls. -/
def UsedOnce (s : State) : Prop :=
  ∀ (i j : ℕ) (r q : Request) (m n : NatsMsg), s.requests[i]? = some r →
    s.requests[j]? = some q → r.pc.used = some m → q.pc.used = some n → m.id = n.id → i = j

/-- A stored message is used by nobody: a holder has a message of its own, an answer is dead. -/
theorem not_used_of_stored {s : State} (howns : Owns s.log s.held) (hspent : Spent s)
    {tok : String} {m : NatsMsg} (hm : s.replies.lookup tok = some (some m)) {i : ℕ} {r : Request}
    (hr : s.requests[i]? = some r) {n : NatsMsg} (hn : r.pc.used = some n) : m.id ≠ n.id := by
  intro heq
  have hstored : m.id ∈ s.replies.stored := by
    rw [(Replies.stored_perm hm).mem_iff]; simp
  have hlive : Live s.log m.id := howns.live _ (by simp [State.held, hstored])
  cases hheld : r.pc.held with
  | some n' =>
      obtain rfl : n' = n := by simpa [RequestPc.used, hheld] using hn
      have hholder : m.id ∈ holders s.requests := by
        rw [heq]
        exact List.mem_filterMap.2 ⟨r, List.mem_of_getElem? hr, by simp [hheld]⟩
      have hdisjoint := (List.nodup_append.1 (List.nodup_append.1 howns.nodup).2.1).2.2
      exact hdisjoint _ hstored _ hholder rfl
  | none =>
      have hanswer : r.pc.answer = some n := by simpa [RequestPc.used, hheld] using hn
      exact hlive.2 (heq ▸ hspent i r n hr hanswer)

theorem usedOnce_step {pre : String} {s s' : State} {a : Action} (howns : Owns s.log s.held)
    (hspent : Spent s) (h : UsedOnce s) (hs : Step pre s a s') :
    UsedOnce s' := by
  intro i j r' q' m n hr' hq' hm hn heq
  rcases hs.cameFrom hr' with hpc | ⟨r, hr⟩
  · rw [hpc] at hm; cases hm
  rcases hs.cameFrom hq' with hpc | ⟨q, hq⟩
  · rw [hpc] at hn; cases hn
  rcases hr.used m hm with hold | ⟨_, hlook, e, hi⟩ <;>
    rcases hq.used n hn with hold' | ⟨_, hlook', e', hj⟩
  · exact h i j r q m n hr.before hq.before hold hold' heq
  · exact absurd heq.symm (not_used_of_stored howns hspent hlook' hr.before hold)
  · exact absurd heq (not_used_of_stored howns hspent hlook hq.before hold')
  · -- both have just taken a message, in the same step
    exact (Action.poll.inj (hi.symm.trans hj)).1

/-! ## Tokens -/

/-- The token of the request with number `i`, counted from 0. -/
def tokenOf (i : ℕ) : String := toString (Int64.ofNat (i + 1)).toInt

/-- The counter counts the requests, and each has the token of its number. -/
structure Numbered (s : State) : Prop where
  counter : s.replyCounter = Int64.ofNat s.requests.length
  tokens : s.requests.map Request.token = (List.range s.requests.length).map tokenOf

theorem numbered_effect {s t : State} {a : Action} (h : Numbered s) (ht : Effect s a t) :
    Numbered t := by
  cases ht with
  | other hrequests _ hcounter =>
      exact ⟨by rw [hcounter, hrequests, h.counter], by rw [hrequests, h.tokens]⟩
  | number hrequests _ hcounter _ =>
      have hnext : s.replyCounter + 1 = Int64.ofNat (s.requests.length + 1) := by
        rw [h.counter, Int64.ofNat_add]; rfl
      refine ⟨by rw [hcounter, hnext, hrequests]; simp, ?_⟩
      rw [hrequests, hnext]
      simp [h.tokens, List.range_succ, tokenOf]
  | @call i r pc hr hrequests _ _ _ _ hcounter =>
      refine ⟨by rw [hcounter, hrequests, h.counter, List.length_set], ?_⟩
      rw [hrequests, List.length_set, ← h.tokens, List.map_set]
      obtain ⟨hi, rfl⟩ := List.getElem?_eq_some_iff.1 hr
      refine List.ext_getElem (by simp) fun j _ _ => ?_
      by_cases hij : i = j
      · subst hij; simp
      · simp [hij]
  | deliver _ hrequests _ hcounter =>
      refine ⟨by rw [hcounter, hrequests, h.counter, List.length_map], ?_⟩
      rw [hrequests, List.length_map, ← h.tokens]
      simp [Function.comp_def]

theorem numbered_step {pre : String} {s s' : State} {a : Action} (h : Numbered s)
    (hs : Step pre s a s') : Numbered s' := by
  rcases hs.effect with ht | ⟨t, ht, rfl⟩
  · exact numbered_effect h ht
  · obtain ⟨hcounter, htokens⟩ := numbered_effect h ht
    exact ⟨by simpa using hcounter, by simpa using htokens⟩

/-- When a call takes its number, no running call is 2 ^ 64 numbers behind. -/
def NoLap (s : State) : Action → Prop
  | .request _ _ _ => ∀ (i : ℕ) (r : Request), s.requests[i]? = some r → r.pc.active →
      s.requests.length < i + 2 ^ 64
  | _ => True

/-- Fewer than 2 ^ 64 calls have started since a running one. -/
def Recent (s : State) : Prop :=
  ∀ (i : ℕ) (r : Request), s.requests[i]? = some r → r.pc.active → s.requests.length ≤ i + 2 ^ 64

theorem recent_step {pre : String} {s s' : State} {a : Action} (h : Recent s) (hlap : NoLap s a)
    (hs : Step pre s a s') : Recent s' := by
  have heffect : ∀ t, Effect s a t → Recent t := by
    intro t ht i q hq hactive
    cases ht with
    | other hrequests _ _ =>
        rw [hrequests] at hq ⊢
        exact h i q hq hactive
    | number hrequests _ _ ha =>
        obtain ⟨subject, timeoutMs, inbox, rfl⟩ := ha
        rw [hrequests] at hq ⊢
        rw [List.getElem?_append] at hq
        rw [List.length_append, List.length_singleton]
        split at hq
        · exact hlap i q hq hactive
        · omega
    | call hr hrequests hmove _ _ _ _ =>
        rw [hrequests] at hq ⊢
        rw [List.length_set]
        rcases getElem?_set_cases hr hq with ⟨rfl, rfl⟩ | ⟨_, hq⟩
        · exact h i _ hr hmove.active
        · exact h i q hq hactive
    | deliver _ hrequests _ _ =>
        rw [hrequests, List.getElem?_map] at hq
        obtain ⟨r, hr, rfl⟩ := Option.map_eq_some_iff.1 hq
        rw [hrequests, List.length_map]
        exact h i r hr (by simpa using hactive)
  rcases hs.effect with ht | ⟨t, ht, rfl⟩
  · exact heffect s' ht
  · simpa [Recent] using heffect t ht

/-- Numbers less than 2 ^ 64 apart have different tokens. -/
theorem tokenOf_injective {i j : ℕ} (hi : i < j + 2 ^ 64) (hj : j < i + 2 ^ 64)
    (h : tokenOf i = tokenOf j) : i = j := by
  have hint : (Int64.ofNat (i + 1)).toInt = (Int64.ofNat (j + 1)).toInt := Decimal.repr_injective h
  rw [Int64.toInt_ofNat', Int64.toInt_ofNat'] at hint
  have hmod : ((i + 1 : ℕ) : ℤ) % Int64.size = ((j + 1 : ℕ) : ℤ) % Int64.size := by
    rw [← Int.bmod_emod, hint, Int.bmod_emod]
  simp only [Int64.size] at hmod
  omega

/-- Running calls have different tokens. -/
def Distinct (requests : List Request) : Prop :=
  ∀ (i j : ℕ) (r q : Request), requests[i]? = some r → requests[j]? = some q → r.pc.active →
    q.pc.active → r.token = q.token → i = j

theorem Numbered.token {s : State} (h : Numbered s) {i : ℕ} {r : Request}
    (hr : s.requests[i]? = some r) : r.token = tokenOf i := by
  have hmap : (s.requests.map Request.token)[i]? = some r.token := by simp [hr]
  rw [h.tokens, List.getElem?_map] at hmap
  obtain ⟨k, hk, htok⟩ := Option.map_eq_some_iff.1 hmap
  obtain ⟨hlt, rfl⟩ := List.getElem?_eq_some_iff.1 hk
  rw [← htok, List.getElem_range]

theorem distinct_of_recent {s : State} (h : Numbered s) (hrecent : Recent s) :
    Distinct s.requests := by
  intro i j r q hr hq hractive hqactive htok
  rw [h.token hr, h.token hq] at htok
  obtain ⟨hi, _⟩ := List.getElem?_eq_some_iff.1 hr
  obtain ⟨hj, _⟩ := List.getElem?_eq_some_iff.1 hq
  have hirecent := hrecent i r hr hractive
  have hjrecent := hrecent j q hq hqactive
  exact tokenOf_injective (by omega) (by omega) htok

/-! ## The map and the calls agree -/

/-- The keys are the tokens in scope; the entry of a waiting call is the first message delivered to
    it; the message a call uses was the first delivered to it; nothing is delivered before the
    registration. -/
structure Correlates (requests : List Request) (replies : Replies) : Prop where
  key : ∀ tok, tok ∈ replies ↔
    ∃ (i : ℕ) (r : Request), requests[i]? = some r ∧ r.pc.inScope ∧ r.token = tok
  entry : ∀ (i : ℕ) (r : Request), requests[i]? = some r → r.pc.waiting →
    replies.lookup r.token = some r.delivered.head?
  used : ∀ (i : ℕ) (r : Request) (m : NatsMsg), requests[i]? = some r → r.pc.used = some m →
    r.delivered.head? = some m
  fresh : ∀ (i : ℕ) (r : Request), requests[i]? = some r → r.pc = .numbered → r.delivered = []

/-- A step of one call keeps the agreement. -/
theorem Correlates.call {requests : List Request} {replies replies' : Replies}
    (h : Correlates requests replies) (hdistinct : Distinct requests) {i : ℕ} {r : Request}
    (hr : requests[i]? = some r) {pc : RequestPc}
    (hmove : CallMove r replies pc replies')
    (hused : ∀ m, pc.used = some m → r.pc.used = some m ∨
      (r.pc.waiting ∧ replies.lookup r.token = some (some m))) :
    Correlates (requests.set i { r with pc := pc }) replies' := by
  have hself : (requests.set i { r with pc := pc })[i]? = some { r with pc := pc } := by
    obtain ⟨hi, _⟩ := List.getElem?_eq_some_iff.1 hr
    exact List.getElem?_set_self hi
  have hother : ∀ {j : ℕ} {q : Request}, j ≠ i → requests[j]? = some q → q.pc.inScope →
      q.token ≠ r.token := fun hji hq hs htok =>
    hji (hdistinct _ i _ r hq hr (RequestPc.active_of_inScope hs) hmove.active htok)
  have hscope : r.pc.inScope → r.token ∈ replies := fun hs => (h.key _).2 ⟨i, r, hr, hs, rfl⟩
  refine ⟨fun tok => ?_, fun j q hq hw => ?_, fun j q m hq hm => ?_, fun j q hq hpc => ?_⟩
  · by_cases htok : tok = r.token
    · subst htok
      rw [hmove.key hscope]
      constructor
      · exact fun hpc => ⟨i, _, hself, hpc, rfl⟩
      · rintro ⟨j, q, hq, hs, htok⟩
        rcases getElem?_set_cases hr hq with ⟨_, rfl⟩ | ⟨hji, hq⟩
        · exact hs
        · exact absurd htok (hother hji hq hs)
    · have hmem : tok ∈ replies' ↔ tok ∈ replies := by
        rw [← AList.lookup_isSome, ← AList.lookup_isSome, hmove.other tok htok]
      rw [hmem, h.key]
      constructor
      · rintro ⟨j, q, hq, hs, rfl⟩
        refine ⟨j, q, ?_, hs, rfl⟩
        rwa [List.getElem?_set_ne]
        rintro rfl
        rw [hr] at hq
        exact htok (Option.some.inj hq ▸ rfl)
      · rintro ⟨j, q, hq, hs, rfl⟩
        rcases getElem?_set_cases hr hq with ⟨_, rfl⟩ | ⟨_, hq⟩
        · exact absurd rfl htok
        · exact ⟨j, q, hq, hs, rfl⟩
  · rcases getElem?_set_cases hr hq with ⟨_, rfl⟩ | ⟨hji, hq⟩
    · rcases hmove.entry hw with ⟨hpc, hlook⟩ | ⟨hold, hlook⟩
      · rw [hlook, h.fresh i r hr hpc]; rfl
      · rw [hlook (hscope (RequestPc.inScope_of_waiting hold))]
        exact h.entry i r hr hold
    · rw [hmove.other _ (hother hji hq (RequestPc.inScope_of_waiting hw))]
      exact h.entry j q hq hw
  · rcases getElem?_set_cases hr hq with ⟨_, rfl⟩ | ⟨_, hq⟩
    · rcases hused m hm with hold | ⟨hw, hlook⟩
      · exact h.used i r m hr hold
      · have hentry := h.entry i r hr hw
        rw [hlook] at hentry
        exact (Option.some.inj hentry).symm
    · exact h.used j q m hq hm
  · rcases getElem?_set_cases hr hq with ⟨_, rfl⟩ | ⟨_, hq⟩
    · exact absurd hpc hmove.started
    · exact h.fresh j q hq hpc

theorem Correlates.number {requests : List Request} {replies : Replies}
    (h : Correlates requests replies) (q : Request) (hpc : q.pc = .numbered)
    (hdelivered : q.delivered = []) : Correlates (requests ++ [q]) replies := by
  have hcases : ∀ {j : ℕ} {r : Request}, (requests ++ [q])[j]? = some r →
      requests[j]? = some r ∨ r = q := by
    intro j r hr
    rw [List.getElem?_append] at hr
    split at hr
    · exact Or.inl hr
    · exact Or.inr (List.mem_singleton.1 (List.mem_of_getElem? hr))
  refine ⟨fun tok => ?_, fun j r hr hw => ?_, fun j r m hr hm => ?_, fun j r hr hnum => ?_⟩
  · rw [h.key]
    constructor
    · rintro ⟨j, r, hr, hs, rfl⟩
      obtain ⟨hj, _⟩ := List.getElem?_eq_some_iff.1 hr
      exact ⟨j, r, by rwa [List.getElem?_append_left hj], hs, rfl⟩
    · rintro ⟨j, r, hr, hs, rfl⟩
      rcases hcases hr with hr | rfl
      · exact ⟨j, r, hr, hs, rfl⟩
      · rw [hpc] at hs; cases hs
  · rcases hcases hr with hr | rfl
    · exact h.entry j r hr hw
    · rw [hpc] at hw; cases hw
  · rcases hcases hr with hr | rfl
    · exact h.used j r m hr hm
    · rw [hpc] at hm; cases hm
  · rcases hcases hr with hr | rfl
    · exact h.fresh j r hr hnum
    · exact hdelivered

/-- A delivery is noted by the call whose entry it may fill. -/
theorem Correlates.deliver {requests : List Request} {replies replies' : Replies}
    (h : Correlates requests replies) {c : Callback}
    (hreplies : (replies.lookup c.token = some none ∧
        replies' = replies.insert c.token (some c.msg)) ∨
      (replies.lookup c.token ≠ some none ∧ replies' = replies)) :
    Correlates (requests.map (noteDelivery c)) replies' := by
  have hget : ∀ {j : ℕ} {q : Request}, (requests.map (noteDelivery c))[j]? = some q →
      ∃ r, requests[j]? = some r ∧ q = noteDelivery c r := by
    intro j q hq
    rw [List.getElem?_map] at hq
    obtain ⟨r, hr, rfl⟩ := Option.map_eq_some_iff.1 hq
    exact ⟨r, hr, rfl⟩
  have hmem : ∀ tok, tok ∈ replies' ↔ tok ∈ replies := by
    intro tok
    rcases hreplies with ⟨hlook, rfl⟩ | ⟨_, rfl⟩
    · have hin : c.token ∈ replies := AList.lookup_isSome.1 (by simp [hlook])
      simp only [AList.mem_insert, or_iff_right_iff_imp]
      rintro rfl
      exact hin
    · rfl
  refine ⟨fun tok => ?_, fun j q hq hw => ?_, fun j q m hq hm => ?_, fun j q hq hpc => ?_⟩
  · rw [hmem, h.key]
    constructor
    · rintro ⟨j, r, hr, hs, rfl⟩
      exact ⟨j, noteDelivery c r, by rw [List.getElem?_map, hr]; rfl, by simpa using hs, by simp⟩
    · rintro ⟨j, q, hq, hs, rfl⟩
      obtain ⟨r, hr, rfl⟩ := hget hq
      exact ⟨j, r, hr, by simpa using hs, by simp⟩
  · obtain ⟨r, hr, rfl⟩ := hget hq
    rw [noteDelivery_pc] at hw
    have hentry := h.entry j r hr hw
    by_cases htok : r.token = c.token
    · have hnote : (noteDelivery c r).delivered = r.delivered ++ [c.msg] := by
        rw [noteDelivery, if_pos ⟨RequestPc.inScope_of_waiting hw, htok⟩]
      rw [noteDelivery_token, htok, hnote]
      rw [htok] at hentry
      rcases hreplies with ⟨hlook, rfl⟩ | ⟨hlook, rfl⟩
      · have hnil : r.delivered = [] := by
          rw [hlook] at hentry
          exact List.head?_eq_none_iff.1 (Option.some.inj hentry).symm
        simp [hnil]
      · cases hdel : r.delivered with
        | nil => rw [hdel] at hentry; exact absurd hentry hlook
        | cons m rest => rw [hentry, hdel]; rfl
    · have hnote : noteDelivery c r = r := by simp [noteDelivery, htok]
      rw [hnote]
      rcases hreplies with ⟨_, rfl⟩ | ⟨_, rfl⟩
      · rw [AList.lookup_insert_ne htok]; exact hentry
      · exact hentry
  · obtain ⟨r, hr, rfl⟩ := hget hq
    rw [noteDelivery_pc] at hm
    have hhead := h.used j r m hr hm
    simp only [noteDelivery]
    split
    · rw [List.head?_append, hhead]; rfl
    · exact hhead
  · obtain ⟨r, hr, rfl⟩ := hget hq
    rw [noteDelivery_pc] at hpc
    simp [noteDelivery, hpc, RequestPc.inScope, h.fresh j r hr hpc]

theorem correlates_dropRef {s : State} (h : Correlates s.requests s.replies) :
    Correlates s.dropRef.requests s.dropRef.replies := by
  rw [dropRef_requests]
  rcases dropRef_replies s with heq | ⟨hempty, hended⟩
  · rw [heq]; exact h
  · have hnone : ∀ (i : ℕ) (r : Request), s.requests[i]? = some r → ¬ r.pc.inScope := by
      intro i r hr hs
      have hactive := RequestPc.active_of_inScope hs
      rw [hended r (List.mem_of_getElem? hr)] at hactive
      cases hactive
    rw [hempty]
    refine ⟨fun tok => ?_, fun i r hr hw => ?_, h.used, h.fresh⟩
    · simp only [AList.notMem_empty, false_iff]
      rintro ⟨i, r, hr, hs, _⟩
      exact hnone i r hr hs
    · exact absurd (RequestPc.inScope_of_waiting hw) (hnone i r hr)

theorem correlates_step {pre : String} {s s' : State} {a : Action}
    (hdistinct : Distinct s.requests) (h : Correlates s.requests s.replies)
    (hs : Step pre s a s') : Correlates s'.requests s'.replies := by
  have heffect : ∀ t, Effect s a t → Correlates t.requests t.replies := by
    intro t ht
    cases ht with
    | other hrequests hreplies _ => rw [hrequests, hreplies]; exact h
    | number hrequests hreplies _ _ => rw [hrequests, hreplies]; exact h.number _ rfl rfl
    | call hr hrequests hmove hused _ _ _ =>
        rw [hrequests]
        exact h.call hdistinct hr hmove fun m hm => (hused m hm).imp id fun htook =>
          ⟨htook.1, htook.2.1⟩
    | deliver _ hrequests hreplies _ => rw [hrequests]; exact h.deliver hreplies
  rcases hs.effect with ht | ⟨t, ht, rfl⟩
  · exact heffect s' ht
  · exact correlates_dropRef (heffect t ht)

/-! ## Runs -/

/-- What runs without a lap keep: numbers, tokens and the map are in order. -/
structure InOrder (s : State) : Prop where
  numbered : Numbered s
  recent : Recent s
  correlates : Correlates s.requests s.replies

theorem inOrder_run {pre : String} (run : (system pre).Run) (hlap : run.All NoLap) :
    InOrder run.final := by
  refine run.invariant_of_all (I := InOrder) ?_ ?_ hlap
  · refine ⟨⟨rfl, rfl⟩, ?_, ?_, ?_, ?_, ?_⟩ <;> simp [system, Recent]
  · rintro s a s' ⟨hnum, hrecent, hcorr⟩ hlap hstep
    have hs := step_cases hstep
    exact ⟨numbered_step hnum hs, recent_step hrecent hlap hs,
      correlates_step (distinct_of_recent hnum hrecent) hcorr hs⟩

theorem length_le_of_step {pre : String} {s s' : State} {a : Action} (hs : Step pre s a s') :
    s.requests.length ≤ s'.requests.length := by
  have heffect : ∀ t, Effect s a t → s.requests.length ≤ t.requests.length := by
    intro t ht
    cases ht with
    | other hrequests _ _ => rw [hrequests]
    | number hrequests _ _ _ => simp [hrequests]
    | call _ hrequests _ _ _ _ _ => simp [hrequests]
    | deliver _ hrequests _ _ => simp [hrequests]
  rcases hs.effect with ht | ⟨t, ht, rfl⟩
  · exact heffect s' ht
  · simpa using heffect t ht

/-- The counter comes round to no call at all in a run with fewer than 2 ^ 64 requests. -/
theorem noLap_of_length {pre : String} (run : (system pre).Run)
    (hlen : run.final.requests.length < 2 ^ 64) : run.All NoLap := by
  rintro s a s' ⟨before, after, hacts, hexec, hstep⟩
  have hrest : (system pre).exec s (a :: after) = some run.final := by
    have hok := run.ok
    rw [hacts, TransitionSystem.exec_append, hexec] at hok
    exact hok
  have hle : s.requests.length ≤ run.final.requests.length :=
    TransitionSystem.exec_invariant (I := fun t => s.requests.length ≤ t.requests.length)
      (G := fun _ => True) (fun _ _ _ h _ ht => h.trans (length_le_of_step (step_cases ht)))
      le_rfl (fun _ _ => trivial) hrest
  cases a with
  | request subject timeoutMs inbox => intro i r _ _; omega
  | _ => trivial

theorem addressed_run {pre : String} (run : (system pre).Run) : Addressed pre run.final := by
  refine run.invariant (I := Addressed pre) ⟨?_, ?_, ?_⟩
    fun _ _ _ h hs => addressed_step h (step_cases hs)
  · simp [system]
  · simp [system]
  · simp [system]

theorem usedOnce_run {pre : String} (run : (system pre).Run) : UsedOnce run.final := by
  refine (run.invariant (I := fun s => Owns s.log s.held ∧ Spent s ∧ UsedOnce s)
    ⟨owns_nil, ?_, ?_⟩ ?_).2.2
  · simp [Spent, system]
  · simp [UsedOnce, system]
  · rintro s a s' ⟨howns, hspent, hused⟩ hstep
    have hs := step_cases hstep
    exact ⟨owns_step howns hs, spent_step hspent hs, usedOnce_step howns hspent hused hs⟩

/-- At the moment a call gives up at its deadline its entry holds no reply, and nothing has been
    delivered to it. -/
theorem deadline_step {pre : String} {s s' : State} {a : Action} (hs : Step pre s a s') {i : ℕ}
    {r q : Request} (hr : s.requests[i]? = some r) (hq : s'.requests[i]? = some q)
    (hold : r.pc ≠ .leaving .deadline) (hnew : q.pc = .leaving .deadline) :
    (∀ m, s.replies.lookup r.token ≠ some (some m)) ∧
      (Correlates s.requests s.replies → r.delivered = []) := by
  rcases hs.cameFrom hq with hpc | ⟨r', hr'⟩
  · rw [hpc] at hnew; cases hnew
  · obtain rfl : r = r' := Option.some.inj (hr.symm.trans hr'.before)
    obtain ⟨hw, hno⟩ := (hr'.deadline hnew).resolve_left hold
    refine ⟨hno, fun hcorr => List.head?_eq_none_iff.1 ?_⟩
    cases hhead : r.delivered.head? with
    | none => rfl
    | some m => exact absurd (hhead ▸ hcorr.entry i r hr hw) (hno m)

/-- Request/reply correlation, for every interleaving. As long as the counter does not come round
    to a running call: the keys of the map are the tokens in scope, running calls have different
    tokens, a call that ends with a message has used the first one delivered to it, and a call that
    gives up has been delivered none. Without a condition: no two calls use one message, a call only
    uses messages sent to its own reply subject, and it gives up only while no reply is stored. -/
theorem request_reply_correlation (pre : String) (run : (system pre).Run) :
    (run.All NoLap →
      (∀ tok, tok ∈ run.final.replies ↔
        ∃ (i : ℕ) (r : Request), run.final.requests[i]? = some r ∧ r.pc.inScope ∧ r.token = tok) ∧
      (∀ (i j : ℕ) (r q : Request), run.final.requests[i]? = some r →
        run.final.requests[j]? = some q → r.pc.active → q.pc.active → r.token = q.token → i = j) ∧
      (∀ (i : ℕ) (r : Request) (m : NatsMsg), run.final.requests[i]? = some r →
        r.pc.answer = some m → r.delivered.head? = some m)) ∧
    (∀ (i j : ℕ) (r q : Request) (m n : NatsMsg), run.final.requests[i]? = some r →
      run.final.requests[j]? = some q → r.pc.used = some m → q.pc.used = some n → m.id = n.id →
      i = j) ∧
    (∀ (i : ℕ) (r : Request) (m : NatsMsg), run.final.requests[i]? = some r →
      r.pc.used = some m → m.subject = some (pre ++ r.token)) ∧
    ∀ s a s', run.Occurs s a s' → ∀ (i : ℕ) (r q : Request), s.requests[i]? = some r →
      s'.requests[i]? = some q → r.pc ≠ .leaving .deadline → q.pc = .leaving .deadline →
      (∀ m, s.replies.lookup r.token ≠ some (some m)) ∧ (run.All NoLap → r.delivered = []) := by
  refine ⟨fun hlap => ⟨?_, ?_, ?_⟩, usedOnce_run run, (addressed_run run).used, ?_⟩
  · -- keys
    exact (inOrder_run run hlap).correlates.key
  · -- tokens
    obtain ⟨hnum, hrecent, -⟩ := inOrder_run run hlap
    exact distinct_of_recent hnum hrecent
  · -- the first message
    intro i r m hr hm
    refine (inOrder_run run hlap).correlates.used i r m hr ?_
    cases hpc : r.pc <;> simp [hpc, RequestPc.answer] at hm <;>
      simp [RequestPc.used, RequestPc.held, RequestPc.answer, hm]
  · -- the deadline
    intro s a s' hocc i r q hr hq hold hnew
    obtain ⟨before, rfl, _, hacts⟩ := hocc.exists_run
    obtain ⟨hno, hnone⟩ := deadline_step (step_cases hocc.step) hr hq hold hnew
    exact ⟨hno, fun hlap => hnone (inOrder_run before (hlap.of_prefix hacts)).correlates⟩

/-- A request times out and its reply comes late; the next one gets its own reply, after a foreign
    message. -/
def lateReplyRun : (system "_INBOX.x.").Run :=
  (system "_INBOX.x.").runOf
    [.request "a" 10 .subscribed, .register 0, .publish 0 none, .poll 0 false, .poll 0 true,
      .leave 0, .arrive ⟨1, some "_INBOX.x.1", false⟩, .request "a" 10 .subscribed, .register 1,
      .publish 1 none, .arrive ⟨2, some "_INBOX.x.2", false⟩, .arrive ⟨3, some "other", false⟩,
      .dispatch 0, .dispatch 0, .poll 1 true, .convert 1 true]
    (by decide)

theorem request_reply_correlation_late_reply :
    lateReplyRun.final.requests.map Request.pc
      = [.ended .deadline, .leaving (.returned ⟨2, some "_INBOX.x.2", false⟩)] ∧
    ∀ tok, tok ∈ lateReplyRun.final.replies ↔ ∃ (i : ℕ) (r : Request),
      lateReplyRun.final.requests[i]? = some r ∧ r.pc.inScope ∧ r.token = tok :=
  ⟨by decide, ((request_reply_correlation _ lateReplyRun).1
    (noLap_of_length _ (by decide))).1⟩

end ModuleNats.ReplyMux
