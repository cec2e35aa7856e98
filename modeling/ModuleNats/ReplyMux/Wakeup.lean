import Mathlib.Tactic.IntervalCases
import ModuleNats.Lib.Behavior
import ModuleNats.ReplyMux.Correlation

set_option autoImplicit false

/-! # Every call of `request()` ends

A call that finds no reply waits on the condition variable of the mux, which releases the lock and
puts the thread to sleep at once; `replyHandler()` stores a reply and wakes every sleeping call
under the same lock. `ReplyMux.system` lets a waiting call look at its entry at any time. Here it
has to be woken first: by a reply, by the end of its wait, or by an interruption.

No wakeup is lost: a sleeping call has no reply (`NoLostWakeup`). So a call with a reply ends
without the end of any wait, and without a reply it ends once the clock has passed its deadline
(`request_ends`). -/

namespace ModuleNats.ReplyMux.Wakeup

open TransitionSystem

/-! ## The system -/

/-- The calls that are asleep in the condition wait are listed by number. -/
structure State where
  mux : ReplyMux.State := {}
  asleep : List ℕ := []
deriving DecidableEq

inductive Action where
  | inside (a : ReplyMux.Action)
  /-- the time of a condition wait is over, or the wait ends for no reason -/
  | wake (i : ℕ)
deriving DecidableEq, Repr

/-- `mux.cond.broadcast()`: `replyHandler()` has stored its message. -/
def broadcasts (s : ReplyMux.State) : ReplyMux.Action → Bool
  | .dispatch k => s.callbacks[k]?.any fun c => s.replies.lookup c.token == some none
  | _ => false

/-- The call is in the condition wait. -/
def isBlocked (s : ReplyMux.State) (i : ℕ) : Bool := s.requests[i]?.any fun r => r.pc == .blocked

/-- The calls that are asleep after a step of the mux. -/
def State.asleepAfter (s : State) (a : ReplyMux.Action) (mux : ReplyMux.State) : List ℕ :=
  if broadcasts s.mux a then []
  else match a with
    | .poll i _ => if isBlocked mux i then i :: s.asleep else s.asleep
    | .interrupt i => s.asleep.filter (· != i)
    | _ => s.asleep

/-- A call that is asleep does not look at its entry. -/
def sleeps (s : State) : ReplyMux.Action → Bool
  | .poll i _ => s.asleep.contains i
  | _ => false

def step (pre : String) (s : State) : Action → Option State
  | .inside a =>
      if sleeps s a then none
      else (ReplyMux.step pre s.mux a).map fun mux => ⟨mux, s.asleepAfter a mux⟩
  | .wake i =>
      if s.asleep.contains i then some { s with asleep := s.asleep.filter (· != i) } else none

def system (pre : String) : TransitionSystem State Action := ⟨{}, step pre⟩

/-! ## What a step can do -/

inductive Step (pre : String) (s : State) : Action → State → Prop where
  | inside {a mux} (hawake : sleeps s a = false) (h : ReplyMux.step pre s.mux a = some mux) :
      Step pre s (.inside a) ⟨mux, s.asleepAfter a mux⟩
  | wake {i} (hasleep : i ∈ s.asleep) :
      Step pre s (.wake i) { s with asleep := s.asleep.filter (· != i) }

theorem step_cases {pre : String} {s s' : State} {a : Action} (h : step pre s a = some s') :
    Step pre s a s' := by
  cases a with
  | inside a =>
      simp only [step] at h
      split at h
      · cases h
      · next hawake =>
          obtain ⟨mux, hmux, rfl⟩ := Option.map_eq_some_iff.1 h
          exact .inside (Bool.eq_false_of_not_eq_true hawake) hmux
  | wake i =>
      simp only [step] at h
      split at h
      · next hasleep =>
          obtain rfl := Option.some.inj h
          exact .wake (List.contains_iff_mem.1 hasleep)
      · cases h

/-- The runs with a condition variable are runs of the mux. -/
def refinement (pre : String) : (system pre).Refinement (ReplyMux.system pre) where
  inv _ := True
  abs := State.mux
  acts _ a := match a with
    | .inside a => [a]
    | .wake _ => []
  inv_init := trivial
  inv_step _ _ _ _ _ := trivial
  init := rfl
  step s a s' _ h := by
    cases step_cases h with
    | inside _ hmux => exact Option.bind_eq_some_iff.2 ⟨_, hmux, rfl⟩
    | wake _ => rfl

/-! ## The steps of one call -/

/-- The number of the call that takes the step. -/
def caller : ReplyMux.Action → Option ℕ
  | .register i | .publish i _ | .poll i _ | .interrupt i | .convert i _ | .leave i => some i
  | _ => none

/-- What the steps of the call with number `i` do to its counter; `stored` says whether its entry
    holds a reply. -/
inductive CallStep (i : ℕ) (stored : Prop) : ReplyMux.Action → RequestPc → RequestPc → Prop where
  | register : CallStep i stored (.register i) .numbered .registered
  | publish {failure pc} (h : pc = .polling ∨ ∃ text, pc = .leaving (.publishFailed text)) :
      CallStep i stored (.publish i failure) .registered pc
  | take {expired pc reply} (hpc : pc = .polling ∨ pc = .blocked) :
      CallStep i stored (.poll i expired) pc (.holding reply)
  | giveUp {pc} (hpc : pc = .polling ∨ pc = .blocked) (h : ¬ stored) :
      CallStep i stored (.poll i true) pc (.leaving .deadline)
  | block {pc} (hpc : pc = .polling ∨ pc = .blocked) (h : ¬ stored) :
      CallStep i stored (.poll i false) pc .blocked
  | interrupt : CallStep i stored (.interrupt i) .blocked (.leaving .cancelled)
  | convert {ok reply} :
      CallStep i stored (.convert i ok) (.holding reply) (.leaving (State.replyOutcome reply ok))
  | leave {o} : CallStep i stored (.leave i) (.leaving o) (.ended o)

theorem CallStep.caller {i : ℕ} {stored : Prop} {a : ReplyMux.Action} {pc pc' : RequestPc}
    (h : CallStep i stored a pc pc') : caller a = some i := by
  cases h <;> rfl

/-- The entry of the call holds a reply. -/
def Stored (s : ReplyMux.State) (r : Request) : Prop :=
  ∃ m, s.replies.lookup r.token = some (some m)

/-- The call `r` with number `i` after a step: it keeps its subject, its token and what was
    delivered to it, and moves if the step was its own. -/
structure Later (s : ReplyMux.State) (a : ReplyMux.Action) (i : ℕ) (r r' : Request) : Prop where
  subject : r'.subject = r.subject
  token : r'.token = r.token
  delivered : r.delivered <+: r'.delivered
  pc : (caller a ≠ some i ∧ r'.pc = r.pc) ∨ CallStep i (Stored s r) a r.pc r'.pc

theorem later_refl {s : ReplyMux.State} {a : ReplyMux.Action} {i : ℕ} (ha : caller a ≠ some i)
    (r : Request) : Later s a i r r :=
  ⟨rfl, rfl, List.prefix_refl _, .inl ⟨ha, rfl⟩⟩

/-- The calls after a step of the call with number `j`. -/
theorem later_set {s : ReplyMux.State} {a : ReplyMux.Action} {i j : ℕ} {r q : Request}
    {pc : RequestPc} (hr : s.requests[i]? = some r) (hq : s.requests[j]? = some q)
    (hstep : CallStep j (Stored s q) a q.pc pc) :
    ∃ r', (s.requests.set j { q with pc := pc })[i]? = some r' ∧ Later s a i r r' := by
  obtain ⟨hj, -⟩ := List.getElem?_eq_some_iff.1 hq
  by_cases hij : j = i
  · subst hij
    obtain rfl : q = r := Option.some.inj (hq.symm.trans hr)
    exact ⟨_, List.getElem?_set_self hj, rfl, rfl, List.prefix_refl _, .inr hstep⟩
  · have hother : caller a ≠ some i := by simp [hstep.caller, hij]
    exact ⟨r, (List.getElem?_set_ne hij).trans hr, later_refl hother r⟩

theorem later_noteDelivery {s : ReplyMux.State} {a : ReplyMux.Action} {i : ℕ} {r : Request}
    (hr : s.requests[i]? = some r) (ha : caller a ≠ some i) (c : Callback) :
    ∃ r', (s.requests.map (State.noteDelivery c))[i]? = some r' ∧ Later s a i r r' := by
  refine ⟨State.noteDelivery c r, by simp [hr], ?_, by simp, ?_, .inl ⟨ha, by simp⟩⟩
  · unfold State.noteDelivery
    split <;> rfl
  · unfold State.noteDelivery
    split
    · exact List.prefix_append _ _
    · exact List.prefix_refl _

theorem exists_later {pre : String} {s s' : ReplyMux.State} {a : ReplyMux.Action}
    (h : ReplyMux.Step pre s a s') {i : ℕ} {r : Request} (hr : s.requests[i]? = some r) :
    ∃ r', s'.requests[i]? = some r' ∧ Later s a i r r' := by
  cases h with
  | noMux | foreign | arrive | arriveAbandoned => exact ⟨r, hr, later_refl (by simp [caller]) r⟩
  | destroyConnection | replyComplete =>
      exact ⟨r, by rwa [dropRef_requests], later_refl (by simp [caller]) r⟩
  | number c =>
      refine ⟨r, ?_, later_refl (by simp [caller]) r⟩
      exact (List.getElem?_append_left (List.getElem?_eq_some_iff.1 hr).1).trans hr
  | register hq hpc => exact later_set hr hq (hpc ▸ .register)
  | publish hq hpc hnew => exact later_set hr hq (hpc ▸ .publish hnew)
  | take hq hpc hlook => exact later_set hr hq (.take hpc)
  | giveUp hq hpc hno => exact later_set hr hq (.giveUp hpc fun ⟨m, hm⟩ => hno m hm)
  | block hq hpc hno => exact later_set hr hq (.block hpc fun ⟨m, hm⟩ => hno m hm)
  | interrupt hq hpc => exact later_set hr hq (hpc ▸ .interrupt)
  | @convert j q reply ok hq hpc =>
      have hrequests : (s.convertReply j q reply ok).requests =
          s.requests.set j { q with pc := .leaving (State.replyOutcome reply ok) } := by
        simp only [State.convertReply]
        split <;> rfl
      rw [hrequests]
      exact later_set hr hq (hpc ▸ .convert)
  | leaveGone hq hpc | leaveEmpty hq hpc | leaveReply hq hpc =>
      rw [dropRef_requests]
      exact later_set hr hq (hpc ▸ .leave)
  | @store k c hc | @drop k c hc => exact later_noteDelivery hr (by simp [caller]) c

/-! ## No wakeup is lost -/

section Lookup

variable {replies : Replies} {tok : String} {m : NatsMsg}

theorem lookup_of_insert {key : String} (h : (replies.insert key none).lookup tok = some (some m)) :
    replies.lookup tok = some (some m) := by
  by_cases htok : tok = key
  · subst htok
    simp at h
  · rwa [AList.lookup_insert_ne htok] at h

theorem lookup_of_index {key : String} (h : (replies.index key).lookup tok = some (some m)) :
    replies.lookup tok = some (some m) := by
  unfold Replies.index at h
  split at h
  · exact h
  · exact lookup_of_insert h

theorem lookup_of_erase {key : String} (h : (replies.erase key).lookup tok = some (some m)) :
    replies.lookup tok = some (some m) := by
  by_cases htok : tok = key
  · subst htok
    simp at h
  · rwa [AList.lookup_erase_ne htok] at h

theorem lookup_of_dropRef {s : ReplyMux.State} (h : s.dropRef.replies.lookup tok = some (some m)) :
    s.replies.lookup tok = some (some m) := by
  rcases dropRef_replies s with heq | ⟨hempty, -⟩
  · rwa [heq] at h
  · simp [hempty] at h

/-- Only the step that wakes the sleeping calls stores a reply. -/
theorem lookup_of_step {pre : String} {s s' : ReplyMux.State} {a : ReplyMux.Action}
    (h : ReplyMux.Step pre s a s') (hquiet : broadcasts s a = false)
    (hm : s'.replies.lookup tok = some (some m)) : s.replies.lookup tok = some (some m) := by
  cases h with
  | noMux | number | publish | interrupt | foreign | arrive | arriveAbandoned | drop => exact hm
  | register | take => exact lookup_of_insert hm
  | giveUp | block => exact lookup_of_index hm
  | convert =>
      simp only [State.convertReply] at hm
      split at hm <;> exact hm
  | leaveGone | destroyConnection | replyComplete =>
      have hbefore := lookup_of_dropRef hm
      exact hbefore
  | leaveEmpty | leaveReply => exact lookup_of_erase (lookup_of_dropRef hm)
  | store hc hlook => simp [broadcasts, hc, hlook] at hquiet

end Lookup

/-- A call that is asleep waits, and its entry holds no reply. -/
def NoLostWakeup (s : State) : Prop :=
  ∀ i ∈ s.asleep, ∃ r, s.mux.requests[i]? = some r ∧ r.pc = .blocked ∧ ¬ Stored s.mux r

theorem isBlocked_iff {s : ReplyMux.State} {i : ℕ} :
    isBlocked s i = true ↔ ∃ r, s.requests[i]? = some r ∧ r.pc = .blocked := by
  simp [isBlocked, Option.any_eq_true]

/-- A call that was asleep and is not woken by the step sleeps on. -/
theorem noLostWakeup_of_asleep {pre : String} {s : State} {mux : ReplyMux.State}
    {a : ReplyMux.Action} (h : NoLostWakeup s) (hstep : ReplyMux.Step pre s.mux a mux)
    (hquiet : broadcasts s.mux a = false) {i : ℕ} (hi : i ∈ s.asleep)
    (hpoll : ∀ expired, a ≠ .poll i expired) (hinterrupt : a ≠ .interrupt i) :
    ∃ r, mux.requests[i]? = some r ∧ r.pc = .blocked ∧ ¬ Stored mux r := by
  obtain ⟨r, hr, hpc, hno⟩ := h i hi
  obtain ⟨r', hr', hlater⟩ := exists_later hstep hr
  refine ⟨r', hr', ?_, ?_⟩
  · rcases hlater.pc with ⟨-, hsame⟩ | hown
    · exact hsame.trans hpc
    · rw [hpc] at hown
      generalize r'.pc = pc at hown
      cases hown with
      | take | giveUp | block => exact absurd rfl (hpoll _)
      | interrupt => exact absurd rfl hinterrupt
  · rintro ⟨m, hm⟩
    rw [hlater.token] at hm
    exact hno ⟨m, lookup_of_step hstep hquiet hm⟩

/-- A call falls asleep when it has found no reply. -/
theorem not_stored_of_blocked {pre : String} {s s' : ReplyMux.State} {i : ℕ} {expired : Bool}
    (h : ReplyMux.Step pre s (.poll i expired) s') {r : Request} (hr : s'.requests[i]? = some r)
    (hpc : r.pc = .blocked) : ¬ Stored s' r := by
  cases h with
  | take hq | giveUp hq =>
      obtain ⟨-, rfl⟩ := (getElem?_set_cases hq hr).resolve_right fun hne => hne.1 rfl
      cases hpc
  | block hq _ hno =>
      obtain ⟨-, rfl⟩ := (getElem?_set_cases hq hr).resolve_right fun hne => hne.1 rfl
      rintro ⟨m, hm⟩
      exact hno m (lookup_of_index hm)

theorem noLostWakeup_step {pre : String} {s s' : State} {a : Action} (h : NoLostWakeup s)
    (hs : Step pre s a s') : NoLostWakeup s' := by
  cases hs with
  | wake hasleep => exact fun i hi => h i (List.mem_of_mem_filter hi)
  | @inside a mux hawake hmux =>
      have hstep := ReplyMux.step_cases hmux
      intro i hi
      by_cases hbroadcast : broadcasts s.mux a = true
      · simp [State.asleepAfter, hbroadcast] at hi
      · have hquiet : broadcasts s.mux a = false := Bool.eq_false_of_not_eq_true hbroadcast
        have hon := fun hi : i ∈ s.asleep => noLostWakeup_of_asleep h hstep hquiet hi
        replace hi : i ∈ s.asleepAfter a mux := hi
        unfold State.asleepAfter at hi
        rw [hquiet, if_neg Bool.false_ne_true] at hi
        cases a with
        | poll j expired =>
            have hnot : j ∉ s.asleep := by simpa [sleeps] using hawake
            have hcases : (i = j ∧ isBlocked mux j = true) ∨ i ∈ s.asleep := by
              by_cases hblocked : isBlocked mux j = true
              · simpa [hblocked] using hi
              · exact .inr (by simpa [hblocked] using hi)
            rcases hcases with ⟨rfl, hblocked⟩ | hmem
            · obtain ⟨r, hr, hpc⟩ := isBlocked_iff.1 hblocked
              exact ⟨r, hr, hpc, not_stored_of_blocked hstep hr hpc⟩
            · refine hon hmem (fun _ heq => ?_) (by simp)
              obtain ⟨rfl, -⟩ := Action.poll.inj heq
              exact hnot hmem
        | interrupt j =>
            obtain ⟨hmem, hne⟩ := List.mem_filter.1 hi
            exact hon hmem (by simp) fun heq => by simp [Action.interrupt.inj heq] at hne
        | _ => exact hon hi (by simp) (by simp)

/-! ## Every call ends -/

/-- The steps of the thread of the call. -/
def ByThread (i : ℕ) : Action → Prop
  | .inside a => caller a = some i
  | .wake _ => False

/-- The steps of the thread, and the end of its wait. -/
def ByCall (i : ℕ) (a : Action) : Prop := ByThread i a ∨ a = .wake i

/-- The call has ended like this. -/
def EndedWith (i : ℕ) (s : State) (o : Outcome) : Prop :=
  ∃ r, s.mux.requests[i]? = some r ∧ r.pc = .ended o

def Ended (i : ℕ) (s : State) : Prop := ∃ o, EndedWith i s o

/-- The steps that are left, at most, when the call does not have to wait again. -/
def pcRank (asleep : Bool) : RequestPc → ℕ
  | .numbered => 7
  | .registered => 6
  | .blocked => if asleep then 5 else 4
  | .polling => 4
  | .holding _ => 3
  | .leaving _ => 2
  | .ended _ => 0

def rank (i : ℕ) (s : State) : ℕ :=
  s.mux.requests[i]?.elim 0 fun r => pcRank (s.asleep.contains i) r.pc

theorem rank_eq {i : ℕ} {s : State} {r : Request} (hr : s.mux.requests[i]? = some r) :
    rank i s = pcRank (s.asleep.contains i) r.pc := by
  rw [rank, hr, Option.elim_some]

/-- A thread that is awake can go on. -/
theorem thread_can {pre : String} {s : State} {i : ℕ} {r : Request}
    (hr : s.mux.requests[i]? = some r) (hnot : ¬ Ended i s) (hawake : i ∉ s.asleep) :
    ∃ a, ByThread i a ∧ (step pre s a).isSome := by
  have hsleeps : s.asleep.contains i = false := by simpa using hawake
  cases hpc : r.pc with
  | numbered =>
      exact ⟨.inside (.register i), rfl, by simp [step, sleeps, ReplyMux.step, hr, hpc]⟩
  | registered =>
      exact ⟨.inside (.publish i none), rfl, by simp [step, sleeps, ReplyMux.step, hr, hpc]⟩
  | polling | blocked =>
      refine ⟨.inside (.poll i false), rfl, ?_⟩
      simp [step, sleeps, ReplyMux.step, hr, hpc, hawake]
  | holding reply =>
      exact ⟨.inside (.convert i true), rfl, by simp [step, sleeps, ReplyMux.step, hr, hpc]⟩
  | leaving o =>
      exact ⟨.inside (.leave i), rfl, by simp [step, sleeps, ReplyMux.step, hr, hpc]⟩
  | ended o => exact absurd ⟨o, r, hr, hpc⟩ hnot

/-- A step of the thread lowers the rank, unless the call waits again. -/
theorem CallStep.lowers {i : ℕ} {stored : Prop} {a : ReplyMux.Action} {pc pc' : RequestPc}
    (h : CallStep i stored a pc pc') (hgoes : pc.waiting → a = .poll i false → stored)
    (asleep asleep' : Bool) : pcRank asleep' pc' < pcRank asleep pc := by
  cases h with
  | register | convert | leave => simp [pcRank]
  | publish hnew => rcases hnew with rfl | ⟨text, rfl⟩ <;> simp [pcRank]
  | take hpc | giveUp hpc => rcases hpc with rfl | rfl <;> cases asleep <;> simp [pcRank]
  | block hpc hno => exact absurd (hgoes (by rcases hpc with rfl | rfl <;> rfl) rfl) hno
  | interrupt => cases asleep <;> simp [pcRank]

theorem pcRank_mono {asleep asleep' : Bool} (h : asleep' = true → asleep = true) (pc : RequestPc) :
    pcRank asleep' pc ≤ pcRank asleep pc := by
  cases pc with
  | blocked =>
      cases asleep' with
      | false => cases asleep <;> simp [pcRank]
      | true => rw [h rfl]
  | _ => exact le_rfl

/-- The steps of others put no call to sleep. -/
theorem asleep_of_asleepAfter {s : State} {a : ReplyMux.Action} {mux : ReplyMux.State} {i : ℕ}
    (hother : caller a ≠ some i) (h : i ∈ s.asleepAfter a mux) : i ∈ s.asleep := by
  unfold State.asleepAfter at h
  split at h
  · cases h
  · cases a with
    | poll j expired =>
        have hij : i ≠ j := fun heq => hother (by rw [heq]; rfl)
        replace h : i ∈ if isBlocked mux j = true then j :: s.asleep else s.asleep := h
        split at h
        · exact (List.mem_cons.1 h).resolve_left hij
        · exact h
    | interrupt j => exact List.mem_of_mem_filter h
    | _ => exact h

/-- If the call does not wait again, a step of the call lowers the rank, and one of others does not
    raise it. -/
theorem rank_step {pre : String} {s s' : State} {a : Action} {i : ℕ} {r : Request}
    (hs : Step pre s a s') (h : NoLostWakeup s) (hr : s.mux.requests[i]? = some r)
    (hgoes : r.pc.waiting → a = .inside (.poll i false) → Stored s.mux r) :
    rank i s' ≤ rank i s ∧ (ByCall i a → rank i s' < rank i s) := by
  rw [rank_eq hr]
  cases hs with
  | @wake j hasleep =>
      rw [rank_eq (s := { s with asleep := s.asleep.filter (· != j) }) hr]
      have hmono : pcRank ((s.asleep.filter (· != j)).contains i) r.pc ≤
          pcRank (s.asleep.contains i) r.pc :=
        pcRank_mono (fun hi => List.contains_iff_mem.2
          (List.mem_of_mem_filter (List.contains_iff_mem.1 hi))) r.pc
      refine ⟨hmono, fun hcall => ?_⟩
      obtain rfl : j = i := Action.wake.inj (hcall.resolve_left id)
      obtain ⟨q, hq, hpc, -⟩ := h j hasleep
      obtain rfl : r = q := Option.some.inj (hr.symm.trans hq)
      simp [hpc, pcRank, hasleep]
  | @inside a mux hawake hmux =>
      obtain ⟨r', hr', hlater⟩ := exists_later (ReplyMux.step_cases hmux) hr
      rw [rank_eq (s := ⟨mux, s.asleepAfter a mux⟩) hr']
      rcases hlater.pc with ⟨hother, hpc⟩ | hown
      · rw [hpc]
        refine ⟨pcRank_mono (fun hi => ?_) r.pc, fun hcall => ?_⟩
        · have hi := asleep_of_asleepAfter hother (List.contains_iff_mem.1 hi)
          exact List.contains_iff_mem.2 hi
        · rcases hcall with hthread | hwake
          · exact absurd hthread hother
          · cases hwake
      · have hlt := hown.lowers (fun hwaiting ha => hgoes hwaiting (by rw [ha]))
          (s.asleep.contains i) ((s.asleepAfter a mux).contains i)
        exact ⟨Nat.le_of_lt hlt, fun _ => hlt⟩

/-! ## Behaviors -/

section Behaviors

variable {pre : String} {b : (system pre).Behavior} {i : ℕ}

theorem noLostWakeup (b : (system pre).Behavior) (n : ℕ) : NoLostWakeup (b.state n) :=
  b.invariant (fun run => run.invariant (I := NoLostWakeup) (by simp [NoLostWakeup, system])
    fun _ _ _ h hs => noLostWakeup_step h (step_cases hs)) n

theorem usedOnce (b : (system pre).Behavior) (n : ℕ) : UsedOnce (b.state n).mux :=
  b.invariant (I := fun s => UsedOnce s.mux)
    ((refinement pre).invariant (I := UsedOnce) usedOnce_run) n

/-- The call after a step of the system. -/
theorem exists_later_step {s s' : State} {a : Action} (hs : Step pre s a s') {r : Request}
    (hr : s.mux.requests[i]? = some r) :
    ∃ r', s'.mux.requests[i]? = some r' ∧ r.delivered <+: r'.delivered ∧
      (r'.pc = r.pc ∨ ∃ a, CallStep i (Stored s.mux r) a r.pc r'.pc) := by
  cases hs with
  | wake => exact ⟨r, hr, List.prefix_refl _, .inl rfl⟩
  | inside _ hmux =>
      obtain ⟨r', hr', hlater⟩ := exists_later (ReplyMux.step_cases hmux) hr
      exact ⟨r', hr', hlater.delivered, hlater.pc.imp And.right fun hown => ⟨_, hown⟩⟩

theorem exists_later_moment (b : (system pre).Behavior) {n k : ℕ} (hnk : n ≤ k) {r : Request}
    (hr : (b.state n).mux.requests[i]? = some r) :
    ∃ r', (b.state k).mux.requests[i]? = some r' ∧ r.delivered <+: r'.delivered := by
  refine b.stable (I := fun s => ∃ r', s.mux.requests[i]? = some r' ∧
    r.delivered <+: r'.delivered) ?_ hnk ⟨r, hr, List.prefix_refl _⟩
  rintro s a s' ⟨r', hr', hdelivered⟩ hs
  obtain ⟨r'', hr'', hmore, -⟩ := exists_later_step (step_cases hs) hr'
  exact ⟨r'', hr'', hdelivered.trans hmore⟩

/-- A call that does not wait again ends. -/
theorem ended_of_goes {T : Action → Prop} (hfair : b.WeaklyFair T) (hT : ∀ a, T a → ByCall i a)
    {start : ℕ} {r : Request} (hr : (b.state start).mux.requests[i]? = some r)
    (hcan : ∀ n, start ≤ n → ∀ r, (b.state n).mux.requests[i]? = some r → ¬ Ended i (b.state n) →
      ∃ a, T a ∧ (step pre (b.state n) a).isSome)
    (hgoes : ∀ n, start ≤ n → ∀ r, (b.state n).mux.requests[i]? = some r → r.pc.waiting →
      b.act n = some (.inside (.poll i false)) → Stored (b.state n).mux r) :
    ∃ n, start ≤ n ∧ Ended i (b.state n) := by
  have hthere : ∀ n, start ≤ n → ∃ r', (b.state n).mux.requests[i]? = some r' := by
    intro n hn
    obtain ⟨r', hr', -⟩ := exists_later_moment b hn hr
    exact ⟨r', hr'⟩
  have hstep : ∀ n a, start ≤ n → b.act n = some a →
      rank i (b.state (n + 1)) ≤ rank i (b.state n) ∧
        (ByCall i a → rank i (b.state (n + 1)) < rank i (b.state n)) := by
    intro n a hn hact
    obtain ⟨r', hr'⟩ := hthere n hn
    exact rank_step (step_cases (b.step_of_act hact)) (noLostWakeup b n) hr'
      fun hwaiting ha => hgoes n hn r' hr' hwaiting (ha ▸ hact)
  refine b.exists_goal_of_weaklyFair hfair (rank i) start ?_ ?_ ?_
  · intro n hn hnot
    obtain ⟨r', hr'⟩ := hthere n hn
    exact hcan n hn r' hr' hnot
  · intro n hn _
    cases hact : b.act n with
    | none => rw [b.idle_of_act hact]
    | some a => exact (hstep n a hn hact).1
  · intro n a hn _ hact hTa
    exact .inr ((hstep n a hn hact).2 (hT a hTa))

/-- No call is 2 ^ 64 calls behind, see `NoLap`. -/
def NoLapStep (s : State) : Action → Prop
  | .inside a => NoLap s.mux a
  | .wake _ => True

theorem inOrder (hlap : ∀ n a, b.act n = some a → NoLapStep (b.state n) a) (n : ℕ) :
    InOrder (b.state n).mux := by
  refine b.invariant_of_steps (I := fun s => InOrder s.mux) ?_ ?_ hlap n
  · have hnil : (Run.nil : (ReplyMux.system pre).Run).All NoLap :=
      fun _ _ _ h => absurd h (Run.not_occurs_nil _ _ _)
    exact inOrder_run .nil hnil
  · rintro s a s' ⟨hnum, hrecent, hcorr⟩ hlap hs
    cases step_cases hs with
    | wake => exact ⟨hnum, hrecent, hcorr⟩
    | inside _ hmux =>
        have hstep := ReplyMux.step_cases hmux
        exact ⟨numbered_step hnum hstep, recent_step hrecent hlap hstep,
          correlates_step (distinct_of_recent hnum hrecent) hcorr hstep⟩

/-- While a call with a reply waits, its entry holds the reply. -/
theorem stored_of_delivered {s : ReplyMux.State} (h : InOrder s) {r : Request}
    (hr : s.requests[i]? = some r) (hwaiting : r.pc.waiting) {m : NatsMsg}
    (hm : r.delivered.head? = some m) : s.replies.lookup r.token = some (some m) := by
  rw [h.correlates.entry i r hr hwaiting, hm]

theorem head?_of_isPrefix {l l' : List NatsMsg} (h : l <+: l') {m : NatsMsg}
    (hm : l.head? = some m) : l'.head? = some m := by
  obtain ⟨rest, rfl⟩ := h
  rw [List.head?_append, hm]
  rfl

/-- The call has not given up at its deadline. -/
def NotLate : RequestPc → Prop
  | .leaving o | .ended o => o ≠ .deadline
  | _ => True

theorem CallStep.notLate {stored : Prop} {a : ReplyMux.Action} {pc pc' : RequestPc}
    (h : CallStep i stored a pc pc') (hstored : pc.waiting → stored) (hlate : NotLate pc) :
    NotLate pc' := by
  cases h with
  | register | take | block => trivial
  | publish hnew => rcases hnew with rfl | ⟨text, rfl⟩ <;> simp [NotLate]
  | giveUp hpc hno => exact absurd (hstored (by rcases hpc with rfl | rfl <;> rfl)) hno
  | interrupt => simp [NotLate]
  | convert =>
      unfold NotLate State.replyOutcome
      dsimp only
      split <;> [simp; (split <;> simp)]
  | leave => exact hlate

/-- A call that a reply has come for ends by that reply, unless it is cancelled or cannot be
    published. -/
theorem ended_of_delivered (hfair : b.WeaklyFair (ByThread i))
    (hlap : ∀ n a, b.act n = some a → NoLapStep (b.state n) a) {start : ℕ} {r : Request}
    {m : NatsMsg} (hr : (b.state start).mux.requests[i]? = some r) (hwaiting : r.pc.waiting)
    (hm : r.delivered.head? = some m) :
    ∃ n o, start ≤ n ∧ EndedWith i (b.state n) o ∧
      (o.reply = some m ∨ o = .cancelled ∨ ∃ text, o = .publishFailed text) := by
  have hhead : ∀ n, start ≤ n → ∀ r', (b.state n).mux.requests[i]? = some r' →
      r'.delivered.head? = some m := by
    intro n hn r' hr'
    obtain ⟨r'', hr'', hdelivered⟩ := exists_later_moment b hn hr
    obtain rfl : r' = r'' := Option.some.inj (hr'.symm.trans hr'')
    exact head?_of_isPrefix hdelivered hm
  have hstored : ∀ n, start ≤ n → ∀ r', (b.state n).mux.requests[i]? = some r' →
      r'.pc.waiting → Stored (b.state n).mux r' := fun n hn r' hr' hw =>
    ⟨m, stored_of_delivered (inOrder hlap n) hr' hw (hhead n hn r' hr')⟩
  -- the call does not give up at its deadline
  have hlate : ∀ n, start ≤ n → ∃ r', (b.state n).mux.requests[i]? = some r' ∧ NotLate r'.pc := by
    intro n hn
    induction n, hn using Nat.le_induction with
    | base =>
        refine ⟨r, hr, ?_⟩
        cases hpc : r.pc <;> first | trivial | (rw [hpc] at hwaiting; cases hwaiting)
    | succ n hn ih =>
        obtain ⟨r', hr', hnot⟩ := ih
        rcases b.step_cases n with hidle | ⟨a, -, hs⟩
        · exact ⟨r', by rw [hidle]; exact hr', hnot⟩
        · obtain ⟨r'', hr'', -, hpc⟩ := exists_later_step (step_cases hs) hr'
          refine ⟨r'', hr'', ?_⟩
          rcases hpc with hsame | ⟨a', hown⟩
          · rwa [hsame]
          · exact hown.notLate (hstored n hn r' hr') hnot
  obtain ⟨n, hn, o, r', hr', hpc⟩ := ended_of_goes hfair (fun _ => .inl) hr
    (fun n hn r' hr' hnot => thread_can hr' hnot fun hasleep => by
      obtain ⟨q, hq, hblocked, hno⟩ := noLostWakeup b n i hasleep
      exact hno (hstored n hn q hq (by rw [hblocked]; rfl)))
    fun n hn r' hr' hw _ => hstored n hn r' hr' hw
  refine ⟨n, o, hn, ⟨r', hr', hpc⟩, ?_⟩
  obtain ⟨r'', hr'', hnot⟩ := hlate n hn
  obtain rfl : r' = r'' := Option.some.inj (hr'.symm.trans hr'')
  cases hreply : o.reply with
  | some m' =>
      have hused : r'.pc.used = some m' := by
        simpa [hpc, RequestPc.used, RequestPc.held, RequestPc.answer] using hreply
      have hfirst := (inOrder hlap n).correlates.used i r' m' hr' hused
      exact .inl (hfirst.symm.trans (hhead n hn r' hr'))
  | none =>
      rw [hpc] at hnot
      cases o with
      | publishFailed text => exact .inr (.inr ⟨text, rfl⟩)
      | deadline => exact absurd rfl hnot
      | cancelled => exact .inr (.inl rfl)
      | noResponders | conversionFailed | returned => cases hreply

/-- A call ends that looks at its entry only after its deadline from some moment on. -/
theorem ended_of_deadline (hfair : b.WeaklyFair (ByCall i)) {start : ℕ} {r : Request}
    (hr : (b.state start).mux.requests[i]? = some r)
    (hlate : ∀ n, start ≤ n → b.act n ≠ some (.inside (.poll i false))) :
    ∃ n, start ≤ n ∧ Ended i (b.state n) := by
  refine ended_of_goes hfair (fun _ h => h) hr (fun n _ r' hr' hnot => ?_)
    fun n hn _ _ _ hact => absurd hact (hlate n hn)
  by_cases hasleep : i ∈ (b.state n).asleep
  · exact ⟨.wake i, .inr rfl, by simp [step, hasleep]⟩
  · obtain ⟨a, ha, hcan⟩ := thread_can hr' hnot hasleep
    exact ⟨a, .inl ha, hcan⟩

end Behaviors

/-- Every call of `request()` ends. No wakeup is lost: a call that sleeps has no reply; no two calls
    use one message. Let the thread of a call go on as long as it can, and no call be 2 ^ 64 calls
    behind: a call that a reply comes for while it waits ends by that reply, unless it is cancelled
    or cannot be published; it needs no wait to end for that. Let its waits end, too: without a
    reply it ends once the clock has passed its deadline. -/
theorem request_ends {pre : String} (b : (system pre).Behavior) (i : ℕ) :
    (∀ n, NoLostWakeup (b.state n) ∧ UsedOnce (b.state n).mux) ∧
      (b.WeaklyFair (ByThread i) → (∀ n a, b.act n = some a → NoLapStep (b.state n) a) →
        ∀ (start : ℕ) (r : Request) (m : NatsMsg),
          (b.state start).mux.requests[i]? = some r → r.pc.waiting → r.delivered.head? = some m →
          ∃ n o, start ≤ n ∧ EndedWith i (b.state n) o ∧
            (o.reply = some m ∨ o = .cancelled ∨ ∃ text, o = .publishFailed text)) ∧
      (b.WeaklyFair (ByCall i) → ∀ (start : ℕ) (r : Request),
        (b.state start).mux.requests[i]? = some r →
        (∀ n, start ≤ n → b.act n ≠ some (.inside (.poll i false))) →
        ∃ n, start ≤ n ∧ Ended i (b.state n)) :=
  ⟨fun n => ⟨noLostWakeup b n, usedOnce b n⟩,
    fun hfair hlap _ _ _ hr hwaiting hm => ended_of_delivered hfair hlap hr hwaiting hm,
    fun hfair _ _ hr hlate => ended_of_deadline hfair hr hlate⟩

/-- The first call waits and gets its reply; the second one waits until its deadline. -/
def twoCallsActs : List Action :=
  [.inside (.request "a" 10 .subscribed), .inside (.register 0), .inside (.publish 0 none),
    .inside (.poll 0 false), .inside (.request "b" 10 .subscribed), .inside (.register 1),
    .inside (.publish 1 none), .inside (.poll 1 false),
    .inside (.arrive ⟨1, some "_INBOX.x.1", false⟩), .inside (.dispatch 0),
    .inside (.poll 0 false), .inside (.convert 0 true), .inside (.leave 0), .inside (.poll 1 false),
    .wake 1, .inside (.poll 1 true), .inside (.leave 1)]

def twoCallsRun : (system "_INBOX.x.").Run :=
  (system "_INBOX.x.").runOf twoCallsActs (by decide)

def twoCalls : (system "_INBOX.x.").Behavior := .idleAfter twoCallsRun

/-- Both calls are through at the end. -/
theorem twoCallsRun_through {i : ℕ} (hi : i < 2) {a : Action} (ha : ByCall i a) :
    (system "_INBOX.x.").step twoCallsRun.final a = none := by
  have hended : ∃ r o, twoCallsRun.final.mux.requests[i]? = some r ∧ r.pc = .ended o := by
    interval_cases i <;> exact ⟨_, _, rfl, rfl⟩
  obtain ⟨r, o, hr, hpc⟩ := hended
  rcases ha with hthread | rfl
  · cases a with
    | wake j => exact hthread.elim
    | inside a =>
        cases a
        all_goals cases hthread
        all_goals simp [system, step, ReplyMux.step, hr, hpc]
  · have hasleep : twoCallsRun.final.asleep = [] := rfl
    simp [system, step, hasleep]

theorem twoCalls_noLap (n : ℕ) (a : Action) (_ : twoCalls.act n = some a) :
    NoLapStep (twoCalls.state n) a := by
  have hlength : (twoCalls.state n).mux.requests.length ≤ 2 := by
    have hend : twoCalls.state (max n 17) = twoCallsRun.final :=
      TransitionSystem.Behavior.idleAfter_state twoCallsRun (le_max_right n 17)
    have hle := twoCalls.stable (I := fun s =>
      (twoCalls.state n).mux.requests.length ≤ s.mux.requests.length) (fun s a s' hle hs => by
        cases step_cases hs with
        | wake => exact hle
        | inside _ hmux => exact hle.trans (length_le_of_step (ReplyMux.step_cases hmux)))
      (le_max_left n 17) le_rfl
    rw [hend] at hle
    exact hle
  cases a with
  | wake => trivial
  | inside a =>
      cases a with
      | request =>
          intro j _ _ _
          exact (hlength.trans_lt (by decide)).trans_le (Nat.le_add_left _ j)
      | _ => trivial

theorem request_ends_twoCalls :
    (∃ n o, EndedWith 0 (twoCalls.state n) o ∧
      (o.reply = some ⟨1, some "_INBOX.x.1", false⟩ ∨ o = .cancelled ∨
        ∃ text, o = .publishFailed text)) ∧
    ∃ n, Ended 1 (twoCalls.state n) := by
  constructor
  · have hfair : twoCalls.WeaklyFair (ByThread 0) :=
      TransitionSystem.Behavior.idleAfter_weaklyFair twoCallsRun
        fun a ha => twoCallsRun_through (by decide) (.inl ha)
    obtain ⟨n, o, -, hend, hreply⟩ := (request_ends twoCalls 0).2.1 hfair
      twoCalls_noLap 10 _ ⟨1, some "_INBOX.x.1", false⟩ rfl rfl rfl
    exact ⟨n, o, hend, hreply⟩
  · have hfair : twoCalls.WeaklyFair (ByCall 1) :=
      TransitionSystem.Behavior.idleAfter_weaklyFair twoCallsRun
        fun a ha => twoCallsRun_through (by decide) ha
    have hlate : ∀ n, 14 ≤ n → twoCalls.act n ≠ some (.inside (.poll 1 false)) := by
      intro n hn h
      have hlength : n < 17 := (List.getElem?_eq_some_iff.1 h).1
      interval_cases n <;> cases h
    obtain ⟨n, -, hend⟩ := (request_ends twoCalls 1).2.2 hfair 14 _ rfl hlate
    exact ⟨n, hend⟩

end ModuleNats.ReplyMux.Wakeup
