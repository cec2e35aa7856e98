import ModuleNats.JetStream.Values
import ModuleNats.Lib.Storage
import ModuleNats.NatsHelper

set_option autoImplicit false

/-! # Strings that the C client reads later

Three functions copy Qore strings to a container and hand pointers to the copies to the C client
when all are there: `QoreNatsKVStore::watchMulti()` for the keys, `configureOptions()` for the
`servers`, and `NatsStringStorage::add()` for the strings of a JetStream configuration. The first
two reserve as much of a vector as they need, the last one uses a deque.

So the C client finds every string at its pointer (`stored_strings_are_read`): without that, a short
string, whose characters are in the string object itself (`inline`), would have been moved.

What the C client reads at a pointer ends at the first NUL of the string. -/

namespace ModuleNats.CStrings

open Storage (Container)

variable (inline : String → Bool)

/-- What the C client reads at a pointer. -/
def readAt (s : Container String) (p : ℕ) : Option CString := (s.read p).map CString.add

/-! ## The keys of a watcher -/

def notString (i : ℕ) : ExceptionInfo :=
  ⟨"NATS-KV-ERROR", "keys list element " ++ toString i ++ " is not a string"⟩

/-- The loop of `watchMulti()` over the keys, from the one with number `i`; an element that is not a
    string is `none`. -/
def keyPointers (s : Container String) (i : ℕ) :
    List (Option String) → Except ExceptionInfo (List ℕ × Container String)
  | [] => .ok ([], s)
  | none :: _ => .error (notString i)
  | some key :: keys => do
      let added := s.emplaceBack inline key
      let rest ← keyPointers added.2 (i + 1) keys
      pure (added.1 :: rest.1, rest.2)

/-- `QoreNatsKVStore::watchMulti()`; `refuses` is the exception that it raises without a store or
    when its thread is cancelled, and `watch` is `kvStore_WatchMulti()`, with what it reads at the
    pointers. -/
def watchMulti (refuses : Option ExceptionInfo)
    (watch : List (Option CString) → Int32 → Except String Unit) (keys : List (Option String)) :
    Except ExceptionInfo Unit :=
  match refuses with
  | some ex => .error ex
  | none =>
      if keys.length = 0 then .error ⟨"NATS-KV-ERROR", "keys list must not be empty"⟩
      else do
        let stored ← keyPointers inline (.reserved keys.length) 0 keys
        (watch (stored.1.map (readAt stored.2)) (Int32.ofNat keys.length)).mapError
          (natsError "NATS-KV-ERROR" "failed to watch multiple keys")

/-! ## The servers of a connection -/

/-- The loop of `configureOptions()` over the servers; the pointer to the literal `""`, which an
    element that is not a string gets, is `none`. -/
def serverPointers (s : Container String) :
    List (Option String) → List (Option ℕ) × Container String
  | [] => ([], s)
  | none :: servers =>
      let rest := serverPointers s servers
      (none :: rest.1, rest.2)
  | some server :: servers =>
      let added := s.emplaceBack inline server
      let rest := serverPointers added.2 servers
      (some added.1 :: rest.1, rest.2)

/-- `count`, the size cast to an `int`; without a positive one no server is set. -/
def serverCount (servers : List (Option String)) : ℕ :=
  (Int32.ofNat servers.length).toInt.toNat

/-- What the C client reads at the pointers to the servers. -/
def serversRead (servers : List (Option String)) : List (Option CString) :=
  let count := serverCount servers
  let stored := serverPointers inline (.reserved count) (servers.take count)
  stored.1.map fun p => p.elim (some (.add "")) (readAt stored.2)

/-! ## The strings of a configuration -/

/-- What the C client reads at the pointers that `NatsStringStorage::add()` has returned. -/
def storageRead (strings : List String) : List (Option CString) :=
  let stored := Container.deque.addAll inline strings
  stored.1.map (readAt stored.2)

/-! ## What is read -/

variable {inline}

theorem map_readAt {s : Container String} {ps : List ℕ} {l : List String}
    (h : ps.map s.read = l.map some) :
    ps.map (readAt s) = l.map fun str => some (CString.add str) := by
  have hmap := congrArg (List.map (Option.map CString.add)) h
  rw [List.map_map, List.map_map] at hmap
  exact hmap

/-- A list of strings goes into the container as it is. -/
theorem keyPointers_strings (s : Container String) (i : ℕ) (keys : List String) :
    keyPointers inline s i (keys.map some) = .ok (s.addAll inline keys) := by
  induction keys generalizing s i with
  | nil => rfl
  | cons key keys ih =>
      rw [List.map_cons, keyPointers, ih]
      rfl

/-- The first element that is not a string ends the loop. -/
theorem keyPointers_not_string (s : Container String) (i : ℕ) (keys : List String)
    (rest : List (Option String)) :
    keyPointers inline s i (keys.map some ++ none :: rest) =
      .error (notString (i + keys.length)) := by
  induction keys generalizing s i with
  | nil => rfl
  | cons key keys ih =>
      rw [List.map_cons, List.cons_append, keyPointers, ih]
      show Except.error (notString (i + 1 + keys.length)) = _
      rw [List.length_cons, Nat.add_assoc, Nat.add_comm 1]

/-- What is read of the servers, if the container has room for them. -/
theorem read_serverPointers {s : Container String} (servers : List (Option String))
    (hfresh : s.Fresh) (hroom : s.HasRoom servers.length) :
    s.cells <+: (serverPointers inline s servers).2.cells ∧
      (serverPointers inline s servers).1.map
          (fun p => p.elim (some (.add "")) (readAt (serverPointers inline s servers).2)) =
        servers.map fun server => some (CString.add (server.getD "")) := by
  induction servers generalizing s with
  | nil => exact ⟨List.prefix_refl _, rfl⟩
  | cons server servers ih =>
      cases server with
      | none =>
          obtain ⟨hkept, hrest⟩ := ih hfresh (hroom.mono (Nat.le_succ _))
          exact ⟨hkept, congrArg (some (CString.add "") :: ·) hrest⟩
      | some server =>
          have hadded := Container.added inline hfresh hroom server
          obtain ⟨hkept, hrest⟩ := ih hadded.fresh hadded.room
          refine ⟨hadded.kept.trans hkept, ?_⟩
          have hcons : serverPointers inline s (some server :: servers) =
              (some (s.emplaceBack inline server).1 ::
                (serverPointers inline (s.emplaceBack inline server).2 servers).1,
                (serverPointers inline (s.emplaceBack inline server).2 servers).2) := rfl
          have hfirst := Container.read_of_isPrefix hkept hadded.read
          rw [hcons, List.map_cons, hrest, Option.elim_some, readAt, hfirst]
          rfl

theorem serverCount_eq_length_iff {servers : List (Option String)} :
    serverCount servers = servers.length ↔ CArray.FitsLength servers := by
  constructor
  · intro hcount
    have hmax := Int32.toInt_le (Int32.ofNat servers.length)
    rw [Int32.toInt_maxValue] at hmax
    rw [CArray.FitsLength, ← hcount, serverCount, Int32.toInt_maxValue]
    omega
  · intro hfits
    rw [serverCount, CArray.toInt_length hfits, Int.toNat_natCast]

/-- The result of `watchMulti()`. -/
def watched (refuses : Option ExceptionInfo)
    (watch : List (Option CString) → Int32 → Except String Unit) (keys : List (Option String)) :
    Except ExceptionInfo Unit :=
  match refuses with
  | some ex => .error ex
  | none =>
      if keys = [] then .error ⟨"NATS-KV-ERROR", "keys list must not be empty"⟩
      else match keys.findIdx? Option.isNone with
        | some i => .error (notString i)
        | none => (watch (keys.map (Option.map CString.add)) (Int32.ofNat keys.length)).mapError
            (natsError "NATS-KV-ERROR" "failed to watch multiple keys")

/-- A list begins with strings only, up to the first element that is none. -/
theorem strings_cases (keys : List (Option String)) :
    (keys.findIdx? Option.isNone = none ∧ ∃ strs : List String, keys = strs.map some) ∨
      ∃ (strs : List String) (rest : List (Option String)),
        keys = strs.map some ++ none :: rest ∧
          keys.findIdx? Option.isNone = some strs.length := by
  induction keys with
  | nil => exact .inl ⟨rfl, [], rfl⟩
  | cons key keys ih =>
      cases key with
      | none => exact .inr ⟨[], keys, rfl, rfl⟩
      | some str =>
          rcases ih with ⟨hnone, strs, rfl⟩ | ⟨strs, rest, rfl, hfind⟩
          · refine .inl ⟨?_, str :: strs, rfl⟩
            rw [List.findIdx?_cons, hnone]
            rfl
          · refine .inr ⟨str :: strs, rest, rfl, ?_⟩
            rw [List.findIdx?_cons, hfind]
            rfl

theorem watchMulti_eq (refuses : Option ExceptionInfo)
    (watch : List (Option CString) → Int32 → Except String Unit) (keys : List (Option String)) :
    watchMulti inline refuses watch keys = watched refuses watch keys := by
  unfold watchMulti watched
  cases refuses with
  | some ex => rfl
  | none =>
      by_cases hnil : keys = []
      · rw [hnil]
        rfl
      · simp only [List.length_eq_zero_iff, if_neg hnil]
        rcases strings_cases keys with ⟨hfind, strs, rfl⟩ | ⟨strs, rest, rfl, hfind⟩
        · have hread := Container.map_read_addAll inline (l := strs)
            (Container.fresh_reserved (strs.map some).length)
            (Container.hasRoom_reserved (by rw [List.length_map]))
          rw [keyPointers_strings, hfind, List.map_map]
          show Except.mapError _ (watch _ _) = _
          rw [map_readAt hread]
          rfl
        · rw [keyPointers_not_string, hfind, Nat.zero_add]
          rfl

/-- Whichever strings keep their characters inside of the string object: the C client reads each
    string at its pointer, for the keys of a watcher, the servers of a connection (all of them if
    and only if their number fits in an `int`) and the strings of a configuration. Had
    `watchMulti()` reserved less, it would not read some key: `k` short strings can be read after
    `reserve(n)` if and only if `k ≤ max 1 n`. -/
theorem stored_strings_are_read (inline : String → Bool) :
    (∀ refuses watch keys, watchMulti inline refuses watch keys = watched refuses watch keys) ∧
      (∀ servers : List (Option String), serversRead inline servers =
        (servers.take (serverCount servers)).map
          (fun server => some (CString.add (server.getD ""))) ∧
        (serverCount servers = servers.length ↔ CArray.FitsLength servers)) ∧
      (∀ strings : List String, storageRead inline strings =
        strings.map fun str => some (CString.add str)) ∧
      ∀ str, inline str = true → ∀ n k : ℕ, (∀ l : List String, l.length = k →
        ((Container.reserved n).addAll inline l).1.map
          ((Container.reserved n).addAll inline l).2.read = l.map some) ↔ k ≤ max 1 n := by
  refine ⟨watchMulti_eq, fun servers => ?_, fun strings => ?_, fun str => Container.readable_iff⟩
  · have hroom : (servers.take (serverCount servers)).length ≤ serverCount servers :=
      List.length_take_le _ _
    exact ⟨(read_serverPointers _ (Container.fresh_reserved _)
      (Container.hasRoom_reserved hroom)).2, serverCount_eq_length_iff⟩
  · exact map_readAt
      (Container.map_read_addAll inline Container.fresh_deque (Container.hasRoom_deque _))

end ModuleNats.CStrings
