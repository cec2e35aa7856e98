import Mathlib.Tactic.Common

set_option autoImplicit false

/-! # Exceptions and messages shared by the whole module

The parts of `NatsHelper.cpp` that every wrapper uses: how a status of the C client becomes a Qore
exception, and what the wrappers read of a `natsMsg`. The texts that the C client has for its
statuses are not part of the module, so a failed status carries its own text. -/

namespace ModuleNats

/-- The part of a Qore exception that handlers read: `ex.err` and `ex.desc`. -/
structure ExceptionInfo where
  err : String
  desc : String
deriving DecidableEq, Repr

/-- `nats_error()`: the description, followed by the text of the status. -/
def natsError (err desc statusText : String) : ExceptionInfo :=
  ⟨err, desc ++ ": " ++ statusText⟩

/-- `nats_js_error()`: like `nats_error()`, with the JetStream error code if there is one. -/
def natsJsError (err desc statusText : String) (jerr : ℕ) : ExceptionInfo :=
  ⟨err, desc ++ ": " ++ statusText ++
    (if jerr = 0 then "" else " (JetStream error code: " ++ toString jerr ++ ")")⟩

/-- The call that an exception was raised by, in the threads that forward messages. -/
inductive Source where
  | receive
  | send
  | iterator
  | observer
deriving DecidableEq, Repr

/-- An exception with its origin, which tells apart exceptions that look alike. -/
structure Raised where
  source : Source
  info : ExceptionInfo
deriving DecidableEq, Repr

/-- What the wrappers ask of a `natsMsg`: which object it is, `natsMsg_GetSubject()` (which can be
    `NULL`) and `natsMsg_IsNoResponders()`. -/
structure NatsMsg where
  id : ℕ
  subject : Option String
  noResponders : Bool
deriving DecidableEq, Repr

end ModuleNats
