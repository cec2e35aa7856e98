import ModuleNats.Lib.Transition

set_option autoImplicit false

/-! # Workers with a stop flag

A worker runs until its stop flag is set, or until a call that it makes raises an exception; others
read the flag to learn whether the worker is still there. The flag tells them the truth as long as
every exception comes after it has been set. -/

/-- The stop flag of a worker, and what of a system it is about. -/
structure StopFlag {σ α : Type*} (M : TransitionSystem σ α) where
  stopping : σ → Bool
  /-- the worker has ended, or is about to -/
  ending : σ → Prop
  /-- the action makes a call of the worker raise an exception -/
  raises : σ → α → Prop
  init : ¬ ending M.init
  keeps : ∀ s a s', M.step s a = some s' → stopping s = true → stopping s' = true
  ends : ∀ s a s', M.step s a = some s' → ending s' → ending s ∨ stopping s' = true ∨ raises s a

namespace StopFlag

variable {σ α : Type*} {M : TransitionSystem σ α} (F : StopFlag M)

/-- The action makes a call raise an exception, and the flag is not set. -/
def RaisesUnstopped (s : σ) (a : α) : Prop := F.raises s a ∧ F.stopping s = false

/-- What has ended the worker has set the flag. -/
def StoppedFirst (s : σ) : Prop := F.ending s → F.stopping s = true

variable {F}

theorem stoppedFirst_step {s s' : σ} {a : α} (h : F.StoppedFirst s)
    (ha : ¬ F.RaisesUnstopped s a) (hs : M.step s a = some s') : F.StoppedFirst s' := by
  intro hending
  rcases F.ends s a s' hs hending with hbefore | hset | hraises
  · exact F.keeps s a s' hs (h hbefore)
  · exact hset
  · by_cases hset : F.stopping s = true
    · exact F.keeps s a s' hs hset
    · exact absurd ⟨hraises, by simpa using hset⟩ ha

/-- In a run in which every exception comes after the flag has been set, the flag is set wherever
    the worker has ended. -/
theorem stoppedFirst_of_reached {run : M.Run} (h : run.All fun s a => ¬ F.RaisesUnstopped s a)
    {s : σ} (hs : run.Reached s) : F.StoppedFirst s := by
  refine TransitionSystem.Run.reached_invariant_of_all (I := F.StoppedFirst) ?_
    (fun _ _ _ h ha hstep => stoppedFirst_step h ha hstep) h hs
  intro hending
  exact absurd hending F.init

end StopFlag
