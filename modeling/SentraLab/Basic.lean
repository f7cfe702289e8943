import Mathlib.Data.List.Basic

/-!
# Shared vocabulary of the engine model

The engine's error type, as its call sites in `interception/`, `recording/` and
`runtime/` construct it (the `utils::errors` module itself is not part of the sources),
the byte strings the recorder and the storage pass around, and runs of a step function.

Every stateful component is modelled the same way: a state record, an action type whose
constructors carry the choices the environment makes (which task moves, which call fails),
and `step : σ → α → Option σ`, `none` when the action is not enabled. `Reach` is the set
of states runs reach; `Reach.induct` turns one lemma per step into an invariant of every
reachable state; `reach_of_runSteps` replays a concrete run, which is how the
counterexamples below are checked.
-/

namespace SentraLab

/-- `EngineError`, with the variants the modelled code constructs. The payload of a
`String` variant is the message the code formats; the text of an underlying I/O or
database error is either left out or, where the model keeps it, a parameter of the call that
fails. -/
inductive EngineError where
  | configError (msg : String)
  | recordingFailed (msg : String)
  | compressionFailed (msg : String)
  | storageFailed (msg : String)
  | processSpawnFailed (msg : String)
  | runtimeError (msg : String)
  | executionTimeout
  | poolExhausted
deriving DecidableEq, Repr

/-- A byte string (`Vec<u8>` / `&[u8]`). -/
abbrev Bytes := List UInt8

section Runs

variable {σ α : Type}

/-- The states reached from `init` by steps that `allowed` admits. -/
inductive Reach (step : σ → α → Option σ) (allowed : σ → α → Bool) (init : σ) : σ → Prop where
  | init : Reach step allowed init init
  | step {s s' : σ} {a : α} :
      Reach step allowed init s → allowed s a = true → step s a = some s' →
        Reach step allowed init s'

/-- An invariant that holds initially and that every admitted step keeps holds in every
reachable state. -/
theorem Reach.induct {step : σ → α → Option σ} {allowed : σ → α → Bool} {init : σ}
    (P : σ → Prop) (h0 : P init)
    (hstep : ∀ {s s' : σ} {a : α}, P s → allowed s a = true → step s a = some s' → P s')
    {s : σ} (h : Reach step allowed init s) : P s := by
  induction h with
  | init => exact h0
  | step _ ha hs ih => exact hstep ih ha hs

/-- A run whose steps `allowed` admits is also one of a larger `allowed'`. -/
theorem Reach.mono {step : σ → α → Option σ} {allowed allowed' : σ → α → Bool} {init s : σ}
    (hle : ∀ s a, allowed s a = true → allowed' s a = true) (h : Reach step allowed init s) :
    Reach step allowed' init s := by
  induction h with
  | init => exact .init
  | step _ ha hs ih => exact .step ih (hle _ _ ha) hs

/-- Runs the actions in order; `none` as soon as one is not admitted or not enabled. -/
def runSteps (step : σ → α → Option σ) (allowed : σ → α → Bool) : σ → List α → Option σ
  | s, [] => some s
  | s, a :: as => if allowed s a then (step s a).bind (runSteps step allowed · as) else none

theorem Reach.runSteps {step : σ → α → Option σ} {allowed : σ → α → Bool} {init : σ} :
    ∀ {as : List α} {s s' : σ}, Reach step allowed init s →
      SentraLab.runSteps step allowed s as = some s' → Reach step allowed init s'
  | [], _, _, hs, h => by cases h; exact hs
  | a :: as, s, s', hs, h => by
    simp only [SentraLab.runSteps] at h
    split at h
    · rename_i ha
      cases hn : step s a with
      | none => simp [hn] at h
      | some s₁ =>
        simp only [hn, Option.bind_some] at h
        exact Reach.runSteps (.step hs ha hn) h
    · cases h

/-- A concrete run that ends in a state where `p` holds exhibits a reachable such state. -/
theorem reach_of_runSteps (step : σ → α → Option σ) (allowed : σ → α → Bool) (init : σ)
    (as : List α) (p : σ → Bool)
    (h : (runSteps step allowed init as).map p = some true) :
    ∃ s, Reach step allowed init s ∧ p s = true := by
  cases hr : runSteps step allowed init as with
  | none => simp [hr] at h
  | some s =>
    simp only [hr, Option.map_some', Option.some.injEq] at h
    exact ⟨s, Reach.runSteps .init hr, h⟩

end Runs

end SentraLab
