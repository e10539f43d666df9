import Mathlib.Order.Bounds.Defs
import TelemetryExport.Store.Retry

/-! # How often a query is asked

A query is asked again for a failure that may pass, of a busy file or of a table in use
(`Error.MayPass`); every other outcome settles it.  `RetryPolicy.run` takes the outcomes of one
attempt after the other as a sequence, and what it makes of them is read off their first
(`run_once`, `run_again`): either that is all, or the rest of the sequence is run with one
repetition less.  By induction on the repetitions, `RetryPolicy.run_repeated` says how many
attempts there are, which of them is answered with and what is announced. -/

namespace TelemetryExport
namespace Store

/-- The file is busy or the table in use, by the number of the failure. -/
def Error.MayPass (e : Error) : Prop :=
  ∃ number text, e.code? = some (number, text) ∧
    (number % 256 = busyNumber ∨ number % 256 = inUseNumber)

theorem Error.isTransient_iff {e : Error} : e.isTransient = true ↔ e.MayPass := by
  unfold isTransient MayPass
  cases e.code? with
  | none => simp
  | some code => simp [Prod.ext_iff]

/-- Nothing is gained by asking again. -/
def Settled {α : Type} : Except Error α → Prop
  | .ok _ => True
  | .error e => ¬ e.MayPass

theorem settled_or_mayPass {α : Type} (outcome : Except Error α) :
    Settled outcome ∨ ∃ e, outcome = .error e ∧ e.MayPass := by
  cases outcome with
  | ok a => exact .inl trivial
  | error e =>
      by_cases he : e.MayPass
      · exact .inr ⟨e, rfl, he⟩
      · exact .inl he

namespace RetryPolicy

variable {α : Type}

/-! ### One attempt -/

theorem runFrom_succ (times times' delayMs : Nat) (attempts : Nat → Except Error α)
    (left k : Nat) :
    (RetryPolicy.mk times delayMs).runFrom attempts left (k + 1) =
      (RetryPolicy.mk times' delayMs).runFrom (fun i => attempts (i + 1)) left k := by
  induction left generalizing k with
  | zero => rfl
  | succ left ih =>
      unfold runFrom
      rw [ih]
      rfl

theorem run_once {p : RetryPolicy} {attempts : Nat → Except Error α}
    (h : p.times = 0 ∨ Settled (attempts 0)) : p.run attempts = ⟨1, attempts 0, []⟩ := by
  unfold run
  cases hleft : p.times with
  | zero => rfl
  | succ left =>
      have hsettled := h.resolve_left (by omega)
      unfold runFrom
      cases hfirst : attempts 0 with
      | ok a => rfl
      | error e =>
          rw [hfirst] at hsettled
          dsimp only
          rw [if_neg (mt Error.isTransient_iff.mp hsettled)]

theorem run_again {times delayMs : Nat} {attempts : Nat → Except Error α} {e : Error}
    (hfirst : attempts 0 = .error e) (he : e.MayPass) {later : Tried α}
    (hlater : (RetryPolicy.mk times delayMs).run (fun i => attempts (i + 1)) = later) :
    (RetryPolicy.mk (times + 1) delayMs).run attempts =
      ⟨later.attempts + 1, later.outcome, (RetryPolicy.mk times delayMs).announce e ++ later.log⟩ := by
  show (RetryPolicy.mk (times + 1) delayMs).runFrom attempts (times + 1) 0 = _
  unfold runFrom
  rw [hfirst]
  dsimp only
  rw [if_pos (Error.isTransient_iff.mpr he), runFrom_succ (times + 1) times]
  subst hlater
  rfl

/-! ### All attempts -/

/-- What asking comes to, by the outcomes that one attempt after the other would have. -/
structure Repeated (p : RetryPolicy) (attempts : Nat → Except Error α) (tried : Tried α) :
    Prop where
  /-- There are as many attempts as the policy allows, or as it takes to settle the query. -/
  attempts_isLeast :
    IsLeast {m | m = p.times + 1 ∨ ∃ i, m = i + 1 ∧ Settled (attempts i)} tried.attempts
  /-- The last one is answered with. -/
  outcome_eq : tried.outcome = attempts (tried.attempts - 1)
  /-- Every other one failed, and is announced by its failure and the delay after it. -/
  log_eq : ∃ errors : List Error, errors.length + 1 = tried.attempts ∧
    (∀ i (h : i < errors.length), attempts i = .error errors[i] ∧ errors[i].MayPass) ∧
    tried.log = errors.flatMap fun e =>
      [⟨.warn, e.message⟩, ⟨.info, "Retrying query in " ++ delayText p.delayMs⟩]
  /-- No later attempt is looked at, so there need not be one. -/
  run_eq : ∀ attempts', (∀ i < tried.attempts, attempts' i = attempts i) →
    p.run attempts' = tried

theorem repeated_once {p : RetryPolicy} {attempts : Nat → Except Error α}
    (h : p.times = 0 ∨ Settled (attempts 0)) : Repeated p attempts ⟨1, attempts 0, []⟩ := by
  refine ⟨⟨?_, ?_⟩, rfl, ⟨[], rfl, nofun, rfl⟩, fun attempts' heq => ?_⟩
  · exact h.imp (fun h => by rw [h]) fun h => ⟨0, rfl, h⟩
  · rintro m (rfl | ⟨i, rfl, -⟩) <;> exact Nat.le_add_left 1 _
  · have hfirst : attempts' 0 = attempts 0 := heq 0 Nat.one_pos
    rw [run_once (hfirst ▸ h), hfirst]

theorem Repeated.again {times delayMs : Nat} {attempts : Nat → Except Error α} {e : Error}
    {later : Tried α} (hfirst : attempts 0 = .error e) (he : e.MayPass)
    (h : Repeated (RetryPolicy.mk times delayMs) (fun i => attempts (i + 1)) later) :
    Repeated (RetryPolicy.mk (times + 1) delayMs) attempts
      ⟨later.attempts + 1, later.outcome, (RetryPolicy.mk times delayMs).announce e ++ later.log⟩ := by
  obtain ⟨errors, hlength, herrors, hlog⟩ := h.log_eq
  refine ⟨⟨?_, ?_⟩, ?_, ⟨e :: errors, ?_, ?_, ?_⟩, fun attempts' heq => ?_⟩
  · rcases h.attempts_isLeast.1 with htimes | ⟨i, hi, hsettled⟩
    · exact .inl (congrArg (· + 1) htimes)
    · exact .inr ⟨i + 1, congrArg (· + 1) hi, hsettled⟩
  · rintro m (rfl | ⟨i, rfl, hsettled⟩)
    · exact Nat.succ_le_succ (h.attempts_isLeast.2 (.inl rfl))
    · cases i with
      | zero =>
          rw [hfirst] at hsettled
          exact absurd he hsettled
      | succ i => exact Nat.succ_le_succ (h.attempts_isLeast.2 (.inr ⟨i, rfl, hsettled⟩))
  · rw [h.outcome_eq, ← hlength]
    rfl
  · exact congrArg (· + 1) hlength
  · rintro (_ | i) hi
    · exact ⟨hfirst, he⟩
    · exact herrors i (Nat.lt_of_succ_lt_succ hi)
  · rw [hlog]
    rfl
  · have hfirst' : attempts' 0 = .error e := (heq 0 (Nat.succ_pos _)).trans hfirst
    have hlater := h.run_eq (fun i => attempts' (i + 1)) fun i hi =>
      heq (i + 1) (Nat.succ_lt_succ hi)
    exact run_again hfirst' he hlater

/-- **A query is asked up to the first outcome that settles it**, and no more often than the policy
allows; with the last attempt it is answered. -/
theorem run_repeated (p : RetryPolicy) (attempts : Nat → Except Error α) :
    Repeated p attempts (p.run attempts) := by
  obtain ⟨times, delayMs⟩ := p
  induction times generalizing attempts with
  | zero =>
      rw [run_once (.inl rfl)]
      exact repeated_once (.inl rfl)
  | succ times ih =>
      rcases settled_or_mayPass (attempts 0) with hsettled | ⟨e, hfirst, he⟩
      · rw [run_once (.inr hsettled)]
        exact repeated_once (.inr hsettled)
      · rw [run_again hfirst he rfl]
        exact (ih fun i => attempts (i + 1)).again hfirst he

/-- Two attempts meet a lock; the third is answered, and there is no fourth. -/
example : (RetryPolicy.mk 3 100).run (fun i => if i < 2 then .error .locked else .ok i) =
    ⟨3, .ok 2, [⟨.warn, "database is locked"⟩, ⟨.info, "Retrying query in 100ms"⟩,
      ⟨.warn, "database is locked"⟩, ⟨.info, "Retrying query in 100ms"⟩]⟩ := rfl

end RetryPolicy
end Store
end TelemetryExport
