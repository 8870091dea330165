import Pingoo.Library.Interruption
import Pingoo.Library.ProgramLogs

namespace Pingoo

/-!
# Trying again

An operation is tried until it succeeds, a number of times at most.
-/

open Interaction Program

variable {query : Type} {answer : query → Type} {σ ε α : Type}

/-- The loop of `retry`: the next attempt, with some more after it. -/
def retryLoop
    (operation : Program query answer (Except ε α)) :
    Nat → Program query answer (Except ε α)
  | 0 =>
      operation
  | left + 1 => do
      match ← operation with
      | .ok val => pure (.ok val)
      | .error _ => retryLoop operation left

/-- `retry`, without the delays between the attempts. -/
def retry
    (operation : Program query answer (Except ε α))
    (retries : Nat) : Program query answer (Except ε α) :=
  retryLoop operation (retries - 1)

section Guards

variable
  {effect : σ → (asked : query) → answer asked → σ → Prop}
  {guarded begins : σ → Prop}
  {promised : Except ε α → σ → Prop}
  {operation : Program query answer (Except ε α)}

theorem guards_retryLoop
    (attempt :
      ∀ state, begins state →
        Guards effect guarded promised operation state)
    (again : ∀ err state, promised (.error err) state → begins state)
    (left : Nat)
    {state : σ}
    (isBegin : begins state) :
    Guards effect guarded promised (retryLoop operation left) state := by
  induction left generalizing state with
  | zero =>
      exact attempt state isBegin
  | succ left inductionHypothesis =>
      refine (attempt state isBegin).bind
        fun result later isGuarded isPromised => ?_
      cases result with
      | ok val =>
          exact .pure isGuarded isPromised
      | error err =>
          exact inductionHypothesis (again err later isPromised)

/--
An operation that can be tried again wherever it fails keeps its promise when it
is tried again.
-/
theorem guards_retry
    (attempt :
      ∀ state, begins state →
        Guards effect guarded promised operation state)
    (again : ∀ err state, promised (.error err) state → begins state)
    (retries : Nat)
    {state : σ}
    (isBegin : begins state) :
    Guards effect guarded promised (retry operation retries) state :=
  guards_retryLoop attempt again _ isBegin

end Guards

section Ends

variable {operation : Program query answer (Except ε α)}
variable {log : List (AnsweredQuery query answer)}
variable {result : Except ε α}

/-- The logs of attempts that failed. -/
def AllFail
    (operation : Program query answer (Except ε α))
    (failures : List (List (AnsweredQuery query answer))) : Prop :=
  ∀ failed ∈ failures, ∃ err, Ends operation failed (.error err)

/--
Some attempts fail, and then one ends the loop: it succeeds, or it is the last.
-/
theorem ends_retryLoop_iff (left : Nat) :
    Ends (retryLoop operation left) log result ↔
      ∃ failures last,
        AllFail operation failures ∧ log = failures.flatten ++ last ∧
          Ends operation last result ∧ failures.length ≤ left ∧
          ∀ err, result = .error err → failures.length = left := by
  induction left generalizing log with
  | zero =>
      constructor
      · intro ends
        exact ⟨[], log, nofun, rfl, ends, le_rfl, fun _ _ => rfl⟩
      · rintro ⟨failures, last, _, rfl, ends, few, _⟩
        obtain rfl := List.length_eq_zero_iff.mp (Nat.le_zero.mp few)
        exact ends
  | succ left inductionHypothesis =>
      rw [retryLoop, ends_bind_iff]
      constructor
      · rintro ⟨first, second, value, rfl, endsFirst, endsSecond⟩
        cases value with
        | ok val =>
            obtain ⟨rfl, rfl⟩ := endsSecond
            exact ⟨[], first, nofun, List.append_nil first, endsFirst,
              Nat.zero_le _, nofun⟩
        | error err =>
            obtain ⟨failures, last, fail, rfl, ends, few, isLast⟩ :=
              inductionHypothesis.mp endsSecond
            refine ⟨first :: failures, last,
              List.forall_mem_cons.mpr ⟨⟨err, endsFirst⟩, fail⟩, ?_, ends,
              Nat.succ_le_succ few, fun err isError => ?_⟩
            · rw [List.flatten_cons, List.append_assoc]
            · rw [List.length_cons, isLast err isError]
      · rintro ⟨failures, last, fail, rfl, ends, few, isLast⟩
        cases failures with
        | nil =>
            cases result with
            | ok val =>
                exact ⟨last, [], .ok val, (List.append_nil last).symm, ends,
                  rfl, rfl⟩
            | error err =>
                exact absurd (isLast err rfl) (Nat.succ_ne_zero left).symm
        | cons first failures =>
            obtain ⟨⟨err, endsFirst⟩, failLater⟩ :=
              List.forall_mem_cons.mp fail
            refine ⟨first, failures.flatten ++ last, .error err, ?_, endsFirst,
              inductionHypothesis.mpr ⟨failures, last, failLater, rfl, ends,
                Nat.le_of_succ_le_succ few, fun err isError =>
                  Nat.succ_inj.mp (isLast err isError)⟩⟩
            rw [List.flatten_cons, List.append_assoc]

/--
What `retry` does: fewer attempts than `retries` fail, and one more succeeds or
is the last one of them.
-/
theorem ends_retry_iff
    {retries : Nat}
    (positive : 0 < retries) :
    Ends (retry operation retries) log result ↔
      ∃ failures last,
        AllFail operation failures ∧ log = failures.flatten ++ last ∧
          Ends operation last result ∧ failures.length < retries ∧
          ∀ err, result = .error err → failures.length + 1 = retries := by
  rw [retry, ends_retryLoop_iff]
  have isLast (failed : Nat) : failed = retries - 1 ↔ failed + 1 = retries := by
    omega
  simp only [Nat.le_sub_one_iff_lt positive, isLast]

/-- What every attempt asks after any log is what all of them ask. -/
theorem asksAfter_retry
    {property : List (AnsweredQuery query answer) → query → Prop}
    (attempt : ∀ log, AsksAfter property log operation)
    (retries : Nat)
    (log : List (AnsweredQuery query answer)) :
    AsksAfter property log (retry operation retries) := by
  rw [retry]
  induction retries - 1 generalizing log with
  | zero =>
      exact attempt log
  | succ left inductionHypothesis =>
      refine (attempt log).bind fun more value _ => ?_
      cases value with
      | ok val =>
          trivial
      | error err =>
          exact inductionHypothesis (log ++ more)

end Ends

end Pingoo
