import Mathlib.Data.List.Forall2
import Mathlib.Tactic.TypeStar

namespace Fallible

/-!
# Calls that may fail

A call returns a value or a failure.  The rules say when a sequence of calls
returns a value, and when it fails in no other than some allowed ways.
-/

/-- Why a call does not return a value: an error it reports, or a panic. -/
inductive Failure (ε : Type*) where
  | error (error : ε)
  | panic
  deriving Repr, DecidableEq

universe u v

variable {ε : Type u} {α β : Type v}

/-- A sequence goes on with the value of its first call. -/
theorem ok_bind (value : α) (following : α → Except ε β) :
    (Except.ok value >>= following) = following value :=
  rfl

/-- A sequence returns a value when each of its calls does. -/
theorem bind_eq_ok_iff
    {call : Except ε α}
    {following : α → Except ε β}
    {result : β} :
    call >>= following = .ok result ↔
      ∃ value, call = .ok value ∧ following value = .ok result := by
  cases call with
  | error failure =>
      simp [bind, Except.bind]
  | ok value =>
      simp [bind, Except.bind]

/-- The value of an option, or an error where there is none. -/
def orError (error : ε) : Option α → Except ε α
  | some value =>
      .ok value
  | none =>
      .error error

theorem orError_eq_ok_iff
    {error : ε}
    {option : Option α}
    {value : α} :
    orError error option = .ok value ↔ option = some value := by
  cases option <;> simp [orError]

theorem mapError_eq_ok_iff
    {ε' : Type u}
    {report : ε → ε'}
    {call : Except ε α}
    {value : α} :
    call.mapError report = .ok value ↔ call = .ok value := by
  cases call <;> simp [Except.mapError]

/-- Report an error if there is one. -/
def reject : Option ε → Except ε Unit
  | some error =>
      .error error
  | none =>
      .ok ()

theorem reject_eq_ok_iff {found : Option ε} {result : Unit} :
    reject found = .ok result ↔ found = none := by
  cases found <;> simp [reject]

/-- Report an error unless a condition holds. -/
def rejectUnless
    (condition : Prop)
    [Decidable condition]
    (error : ε) : Except ε Unit :=
  if condition then .ok () else .error error

theorem rejectUnless_eq_ok_iff
    {condition : Prop}
    [Decidable condition]
    {error : ε}
    {result : Unit} :
    rejectUnless condition error = .ok result ↔ condition := by
  by_cases condition <;> simp [rejectUnless, *]

/-- Check the items of a list one after the other. -/
def checkEach {ι : Type*} (check : ι → Except ε Unit) : List ι → Except ε Unit
  | [] =>
      .ok ()
  | item :: rest =>
      check item >>= fun () => checkEach check rest

theorem checkEach_eq_ok_iff
    {ι : Type*}
    {check : ι → Except ε Unit}
    {items : List ι}
    {result : Unit} :
    checkEach check items = .ok result ↔
      ∀ item ∈ items, check item = .ok () := by
  induction items with
  | nil =>
      simp [checkEach]
  | cons item rest inductionHypothesis =>
      rw [checkEach, bind_eq_ok_iff, List.forall_mem_cons]
      constructor
      · rintro ⟨⟨⟩, isOk, restOk⟩
        exact ⟨isOk, inductionHypothesis.mp restOk⟩
      · rintro ⟨isOk, restOk⟩
        exact ⟨(), isOk, inductionHypothesis.mpr restOk⟩

/-- A call that fails does so in one of the allowed ways. -/
def FailsOnly (allowed : ε → Prop) (call : Except ε α) : Prop :=
  ∀ failure, call = .error failure → allowed failure

theorem FailsOnly.ok (allowed : ε → Prop) (value : α) :
    FailsOnly allowed (.ok value) :=
  nofun

theorem FailsOnly.error
    {allowed : ε → Prop}
    {failure : ε}
    (isAllowed : allowed failure) :
    FailsOnly allowed (.error failure : Except ε α) := by
  rintro other same
  cases same
  exact isAllowed

/-- A sequence fails only as the calls that are made may fail. -/
theorem FailsOnly.bind
    {allowed : ε → Prop}
    {call : Except ε α}
    {following : α → Except ε β}
    (first : FailsOnly allowed call)
    (rest : ∀ value, call = .ok value → FailsOnly allowed (following value)) :
    FailsOnly allowed (call >>= following) := by
  cases call with
  | error failure =>
      exact FailsOnly.error (first failure rfl)
  | ok value =>
      exact rest value rfl

/-- A sequence fails only as allowed when each call that is made does. -/
theorem failsOnly_bind_iff
    {allowed : ε → Prop}
    {call : Except ε α}
    {following : α → Except ε β} :
    FailsOnly allowed (call >>= following) ↔
      FailsOnly allowed call ∧
        ∀ value, call = .ok value → FailsOnly allowed (following value) := by
  constructor
  · intro sequence
    cases call with
    | error failure =>
        exact ⟨FailsOnly.error (sequence failure rfl), nofun⟩
    | ok value =>
        refine ⟨FailsOnly.ok allowed value, ?_⟩
        intro other same
        cases same
        exact sequence
  · rintro ⟨first, rest⟩
    exact first.bind rest

/-- Make a call for the items of a list, one after the other. -/
def callEach {ι : Type*} (call : ι → Except ε α) : List ι → Except ε (List α)
  | [] =>
      .ok []
  | item :: rest =>
      call item >>= fun value =>
        match callEach call rest with
        | .error failure => .error failure
        | .ok values => .ok (value :: values)

theorem callEach_eq_ok_iff
    {ι : Type*}
    {call : ι → Except ε α}
    {items : List ι}
    {values : List α} :
    callEach call items = .ok values ↔
      List.Forall₂ (fun item value => call item = .ok value) items values := by
  induction items generalizing values with
  | nil =>
      simp [callEach, eq_comm]
  | cons item rest inductionHypothesis =>
      rw [callEach, bind_eq_ok_iff]
      constructor
      · rintro ⟨value, isOk, restOk⟩
        split at restOk
        · cases restOk
        · next others othersOk =>
            cases restOk
            exact .cons isOk (inductionHypothesis.mp othersOk)
      · intro calls
        cases calls with
        | cons isOk restCalls =>
            rw [← inductionHypothesis] at restCalls
            exact ⟨_, isOk, by rw [restCalls]⟩

/-- Calls for the items of a list fail only as allowed if each one does. -/
theorem failsOnly_callEach
    {ι : Type*}
    {allowed : ε → Prop}
    {call : ι → Except ε α}
    {items : List ι}
    (each : ∀ item ∈ items, FailsOnly allowed (call item)) :
    FailsOnly allowed (callEach call items) := by
  induction items with
  | nil =>
      exact FailsOnly.ok allowed []
  | cons item rest inductionHypothesis =>
      rw [List.forall_mem_cons] at each
      refine each.1.bind fun value _ => ?_
      have restOnly := inductionHypothesis each.2
      split
      · next failure failed =>
          rw [failed] at restOnly
          exact FailsOnly.error (restOnly failure rfl)
      · exact FailsOnly.ok allowed _

section Panic

variable {failure : Type u} {γ : Type v}

/-- A call does not panic. -/
abbrev NoPanic (call : Except (Failure failure) γ) : Prop :=
  FailsOnly (· ≠ .panic) call

/-- A sequence does not panic when none of the calls that are made does. -/
theorem noPanic_bind_iff
    {δ : Type v}
    {call : Except (Failure failure) γ}
    {following : γ → Except (Failure failure) δ} :
    NoPanic (call >>= following) ↔
      NoPanic call ∧ ∀ value, call = .ok value → NoPanic (following value) :=
  failsOnly_bind_iff

/-- Take the value of an option, or panic. -/
def expect : Option γ → Except (Failure failure) γ
  | some value =>
      .ok value
  | none =>
      .error .panic

/-- A call that may report an error, and does not panic. -/
def attempt : Except failure γ → Except (Failure failure) γ
  | .ok value =>
      .ok value
  | .error error =>
      .error (.error error)

theorem attempt_noPanic (call : Except failure γ) : NoPanic (attempt call) := by
  cases call with
  | error error =>
      exact FailsOnly.error nofun
  | ok value =>
      exact FailsOnly.ok _ value

theorem expect_noPanic_iff {option : Option γ} :
    NoPanic (expect option : Except (Failure failure) γ) ↔
      ∃ value, option = some value := by
  cases option with
  | none =>
      simp [expect, FailsOnly]
  | some value =>
      simp [expect, FailsOnly]

/-- A call that can only panic returns a value if it does not. -/
theorem exists_ok_of_noPanic
    {call : Except (Failure failure) γ}
    (onlyPanics : FailsOnly (· = .panic) call)
    (noPanic : NoPanic call) : ∃ value, call = .ok value := by
  cases call with
  | error failed =>
      exact absurd (onlyPanics failed rfl) (noPanic failed rfl)
  | ok value =>
      exact ⟨value, rfl⟩

/-- Calls that can only panic do not panic when none of them does. -/
theorem noPanic_callEach_iff
    {ι : Type*}
    {call : ι → Except (Failure failure) γ}
    {items : List ι}
    (onlyPanics : ∀ item, FailsOnly (· = .panic) (call item)) :
    NoPanic (callEach call items) ↔ ∀ item ∈ items, NoPanic (call item) := by
  refine ⟨?_, failsOnly_callEach⟩
  intro each
  induction items with
  | nil =>
      exact nofun
  | cons item rest inductionHypothesis =>
      rw [callEach, noPanic_bind_iff] at each
      obtain ⟨value, isOk⟩ := exists_ok_of_noPanic (onlyPanics item) each.1
      refine List.forall_mem_cons.mpr ⟨each.1, inductionHypothesis ?_⟩
      have restOnly := each.2 value isOk
      split at restOnly
      · next failed isFailure =>
          rw [isFailure]
          exact FailsOnly.error (restOnly failed rfl)
      · next values restOk =>
          rw [restOk]
          exact FailsOnly.ok _ values

theorem expect_onlyPanics (option : Option γ) :
    FailsOnly (· = .panic)
      (expect option : Except (Failure failure) γ) := by
  cases option with
  | none =>
      exact FailsOnly.error rfl
  | some value =>
      exact FailsOnly.ok _ value

/-- Report an error as another one; a panic stays a panic. -/
def mapErr {other : Type u} (report : failure → other) :
    Except (Failure failure) γ → Except (Failure other) γ
  | .ok value =>
      .ok value
  | .error (.error error) =>
      .error (.error (report error))
  | .error .panic =>
      .error .panic

/-- Take the value of an option, or report an error. -/
def okOr (error : failure) : Option γ → Except (Failure failure) γ
  | some value =>
      .ok value
  | none =>
      .error (.error error)

theorem mapErr_eq_ok_iff
    {other : Type u}
    {report : failure → other}
    {call : Except (Failure failure) γ}
    {value : γ} :
    mapErr report call = .ok value ↔ call = .ok value := by
  rcases call with (error | _) | value
  · simp [mapErr]
  · simp [mapErr]
  · simp [mapErr]

theorem okOr_eq_ok_iff
    {error : failure}
    {option : Option γ}
    {value : γ} :
    okOr error option = .ok value ↔ option = some value := by
  cases option <;> simp [okOr]

theorem okOr_noPanic (error : failure) (option : Option γ) :
    NoPanic (okOr error option) := by
  cases option with
  | none =>
      exact FailsOnly.error nofun
  | some value =>
      exact FailsOnly.ok _ value

theorem expect_eq_ok_iff {option : Option γ} {value : γ} :
    (expect option : Except (Failure failure) γ) = .ok value ↔
      option = some value := by
  cases option <;> simp [expect]

theorem expect_noPanic {option : Option γ} (present : option.isSome) :
    NoPanic (expect option : Except (Failure failure) γ) := by
  obtain ⟨value, rfl⟩ := Option.isSome_iff_exists.mp present
  exact FailsOnly.ok _ value

end Panic

end Fallible
