import Mathlib.Logic.Function.Basic
import Mathlib.Order.Defs.PartialOrder
import Pingoo.Library.Interaction
import Pingoo.Library.Transition

namespace Interaction

/-!
# Programs side by side

Any number of programs ask their queries to one object.  Between two queries of
a program the other programs may ask theirs, and the object may change by
itself.  What a program may rely on is that the state of the object only grows
and keeps its invariant; what it guarantees is that its own queries do the same.
A program that is safe on its own in this sense is safe among others.
-/

section Types

variable (σ query : Type) (answer : query → Type) (α ι : Type)

/-- A query and the answer it got. -/
structure AnsweredQuery where
  asked : query
  reply : answer asked

/-- A program on its way: what it asked so far, and what is left of it. -/
structure Process where
  log : List (AnsweredQuery query answer)
  rest : Program query answer α

/-- An object: how it changes by itself, and how it answers queries. -/
structure SharedObject where
  changes : σ → σ → Prop
  answers : σ → (asked : query) → answer asked → σ → Prop

/-- An object and the programs that ask it, by their numbers. -/
structure Pool where
  shared : σ
  processes : Nat → Option (Process query answer α)

/-- What may happen to a pool. -/
inductive PoolEvent where
  | change
  | start (index : Nat) (input : ι)
  | exchange (index : Nat) (made : AnsweredQuery query answer)

end Types

variable {σ query : Type} {answer : query → Type} {α β ι : Type}

namespace Pool

/-- No program was started yet. -/
def initial (shared : σ) : Pool σ query answer α where
  shared :=
    shared
  processes :=
    fun _ => none

/-- One step of the object or of one of the programs. -/
inductive Step
    (object : SharedObject σ query answer)
    (code : ι → Program query answer α) :
    Pool σ query answer α → PoolEvent query answer ι →
      Pool σ query answer α → Prop
  | change
      {pool : Pool σ query answer α} {after : σ}
      (changes : object.changes pool.shared after) :
      Step object code pool .change { pool with shared := after }
  | start
      {pool : Pool σ query answer α} {index : Nat} {input : ι}
      (isFree : pool.processes index = none) :
      Step object code pool (.start index input)
        { pool with
          processes :=
            Function.update pool.processes index (some ⟨[], code input⟩) }
  | exchange
      {pool : Pool σ query answer α} {index : Nat}
      {log : List (AnsweredQuery query answer)} {asked : query}
      {next : answer asked → Program query answer α}
      {reply : answer asked} {after : σ}
      (isAsking : pool.processes index = some ⟨log, .ask asked next⟩)
      (answers : object.answers pool.shared asked reply after) :
      Step object code pool (.exchange index ⟨asked, reply⟩)
        { shared := after
          processes :=
            Function.update pool.processes index
              (some ⟨log ++ [⟨asked, reply⟩], next reply⟩) }

/-- A condition on every query, given what its program asked before. -/
def Allows
    (allowed : σ → List (AnsweredQuery query answer) → query → Prop)
    (pool : Pool σ query answer α) :
    PoolEvent query answer ι → Prop
  | .exchange index made =>
      ∀ process, pool.processes index = some process →
        allowed pool.shared process.log made.asked
  | _ =>
      True

end Pool

section Safe

variable [Preorder σ]

variable
  (object : SharedObject σ query answer)
  (allowed : σ → List (AnsweredQuery query answer) → query → Prop)
  (invariant : σ → Prop)

/--
The queries of a program keep the invariant and let the object grow, and its
value has a property, whatever others do to the object in between.
-/
def Safe
    (post : σ → List (AnsweredQuery query answer) → α → Prop) :
    σ → List (AnsweredQuery query answer) → Program query answer α → Prop
  | now, log, .done value =>
      ∀ later, now ≤ later → invariant later → post later log value
  | now, log, .ask asked next =>
      ∀ before, now ≤ before → invariant before → allowed before log asked →
        ∀ reply after, object.answers before asked reply after →
          (invariant after ∧ before ≤ after) ∧
            Safe post after (log ++ [⟨asked, reply⟩]) (next reply)

variable {object allowed invariant}
variable {post : σ → List (AnsweredQuery query answer) → α → Prop}
variable {now later : σ} {log : List (AnsweredQuery query answer)}

/-- What is safe now is safe later. -/
theorem Safe.mono
    {program : Program query answer α}
    (safe : Safe object allowed invariant post now log program)
    (grows : now ≤ later) :
    Safe object allowed invariant post later log program := by
  cases program with
  | done value =>
      exact fun last lastGrows => safe last (le_trans grows lastGrows)
  | ask asked next =>
      exact fun before beforeGrows => safe before (le_trans grows beforeGrows)

/-- One query, and then whatever follows its answer. -/
theorem Safe.request_bind
    {asked : query}
    {following : answer asked → Program query answer α}
    (answered :
      ∀ before, now ≤ before → invariant before → allowed before log asked →
        ∀ reply after, object.answers before asked reply after →
          (invariant after ∧ before ≤ after) ∧
            Safe object allowed invariant post after
              (log ++ [⟨asked, reply⟩]) (following reply)) :
    Safe object allowed invariant post now log
      (Program.request asked >>= following) :=
  answered

/-- One program after another. -/
theorem Safe.bind
    {middle : σ → List (AnsweredQuery query answer) → β → Prop}
    {program : Program query answer β}
    {following : β → Program query answer α}
    (safe : Safe object allowed invariant middle now log program)
    (holds : invariant now)
    (rest :
      ∀ value later log, now ≤ later → invariant later →
        middle later log value →
        Safe object allowed invariant post later log (following value)) :
    Safe object allowed invariant post now log (program >>= following) := by
  change Safe object allowed invariant post now log (program.bind following)
  induction program generalizing now log with
  | done value =>
      exact rest value now log le_rfl holds (safe now le_rfl holds)
  | ask asked next inductionHypothesis =>
      intro before grows keeps isAllowed reply after answers
      obtain ⟨guarantee, safeNext⟩ :=
        safe before grows keeps isAllowed reply after answers
      refine ⟨guarantee, ?_⟩
      refine inductionHypothesis reply safeNext guarantee.1 ?_
      intro value last lastLog lastGrows
      exact rest value last lastLog
        (le_trans grows (le_trans guarantee.2 lastGrows))

section Run

variable {code : ι → Program query answer α}

/-- Every program of a pool is safe. -/
def Pool.AllSafe
    (object : SharedObject σ query answer)
    (allowed : σ → List (AnsweredQuery query answer) → query → Prop)
    (invariant : σ → Prop)
    (post : σ → List (AnsweredQuery query answer) → α → Prop)
    (pool : Pool σ query answer α) : Prop :=
  invariant pool.shared ∧
    ∀ index process, pool.processes index = some process →
      Safe object allowed invariant post pool.shared process.log process.rest

/-- The object grows and one program goes on; the others stay safe. -/
theorem Pool.AllSafe.update
    {pool : Pool σ query answer α}
    {index : Nat}
    {process : Process query answer α}
    {after : σ}
    (allSafe : pool.AllSafe object allowed invariant post)
    (keeps : invariant after)
    (grows : pool.shared ≤ after)
    (safe : Safe object allowed invariant post after process.log process.rest) :
    Pool.AllSafe object allowed invariant post
      ⟨after, Function.update pool.processes index (some process)⟩ := by
  refine ⟨keeps, ?_⟩
  intro other found isFound
  obtain rfl | differs := eq_or_ne other index
  · simp only [Function.update_self, Option.some.injEq] at isFound
    exact isFound ▸ safe
  · simp only [Function.update_of_ne differs] at isFound
    exact (allSafe.2 other found isFound).mono grows

theorem Pool.AllSafe.step
    {before after : Pool σ query answer α}
    {event : PoolEvent query answer ι}
    (changesKeep :
      ∀ {now next}, invariant now → object.changes now next →
        invariant next ∧ now ≤ next)
    (codeSafe :
      ∀ input now, invariant now →
        Safe object allowed invariant post now [] (code input))
    (allSafe : before.AllSafe object allowed invariant post)
    (isAllowed : before.Allows allowed event)
    (taken : Pool.Step object code before event after) :
    after.AllSafe object allowed invariant post := by
  cases taken with
  | change changes =>
      obtain ⟨keeps, grows⟩ := changesKeep allSafe.1 changes
      exact ⟨keeps, fun index process isFound =>
        (allSafe.2 index process isFound).mono grows⟩
  | @start index input isFree =>
      exact allSafe.update allSafe.1 le_rfl (codeSafe input _ allSafe.1)
  | exchange isAsking answers =>
      have safe := allSafe.2 _ _ isAsking
      obtain ⟨⟨keeps, grows⟩, safeNext⟩ :=
        safe _ le_rfl allSafe.1 (isAllowed _ isAsking) _ _ answers
      exact allSafe.update keeps grows safeNext

/-- Programs that are safe on their own are safe in every run of a pool. -/
theorem Pool.allSafe_of_run
    {start finish : Pool σ query answer α}
    {events : List (PoolEvent query answer ι)}
    (changesKeep :
      ∀ {now next}, invariant now → object.changes now next →
        invariant next ∧ now ≤ next)
    (codeSafe :
      ∀ input now, invariant now →
        Safe object allowed invariant post now [] (code input))
    (run :
      Transition.Run
        (Transition.Guarded (Pool.Allows allowed) (Pool.Step object code))
        start events finish)
    (allSafe : start.AllSafe object allowed invariant post) :
    finish.AllSafe object allowed invariant post :=
  run.invariant
    (fun keeps taken => keeps.step changesKeep codeSafe taken.1 taken.2)
    allSafe

/-- A program that is done has a value with the property. -/
theorem Pool.AllSafe.done
    {pool : Pool σ query answer α}
    {index : Nat}
    {value : α}
    (allSafe : pool.AllSafe object allowed invariant post)
    (isDone : pool.processes index = some ⟨log, .done value⟩) :
    post pool.shared log value :=
  allSafe.2 index _ isDone pool.shared le_rfl allSafe.1

end Run

end Safe

end Interaction
