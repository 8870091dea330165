import Pingoo.Library.Interaction

namespace Interaction.Program

/-!
# Programs that may be interrupted

The queries of a program change a state: the environment answers a query and
moves to another state, as an effect allows.  A program may be interrupted
before any of its queries, and leaves the state of that moment behind.

`Guards` is the triple of such programs.  It speaks of the states that a program
can leave behind, and of those in which it ends with a value.
-/

variable {query : Type} {answer : query → Type} {σ α β : Type}

section Definitions

-- what the environment can do when it answers a query
variable (effect : σ → (asked : query) → answer asked → σ → Prop)

/-- The state that a program leaves behind when it is interrupted or done. -/
inductive Leaves :
    Program query answer α → σ → σ → Prop where
  | stopped
      (program : Program query answer α)
      (state : σ) :
      Leaves program state state
  | answered
      {asked : query}
      {next : answer asked → Program query answer α}
      {reply : answer asked}
      {state between later : σ}
      (happens : effect state asked reply between)
      (rest : Leaves (next reply) between later) :
      Leaves (.ask asked next) state later

/--
Every state that a program can leave behind is guarded, and every value that it
ends with is as promised in the state of its end.
-/
def Guards
    (guarded : σ → Prop)
    (promised : α → σ → Prop) :
    Program query answer α → σ → Prop
  | .done value, state =>
      guarded state ∧ promised value state
  | .ask asked next, state =>
      guarded state ∧
        ∀ reply later, effect state asked reply later →
          Guards guarded promised (next reply) later

end Definitions

variable {effect : σ → (asked : query) → answer asked → σ → Prop}

namespace Guards

variable
  {guarded : σ → Prop}
  {promised : α → σ → Prop}
  {program : Program query answer α}
  {state : σ}

/-- The state in which a program starts is one that it can leave behind. -/
theorem start
    (guards : Guards effect guarded promised program state) :
    guarded state := by
  cases program with
  | done value =>
      exact guards.1
  | ask asked next =>
      exact guards.1

/-- The states that are left behind are guarded. -/
theorem guarded_of_leaves
    (guards : Guards effect guarded promised program state)
    {later : σ}
    (leaves : Leaves effect program state later) :
    guarded later := by
  induction leaves with
  | stopped program state =>
      exact guards.start
  | answered happens rest inductionHypothesis =>
      exact inductionHypothesis (guards.2 _ _ happens)

/-- A program that is done. -/
theorem pure
    {value : α}
    (isGuarded : guarded state)
    (isPromised : promised value state) :
    Guards effect guarded promised (Pure.pure value) state :=
  ⟨isGuarded, isPromised⟩

/-- Asking a query and going on with the answer. -/
theorem request_bind
    {asked : query}
    {following : answer asked → Program query answer α}
    (isGuarded : guarded state)
    (rest :
      ∀ reply later, effect state asked reply later →
        Guards effect guarded promised (following reply) later) :
    Guards effect guarded promised (request asked >>= following) state :=
  ⟨isGuarded, rest⟩

/-- A program that goes on where another one ends. -/
theorem bind
    {following : β → σ → Prop}
    {next : α → Program query answer β}
    (first : Guards effect guarded promised program state)
    (rest :
      ∀ value later, guarded later → promised value later →
        Guards effect guarded following (next value) later) :
    Guards effect guarded following (program >>= next) state := by
  change Guards effect guarded following (program.bind next) state
  induction program generalizing state with
  | done value =>
      exact rest value state first.1 first.2
  | ask asked continuation inductionHypothesis =>
      exact ⟨first.1, fun reply later happens =>
        inductionHypothesis reply (first.2 reply later happens)⟩

end Guards

end Interaction.Program
