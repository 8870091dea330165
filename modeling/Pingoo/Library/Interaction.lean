import Mathlib.Data.List.Basic

namespace Interaction

/-!
# Programs that ask their environment

A program is a tree: it is done with a value, or it asks a query and goes on
with the answer.  Nothing is assumed about the answers, so a fact about every
branch is a fact about every environment.  `run` follows one branch: an oracle
answers each query, and may look at the queries asked before it.
-/

/-- A program that asks queries and ends in a value. -/
inductive Program
    (query : Type)
    (answer : query → Type)
    (α : Type) where
  | done (value : α)
  | ask (asked : query) (next : answer asked → Program query answer α)

namespace Program

variable {query : Type} {answer : query → Type} {α β : Type}

/-- One program after another. -/
def bind
    (program : Program query answer α)
    (following : α → Program query answer β) :
    Program query answer β :=
  match program with
  | .done value =>
      following value
  | .ask asked next =>
      .ask asked fun reply => (next reply).bind following

instance : Monad (Program query answer) where
  pure :=
    .done
  bind :=
    bind

/-- Ask one query. -/
def request (asked : query) : Program query answer (answer asked) :=
  .ask asked .done

/-- The value of a program and the queries asked, after those of `log`. -/
def run
    (oracle : List query → (asked : query) → answer asked) :
    List query → Program query answer α → α × List query
  | log, .done value =>
      (value, log)
  | log, .ask asked next =>
      run oracle (log ++ [asked]) (next (oracle log asked))

/-- The queries a program asks when an oracle answers them. -/
def queries
    (oracle : List query → (asked : query) → answer asked)
    (program : Program query answer α) : List query :=
  (run oracle [] program).2

section Laws

@[simp] theorem pure_bind
    (value : α)
    (following : α → Program query answer β) :
    (Pure.pure value : Program query answer α) >>= following =
      following value :=
  rfl

/-- Programs one after another do not depend on how they are grouped. -/
@[simp] theorem bind_assoc
    {γ : Type}
    (program : Program query answer α)
    (second : α → Program query answer β)
    (third : β → Program query answer γ) :
    program >>= second >>= third =
      program >>= fun value => second value >>= third := by
  change (program.bind second).bind third =
    program.bind fun value => (second value).bind third
  induction program with
  | done value =>
      rfl
  | ask asked next inductionHypothesis =>
      exact congrArg (Program.ask asked)
        (funext fun reply => inductionHypothesis reply)

end Laws

section Run

variable (oracle : List query → (asked : query) → answer asked)
variable (log : List query)

@[simp] theorem run_pure (value : α) :
    run oracle log (pure value : Program query answer α) = (value, log) :=
  rfl

/-- Asking first and then going on. -/
@[simp] theorem run_request_bind
    (asked : query)
    (following : answer asked → Program query answer α) :
    run oracle log (request asked >>= following) =
      run oracle (log ++ [asked]) (following (oracle log asked)) :=
  rfl

/-- A run of two programs is a run of the first and then one of the second. -/
theorem run_bind
    (program : Program query answer α)
    (following : α → Program query answer β) :
    run oracle log (program >>= following) =
      run oracle (run oracle log program).2
        (following (run oracle log program).1) := by
  change run oracle log (program.bind following) = _
  induction program generalizing log with
  | done value =>
      rfl
  | ask asked next inductionHypothesis =>
      exact inductionHypothesis (oracle log asked) (log ++ [asked])

/-- A run only adds queries to the log. -/
theorem prefix_run (program : Program query answer α) :
    log <+: (run oracle log program).2 := by
  induction program generalizing log with
  | done value =>
      exact List.prefix_refl log
  | ask asked next inductionHypothesis =>
      exact (List.prefix_append log [asked]).trans
        (inductionHypothesis (oracle log asked) (log ++ [asked]))

end Run

/-- Every query on every branch of a program has a property. -/
def Asks
    (property : query → Prop) :
    Program query answer α → Prop
  | .done _ =>
      True
  | .ask asked next =>
      property asked ∧ ∀ reply, Asks property (next reply)

/-- A property that follows from that of every query is one of every query. -/
theorem Asks.mono
    {first second : query → Prop}
    {program : Program query answer α}
    (asks : Asks first program)
    (implies : ∀ asked, first asked → second asked) :
    Asks second program := by
  induction program with
  | done value =>
      trivial
  | ask asked next inductionHypothesis =>
      exact ⟨implies asked asks.1, fun reply =>
        inductionHypothesis reply (asks.2 reply)⟩

/-- Asking a query with the property and then going on. -/
theorem Asks.request_bind
    {property : query → Prop}
    {asked : query}
    {following : answer asked → Program query answer α}
    (allowed : property asked)
    (rest : ∀ reply, Asks property (following reply)) :
    Asks property (request asked >>= following) :=
  ⟨allowed, rest⟩

/-- A run adds queries to the log, and all of them have the property. -/
theorem Asks.run_eq_append
    {property : query → Prop}
    {program : Program query answer α}
    (asks : Asks property program)
    (oracle : List query → (asked : query) → answer asked)
    (log : List query) :
    ∃ added,
      (run oracle log program).2 = log ++ added ∧
      ∀ asked ∈ added, property asked := by
  induction program generalizing log with
  | done value =>
      exact ⟨[], by simp [run], by simp⟩
  | ask first next inductionHypothesis =>
      obtain ⟨added, whole, allowed⟩ :=
        inductionHypothesis _ (asks.2 (oracle log first)) (log ++ [first])
      refine ⟨first :: added, by simp [run, whole], ?_⟩
      exact List.forall_mem_cons.mpr ⟨asks.1, allowed⟩

/-- The value at the end of every branch of a program has a property. -/
def Returns
    (property : α → Prop) :
    Program query answer α → Prop
  | .done value =>
      property value
  | .ask _ next =>
      ∀ reply, Returns property (next reply)

/-- A program that goes on with a value of another one. -/
theorem Returns.bind
    {property : α → Prop}
    {following : β → Prop}
    {program : Program query answer α}
    {next : α → Program query answer β}
    (first : Returns property program)
    (rest : ∀ value, property value → Returns following (next value)) :
    Returns following (program >>= next) := by
  change Returns following (program.bind next)
  induction program with
  | done value =>
      exact rest value first
  | ask asked continuation inductionHypothesis =>
      exact fun reply => inductionHypothesis reply (first reply)

/-- Asking a query, whatever the answer is, and then going on. -/
theorem Returns.request_bind
    {property : α → Prop}
    {asked : query}
    {following : answer asked → Program query answer α}
    (rest : ∀ reply, Returns property (following reply)) :
    Returns property (request asked >>= following) :=
  rest

/-- The value of a run has the property of all values. -/
theorem Returns.run
    {property : α → Prop}
    {program : Program query answer α}
    (returns : Returns property program)
    (oracle : List query → (asked : query) → answer asked)
    (log : List query) : property (run oracle log program).1 := by
  induction program generalizing log with
  | done value =>
      exact returns
  | ask asked next inductionHypothesis =>
      exact inductionHypothesis _ (returns _) _

section Answers

variable (oracle : List query → (asked : query) → answer asked)

/-- Every query asked after `log` got an answer with a property. -/
def EveryAnswer
    (property : (asked : query) → answer asked → Prop) :
    List query → List query → Prop
  | _, [] =>
      True
  | log, asked :: rest =>
      property asked (oracle log asked) ∧
        EveryAnswer property (log ++ [asked]) rest

/-- Some query asked after `log` got an answer with a property. -/
def SomeAnswer
    (property : (asked : query) → answer asked → Prop) :
    List query → List query → Prop
  | _, [] =>
      False
  | log, asked :: rest =>
      property asked (oracle log asked) ∨
        SomeAnswer property (log ++ [asked]) rest

/-- Answers to queries that cannot miss the property do not matter. -/
theorem EveryAnswer.of_forall
    {property : (asked : query) → answer asked → Prop}
    {log asked : List query}
    (always : ∀ one ∈ asked, ∀ reply, property one reply) :
    EveryAnswer oracle property log asked := by
  induction asked generalizing log with
  | nil =>
      trivial
  | cons first rest inductionHypothesis =>
      exact ⟨always first List.mem_cons_self _,
        inductionHypothesis fun one member =>
          always one (List.mem_cons_of_mem first member)⟩

end Answers

end Program

end Interaction
