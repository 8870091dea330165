import Pingoo.Library.ProgramLogs

namespace Interaction

/-!
# Programs that carry out queries

The queries that some programs ask of an object can be carried out by programs
themselves, which ask another object below.  When such a program takes effect in
one of its steps, or needs no effect at all, and nothing is seen of its other
steps, then whatever happens below could have happened above: there the queries
are asked of the first object, each in one step.
-/

open Transition (Run)

/-- The program with each of its queries carried out by a program. -/
def Program.implement
    {query lower : Type}
    {answer : query → Type}
    {lowerAnswer : lower → Type}
    {α : Type}
    (carryOut : (asked : query) → Program lower lowerAnswer (answer asked)) :
    Program query answer α → Program lower lowerAnswer α
  | .done value =>
      .done value
  | .ask asked next =>
      (carryOut asked).bind fun reply => (next reply).implement carryOut

section Logs

variable {query lower α : Type}
variable {answer : query → Type} {lowerAnswer : lower → Type}
variable {carryOut : (asked : query) → Program lower lowerAnswer (answer asked)}

/-- What was asked below to carry out some queries, one after the other. -/
inductive CarriedOut
    (carryOut : (asked : query) → Program lower lowerAnswer (answer asked)) :
    List (AnsweredQuery query answer) →
      List (AnsweredQuery lower lowerAnswer) → Prop
  | nil : CarriedOut carryOut [] []
  | snoc
      {log : List (AnsweredQuery query answer)}
      {lowerLog own : List (AnsweredQuery lower lowerAnswer)}
      {asked : query}
      {reply : answer asked}
      (earlier : CarriedOut carryOut log lowerLog)
      (ends : Ends (carryOut asked) own reply) :
      CarriedOut carryOut (log ++ [⟨asked, reply⟩]) (lowerLog ++ own)

/--
What is asked below is asked to carry out a query, after those before it were
carried out.
-/
theorem AsksAfter.implement
    {property : List (AnsweredQuery query answer) → query → Prop}
    {lowerProperty : List (AnsweredQuery lower lowerAnswer) → lower → Prop}
    {program : Program query answer α}
    {log : List (AnsweredQuery query answer)}
    {lowerLog : List (AnsweredQuery lower lowerAnswer)}
    (each :
      ∀ {log lowerLog asked},
        CarriedOut carryOut log lowerLog → property log asked →
          AsksAfter lowerProperty lowerLog (carryOut asked))
    (asks : AsksAfter property log program)
    (carriedOut : CarriedOut carryOut log lowerLog) :
    AsksAfter lowerProperty lowerLog (program.implement carryOut) := by
  induction program generalizing log lowerLog with
  | done value =>
      trivial
  | ask asked next inductionHypothesis =>
      obtain ⟨isAsked, asksNext⟩ := asks
      exact (each carriedOut isAsked).bind fun own reply ends =>
        inductionHypothesis reply (asksNext reply) (carriedOut.snoc ends)

end Logs

/-- What is seen of an event: that a program starts, and some exchanges. -/
def PoolEvent.seen
    {query : Type}
    {answer : query → Type}
    {ι γ : Type}
    (sees : AnsweredQuery query answer → Option γ) :
    PoolEvent query answer ι → Option (Nat × (ι ⊕ γ))
  | .change =>
      none
  | .start index input =>
      some (index, .inl input)
  | .exchange index made =>
      (sees made).map fun one => (index, .inr one)

section Seen

variable {query γ ι : Type} {answer : query → Type}
variable {sees : AnsweredQuery query answer → Option γ}
variable {events : List (PoolEvent query answer ι)}

theorem mem_seen_start_iff {index : Nat} {input : ι} :
    (index, .inl input) ∈ events.filterMap (PoolEvent.seen sees) ↔
      .start index input ∈ events := by
  rw [List.mem_filterMap]
  constructor
  · rintro ⟨event, isEvent, isSeen⟩
    cases event with
    | change =>
        cases isSeen
    | start =>
        cases isSeen
        exact isEvent
    | exchange =>
        obtain ⟨_, _, isOne⟩ := Option.map_eq_some_iff.mp isSeen
        cases isOne
  · exact fun isEvent => ⟨_, isEvent, rfl⟩

theorem mem_seen_exchange_iff {index : Nat} {one : γ} :
    (index, .inr one) ∈ events.filterMap (PoolEvent.seen sees) ↔
      ∃ made, .exchange index made ∈ events ∧ sees made = some one := by
  rw [List.mem_filterMap]
  constructor
  · rintro ⟨event, isEvent, isSeen⟩
    cases event with
    | change =>
        cases isSeen
    | start =>
        cases isSeen
    | exchange _ made =>
        obtain ⟨_, isOne, same⟩ := Option.map_eq_some_iff.mp isSeen
        cases same
        exact ⟨made, isEvent, isOne⟩
  · rintro ⟨made, isEvent, isSeen⟩
    exact ⟨_, isEvent, Option.map_eq_some_iff.mpr ⟨one, isSeen, rfl⟩⟩

end Seen

/-- Two objects, one above the other, and what is seen of their exchanges. -/
structure Layers
    (σ τ query lower : Type)
    (answer : query → Type)
    (lowerAnswer : lower → Type)
    (γ : Type) where
  above : SharedObject σ query answer
  below : SharedObject τ lower lowerAnswer
  view : τ → σ
  invariant : τ → Prop
  seenAbove : AnsweredQuery query answer → Option γ
  seenBelow : AnsweredQuery lower lowerAnswer → Option γ

namespace Layers

variable {σ τ query lower γ α ι : Type}
variable {answer : query → Type} {lowerAnswer : lower → Type}

/--
A program below carries out a query.  A step either takes effect as the query
does and ends the program, or changes nothing above.
-/
def CarriesOut
    (layers : Layers σ τ query lower answer lowerAnswer γ)
    (asked : query) : Program lower lowerAnswer (answer asked) → Prop
  | .done reply =>
      layers.seenAbove ⟨asked, reply⟩ = none ∧
        ∀ state, layers.invariant state →
          layers.above.answers (layers.view state) asked reply
            (layers.view state)
  | .ask one next =>
      ∀ state reply after,
        layers.invariant state → layers.below.answers state one reply after →
          layers.invariant after ∧
            (layers.CarriesOut asked (next reply) ∧
                layers.view after = layers.view state ∧
                layers.seenBelow ⟨one, reply⟩ = none ∨
              ∃ value,
                next reply = .done value ∧
                  layers.above.answers (layers.view state) asked value
                    (layers.view after) ∧
                  layers.seenBelow ⟨one, reply⟩ =
                    layers.seenAbove ⟨asked, value⟩)

/-- The layer below does what the layer above does. -/
structure Refines
    (layers : Layers σ τ query lower answer lowerAnswer γ)
    (carryOut :
      (asked : query) → Program lower lowerAnswer (answer asked)) : Prop where
  changes :
    ∀ {before after},
      layers.invariant before → layers.below.changes before after →
        layers.invariant after ∧
          (layers.view after = layers.view before ∨
            layers.above.changes (layers.view before) (layers.view after))
  carriesOut : ∀ asked, layers.CarriesOut asked (carryOut asked)

variable
  {layers : Layers σ τ query lower answer lowerAnswer γ}
  {carryOut : (asked : query) → Program lower lowerAnswer (answer asked)}
  {code : ι → Program query answer α}

/-- A program above, and where its implementation has come to. -/
inductive Matches
    (layers : Layers σ τ query lower answer lowerAnswer γ)
    (carryOut : (asked : query) → Program lower lowerAnswer (answer asked)) :
    Program query answer α → Program lower lowerAnswer α → Prop
  | done (value : α) :
      Matches layers carryOut (.done value) (.done value)
  | ask
      {asked : query}
      {next : answer asked → Program query answer α}
      {one : lower}
      {more : lowerAnswer one → Program lower lowerAnswer (answer asked)}
      (carries : layers.CarriesOut asked (.ask one more)) :
      Matches layers carryOut (.ask asked next)
        (.ask one fun reply =>
          (more reply).bind fun value => (next value).implement carryOut)

/-- A pool above does what the pool below does. -/
structure Simulates
    (layers : Layers σ τ query lower answer lowerAnswer γ)
    (carryOut : (asked : query) → Program lower lowerAnswer (answer asked))
    (upper : Pool σ query answer α)
    (pool : Pool τ lower lowerAnswer α) : Prop where
  shared : upper.shared = layers.view pool.shared
  invariant : layers.invariant pool.shared
  idle : ∀ index, pool.processes index = none → upper.processes index = none
  busy :
    ∀ index process, pool.processes index = some process →
      ∃ log rest,
        upper.processes index = some ⟨log, rest⟩ ∧
          layers.Matches carryOut rest process.rest

/-- A program that is done below is done above. -/
theorem Simulates.done
    {upper : Pool σ query answer α}
    {pool : Pool τ lower lowerAnswer α}
    {index : Nat}
    {log : List (AnsweredQuery lower lowerAnswer)}
    {value : α}
    (simulates : layers.Simulates carryOut upper pool)
    (isDone : pool.processes index = some ⟨log, .done value⟩) :
    ∃ upperLog, upper.processes index = some ⟨upperLog, .done value⟩ := by
  obtain ⟨upperLog, rest, isProcess, isMatch⟩ := simulates.busy index _ isDone
  cases isMatch
  exact ⟨upperLog, isProcess⟩

/--
A program above gets past the queries that need no step below, and then it
matches its implementation.
-/
theorem exists_matches
    (refines : layers.Refines carryOut)
    {upper : Pool σ query answer α}
    {state : τ}
    {index : Nat}
    {log : List (AnsweredQuery query answer)}
    {program : Program query answer α}
    (keeps : layers.invariant state)
    (isShared : upper.shared = layers.view state)
    (isProcess : upper.processes index = some ⟨log, program⟩) :
    ∃ events finish upperLog rest,
      Run (Pool.Step layers.above code) upper events finish ∧
        finish.shared = layers.view state ∧
        finish.processes index = some ⟨upperLog, rest⟩ ∧
        layers.Matches carryOut rest (program.implement carryOut) ∧
        (∀ other, other ≠ index →
          finish.processes other = upper.processes other) ∧
        events.filterMap (PoolEvent.seen layers.seenAbove) = [] := by
  induction program generalizing upper log with
  | done value =>
      exact ⟨[], upper, log, .done value, .nil, isShared, isProcess,
        .done value, fun _ _ => rfl, rfl⟩
  | ask asked next inductionHypothesis =>
      have carries := refines.carriesOut asked
      rw [Program.implement]
      cases isProgram : carryOut asked with
      | ask one more =>
          rw [isProgram] at carries
          exact ⟨[], upper, log, .ask asked next, .nil, isShared, isProcess,
            .ask carries, fun _ _ => rfl, rfl⟩
      | done reply =>
          rw [isProgram] at carries
          obtain ⟨unseen, answers⟩ := carries
          let answered : Pool σ query answer α :=
            ⟨layers.view state, Function.update upper.processes index
              (some ⟨log ++ [⟨asked, reply⟩], next reply⟩)⟩
          have step :
              Pool.Step layers.above code upper
                (.exchange index ⟨asked, reply⟩) answered :=
            .exchange isProcess (isShared ▸ answers state keeps)
          obtain ⟨events, finish, upperLog, rest, run, shared, isRest, isMatch,
              same, noneSeen⟩ :=
            @inductionHypothesis reply answered _ rfl
              (Function.update_self _ _ _)
          refine ⟨_, finish, upperLog, rest, (Run.single step).append run,
            shared, isRest, isMatch, fun other differs => ?_, ?_⟩
          · rw [same other differs]
            exact Function.update_of_ne differs _ _
          · simp [PoolEvent.seen, unseen, noneSeen]

/-- The pools go on matching when a program goes on in both of them. -/
theorem Simulates.update
    {upper finish : Pool σ query answer α}
    {pool : Pool τ lower lowerAnswer α}
    {after : τ}
    {index : Nat}
    {upperLog : List (AnsweredQuery query answer)}
    {rest : Program query answer α}
    {process : Process lower lowerAnswer α}
    (simulates : layers.Simulates carryOut upper pool)
    (keeps : layers.invariant after)
    (isShared : finish.shared = layers.view after)
    (isProcess : finish.processes index = some ⟨upperLog, rest⟩)
    (isMatch : layers.Matches carryOut rest process.rest)
    (same :
      ∀ other, other ≠ index →
        finish.processes other = upper.processes other) :
    layers.Simulates carryOut finish
      ⟨after, Function.update pool.processes index (some process)⟩ := by
  refine ⟨isShared, keeps, fun other isIdle => ?_, fun other found isFound => ?_⟩
  · obtain rfl | differs := eq_or_ne other index
    · simp at isIdle
    · simp only [Function.update_of_ne differs] at isIdle
      rw [same other differs]
      exact simulates.idle other isIdle
  · obtain rfl | differs := eq_or_ne other index
    · simp only [Function.update_self, Option.some.injEq] at isFound
      exact ⟨upperLog, rest, isProcess, isFound ▸ isMatch⟩
    · simp only [Function.update_of_ne differs] at isFound
      rw [same other differs]
      exact simulates.busy other found isFound

/-- A query is over above when it is over below. -/
theorem Simulates.complete
    (refines : layers.Refines carryOut)
    {upper : Pool σ query answer α}
    {pool : Pool τ lower lowerAnswer α}
    {state : τ}
    {index : Nat}
    {upperLog : List (AnsweredQuery query answer)}
    {log : List (AnsweredQuery lower lowerAnswer)}
    {asked : query}
    {next : answer asked → Program query answer α}
    {value : answer asked}
    {made : AnsweredQuery lower lowerAnswer}
    (simulates : layers.Simulates carryOut upper pool)
    (keeps : layers.invariant state)
    (isProcess : upper.processes index = some ⟨upperLog, .ask asked next⟩)
    (answers :
      layers.above.answers (layers.view pool.shared) asked value
        (layers.view state))
    (isSeen : layers.seenBelow made = layers.seenAbove ⟨asked, value⟩) :
    ∃ events finish,
      Run (Pool.Step layers.above code) upper events finish ∧
        layers.Simulates carryOut finish
          ⟨state, Function.update pool.processes index
            (some ⟨log, (next value).implement carryOut⟩)⟩ ∧
        events.filterMap (PoolEvent.seen layers.seenAbove) =
          ((PoolEvent.exchange index made :
            PoolEvent lower lowerAnswer ι).seen layers.seenBelow).toList := by
  let answered : Pool σ query answer α :=
    ⟨layers.view state, Function.update upper.processes index
      (some ⟨upperLog ++ [⟨asked, value⟩], next value⟩)⟩
  have step :
      Pool.Step layers.above code upper (.exchange index ⟨asked, value⟩)
        answered :=
    .exchange isProcess (simulates.shared ▸ answers)
  obtain ⟨events, finish, restLog, rest, run, isShared, isRest, isMatch, same,
      noneSeen⟩ :=
    @exists_matches _ _ _ _ _ α ι _ _ layers carryOut code refines answered _
      index _ _ keeps rfl (Function.update_self _ _ _)
  refine ⟨_, finish, (Run.single step).append run,
    simulates.update keeps isShared isRest isMatch fun other differs => ?_, ?_⟩
  · rw [same other differs]
    exact Function.update_of_ne differs _ _
  · rw [List.filterMap_append, noneSeen, List.append_nil]
    cases isOne : layers.seenAbove ⟨asked, value⟩ <;>
      simp [PoolEvent.seen, isSeen, isOne]

/-- Every step below is seen as a run above. -/
theorem Simulates.step
    (refines : layers.Refines carryOut)
    {upper : Pool σ query answer α}
    {before after : Pool τ lower lowerAnswer α}
    {event : PoolEvent lower lowerAnswer ι}
    (simulates : layers.Simulates carryOut upper before)
    (taken :
      Pool.Step layers.below (fun input => (code input).implement carryOut)
        before event after) :
    ∃ events finish,
      Run (Pool.Step layers.above code) upper events finish ∧
        layers.Simulates carryOut finish after ∧
        events.filterMap (PoolEvent.seen layers.seenAbove) =
          (event.seen layers.seenBelow).toList := by
  cases taken with
  | @change state changes =>
      obtain ⟨keeps, same | changesAbove⟩ :=
        refines.changes simulates.invariant changes
      · exact ⟨[], upper, .nil, ⟨simulates.shared.trans same.symm, keeps,
          simulates.idle, simulates.busy⟩, rfl⟩
      · refine ⟨[.change], { upper with shared := layers.view state },
          .single (.change ?_), ⟨rfl, keeps, simulates.idle, simulates.busy⟩,
          rfl⟩
        exact simulates.shared ▸ changesAbove
  | @start index input isFree =>
      let begun : Pool σ query answer α :=
        { upper with
          processes :=
            Function.update upper.processes index (some ⟨[], code input⟩) }
      have step :
          Pool.Step layers.above code upper (.start index input) begun :=
        .start (simulates.idle index isFree)
      obtain ⟨events, finish, upperLog, rest, run, isShared, isRest, isMatch,
          same, noneSeen⟩ :=
        @exists_matches _ _ _ _ _ α ι _ _ layers carryOut code refines begun _
          index _ _ simulates.invariant simulates.shared
          (Function.update_self _ _ _)
      refine ⟨_, finish, (Run.single step).append run,
        simulates.update simulates.invariant isShared isRest isMatch
          fun other differs => ?_, ?_⟩
      · rw [same other differs]
        exact Function.update_of_ne differs _ _
      · simp [PoolEvent.seen, noneSeen]
  | @exchange index log one more reply state isAsking answers =>
      obtain ⟨upperLog, rest, isProcess, isMatch⟩ :=
        simulates.busy index _ isAsking
      cases isMatch with
      | @ask asked next _ part carries =>
          obtain ⟨keeps, ⟨carriesRest, sameView, unseen⟩ |
              ⟨value, isDone, answersAbove, isSeen⟩⟩ :=
            carries _ _ _ simulates.invariant answers
          all_goals dsimp only
          · cases isRest : part reply with
            | done value =>
                rw [isRest] at carriesRest
                obtain ⟨unseenAbove, answersAbove⟩ := carriesRest
                refine simulates.complete refines keeps isProcess ?_ ?_
                · rw [← sameView]
                  exact answersAbove state keeps
                · rw [unseen, unseenAbove]
            | ask two others =>
                rw [isRest] at carriesRest
                refine ⟨[], upper, .nil,
                  simulates.update keeps (simulates.shared.trans sameView.symm)
                    isProcess (.ask carriesRest) fun _ _ => rfl, ?_⟩
                simp [PoolEvent.seen, unseen]
          · rw [isDone]
            exact simulates.complete refines keeps isProcess answersAbove isSeen

/--
Whatever a run does below, a run above does too: it starts the same programs,
the same exchanges are seen of it, and what is done below is done above.
-/
theorem Refines.exists_run
    (refines : layers.Refines carryOut)
    {start : τ}
    {events : List (PoolEvent lower lowerAnswer ι)}
    {pool : Pool τ lower lowerAnswer α}
    (initial : layers.invariant start)
    (run :
      Run
        (Pool.Step layers.below fun input => (code input).implement carryOut)
        (.initial start) events pool) :
    ∃ upperEvents upper,
      Run (Pool.Step layers.above code) (.initial (layers.view start))
          upperEvents upper ∧
        layers.Simulates carryOut upper pool ∧
        upperEvents.filterMap (PoolEvent.seen layers.seenAbove) =
          events.filterMap (PoolEvent.seen layers.seenBelow) := by
  induction run with
  | nil =>
      exact ⟨[], _, .nil, ⟨rfl, initial, fun _ _ => rfl, nofun⟩, rfl⟩
  | snoc _ last inductionHypothesis =>
      obtain ⟨upperEvents, upper, upperRun, simulates, isSeen⟩ :=
        inductionHypothesis
      obtain ⟨more, finish, moreRun, simulatesAfter, moreSeen⟩ :=
        simulates.step refines last
      refine ⟨upperEvents ++ more, finish, upperRun.append moreRun,
        simulatesAfter, ?_⟩
      rw [List.filterMap_append, List.filterMap_append, isSeen, moreSeen]
      rfl

end Layers

end Interaction
