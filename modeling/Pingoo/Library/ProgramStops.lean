import Pingoo.Library.Implementation

namespace Interaction

/-!
# Programs that stop at some queries

A program that asks one of these queries asks nothing after it: the answer
decides the value of the program.  So the query is asked at most once, and in
every run of a pool the program is done as soon as it is answered.
-/

variable {query : Type} {answer : query → Type} {α β : Type}

/--
Wherever a program asks a query for which there is a result, it ends in the
result of the answer.
-/
def Program.StopsAt
    (result : (asked : query) → Option (answer asked → α)) :
    Program query answer α → Prop
  | .done _ =>
      True
  | .ask asked next =>
      (∀ value, result asked = some value →
        ∀ reply, next reply = .done (value reply)) ∧
        ∀ reply, (next reply).StopsAt result

namespace Program

variable {result : (asked : query) → Option (answer asked → α)}

/-- A program that asks none of the queries stops at them. -/
theorem StopsAt.of_asks
    {program : Program query answer α}
    (asks : program.Asks fun asked => result asked = none) :
    program.StopsAt result := by
  induction program with
  | done value =>
      trivial
  | ask asked next inductionHypothesis =>
      refine ⟨fun value isResult => ?_, fun reply =>
        inductionHypothesis reply (asks.2 reply)⟩
      rw [asks.1] at isResult
      cases isResult

/-- Every program stops when there is no query to stop at. -/
theorem StopsAt.of_none {program : Program query answer α} :
    program.StopsAt fun _ => none := by
  induction program with
  | done value =>
      trivial
  | ask asked next inductionHypothesis =>
      refine ⟨fun value isResult => ?_, inductionHypothesis⟩
      cases isResult

/-- Another query comes first, and then a program that stops. -/
theorem StopsAt.request_bind
    {asked : query}
    {following : answer asked → Program query answer α}
    (isOther : result asked = none)
    (rest : ∀ reply, (following reply).StopsAt result) :
    (Program.request asked >>= following).StopsAt result := by
  refine ⟨fun value isResult => ?_, rest⟩
  rw [isOther] at isResult
  cases isResult

/-- A program that asks none of the queries, and then one that stops at them. -/
theorem StopsAt.bind_of_asks
    {program : Program query answer β}
    {following : β → Program query answer α}
    (asks : program.Asks fun asked => result asked = none)
    (rest : ∀ value, (following value).StopsAt result) :
    (program >>= following).StopsAt result := by
  change (program.bind following).StopsAt result
  induction program with
  | done value =>
      exact rest value
  | ask asked next inductionHypothesis =>
      refine ⟨fun value isResult => ?_, fun reply =>
        inductionHypothesis reply (asks.2 reply)⟩
      rw [asks.1] at isResult
      cases isResult

/-- A program that stops, and then one that only turns the result over. -/
theorem StopsAt.bind
    {own : (asked : query) → Option (answer asked → β)}
    {program : Program query answer β}
    {following : β → Program query answer α}
    (stops : program.StopsAt own)
    (agrees :
      ∀ asked value, result asked = some value →
        ∃ ownValue, own asked = some ownValue ∧
          ∀ reply, following (ownValue reply) = .done (value reply))
    (rest : ∀ value, (following value).Asks fun asked => result asked = none) :
    (program >>= following).StopsAt result := by
  change (program.bind following).StopsAt result
  induction program with
  | done value =>
      exact .of_asks (rest value)
  | ask asked next inductionHypothesis =>
      refine ⟨fun value isResult reply => ?_, fun reply =>
        inductionHypothesis reply (stops.2 reply)⟩
      obtain ⟨ownValue, isOwn, same⟩ := agrees asked value isResult
      dsimp only
      rw [stops.1 ownValue isOwn reply]
      exact same reply

/-- A program among others stops at its own queries. -/
theorem StopsAt.embed
    {wider : Type}
    {widerAnswer : wider → Type}
    {onQuery : query → wider}
    {onValue : β → α}
    {own : (asked : query) → Option (widerAnswer (onQuery asked) → β)}
    {result : (asked : wider) → Option (widerAnswer asked → α)}
    {program : Program query (fun asked => widerAnswer (onQuery asked)) β}
    (stops : program.StopsAt own)
    (agrees :
      ∀ asked value, result (onQuery asked) = some value →
        ∃ ownValue, own asked = some ownValue ∧
          ∀ reply, onValue (ownValue reply) = value reply) :
    (program.embed onQuery onValue).StopsAt result := by
  induction program with
  | done value =>
      trivial
  | ask asked next inductionHypothesis =>
      refine ⟨fun value isResult reply => ?_, fun reply =>
        inductionHypothesis reply (stops.2 reply)⟩
      obtain ⟨ownValue, isOwn, same⟩ := agrees asked value isResult
      dsimp only
      rw [stops.1 ownValue isOwn reply, ← same reply]
      rfl

/--
A program stops below where it stops above, when these queries are carried out
by programs that stop, and the others by programs that ask something else.
-/
theorem StopsAt.implement
    {lower : Type}
    {lowerAnswer : lower → Type}
    {carryOut :
      (asked : query) → Program lower lowerAnswer (answer asked)}
    {lowerResult : (one : lower) → Option (lowerAnswer one → α)}
    {program : Program query answer α}
    (last :
      ∀ asked value, result asked = some value →
        (carryOut asked >>= fun reply =>
          (pure (value reply) : Program lower lowerAnswer α)).StopsAt
          lowerResult)
    (others :
      ∀ asked, result asked = none →
        (carryOut asked).Asks fun one => lowerResult one = none)
    (stops : program.StopsAt result) :
    (program.implement carryOut).StopsAt lowerResult := by
  induction program with
  | done value =>
      trivial
  | ask asked next inductionHypothesis =>
      cases isResult : result asked with
      | none =>
          exact .bind_of_asks (others asked isResult) fun reply =>
            inductionHypothesis reply (stops.2 reply)
      | some value =>
          have isLast :
              (fun reply => (next reply).implement carryOut) =
                fun reply => .done (value reply) := by
            funext reply
            rw [stops.1 value isResult reply]
            rfl
          rw [Program.implement, isLast]
          exact last asked value isResult

/-- A program that was answered such a query is done, and asked it once. -/
theorem StopsAt.of_follows
    {program rest : Program query answer α}
    {log : List (AnsweredQuery query answer)}
    (stops : program.StopsAt result)
    (follows : Follows program log rest) :
    rest.StopsAt result ∧
      ∀ made ∈ log, ∀ value, result made.asked = some value →
        rest = .done (value made.reply) ∧
          ∃ earlier, log = earlier ++ [made] ∧
            ∀ other ∈ earlier, result other.asked = none := by
  induction follows with
  | start =>
      exact ⟨stops, fun _ member => absurd member List.not_mem_nil⟩
  | @answered log asked next reply _ inductionHypothesis =>
      obtain ⟨⟨stopsHere, stopsNext⟩, stopped⟩ := inductionHypothesis
      -- a program that goes on has asked none of the queries
      have earlierOther : ∀ other ∈ log, result other.asked = none := by
        intro other member
        cases isResult : result other.asked with
        | none =>
            rfl
        | some value =>
            cases (stopped other member value isResult).1
      refine ⟨stopsNext reply, fun made member value isResult => ?_⟩
      rcases List.mem_append.mp member with inLog | isLast
      · rw [earlierOther made inLog] at isResult
        cases isResult
      · cases List.mem_singleton.mp isLast
        exact ⟨stopsHere value isResult reply, log, rfl, earlierOther⟩

end Program

/-- In every run, a program that was answered such a query is done with it. -/
theorem Pool.stopped_of_run
    {σ ι : Type}
    {object : SharedObject σ query answer}
    {code : ι → Program query answer α}
    {result : (asked : query) → Option (answer asked → α)}
    {events : List (PoolEvent query answer ι)}
    {start : σ}
    {finish : Pool σ query answer α}
    {index : Nat}
    {input : ι}
    {made : AnsweredQuery query answer}
    {value : answer made.asked → α}
    (run : Transition.Run (Pool.Step object code) (.initial start) events finish)
    (started : .start index input ∈ events)
    (stops : (code input).StopsAt result)
    (isMade : made ∈ exchangesOf index events)
    (isResult : result made.asked = some value) :
    (∃ log,
      finish.processes index = some ⟨log, .done (value made.reply)⟩) ∧
      ∃ earlier, exchangesOf index events = earlier ++ [made] ∧
        ∀ other ∈ earlier, result other.asked = none := by
  have accounts := Pool.accounts_of_run run index
  cases isProcess : finish.processes index with
  | none =>
      exact absurd started ((accounts.idle isProcess).2 input)
  | some process =>
      obtain ⟨isLog, _, _, once, follows⟩ := accounts.busy process isProcess
      obtain rfl := once input started
      rw [← isLog] at isMade
      obtain ⟨isDone, isLast⟩ :=
        (stops.of_follows follows).2 made isMade value isResult
      exact ⟨⟨process.log, by rw [← isDone]⟩, isLog ▸ isLast⟩

end Interaction
