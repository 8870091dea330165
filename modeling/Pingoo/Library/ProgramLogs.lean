import Mathlib.Data.Finset.Card
import Pingoo.Library.ProgramPool

namespace Interaction

/-!
# What programs side by side have asked

The log of a program in a pool is what it exchanged with the object, in order.
A condition that a program puts on its own queries, given what it was answered
before, holds of the log of every program in every run, whatever the object
answers and whatever the other programs do.
-/

variable {σ query : Type} {answer : query → Type} {α β ι : Type}

/-- A program that was answered the queries of a log has come to another one. -/
inductive Follows (program : Program query answer α) :
    List (AnsweredQuery query answer) → Program query answer α → Prop
  | start : Follows program [] program
  | answered
      {log : List (AnsweredQuery query answer)}
      {asked : query}
      {next : answer asked → Program query answer α}
      {reply : answer asked}
      (earlier : Follows program log (.ask asked next)) :
      Follows program (log ++ [⟨asked, reply⟩]) (next reply)

/-- A property of every query of a program, and of what was answered before. -/
def AsksAfter
    (property : List (AnsweredQuery query answer) → query → Prop) :
    List (AnsweredQuery query answer) → Program query answer α → Prop
  | _, .done _ =>
      True
  | log, .ask asked next =>
      property log asked ∧
        ∀ reply, AsksAfter property (log ++ [⟨asked, reply⟩]) (next reply)

/-- A program that was answered the queries of a log has ended in a value. -/
def Ends :
    Program query answer α → List (AnsweredQuery query answer) → α → Prop
  | .done value, log, result =>
      log = [] ∧ result = value
  | .ask asked next, log, result =>
      ∃ reply rest, log = ⟨asked, reply⟩ :: rest ∧ Ends (next reply) rest result

section Ends

variable {log : List (AnsweredQuery query answer)}

@[simp] theorem ends_pure_iff {value result : α} :
    Ends (pure value : Program query answer α) log result ↔
      log = [] ∧ result = value :=
  Iff.rfl

theorem ends_request_bind_iff
    {asked : query}
    {following : answer asked → Program query answer α}
    {result : α} :
    Ends (Program.request asked >>= following) log result ↔
      ∃ reply rest,
        log = ⟨asked, reply⟩ :: rest ∧ Ends (following reply) rest result :=
  Iff.rfl

/-- One program after another ends where the second one does. -/
theorem ends_bind_iff
    {program : Program query answer α}
    {following : α → Program query answer β}
    {result : β} :
    Ends (program >>= following) log result ↔
      ∃ first second value,
        log = first ++ second ∧
          Ends program first value ∧ Ends (following value) second result := by
  change Ends (program.bind following) log result ↔ _
  induction program generalizing log with
  | done value =>
      constructor
      · intro ends
        exact ⟨[], log, value, rfl, ⟨rfl, rfl⟩, ends⟩
      · rintro ⟨_, second, _, rfl, ⟨rfl, rfl⟩, ends⟩
        exact ends
  | ask asked next inductionHypothesis =>
      constructor
      · rintro ⟨reply, rest, rfl, ends⟩
        obtain ⟨first, second, value, rfl, endsFirst, endsSecond⟩ :=
          (inductionHypothesis reply).mp ends
        exact ⟨⟨asked, reply⟩ :: first, second, value, rfl,
          ⟨reply, first, rfl, endsFirst⟩, endsSecond⟩
      · rintro ⟨_, second, value, rfl, ⟨reply, first, rfl, endsFirst⟩, ends⟩
        exact ⟨reply, first ++ second, rfl,
          (inductionHypothesis reply).mpr
            ⟨first, second, value, rfl, endsFirst, ends⟩⟩

/-- What every branch of a program returns is what it ends in. -/
theorem Ends.returns
    {property : α → Prop}
    {program : Program query answer α}
    {result : α}
    (ends : Ends program log result)
    (returns : program.Returns property) : property result := by
  induction program generalizing log with
  | done value =>
      exact ends.2 ▸ returns
  | ask asked next inductionHypothesis =>
      obtain ⟨reply, rest, -, endsRest⟩ := ends
      exact inductionHypothesis reply endsRest (returns reply)

/-- What all values have, a program returns. -/
theorem Returns.of_forall
    {property : α → Prop}
    {program : Program query answer α}
    (always : ∀ value, property value) : program.Returns property := by
  induction program with
  | done value =>
      exact always value
  | ask asked next inductionHypothesis =>
      exact inductionHypothesis

/-- A program that has come to another one ends where that one does. -/
theorem Follows.ends
    {program rest : Program query answer α}
    {more : List (AnsweredQuery query answer)}
    {result : α}
    (follows : Follows program log rest)
    (ends : Ends rest more result) :
    Ends program (log ++ more) result := by
  induction follows generalizing more with
  | start =>
      exact ends
  | answered _ inductionHypothesis =>
      rw [List.append_assoc]
      exact inductionHypothesis ⟨_, more, rfl, ends⟩

end Ends

/-! Programs of one kind among programs of another one. -/

section Embed

variable {wider : Type} {widerAnswer : wider → Type}
variable (onQuery : query → wider)

/-- The program with its queries among others, and its value too. -/
def Program.embed
    (onValue : α → β) :
    Program query (fun asked => widerAnswer (onQuery asked)) α →
      Program wider widerAnswer β
  | .done value =>
      .done (onValue value)
  | .ask asked next =>
      .ask (onQuery asked) fun reply => (next reply).embed onValue

/-- The exchange as one of the embedded program. -/
def AnsweredQuery.embed
    (made :
      AnsweredQuery query fun asked => widerAnswer (onQuery asked)) :
    AnsweredQuery wider widerAnswer where
  asked :=
    onQuery made.asked
  reply :=
    made.reply

variable {onQuery} {onValue : α → β}
variable {program : Program query (fun asked => widerAnswer (onQuery asked)) α}

/-- An embedded program asks what the program asks. -/
theorem AsksAfter.embed
    {property :
      List (AnsweredQuery query fun asked => widerAnswer (onQuery asked)) →
        query → Prop}
    {widerProperty : List (AnsweredQuery wider widerAnswer) → wider → Prop}
    {log : List (AnsweredQuery query fun asked => widerAnswer (onQuery asked))}
    (implies :
      ∀ log asked, property log asked →
        widerProperty (log.map (AnsweredQuery.embed onQuery)) (onQuery asked))
    (asks : AsksAfter property log program) :
    AsksAfter widerProperty (log.map (AnsweredQuery.embed onQuery))
      (program.embed onQuery onValue) := by
  induction program generalizing log with
  | done value =>
      trivial
  | ask asked next inductionHypothesis =>
      refine ⟨implies log asked asks.1, fun reply => ?_⟩
      have later := inductionHypothesis reply (asks.2 reply)
      rwa [List.map_append] at later

/-- What all queries of a kind have, the embedded programs of it have. -/
theorem AsksAfter.embed_of_forall
    {widerProperty : List (AnsweredQuery wider widerAnswer) → wider → Prop}
    (always : ∀ log asked, widerProperty log (onQuery asked))
    (log : List (AnsweredQuery wider widerAnswer)) :
    AsksAfter widerProperty log (program.embed onQuery onValue) := by
  induction program generalizing log with
  | done value =>
      trivial
  | ask asked next inductionHypothesis =>
      exact ⟨always log asked, fun reply => inductionHypothesis reply _⟩

/-- An embedded program ends where the program does. -/
theorem ends_embed_iff
    {log : List (AnsweredQuery wider widerAnswer)}
    {result : β} :
    Ends (program.embed onQuery onValue) log result ↔
      ∃ own value,
        log = own.map (AnsweredQuery.embed onQuery) ∧
          result = onValue value ∧ Ends program own value := by
  induction program generalizing log with
  | done value =>
      constructor
      · rintro ⟨rfl, rfl⟩
        exact ⟨[], value, rfl, rfl, rfl, rfl⟩
      · rintro ⟨_, _, rfl, rfl, rfl, rfl⟩
        exact ⟨rfl, rfl⟩
  | ask asked next inductionHypothesis =>
      constructor
      · rintro ⟨reply, rest, rfl, endsRest⟩
        obtain ⟨own, value, rfl, isResult, endsOwn⟩ :=
          (inductionHypothesis reply).mp endsRest
        exact ⟨⟨asked, reply⟩ :: own, value, rfl, isResult, reply, own, rfl,
          endsOwn⟩
      · rintro ⟨_, value, rfl, isResult, reply, own, rfl, endsOwn⟩
        exact ⟨reply, own.map (AnsweredQuery.embed onQuery), rfl,
          (inductionHypothesis reply).mpr ⟨own, value, rfl, isResult, endsOwn⟩⟩

end Embed

/-- A list that is split was split at its last item or before it. -/
theorem split_snoc
    {items earlier later : List β}
    {last item : β}
    (split : items ++ [last] = earlier ++ item :: later) :
    (items = earlier ∧ last = item) ∨
      ∃ others, items = earlier ++ item :: others := by
  rcases List.eq_nil_or_concat' later with rfl | ⟨others, other, rfl⟩
  · obtain ⟨sameItems, sameLast⟩ := List.append_inj' split rfl
    exact .inl ⟨sameItems, List.singleton_inj.mp sameLast⟩
  · rw [← List.cons_append, ← List.append_assoc] at split
    exact .inr ⟨others, (List.append_inj' split rfl).1⟩

section AsksAfter

variable {property : List (AnsweredQuery query answer) → query → Prop}
variable {log : List (AnsweredQuery query answer)}

/-- One query with the property, and then whatever follows its answer. -/
theorem AsksAfter.request_bind
    {asked : query}
    {following : answer asked → Program query answer α}
    (allowed : property log asked)
    (rest :
      ∀ reply, AsksAfter property (log ++ [⟨asked, reply⟩])
        (following reply)) :
    AsksAfter property log (Program.request asked >>= following) :=
  ⟨allowed, rest⟩

/-- One program, and then another one after whatever the first one asked. -/
theorem AsksAfter.bind
    {program : Program query answer α}
    {following : α → Program query answer β}
    (asks : AsksAfter property log program)
    (rest :
      ∀ more value, Ends program more value →
        AsksAfter property (log ++ more) (following value)) :
    AsksAfter property log (program >>= following) := by
  change AsksAfter property log (program.bind following)
  induction program generalizing log with
  | done value =>
      have asksRest := rest [] value ⟨rfl, rfl⟩
      rwa [List.append_nil] at asksRest
  | ask asked next inductionHypothesis =>
      refine ⟨asks.1, fun reply => ?_⟩
      refine inductionHypothesis reply (asks.2 reply) fun more value ends => ?_
      rw [List.append_assoc]
      exact rest (⟨asked, reply⟩ :: more) value ⟨reply, more, rfl, ends⟩

/-- What follows from the log, and stays, is a property of every query. -/
theorem AsksAfter.of_stable
    {holds : List (AnsweredQuery query answer) → Prop}
    {program : Program query answer α}
    (stable : ∀ log made, holds log → holds (log ++ [made]))
    (implies : ∀ log asked, holds log → property log asked)
    (now : holds log) : AsksAfter property log program := by
  induction program generalizing log with
  | done value =>
      trivial
  | ask asked next inductionHypothesis =>
      exact ⟨implies log asked now, fun reply =>
        inductionHypothesis reply (stable log ⟨asked, reply⟩ now)⟩

/-- A property that follows from that of every query is one of every query. -/
theorem AsksAfter.mono
    {weaker : List (AnsweredQuery query answer) → query → Prop}
    {program : Program query answer α}
    (asks : AsksAfter property log program)
    (implies : ∀ log asked, property log asked → weaker log asked) :
    AsksAfter weaker log program := by
  induction program generalizing log with
  | done value =>
      trivial
  | ask asked next inductionHypothesis =>
      exact ⟨implies log asked asks.1, fun reply =>
        inductionHypothesis reply (asks.2 reply)⟩

/-- What every query of a program has is a property of it after any log. -/
theorem AsksAfter.of_asks
    {always : query → Prop}
    {program : Program query answer α}
    (asks : program.Asks always)
    (implies : ∀ log asked, always asked → property log asked) :
    AsksAfter property log program := by
  induction program generalizing log with
  | done value =>
      trivial
  | ask asked next inductionHypothesis =>
      exact ⟨implies log asked asks.1, fun reply =>
        inductionHypothesis reply (asks.2 reply)⟩

/-- What a program asks on its own, it also asks after something else. -/
theorem AsksAfter.append
    {later : List (AnsweredQuery query answer) → query → Prop}
    {program : Program query answer α}
    {earlier : List (AnsweredQuery query answer)}
    (implies :
      ∀ log asked, property log asked → later (earlier ++ log) asked)
    (asks : AsksAfter property log program) :
    AsksAfter later (earlier ++ log) program := by
  induction program generalizing log with
  | done value =>
      trivial
  | ask asked next inductionHypothesis =>
      refine ⟨implies log asked asks.1, fun reply => ?_⟩
      rw [List.append_assoc]
      exact inductionHypothesis reply (asks.2 reply)

/-- The property of what a program asks later and of what it has asked. -/
theorem AsksAfter.of_follows
    {program rest : Program query answer α}
    (asks : AsksAfter property [] program)
    (follows : Follows program log rest) :
    AsksAfter property log rest ∧
      ∀ earlier made later, log = earlier ++ made :: later →
        property earlier made.asked := by
  induction follows with
  | start =>
      refine ⟨asks, fun earlier made later split => ?_⟩
      exact absurd split.symm (by simp)
  | @answered log asked next reply _ inductionHypothesis =>
      obtain ⟨⟨allowed, asksNext⟩, asked⟩ := inductionHypothesis
      refine ⟨asksNext reply, fun earlier made later split => ?_⟩
      rcases split_snoc split with ⟨rfl, rfl⟩ | ⟨others, inLog⟩
      · exact allowed
      · exact asked earlier made others inLog

end AsksAfter

/-- The exchanges of a log, as the object answers them one after the other. -/
inductive SharedObject.Replies (object : SharedObject σ query answer) :
    σ → List (AnsweredQuery query answer) → σ → Prop
  | nil {state : σ} : Replies object state [] state
  | cons
      {before middle after : σ}
      {made : AnsweredQuery query answer}
      {rest : List (AnsweredQuery query answer)}
      (answers : object.answers before made.asked made.reply middle)
      (others : Replies object middle rest after) :
      Replies object before (made :: rest) after

/-- Exchanges that change nothing, and that are possible in a state. -/
theorem SharedObject.Replies.of_forall
    {object : SharedObject σ query answer}
    {state : σ}
    {log : List (AnsweredQuery query answer)}
    (answers :
      ∀ made ∈ log, object.answers state made.asked made.reply state) :
    object.Replies state log state := by
  induction log with
  | nil =>
      exact .nil
  | cons made rest inductionHypothesis =>
      obtain ⟨isAnswered, others⟩ := List.forall_mem_cons.mp answers
      exact .cons isAnswered (inductionHypothesis others)

/-- The exchange of an event, and the index of its program. -/
def PoolEvent.exchanged :
    PoolEvent query answer ι → Option (Nat × AnsweredQuery query answer)
  | .exchange index made =>
      some (index, made)
  | _ =>
      none

/-- What the program of an index exchanged with the object, in order. -/
def exchangesOf
    (index : Nat)
    (events : List (PoolEvent query answer ι)) :
    List (AnsweredQuery query answer) :=
  events.filterMap fun event =>
    (event.exchanged.filter fun exchange => exchange.1 = index).map Prod.snd

/-- The number of exchanges with a property. -/
def countExchanges
    (isCounted : AnsweredQuery query answer → Bool)
    (events : List (PoolEvent query answer ι)) : Nat :=
  events.countP fun event =>
    event.exchanged.any fun exchange => isCounted exchange.2

section Exchanges

variable {index : Nat} {events : List (PoolEvent query answer ι)}
variable {isCounted : AnsweredQuery query answer → Bool}

theorem exchangesOf_append (first second : List (PoolEvent query answer ι)) :
    exchangesOf index (first ++ second) =
      exchangesOf index first ++ exchangesOf index second :=
  List.filterMap_append

theorem mem_exchangesOf {made : AnsweredQuery query answer} :
    made ∈ exchangesOf index events ↔ .exchange index made ∈ events := by
  rw [exchangesOf, List.mem_filterMap]
  constructor
  · rintro ⟨event, isEvent, isMade⟩
    obtain ⟨⟨other, _⟩, found, rfl⟩ := Option.map_eq_some_iff.mp isMade
    obtain ⟨isExchange, isIndex⟩ := Option.filter_eq_some_iff.mp found
    cases event with
    | change => cases isExchange
    | start => cases isExchange
    | exchange =>
        cases isExchange
        simp only [decide_eq_true_eq] at isIndex
        exact isIndex ▸ isEvent
  · intro isEvent
    exact ⟨_, isEvent, by simp [PoolEvent.exchanged]⟩

theorem exchangesOf_snoc_of_ne
    {event : PoolEvent query answer ι}
    (differs : ∀ made, event ≠ .exchange index made) :
    exchangesOf index (events ++ [event]) = exchangesOf index events := by
  rw [exchangesOf_append]
  cases event with
  | change =>
      exact List.append_nil _
  | start =>
      exact List.append_nil _
  | exchange other made =>
      have other : other ≠ index := fun same => differs made (same ▸ rfl)
      simp [exchangesOf, PoolEvent.exchanged, other]

theorem exchangesOf_snoc_exchange
    (made : AnsweredQuery query answer) :
    exchangesOf index (events ++ [.exchange index made]) =
      exchangesOf index events ++ [made] := by
  simp [exchangesOf, PoolEvent.exchanged]

theorem countExchanges_snoc_exchange
    (made : AnsweredQuery query answer) :
    countExchanges isCounted (events ++ [.exchange index made]) =
      countExchanges isCounted events + if isCounted made then 1 else 0 := by
  rw [countExchanges, List.countP_append, List.countP_singleton]
  rfl

theorem countExchanges_snoc_of_none
    {event : PoolEvent query answer ι}
    (noExchange : event.exchanged = none) :
    countExchanges isCounted (events ++ [event]) =
      countExchanges isCounted events := by
  rw [countExchanges, List.countP_append, List.countP_singleton, noExchange]
  rfl

/-- The exchanges of some indices are among all of them. -/
theorem card_le_countExchanges
    (isCounted : AnsweredQuery query answer → Bool)
    (indices : Finset Nat)
    (each :
      ∀ index ∈ indices,
        ∃ made ∈ exchangesOf index events, isCounted made = true) :
    indices.card ≤ countExchanges isCounted events := by
  let indexOf (event : PoolEvent query answer ι) : Option Nat :=
    (event.exchanged.filter fun exchange => isCounted exchange.2).map Prod.fst
  have allIn : indices ⊆ (events.filterMap indexOf).toFinset := by
    intro index member
    obtain ⟨made, inEvents, counted⟩ := each index member
    obtain ⟨event, isEvent, isMade⟩ := List.mem_filterMap.mp inEvents
    rw [List.mem_toFinset, List.mem_filterMap]
    refine ⟨event, isEvent, ?_⟩
    obtain ⟨⟨other, _⟩, found, rfl⟩ := Option.map_eq_some_iff.mp isMade
    obtain ⟨isExchange, isIndex⟩ := Option.filter_eq_some_iff.mp found
    simp only [decide_eq_true_eq] at isIndex
    simp [indexOf, isExchange, counted, isIndex, Option.filter]
  calc indices.card
      ≤ (events.filterMap indexOf).toFinset.card := Finset.card_le_card allIn
    _ ≤ (events.filterMap indexOf).length := List.toFinset_card_le _
    _ = countExchanges isCounted events := by
        rw [List.length_filterMap_eq_countP, countExchanges]
        congr 1
        funext event
        cases isExchange : event.exchanged with
        | none =>
            simp [indexOf, isExchange]
        | some exchange =>
            cases counted : isCounted exchange.2 <;>
              simp [indexOf, isExchange, counted, Option.filter]

end Exchanges

section Run

variable {object : SharedObject σ query answer}
variable {code : ι → Program query answer α}
variable {events : List (PoolEvent query answer ι)}
variable {start : σ} {finish : Pool σ query answer α}

/--
What a pool knows of an index: nothing before it was started, and then how far
its program has come.
-/
structure Pool.Accounts
    (code : ι → Program query answer α)
    (index : Nat)
    (events : List (PoolEvent query answer ι))
    (pool : Pool σ query answer α) : Prop where
  idle :
    pool.processes index = none →
      exchangesOf index events = [] ∧ ∀ input, .start index input ∉ events
  busy :
    ∀ process, pool.processes index = some process →
      process.log = exchangesOf index events ∧
        ∃ input, .start index input ∈ events ∧
          (∀ other, .start index other ∈ events → other = input) ∧
          Follows (code input) process.log process.rest

/-- An event that is not about an index changes nothing of its account. -/
theorem Pool.Accounts.frame
    {before after : Pool σ query answer α}
    {event : PoolEvent query answer ι}
    {index : Nat}
    (accounts : before.Accounts code index events)
    (same : after.processes index = before.processes index)
    (noStart : ∀ input, event ≠ .start index input)
    (noExchange : ∀ made, event ≠ .exchange index made) :
    after.Accounts code index (events ++ [event]) := by
  have started (input : ι) :
      .start index input ∈ events ++ [event] ↔ .start index input ∈ events := by
    simp [(noStart input).symm]
  constructor
  · intro isFree
    simp only [exchangesOf_snoc_of_ne noExchange, started]
    exact accounts.idle (same ▸ isFree)
  · intro process isProcess
    simp only [exchangesOf_snoc_of_ne noExchange, started]
    exact accounts.busy process (same ▸ isProcess)

/-- One step adds to an account what it does to the program. -/
theorem Pool.Accounts.step
    {before after : Pool σ query answer α}
    {event : PoolEvent query answer ι}
    {index : Nat}
    (accounts : before.Accounts code index events)
    (taken : Pool.Step object code before event after) :
    after.Accounts code index (events ++ [event]) := by
  cases taken with
  | change =>
      exact accounts.frame rfl (by simp) (by simp)
  | @start other input isFree =>
      by_cases same : index = other
      · subst other
        obtain ⟨nothing, notStarted⟩ := accounts.idle isFree
        constructor
        · simp
        · intro process isProcess
          simp only [Function.update_self, Option.some.injEq] at isProcess
          subst isProcess
          rw [exchangesOf_snoc_of_ne (by simp)]
          refine ⟨nothing.symm, input, by simp, fun given member => ?_, .start⟩
          rcases List.mem_append.mp member with inEvents | isLast
          · exact absurd inEvents (notStarted given)
          · cases List.mem_singleton.mp isLast
            rfl
      · refine accounts.frame (Function.update_of_ne same _ _) ?_ (by simp)
        rintro given ⟨⟩
        exact same rfl
  | @exchange other log asked next reply _ isAsking answers =>
      by_cases same : index = other
      · subst other
        obtain ⟨isLog, input, started, once, follows⟩ :=
          accounts.busy _ isAsking
        constructor
        · simp
        · intro process isProcess
          simp only [Function.update_self, Option.some.injEq] at isProcess
          subst isProcess
          rw [exchangesOf_snoc_exchange, ← isLog]
          refine ⟨rfl, input, List.mem_append_left _ started,
            fun given member => ?_, .answered follows⟩
          exact once given (by simpa using member)
      · refine accounts.frame (Function.update_of_ne same _ _) (by simp) ?_
        rintro made ⟨⟩
        exact same rfl

/-- The log of a program is what it exchanged, and its own code led there. -/
theorem Pool.accounts_of_run
    (run : Transition.Run (Pool.Step object code) (.initial start) events finish)
    (index : Nat) : finish.Accounts code index events := by
  have nothing :
      (Pool.initial start : Pool σ query answer α).Accounts code index [] :=
    ⟨fun _ => ⟨rfl, fun _ => List.not_mem_nil⟩, nofun⟩
  exact run.invariant_of_events Pool.Accounts.step nothing

/-- What a program exchanged in a run has the property of its code. -/
theorem Pool.asked_of_run
    {property : List (AnsweredQuery query answer) → query → Prop}
    {index : Nat}
    {input : ι}
    {earlier later : List (AnsweredQuery query answer)}
    {made : AnsweredQuery query answer}
    (run : Transition.Run (Pool.Step object code) (.initial start) events finish)
    (started : .start index input ∈ events)
    (asks : AsksAfter property [] (code input))
    (split : exchangesOf index events = earlier ++ made :: later) :
    property earlier made.asked := by
  have accounts := Pool.accounts_of_run run index
  cases isProcess : finish.processes index with
  | none =>
      exact absurd started ((accounts.idle isProcess).2 input)
  | some process =>
      obtain ⟨isLog, _, _, once, follows⟩ := accounts.busy process isProcess
      obtain rfl := once input started
      exact (asks.of_follows follows).2 earlier made later (isLog.trans split)

/-- What a program that is done exchanged led its code to its value. -/
theorem Pool.ends_of_run
    {index : Nat}
    {input : ι}
    {log : List (AnsweredQuery query answer)}
    {value : α}
    (run : Transition.Run (Pool.Step object code) (.initial start) events finish)
    (started : .start index input ∈ events)
    (isDone : finish.processes index = some ⟨log, .done value⟩) :
    Ends (code input) (exchangesOf index events) value := by
  obtain ⟨isLog, _, _, once, follows⟩ :=
    (Pool.accounts_of_run run index).busy _ isDone
  obtain rfl := once input started
  rw [← isLog, ← List.append_nil log]
  exact follows.ends ⟨rfl, rfl⟩

/-- A program that can end in a value does so, if it is given the answers. -/
private theorem Pool.run_replies
    {pool : Pool σ query answer α}
    {index : Nat}
    {program : Program query answer α}
    {log more : List (AnsweredQuery query answer)}
    {value : α}
    {after : σ}
    (isProcess : pool.processes index = some ⟨log, program⟩)
    (ends : Ends program more value)
    (replies : object.Replies pool.shared more after) :
    ∃ finish,
      Transition.Run (Pool.Step object code) pool (more.map (.exchange index))
          finish ∧
        finish.shared = after ∧
        finish.processes index = some ⟨log ++ more, .done value⟩ ∧
        ∀ other, other ≠ index →
          finish.processes other = pool.processes other := by
  induction program generalizing pool log more with
  | done result =>
      obtain ⟨rfl, rfl⟩ := ends
      cases replies
      rw [List.append_nil]
      exact ⟨pool, .nil, rfl, isProcess, fun _ _ => rfl⟩
  | ask asked next inductionHypothesis =>
      obtain ⟨reply, rest, rfl, endsRest⟩ := ends
      cases replies with
      | @cons _ middle _ _ _ answers others =>
          let answered : Pool σ query answer α :=
            ⟨middle, Function.update pool.processes index
              (some ⟨log ++ [⟨asked, reply⟩], next reply⟩)⟩
          have step :
              Pool.Step object code pool (.exchange index ⟨asked, reply⟩)
                answered :=
            .exchange isProcess answers
          obtain ⟨finish, run, isShared, isDone, same⟩ :=
            @inductionHypothesis reply answered _ rest
              (Function.update_self _ _ _) endsRest others
          refine ⟨finish, (Transition.Run.single step).append run, isShared, ?_,
            fun other differs => ?_⟩
          · rw [isDone, List.append_assoc]
            rfl
          · rw [same other differs]
            exact Function.update_of_ne differs _ _

/-- A program can be started and be given the answers that it ends with. -/
theorem Pool.run_of_ends
    {pool : Pool σ query answer α}
    {index : Nat}
    {input : ι}
    {log : List (AnsweredQuery query answer)}
    {value : α}
    {after : σ}
    (isFree : pool.processes index = none)
    (ends : Ends (code input) log value)
    (replies : object.Replies pool.shared log after) :
    ∃ finish,
      Transition.Run (Pool.Step object code) pool
          (.start index input :: log.map (.exchange index)) finish ∧
        finish.shared = after ∧
        finish.processes index = some ⟨log, .done value⟩ ∧
        ∀ other, other ≠ index →
          finish.processes other = pool.processes other := by
  let begun : Pool σ query answer α :=
    { pool with
      processes :=
        Function.update pool.processes index (some ⟨[], code input⟩) }
  have started : Pool.Step object code pool (.start index input) begun :=
    .start isFree
  have isBegun : begun.processes index = some ⟨[], code input⟩ :=
    Function.update_self _ _ _
  obtain ⟨finish, run, isShared, isDone, same⟩ :=
    @Pool.run_replies _ _ _ _ _ object code begun index _ [] log value after
      isBegun ends replies
  refine ⟨finish, (Transition.Run.single started).append run, isShared, isDone,
    fun other differs => ?_⟩
  rw [same other differs]
  exact Function.update_of_ne differs _ _

/-- Whatever is exchanged is exchanged by a program that was started. -/
theorem Pool.started_of_run
    {index : Nat}
    {made : AnsweredQuery query answer}
    (run : Transition.Run (Pool.Step object code) (.initial start) events finish)
    (member : made ∈ exchangesOf index events) :
    ∃ input, .start index input ∈ events := by
  have accounts := Pool.accounts_of_run run index
  cases isProcess : finish.processes index with
  | none =>
      rw [(accounts.idle isProcess).1] at member
      cases member
  | some process =>
      obtain ⟨_, input, started, _⟩ := accounts.busy process isProcess
      exact ⟨input, started⟩

/-- A program goes on with the answer to a query that it may ask. -/
theorem Pool.step_exchange
    {allowed : σ → List (AnsweredQuery query answer) → query → Prop}
    {pool : Pool σ query answer α}
    {index : Nat}
    {log : List (AnsweredQuery query answer)}
    {asked : query}
    {next : answer asked → Program query answer α}
    {reply : answer asked}
    {after : σ}
    (isAsking : pool.processes index = some ⟨log, .ask asked next⟩)
    (isAllowed : allowed pool.shared log asked)
    (answers : object.answers pool.shared asked reply after) :
    Transition.Guarded (Pool.Allows allowed) (Pool.Step object code) pool
      (.exchange index ⟨asked, reply⟩)
      ⟨after, Function.update pool.processes index
        (some ⟨log ++ [⟨asked, reply⟩], next reply⟩)⟩ := by
  refine ⟨fun process isProcess => ?_, .exchange isAsking answers⟩
  cases isAsking.symm.trans isProcess
  exact isAllowed

end Run

end Interaction
