import Pingoo.Library.ProgramPool

namespace Interaction

/-!
# Entries that are withdrawn

Programs side by side write entries to one map and remove them.  A program that
withdraws on every branch what it wrote is tidy.  Among tidy programs an entry
is there only while a program that wrote it is on its way.
-/

section Writes

variable {query κ ν : Type} {answer : query → Type} {α : Type}

-- what a query writes: nothing, or a new value of a key
variable (writes : query → Option (κ × Option ν))

/-- The entries after a query. -/
def written
    [DecidableEq κ]
    (entries : κ → Option ν)
    (asked : query) : κ → Option ν :=
  match writes asked with
  | none => entries
  | some (key, value) => Function.update entries key value

/-- A map that only the queries write, and that answers anything. -/
def publications
    [DecidableEq κ] : SharedObject (κ → Option ν) query answer where
  changes _ _ :=
    False
  answers before asked _ after :=
    after = written writes before asked

namespace Program

/-- Every branch of the program removes the entry of a key. -/
def Withdraws (key : κ) : Program query answer α → Prop
  | .done _ =>
      False
  | .ask asked next =>
      writes asked = some (key, none) ∨ ∀ reply, Withdraws key (next reply)

/-- What a program writes it withdraws, on every branch. -/
def Tidy : Program query answer α → Prop
  | .done _ =>
      True
  | .ask asked next =>
      ∀ reply,
        Tidy (next reply) ∧
          ∀ key value, writes asked = some (key, some value) →
            Withdraws writes key (next reply)

/-- A program that runs alone: its value, and the entries it leaves. -/
def alone
    [DecidableEq κ]
    (reply : (asked : query) → answer asked) :
    Program query answer α → (κ → Option ν) → α × (κ → Option ν)
  | .done value, entries =>
      (value, entries)
  | .ask asked next, entries =>
      alone reply (next (reply asked)) (written writes entries asked)

/-- A query writes no other key. -/
def WritesOnly (key : κ) (asked : query) : Prop :=
  ∀ other value, writes asked = some (other, value) → other = key

/-- A query writes nothing, or removes the entry of a key. -/
def OnlyRemoves (key : κ) (asked : query) : Prop :=
  writes asked = none ∨ writes asked = some (key, none)

variable {writes}

theorem OnlyRemoves.writesOnly
    {key : κ}
    {asked : query}
    (removes : OnlyRemoves writes key asked) :
    WritesOnly writes key asked := by
  rintro other value wrote
  rcases removes with writesNothing | isRemoved
  · rw [writesNothing] at wrote
    cases wrote
  · rw [isRemoved] at wrote
    cases wrote
    rfl

/-- A program withdraws only what it may write. -/
theorem Withdraws.eq_of_writesOnly
    [answered : ∀ asked, Nonempty (answer asked)]
    {key own : κ}
    {program : Program query answer α}
    (withdraws : Withdraws writes key program)
    (ownKey : program.Asks (WritesOnly writes own)) : key = own := by
  induction program with
  | done value =>
      exact absurd withdraws id
  | ask asked next inductionHypothesis =>
      rcases withdraws with isRemoved | later
      · exact ownKey.1 key none isRemoved
      · obtain ⟨reply⟩ := answered asked
        exact inductionHypothesis reply (later reply) (ownKey.2 reply)

/-- A program that has still to withdraw something is not done. -/
theorem Withdraws.ne_done
    {key : κ}
    {program : Program query answer α}
    (withdraws : Withdraws writes key program)
    (value : α) : program ≠ .done value := by
  rintro rfl
  exact withdraws

/-- What runs alone and writes one key leaves the other entries. -/
theorem alone_apply_of_ne
    [DecidableEq κ]
    (reply : (asked : query) → answer asked)
    {own key : κ}
    {program : Program query answer α}
    (ownKey : program.Asks (WritesOnly writes own))
    (other : key ≠ own)
    (entries : κ → Option ν) :
    (program.alone writes reply entries).2 key = entries key := by
  induction program generalizing entries with
  | done value =>
      rfl
  | ask asked next inductionHypothesis =>
      refine (inductionHypothesis (reply asked) (ownKey.2 _) _).trans ?_
      unfold written
      cases wrote : writes asked with
      | none =>
          rfl
      | some entry =>
          obtain ⟨found, value⟩ := entry
          obtain rfl := ownKey.1 found value wrote
          exact Function.update_of_ne other _ _

/--
Where a program does not withdraw an entry, and only one answer is possible to
each query, it leaves all entries when it writes none.
-/
theorem alone_eq_of_not_withdraws
    [DecidableEq κ]
    [single : ∀ asked, Subsingleton (answer asked)]
    (reply : (asked : query) → answer asked)
    {key : κ}
    {program : Program query answer α}
    (removes : program.Asks (OnlyRemoves writes key))
    (stays : ¬ program.Withdraws writes key)
    (entries : κ → Option ν) :
    (program.alone writes reply entries).2 = entries := by
  induction program with
  | done value =>
      rfl
  | ask asked next inductionHypothesis =>
      have writesNothing : writes asked = none :=
        removes.1.resolve_right fun isRemoved => stays (.inl isRemoved)
      have unchanged : written writes entries asked = entries := by
        rw [written, writesNothing]
      rw [alone, unchanged]
      refine inductionHypothesis (reply asked) (removes.2 _) fun withdraws =>
        stays (.inr fun other => ?_)
      rwa [(single asked).elim other (reply asked)]

/--
What runs alone and is tidy leaves no entry of its key, if there was none or it
has still to withdraw it.
-/
theorem Tidy.alone_apply
    [DecidableEq κ]
    (reply : (asked : query) → answer asked)
    {own : κ}
    {program : Program query answer α}
    {entries : κ → Option ν}
    (tidy : program.Tidy writes)
    (ownKey : program.Asks (WritesOnly writes own))
    (begins : entries own = none ∨ program.Withdraws writes own) :
    (program.alone writes reply entries).2 own = none := by
  induction program generalizing entries with
  | done value =>
      exact begins.resolve_right id
  | ask asked next inductionHypothesis =>
      refine inductionHypothesis (reply asked) (tidy _).1 (ownKey.2 _) ?_
      unfold written
      cases wrote : writes asked with
      | none =>
          refine begins.imp id fun withdraws => ?_
          rcases withdraws with isRemoved | later
          · rw [wrote] at isRemoved
            cases isRemoved
          · exact later _
      | some entry =>
          obtain ⟨found, value⟩ := entry
          obtain rfl := ownKey.1 found value wrote
          cases value with
          | none =>
              exact .inl (Function.update_self _ _ _)
          | some value =>
              exact .inr ((tidy _).2 found value wrote)

end Program

end Writes

section Failing

variable {query κ ν : Type} {answer : query → Type} {ε α β : Type}

/-- Programs that may fail on their way. -/
abbrev FailingProgram
    (query : Type)
    (answer : query → Type)
    (ε : Type) :=
  ExceptT ε (Program query answer)

namespace FailingProgram

/-- Ask one query. -/
def ask (asked : query) : FailingProgram query answer ε (answer asked) :=
  ExceptT.lift (Program.request asked)

/-- Go on with what succeeded, and end with what failed. -/
def settle (outcome : Except ε α) : FailingProgram query answer ε α :=
  ExceptT.mk (pure outcome)

variable {writes : query → Option (κ × Option ν)}
variable {asked : query} {outcome : Except ε β}
variable {following : β → FailingProgram query answer ε α}
variable {next : answer asked → FailingProgram query answer ε α}

theorem run_ask_bind :
    (ask asked >>= next).run = .ask asked fun reply => (next reply).run :=
  rfl

theorem run_settle_ok_bind (value : β) :
    (settle (.ok value) >>= following).run = (following value).run :=
  rfl

theorem run_settle_error_bind (failure : ε) :
    (settle (.error failure) >>= following).run = .done (.error failure) :=
  rfl

theorem asks_ask_bind_iff {property : query → Prop} :
    (ask asked >>= next).run.Asks property ↔
      property asked ∧ ∀ reply, (next reply).run.Asks property :=
  .rfl

/-- What failed asks nothing more. -/
theorem asks_settle_bind
    {property : query → Prop}
    (rest : ∀ value, outcome = .ok value → (following value).run.Asks property) :
    (settle outcome >>= following).run.Asks property := by
  cases outcome with
  | error failure =>
      trivial
  | ok value =>
      exact rest value rfl

/-- What failed has nothing more to withdraw. -/
theorem tidy_settle_bind
    (rest : ∀ value, outcome = .ok value →
      (following value).run.Tidy writes) :
    (settle outcome >>= following).run.Tidy writes := by
  cases outcome with
  | error failure =>
      trivial
  | ok value =>
      exact rest value rfl

/-- A query that writes nothing is tidy before what is tidy. -/
theorem tidy_ask_bind_of_none
    (writesNothing : writes asked = none)
    (rest : ∀ reply, (next reply).run.Tidy writes) :
    (ask asked >>= next).run.Tidy writes := by
  intro reply
  refine ⟨rest reply, ?_⟩
  intro key value wrote
  rw [writesNothing] at wrote
  cases wrote

/-- A query that writes an entry is tidy before what withdraws it. -/
theorem tidy_ask_bind_of_some
    {key : κ}
    {value : ν}
    (writesEntry : writes asked = some (key, some value))
    (rest : ∀ reply,
      (next reply).run.Tidy writes ∧ (next reply).run.Withdraws writes key) :
    (ask asked >>= next).run.Tidy writes := by
  intro reply
  refine ⟨(rest reply).1, ?_⟩
  intro other found wrote
  rw [writesEntry] at wrote
  cases wrote
  exact (rest reply).2

/-- A query that writes nothing leaves what is to be withdrawn. -/
theorem withdraws_ask_bind_iff_of_none
    {key : κ}
    (writesNothing : writes asked = none) :
    (ask asked >>= next).run.Withdraws writes key ↔
      ∀ reply, (next reply).run.Withdraws writes key := by
  refine or_iff_right fun isRemoved => ?_
  rw [writesNothing] at isRemoved
  cases isRemoved

/-- What failed withdraws nothing. -/
theorem withdraws_settle_bind_iff {key : κ} :
    (settle outcome >>= following).run.Withdraws writes key ↔
      ∃ value, outcome = .ok value ∧
        (following value).run.Withdraws writes key := by
  cases outcome with
  | error failure =>
      exact ⟨False.elim, nofun⟩
  | ok value =>
      refine ⟨fun withdraws => ⟨value, rfl, withdraws⟩, ?_⟩
      rintro ⟨other, ⟨⟩, withdraws⟩
      exact withdraws

end FailingProgram

end Failing

section Run

variable {query κ ν : Type} {answer : query → Type} {α ι : Type}
variable [DecidableEq κ]

/-- A program that was started with an input is on its way. -/
def InProgress
    {σ : Type}
    (events : List (PoolEvent query answer ι))
    (pool : Pool σ query answer α)
    (input : ι) : Prop :=
  ∃ index process,
    PoolEvent.start index input ∈ events ∧
      pool.processes index = some process ∧
        ∀ value, process.rest ≠ .done value

/-- Only allowed inputs are started. -/
def Pool.StartsOnly
    {σ : Type}
    (may : ι → Prop)
    (_ : Pool σ query answer α) : PoolEvent query answer ι → Prop
  | .start _ input =>
      may input
  | _ =>
      True

variable (writes : query → Option (κ × Option ν)) (keyOf : ι → κ)

/--
Each program of a pool is tidy and writes the key of its input, and each entry
is one that a program has still to withdraw.
-/
structure HeldBy
    (events : List (PoolEvent query answer ι))
    (pool : Pool (κ → Option ν) query answer α) : Prop where
  tidy :
    ∀ index process, pool.processes index = some process →
      process.rest.Tidy writes
  own :
    ∀ index process, pool.processes index = some process →
      ∃ input, PoolEvent.start index input ∈ events ∧
        process.rest.Asks (Program.WritesOnly writes (keyOf input))
  held :
    ∀ key value, pool.shared key = some value →
      ∃ index process, pool.processes index = some process ∧
        process.rest.Withdraws writes key

variable {writes keyOf}
variable {code : ι → Program query answer α}
variable {events : List (PoolEvent query answer ι)}
variable {before after : Pool (κ → Option ν) query answer α}

/-- An entry was written by the last query, or was there and not written. -/
theorem written_eq_some
    {entries : κ → Option ν}
    {asked : query}
    {key : κ}
    {value : ν}
    (present : written writes entries asked key = some value) :
    writes asked = some (key, some value) ∨
      entries key = some value ∧ ∀ other, writes asked ≠ some (key, other) := by
  unfold written at present
  cases wrote : writes asked with
  | none =>
      rw [wrote] at present
      exact .inr ⟨present, nofun⟩
  | some entry =>
      obtain ⟨other, new⟩ := entry
      rw [wrote] at present
      dsimp only at present
      obtain rfl | differs := eq_or_ne key other
      · rw [Function.update_self] at present
        exact .inl (by rw [present])
      · rw [Function.update_of_ne differs] at present
        refine .inr ⟨present, fun value same => differs ?_⟩
        cases same
        rfl

/-- One process of a pool is replaced; the others stay. -/
theorem eq_or_eq_of_update
    {processes : Nat → Option (Process query answer α)}
    {index other : Nat}
    {process found : Process query answer α}
    (isFound :
      Function.update processes index (some process) other = some found) :
    other = index ∧ found = process ∨
      other ≠ index ∧ processes other = some found := by
  obtain rfl | differs := eq_or_ne other index
  · rw [Function.update_self, Option.some.injEq] at isFound
    exact .inl ⟨rfl, isFound.symm⟩
  · rw [Function.update_of_ne differs] at isFound
    exact .inr ⟨differs, isFound⟩

omit [DecidableEq κ] in
/-- A tidy program of a started input takes its place in a pool. -/
theorem HeldBy.update
    {event : PoolEvent query answer ι}
    {entries : κ → Option ν}
    {index : Nat}
    {process : Process query answer α}
    {input : ι}
    (heldBy : HeldBy writes keyOf events before)
    (tidy : process.rest.Tidy writes)
    (isStarted : PoolEvent.start index input ∈ events ++ [event])
    (ownKey : process.rest.Asks (Program.WritesOnly writes (keyOf input)))
    (held :
      ∀ key value, entries key = some value →
        ∃ holder found,
          Function.update before.processes index (some process) holder =
              some found ∧
            found.rest.Withdraws writes key) :
    HeldBy writes keyOf (events ++ [event])
      ⟨entries, Function.update before.processes index (some process)⟩ := by
  refine ⟨?_, ?_, held⟩
  · intro other found isFound
    rcases eq_or_eq_of_update isFound with ⟨-, rfl⟩ | ⟨-, wasThere⟩
    · exact tidy
    · exact heldBy.tidy other found wasThere
  · intro other found isFound
    rcases eq_or_eq_of_update isFound with ⟨rfl, rfl⟩ | ⟨-, wasThere⟩
    · exact ⟨input, isStarted, ownKey⟩
    · obtain ⟨earlier, wasStarted, ownsKey⟩ := heldBy.own other found wasThere
      exact ⟨earlier, List.mem_append_left _ wasStarted, ownsKey⟩

/-- One step keeps each entry with a program that withdraws it. -/
theorem HeldBy.step
    {may : ι → Prop}
    {event : PoolEvent query answer ι}
    (codeTidy : ∀ input, may input → (code input).Tidy writes)
    (codeOwn :
      ∀ input, (code input).Asks (Program.WritesOnly writes (keyOf input)))
    (heldBy : HeldBy writes keyOf events before)
    (mayStart : Pool.StartsOnly may before event)
    (taken : Pool.Step (publications writes) code before event after) :
    HeldBy writes keyOf (events ++ [event]) after := by
  cases taken with
  | change changes =>
      exact absurd changes id
  | @start index input isFree =>
      refine heldBy.update (codeTidy input mayStart)
        (List.mem_append_right _ List.mem_cons_self) (codeOwn input) ?_
      intro key value present
      obtain ⟨holder, process, isHolder, withdraws⟩ :=
        heldBy.held key value present
      have differs : holder ≠ index := by
        rintro rfl
        rw [isFree] at isHolder
        cases isHolder
      exact ⟨holder, process,
        (Function.update_of_ne differs _ _).trans isHolder, withdraws⟩
  | @exchange index log asked next reply after isAsking answers =>
      cases answers
      have tidy := heldBy.tidy index _ isAsking reply
      obtain ⟨input, isStarted, ownKey⟩ := heldBy.own index _ isAsking
      refine heldBy.update tidy.1 (List.mem_append_left _ isStarted)
        (ownKey.2 reply) ?_
      intro key value present
      rcases written_eq_some present with isNew | ⟨wasThere, notWritten⟩
      · exact ⟨index, _, Function.update_self _ _ _, tidy.2 key value isNew⟩
      · obtain ⟨holder, process, isHolder, withdraws⟩ :=
          heldBy.held key value wasThere
        obtain rfl | differs := eq_or_ne holder index
        · rw [isAsking, Option.some.injEq] at isHolder
          subst isHolder
          -- the query removes another key, so the program goes on to withdraw
          rcases withdraws with isRemoved | later
          · exact absurd isRemoved (notWritten none)
          · exact ⟨holder, _, Function.update_self _ _ _, later reply⟩
        · exact ⟨holder, process,
            (Function.update_of_ne differs _ _).trans isHolder, withdraws⟩

/-- In every run of tidy programs, each entry is held by one of them. -/
theorem heldBy_of_run
    {may : ι → Prop}
    {pool : Pool (κ → Option ν) query answer α}
    (codeTidy : ∀ input, may input → (code input).Tidy writes)
    (codeOwn :
      ∀ input, (code input).Asks (Program.WritesOnly writes (keyOf input)))
    (run :
      Transition.Run
        (Transition.Guarded (Pool.StartsOnly may)
          (Pool.Step (publications writes) code))
        (Pool.initial fun _ => none) events pool) :
    HeldBy writes keyOf events pool := by
  induction run with
  | nil =>
      exact ⟨nofun, nofun, nofun⟩
  | snoc _ last inductionHypothesis =>
      exact inductionHypothesis.step codeTidy codeOwn last.1 last.2

/-- So an entry is there only while a program for its key is on its way. -/
theorem exists_inProgress_of_run
    [∀ asked, Nonempty (answer asked)]
    {may : ι → Prop}
    {pool : Pool (κ → Option ν) query answer α}
    (codeTidy : ∀ input, may input → (code input).Tidy writes)
    (codeOwn :
      ∀ input, (code input).Asks (Program.WritesOnly writes (keyOf input)))
    (run :
      Transition.Run
        (Transition.Guarded (Pool.StartsOnly may)
          (Pool.Step (publications writes) code))
        (Pool.initial fun _ => none) events pool)
    {key : κ}
    {value : ν}
    (present : pool.shared key = some value) :
    ∃ input, keyOf input = key ∧ InProgress events pool input := by
  have heldBy := heldBy_of_run codeTidy codeOwn run
  obtain ⟨index, process, isFound, withdraws⟩ := heldBy.held key value present
  obtain ⟨input, isStarted, ownKey⟩ := heldBy.own index process isFound
  exact ⟨input, (withdraws.eq_of_writesOnly ownKey).symm, index, process,
    isStarted, isFound, withdraws.ne_done⟩

section Alone

variable
  (writes) (code)
  (may : ι → Prop)
  (reply : (asked : query) → answer asked)

/-- A program that is alone goes on to its end. -/
theorem exists_run_alone
    (entries : κ → Option ν)
    (processes : Nat → Option (Process query answer α))
    {index : Nat}
    {process : Process query answer α}
    (isFound : processes index = some process) :
    ∃ events log,
      Transition.Run
        (Transition.Guarded (Pool.StartsOnly may)
          (Pool.Step (publications writes) code))
        ⟨entries, processes⟩ events
        ⟨(process.rest.alone writes reply entries).2,
          Function.update processes index
            (some ⟨log, .done (process.rest.alone writes reply entries).1⟩)⟩
    := by
  obtain ⟨log, rest⟩ := process
  induction rest generalizing entries processes log with
  | done value =>
      refine ⟨[], log, ?_⟩
      rw [Program.alone, ← isFound, Function.update_eq_self]
      exact .nil
  | ask asked next inductionHypothesis =>
      have asks :
          Transition.Guarded (Pool.StartsOnly may)
            (Pool.Step (publications writes) code) ⟨entries, processes⟩
            (.exchange index ⟨asked, reply asked⟩)
            ⟨written writes entries asked,
              Function.update processes index
                (some ⟨log ++ [⟨asked, reply asked⟩], next (reply asked)⟩)⟩ :=
        ⟨trivial, .exchange isFound rfl⟩
      obtain ⟨events, last, run⟩ :=
        inductionHypothesis (reply asked) (written writes entries asked)
          (Function.update processes index
            (some ⟨log ++ [⟨asked, reply asked⟩], next (reply asked)⟩))
          (log ++ [⟨asked, reply asked⟩]) (Function.update_self index _ _)
      rw [Function.update_idem] at run
      exact ⟨_, last, (Transition.Run.single asks).append run⟩

/--
A single program can be run to its end, and then nothing is on its way any more.
-/
theorem exists_run_single
    {input : ι}
    (mayStart : may input) :
    ∃ events pool,
      Transition.Run
        (Transition.Guarded (Pool.StartsOnly may)
          (Pool.Step (publications writes) code))
        (Pool.initial fun _ => none) events pool ∧
      pool.shared = ((code input).alone writes reply fun _ => none).2 ∧
      ∀ other, ¬ InProgress events pool other := by
  have starts :
      Transition.Guarded (Pool.StartsOnly may)
        (Pool.Step (publications writes) code) (Pool.initial fun _ => none)
        (.start 0 input)
        ⟨fun _ => none,
          Function.update (fun _ => none) 0 (some ⟨[], code input⟩)⟩ :=
    ⟨mayStart, .start rfl⟩
  have isStarted :
      Function.update
          (fun _ : Nat => (none : Option (Process query answer α))) 0
          (some ⟨[], code input⟩) 0 =
        some ⟨[], code input⟩ := by
    rw [Function.update_self]
  obtain ⟨events, log, run⟩ :=
    exists_run_alone writes code may reply (fun _ => none) _ isStarted
  refine ⟨_, _, (Transition.Run.single starts).append run, rfl, ?_⟩
  rintro other ⟨index, process, -, isFound, notDone⟩
  rcases eq_or_eq_of_update isFound with ⟨-, rfl⟩ | ⟨differs, wasThere⟩
  · exact notDone _ rfl
  · rw [Function.update_of_ne differs] at wasThere
    cases wasThere

end Alone

end Run

end Interaction
